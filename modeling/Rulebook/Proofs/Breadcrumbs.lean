import Rulebook.Proofs.Coherence
import Rulebook.Proofs.Condition.Shift
import Rulebook.Proofs.Positions

/-!
# Breadcrumbs and quoted words

Messages are put together from the inside out: what is told of a rule stands word for word in the
message of the group above it, and so on up to the report.  A text that an expression or an action
names wrongly is quoted as it is, and no message that quotes it is read as a template again.  So a
report with one cause is one message, the breadcrumb of the place and then what is told there.
-/

namespace Rulebook

/-! ## Parts of messages -/

namespace Template

/-- What fills the last hole of a template ends the message. -/
theorem isSuffix_of_fill {values : List (Text × Value)} {template : Template} {name message : Text}
    {value : Value} (given : Assoc.get? name values = some value)
    (filled : fill values (template ++ [.hole name]) = .ok message) :
    value.display <:+ message := by
  induction template generalizing message with
  | nil =>
      rw [List.nil_append, fill, given] at filled
      cases filled
      simp only [List.append_nil, List.suffix_refl]
  | cons piece rest induction =>
      cases piece with
      | words content =>
          rw [List.cons_append, fill, bind_eq_ok_iff] at filled
          obtain ⟨tail, inner, joined⟩ := filled
          cases joined
          exact (induction inner).trans (List.suffix_append content tail)
      | hole other =>
          rw [List.cons_append, fill] at filled
          split at filled
          · cases filled
          · rw [bind_eq_ok_iff] at filled
            obtain ⟨tail, inner, joined⟩ := filled
            cases joined
            exact (induction inner).trans (List.suffix_append _ tail)

end Template

namespace Text

theorem isInfix_join {text : Text} {texts : List Text} (member : text ∈ texts)
    (separator : Text) : text <:+: join separator texts := by
  induction texts with
  | nil => cases member
  | cons first rest induction =>
      cases rest with
      | nil =>
          obtain rfl := List.mem_singleton.mp member
          exact List.infix_refl text
      | cons second rest =>
          rw [join_cons_cons]
          rcases List.mem_cons.mp member with rfl | later
          · rw [List.append_assoc]
            exact (List.prefix_append text _).isInfix
          · exact (induction later).trans (List.suffix_append _ _).isInfix

/-- What is told of a text that is none of the words that are known. -/
def quoting (opening : String) (given : Text) (closing : String) (known : List Text) : Text :=
  ofString opening ++ given ++ ofString closing ++ join ", " known

theorem isInfix_quoting (opening : String) (given : Text) (closing : String) (known : List Text) :
    given <:+: quoting opening given closing known :=
  ⟨ofString opening, ofString closing ++ join ", " known, (List.append_assoc _ _ _).symm⟩

end Text

theorem Template.fill_quoting (opening closing name list : String) {given : Text}
    {known : List Text} {values : List (Text × Value)}
    (subject : Assoc.get? (Text.ofString name) values = some (.text given))
    (offer : Assoc.get? (Text.ofString list) values = some (listed known)) :
    fill values [words opening, hole name, words closing, hole list] =
      .ok (Text.quoting opening given closing known) := by
  simp only [words, hole, fill, subject, offer, listed, Value.display_text, bind, Except.bind,
    Text.quoting, List.append_nil, List.append_assoc]

theorem Value.display_natCast (number : Nat) :
    (Value.int (number : Int)).display = Text.ofNat number := by
  have shown : (Value.int (number : Int)).display = Text.ofInt number := rfl
  rw [shown, Text.ofInt, if_neg (Int.not_lt.mpr (Int.natCast_nonneg number)), Int.natAbs_natCast]

/-! ## Issues repeat what is told below them -/

/-- The template of an issue about an element ends with the hole for what the issue passes on. -/
theorem Code.exists_template_of_wraps {code : Code} (wraps : code.wraps = true) :
    ∃ template : Template, code.template = template ++ [.hole (Text.ofString "errors")] := by
  cases code with
  | ruleError => exact ⟨[.words "Rule ", .hole "index", .words ": "], rfl⟩
  | actionError => exact ⟨[.words "Action ", .hole "index", .words ": "], rfl⟩
  | _ => cases wraps

namespace Issue

/-- The issue repeats the text, in what it passes on and by that in its message. -/
def Repeats (wrapper : Issue) (text : Text) : Prop :=
  ∃ errors, Assoc.get? (Text.ofString "errors") wrapper.values = some (.text errors) ∧
    text <:+: errors ∧ errors <:+ wrapper.message

theorem Repeats.isInfix {wrapper : Issue} {text : Text} (repeats : wrapper.Repeats text) :
    text <:+: wrapper.message := by
  obtain ⟨errors, -, inside, last⟩ := repeats
  exact inside.trans last.isInfix

theorem Repeats.of_isInfix {wrapper : Issue} {part text : Text} (inside : part <:+: text)
    (repeats : wrapper.Repeats text) : wrapper.Repeats part := by
  obtain ⟨errors, given, whole, last⟩ := repeats
  exact ⟨errors, given, inside.trans whole, last⟩

theorem IsCoherent.of_mem_nested {wording : Option Wording} {wrapper issue : Issue}
    (coherent : wrapper.IsCoherent wording) (member : issue ∈ wrapper.nested) :
    issue.IsCoherent wording := by
  cases coherent with
  | alone single worded => cases member
  | wrapping wraps worded wrapped repeated each => exact each issue member

theorem IsCoherent.of_within {wording : Option Wording} {issue : Issue} {issues : List Issue}
    (inside : Within issue issues) (each : ∀ issue ∈ issues, issue.IsCoherent wording) :
    issue.IsCoherent wording := by
  induction inside with
  | here member => exact each _ member
  | nested member inner induction =>
      exact induction fun _ below => (each _ member).of_mem_nested below

theorem IsCoherent.repeats_of_mem {wrapper issue : Issue} (coherent : wrapper.IsCoherent none)
    (member : issue ∈ wrapper.nested) : wrapper.Repeats issue.message := by
  cases coherent with
  | alone single worded => cases member
  | wrapping wraps worded wrapped repeated each =>
      obtain ⟨template, last⟩ := Code.exists_template_of_wraps wraps
      rw [Code.message, Wording.english, last] at worded
      exact ⟨_, repeated, Text.isInfix_join (List.mem_map_of_mem member) _,
        Template.isSuffix_of_fill repeated worded⟩

/-- A coherent issue repeats what is told at any level below it. -/
theorem IsCoherent.repeats_of_within {wrapper issue : Issue} (coherent : wrapper.IsCoherent none)
    (inside : Within issue wrapper.nested) : wrapper.Repeats issue.message := by
  -- The induction is on how deep the issue lies, so the issues it lies in get a name of their own.
  generalize held : wrapper.nested = issues at inside
  induction inside generalizing wrapper with
  | here member =>
      subst held
      exact coherent.repeats_of_mem member
  | nested member inner induction =>
      subst held
      have own := induction (coherent.of_mem_nested member) rfl
      exact (coherent.repeats_of_mem member).of_isInfix own.isInfix

end Issue

/-- The text is quoted in a message that one of the issues gives, and every issue of the report
around that one repeats it. -/
def Report.Quotes (report : Report) (issues : List Issue) (given message : Text) : Prop :=
  ∃ issue ∈ issues, issue.message = message ∧ given <:+: message ∧
    ∀ wrapper, Issue.Within wrapper report.issues → Issue.Within issue wrapper.nested →
      wrapper.Repeats given

theorem Report.IsCoherent.quotes {report : Report} (coherent : report.IsCoherent none)
    {issues : List Issue} {given message : Text}
    (told : ∃ issue ∈ issues, issue.message = message) (inside : given <:+: message) :
    report.Quotes issues given message := by
  obtain ⟨issue, member, rfl⟩ := told
  refine ⟨issue, member, rfl, inside, fun wrapper among below => ?_⟩
  have own := Issue.IsCoherent.of_within among coherent.each
  exact (own.repeats_of_within below).of_isInfix inside

/-! ## Reports with one cause -/

/-- The words that lead to the rule at a path. -/
def breadcrumb (path : List Nat) : Text :=
  path.flatMap fun position => Text.ofString "Rule " ++ Text.ofNat position ++ Text.ofString ": "

namespace Issue

/-- The issues, at whatever level, that do not just pass on what is told of a rule. -/
def causes (issues : List Issue) : List Issue :=
  (postorders issues).filter (·.code ≠ .ruleError)

theorem causes_cons (issue : Issue) (rest : List Issue) :
    causes (issue :: rest) = causes [issue] ++ causes rest := by
  rw [causes, causes, causes, postorders_eq_flatMap, postorders_eq_flatMap, postorders_eq_flatMap,
    List.flatMap_cons, List.filter_append, List.flatMap_singleton]

theorem causes_ruleError (position : Nat) (nested : List Issue) :
    causes [ruleError position nested] = causes nested := by
  rw [causes, causes, postorders_eq_flatMap, List.flatMap_singleton, ruleError, postorder,
    List.filter_append, List.filter_cons_of_neg (by simp), List.filter_nil, List.append_nil]

theorem causes_alone {issue : Issue} (own : issue.code ≠ .ruleError) (alone : issue.nested = []) :
    causes [issue] = [issue] := by
  cases issue with
  | mk code message values nested =>
      cases alone
      rw [causes, postorders_eq_flatMap, List.flatMap_singleton, postorder, postorders_nil,
        List.nil_append]
      exact List.filter_eq_self.mpr (List.forall_mem_singleton.mpr (decide_eq_true own))

/-- The issue is a cause, or passes on what is told of a rule for which there is a cause. -/
inductive HasCauses : Issue → Prop
  | cause {issue : Issue} (own : issue.code ≠ .ruleError) (alone : issue.nested = []) :
      HasCauses issue
  | rule {position : Nat} {nested : List Issue} (some : nested ≠ [])
      (each : ∀ issue ∈ nested, HasCauses issue) : HasCauses (ruleError position nested)

theorem HasCauses.causes_ne_nil {issue : Issue} (has : issue.HasCauses) : causes [issue] ≠ [] := by
  induction has with
  | cause own alone =>
      rw [causes_alone own alone]
      exact List.cons_ne_nil _ _
  | rule some each induction =>
      rename_i position nested
      rw [causes_ruleError]
      cases nested with
      | nil => exact absurd rfl some
      | cons first rest =>
          rw [causes_cons]
          exact List.append_ne_nil_of_left_ne_nil (induction first List.mem_cons_self) _

theorem eq_singleton_of_causes {issues : List Issue} {cause : Issue}
    (each : ∀ issue ∈ issues, issue.HasCauses) (single : causes issues = [cause]) :
    ∃ issue, issues = [issue] := by
  match issues, each, single with
  | [], _, single => cases single
  | [issue], _, _ => exact ⟨issue, rfl⟩
  | first :: second :: rest, each, single =>
      -- Two issues would have a cause each.
      rw [causes_cons first, causes_cons second] at single
      have head := List.length_pos_of_ne_nil (each first (by simp)).causes_ne_nil
      have next := List.length_pos_of_ne_nil (each second (by simp)).causes_ne_nil
      have total := congrArg List.length single
      rw [List.length_append, List.length_append, List.length_singleton] at total
      omega

/-- The issues are one at every level, down the path to a cause. -/
inductive IsTrail : List Nat → Issue → List Issue → Prop
  | cause {issue : Issue} (own : issue.code ≠ .ruleError) (alone : issue.nested = []) :
      IsTrail [] issue [issue]
  | rule {position : Nat} {path : List Nat} {cause : Issue} {nested : List Issue}
      (further : IsTrail path cause nested) :
      IsTrail (position :: path) cause [ruleError position nested]

theorem HasCauses.exists_isTrail {issue cause : Issue} (has : issue.HasCauses)
    (single : causes [issue] = [cause]) : ∃ path, IsTrail path cause [issue] := by
  induction has with
  | cause own alone =>
      rw [causes_alone own alone] at single
      cases single
      exact ⟨[], .cause own alone⟩
  | rule some each induction =>
      rw [causes_ruleError] at single
      obtain ⟨inner, rfl⟩ := eq_singleton_of_causes each single
      obtain ⟨path, further⟩ := induction inner List.mem_cons_self single
      exact ⟨_ :: path, .rule further⟩

section Trail

variable {path : List Nat} {cause : Issue} {issues : List Issue} (trail : IsTrail path cause issues)

include trail

theorem IsTrail.code_ne : cause.code ≠ .ruleError := by
  induction trail with
  | cause own alone => exact own
  | rule further induction => exact induction

/-- A trail is told by one message, the breadcrumb and then the message of the cause. -/
theorem IsTrail.messages_eq : issues.map (·.message) = [breadcrumb path ++ cause.message] := by
  induction trail with
  | cause own alone => rfl
  | rule further induction =>
      rw [List.map_singleton, ruleError, message_mk, induction, Text.join_singleton,
        Value.display_natCast, ← List.append_assoc, breadcrumb, breadcrumb, List.flatMap_cons]

/-- The cause at the end of a trail is the only one, and stands at the end of the path only. -/
theorem IsTrail.mem_under_iff {issue : Issue} (own : issue.code ≠ .ruleError) (other : List Nat) :
    issue ∈ under other issues ↔ other = path ∧ issue = cause := by
  induction trail generalizing other with
  | cause ownCause alone =>
      cases other with
      | nil => simp [under]
      | cons position other =>
          rename_i cause
          have nothing : ∀ wrapper ∈ [cause], ¬wrapper.isRuleError position = true :=
            List.forall_mem_singleton.mpr fun wraps => ownCause (code_of_isRuleError wraps)
          rw [under, wrapped_eq_nil nothing, under_nil]
          simp
  | rule further induction =>
      rename_i position path cause nested
      cases other with
      | nil =>
          rw [under, List.mem_singleton]
          constructor
          · rintro rfl
            exact absurd rfl own
          · rintro ⟨same, -⟩
            cases same
      | cons first other =>
          have positioned : (ruleError position nested).position? = some (position : Int) := rfl
          rw [under, wrapped_singleton rfl positioned, List.cons.injEq, and_assoc]
          by_cases same : position = first
          · rw [if_pos same, ruleError, nested_mk, induction]
            exact (and_iff_right same.symm).symm
          · rw [if_neg same, under_nil]
            simp [Ne.symm same]

end Trail

end Issue

theorem hasCauses_of_mem_conditionIssues {limit depth : Int} {expression : Value} {issue : Issue}
    (member : issue ∈ conditionIssues none limit depth expression) : issue.HasCauses := by
  induction expression using Value.induction_at generalizing depth issue with
  | step expression induction =>
      rcases conditionIssues_cases member with
        ⟨own, alone⟩ | ⟨-, position, rule, place, faulty, rfl⟩
      · exact .cause own alone
      · rw [Finding.elementIssue_eq_ruleError]
        have some := (Finding.issues_eq_nil_iff none
          (conditionFindings_complete limit (depth + 1) rule)).not.mpr faulty
        exact .rule some fun _ below => induction position rule place below

/-- If there is one cause among the issues of a report, it stands at one path only, and the report
gives one message, the breadcrumb of that path and then the message of the cause. -/
def Report.TracesCause (report : Report) : Prop :=
  ∀ cause, Issue.causes report.issues = [cause] →
    (∃! path, cause ∈ Issue.under path report.issues) ∧
      ∀ path, cause ∈ Issue.under path report.issues →
        report.errors = [breadcrumb path ++ cause.message]

theorem ofIssues_conditionIssues_tracesCause (limit depth : Int) (expression : Value) :
    (Report.ofIssues (conditionIssues none limit depth expression)).TracesCause := by
  intro cause single
  rw [Report.ofIssues_issues] at single
  have each : ∀ issue ∈ conditionIssues none limit depth expression, issue.HasCauses :=
    fun _ => hasCauses_of_mem_conditionIssues
  obtain ⟨issue, only⟩ := Issue.eq_singleton_of_causes each single
  rw [only] at single
  obtain ⟨path, trail⟩ :=
    (hasCauses_of_mem_conditionIssues (only ▸ List.mem_cons_self)).exists_isTrail single
  have stands := trail.mem_under_iff trail.code_ne
  rw [Report.ofIssues_issues, Report.ofIssues_errors, only]
  refine ⟨⟨path, (stands path).mpr ⟨rfl, rfl⟩, ?unique⟩, ?told⟩
  case unique =>
    intro other member
    exact ((stands other).mp member).1
  case told =>
    intro other member
    obtain ⟨rfl, -⟩ := (stands other).mp member
    exact trail.messages_eq

/-! ## Quoted words -/

/-- The expression gives a text for a field or for an operator that cannot stand there, and the
message tells so. -/
inductive Value.Misnames (expression : Value) : Text → Text → Prop
  | logicalOperator {operator : Text} {rules : List Value}
      (shape : expression.IsGroup (.text operator) rules)
      (unknown : operator ∉ LogicalOperator.symbols) :
      Misnames expression operator
        (Text.quoting "Invalid logical operator: " operator ". Valid operators: "
          LogicalOperator.symbols)
  | field {comparison : Comparison} {path : Text} (shape : expression.IsComparison comparison)
      (given : comparison.field = .text path) (filled : path ≠ [])
      (malformed : FieldPath.isValid path = false) :
      Misnames expression path (Text.ofString "Invalid field path: " ++ path)
  | comparisonOperator {comparison : Comparison} {operator : Text}
      (shape : expression.IsComparison comparison) (given : comparison.operator = .text operator)
      (filled : operator ≠ []) (unknown : operator ∉ ComparisonOperator.symbols) :
      Misnames expression operator
        (Text.quoting "Invalid comparison operator: " operator ". Valid operators: "
          ComparisonOperator.symbols)

/-- The action gives a text for its type that is not among the types. -/
structure Value.MisnamesType (action : Value) (type : Text) : Prop where
  given : action.actionType = .text type
  filled : type ≠ []
  unknown : type ∉ ActionType.symbols

theorem Value.Misnames.isInfix {expression : Value} {given message : Text}
    (misnames : expression.Misnames given message) : given <:+: message := by
  cases misnames with
  | logicalOperator shape unknown => exact Text.isInfix_quoting _ _ _ _
  | field shape given filled malformed => exact (List.suffix_append _ _).isInfix
  | comparisonOperator shape given filled unknown => exact Text.isInfix_quoting _ _ _ _

/-- A problem is told by an issue with the message of its values. -/
theorem Finding.exists_issue_of_mem {wording : Option Wording} {code : Code}
    {values : List (Text × Value)} {findings : List Finding} {message : Text}
    (worded : code.message wording ⟨values, []⟩ = .ok message)
    (member : .problem code values ∈ findings) :
    ∃ issue ∈ issues wording findings, issue.message = message := by
  have stands : issue? wording (.problem code values) = some (.mk code message values []) := by
    rw [issue?, Code.text_of_message worded]
  exact ⟨_, (mem_issues_iff _ _ _).mpr ⟨_, member, stands⟩, rfl⟩

/-- A text that an expression within the limit misnames is quoted by an issue about it. -/
theorem Value.Misnames.exists_issue {limit depth : Int} (within : depth ≤ limit)
    {expression : Value} {given message : Text} (misnames : expression.Misnames given message) :
    ∃ issue ∈ conditionIssues none limit depth expression, issue.message = message := by
  cases misnames with
  | logicalOperator shape unknown =>
      have foreign : ¬(Value.text given).isOneOf LogicalOperator.symbols = true :=
        List.contains_iff_mem.not.mpr unknown
      have worded : Code.message .invalidLogicalOperator none
          ⟨[("operator", .text given), ("valid_operators", listed LogicalOperator.symbols)], []⟩ =
            .ok _ :=
        Template.fill_quoting _ _ "operator" "valid_operators" rfl rfl
      rw [conditionIssues, conditionFindings_group within shape, logicalOperatorFindings,
        if_neg foreign]
      exact Finding.exists_issue_of_mem worded (List.mem_append_left _ (List.mem_singleton_self _))
  | field shape named filled malformed =>
      rename_i comparison
      have worded : Code.message .invalidFieldPath none ⟨[("field", .text given)], []⟩ =
          .ok (Text.ofString "Invalid field path: " ++ (given ++ [])) := rfl
      rw [List.append_nil] at worded
      have told : comparison.fieldFindings = [.of .invalidFieldPath [("field", .text given)]] := by
        simp [Comparison.fieldFindings, named, Value.isFilledText, Value.isFieldPath, filled,
          malformed]
      rw [conditionIssues, conditionFindings_comparison within shape, Comparison.findings, told]
      exact Finding.exists_issue_of_mem worded (by simp [Finding.of])
  | comparisonOperator shape named filled unknown =>
      rename_i comparison
      have foreign : ¬(Value.text given).isOneOf ComparisonOperator.symbols = true :=
        List.contains_iff_mem.not.mpr unknown
      have worded : Code.message .invalidComparisonOperator none
          ⟨[("operator", .text given), ("valid_operators", listed ComparisonOperator.symbols)],
            []⟩ = .ok _ :=
        Template.fill_quoting _ _ "operator" "valid_operators" rfl rfl
      have told : comparison.operatorFindings = [.of .invalidComparisonOperator
          [("operator", .text given), ("valid_operators", listed ComparisonOperator.symbols)]] := by
        simp [Comparison.operatorFindings, named, foreign, Value.truthy, filled]
      rw [conditionIssues, conditionFindings_comparison within shape, Comparison.findings, told]
      exact Finding.exists_issue_of_mem worded (by simp [Finding.of])

/-- An action whose type is unknown is told that and nothing else. -/
theorem Value.MisnamesType.findings_eq {action : Value} {type : Text}
    (misnames : action.MisnamesType type) :
    actionFindings action =
      [.of .unknownActionType
        [("type", .text type), ("valid_types", listed ActionType.symbols)]] := by
  obtain ⟨given, filled, unknown⟩ := misnames
  have foreign : ActionType.ofSymbol? type = none := by
    rw [Option.eq_none_iff_forall_ne_some]
    intro known found
    rw [ActionType.ofSymbol?_eq_some_iff] at found
    exact unknown (found ▸ List.mem_map_of_mem known.mem_all)
  have present : action.isNull = false := by
    cases action with
    | null => cases given
    | _ => rfl
  have config : configFindings (.text type) action.actionConfig = [] := by
    have nothing : (Value.text type).schema = ⟨[], []⟩ := by
      simp [Value.schema, Value.text?, foreign]
    rw [configFindings, nothing]
    cases action.actionConfig.mapping? <;> rfl
  rw [actionFindings_eq, given, config, Value.headFindings, present, given,
    List.append_nil, if_neg Bool.false_ne_true, typeFindings, foreign]
  simp [filled, listed]

/-- What is told of a type that is unknown. -/
def unknownTypeText (type : Text) : Text :=
  .quoting "Unknown action type: " type ". Valid types: " ActionType.symbols

theorem Value.MisnamesType.exists_issue {action : Value} {type : Text}
    (misnames : action.MisnamesType type) :
    ∃ issue ∈ Finding.issues none (actionFindings action),
      issue.message = unknownTypeText type := by
  have worded : Code.message .unknownActionType none
      ⟨[("type", .text type), ("valid_types", listed ActionType.symbols)], []⟩ =
        .ok (unknownTypeText type) :=
    Template.fill_quoting _ _ "type" "valid_types" rfl rfl
  rw [misnames.findings_eq]
  exact Finding.exists_issue_of_mem worded (List.mem_singleton_self _)

/-! ## Messages of the checks -/

/-- A check of an expression always returns its messages, which trace a single cause to its place
and quote what is misnamed, and so do the checks of actions that return at all. -/
theorem messages_exact_and_verbatim :
    (∀ (limit depth : Int) (expression : Value), ∃ report,
      checkCondition none (.int limit) (.int depth) expression = .ok report ∧
        report.TracesCause ∧
        ∀ path node given message, expression.At path node → depth + (path.length : Int) ≤ limit →
          node.Misnames given message →
            report.Quotes (Issue.under path report.issues) given message) ∧
    (∀ action type, action.MisnamesType type → ∃ report, checkAction none action = .ok report ∧
      report.Quotes report.issues type (unknownTypeText type)) ∧
    ∀ actions value, value.IsSequence actions →
      (∀ action ∈ actions, ∃ own, checkAction none action = .ok own) →
        ∃ report, checkActions none value = .ok report ∧
          ∀ (index : Nat) action type, actions[index]? = some action → action.MisnamesType type →
            ∃ wrapper ∈ report.issues, wrapper.position? = some ((index + 1 : Nat) : Int) ∧
              report.Quotes wrapper.nested type (unknownTypeText type) := by
  refine ⟨?conditions, ?action, ?actions⟩
  case conditions =>
    intro limit depth expression
    have checked := checkCondition_eq_ok speaks_none limit depth expression
    have coherent := checkCondition_isCoherent checked
    refine ⟨_, checked, ofIssues_conditionIssues_tracesCause limit depth expression, ?_⟩
    intro path node given message place within misnames
    refine coherent.quotes ?_ misnames.isInfix
    rw [Report.ofIssues_issues, place.under_conditionIssues fun level below => by omega]
    exact misnames.exists_issue within
  case action =>
    intro action type misnames
    have sound : .fault .integerTooLarge ∉ actionFindings action := by
      simp [misnames.findings_eq, Finding.of]
    obtain ⟨report, checked⟩ := (checkAction_returns_iff speaks_none action).mpr sound
    have coherent := checkAction_isCoherent checked
    refine ⟨report, checked, coherent.quotes ?_ (Text.isInfix_quoting _ _ _ _)⟩
    rw [checkAction_eq_ofFindings] at checked
    rw [Report.eq_of_ofFindings checked]
    exact misnames.exists_issue
  case actions =>
    intro actions value sequence each
    obtain ⟨report, checked⟩ := (checkActions_returns_iff speaks_none sequence).mpr each
    have coherent := checkActions_isCoherent checked
    refine ⟨report, checked, fun index action type found misnames => ?_⟩
    let wrapper := Finding.elementIssue none .actionError (1 + index) (actionFindings action)
    have among : wrapper ∈ report.issues := by
      rw [issues_of_checkActions sequence checked]
      refine (Finding.mem_elementIssues_iff _ _ _ _ _).mpr ⟨index, _, ?_, ?_, rfl⟩
      · rw [List.getElem?_map, found, Option.map_some]
      · rw [misnames.findings_eq]
        exact List.cons_ne_nil _ _
    have position : wrapper.position? = some ((index + 1 : Nat) : Int) := by
      rw [Finding.elementIssue_position?, Nat.add_comm]
    exact ⟨wrapper, among, position,
      coherent.quotes misnames.exists_issue (Text.isInfix_quoting _ _ _ _)⟩

/-- A text that looks like a template. -/
def Text.templated : Text := "\x7b0!r\x7d%s"

/-- A comparison with that field. -/
def Comparison.templated : Comparison := ⟨.text .templated, .text "=", some (.int 1), .null⟩

/-- The comparison within a group within a group. -/
def Value.templated : Value :=
  .mapping [(.text "operator", .text "AND"), (.text "rules", .list [.null,
    .mapping [(.text "operator", .text "OR"), (.text "rules", .list [rule])]])]
where
  rule : Value :=
    .mapping [(.text "field", .text .templated), (.text "operator", .text "="),
      (.text "value", .int 1)]

/-- The text stands in the messages as it is, as a field and as the type of an action. -/
theorem messages_exact_templated :
    (∃ report, checkCondition none (.int 5) (.int 0) Value.templated = .ok report ∧
      report.errors = [.ofString "Rule 2: Rule 1: Invalid field path: \x7b0!r\x7d%s"] ∧
      (∃ cause, Issue.causes report.issues = [cause] ∧
        report.errors = [breadcrumb [2, 1] ++ cause.message]) ∧
      report.Quotes (Issue.under [2, 1] report.issues) .templated
        (Text.ofString "Invalid field path: " ++ .templated)) ∧
    (∃ report, checkAction none (.mapping [(.text "type", .text .templated)]) = .ok report ∧
      report.Quotes report.issues .templated (unknownTypeText .templated)) ∧
    ∃ report,
      checkActions none (.list [.null, .mapping [(.text "type", .text .templated)]]) = .ok report ∧
        ∃ wrapper ∈ report.issues, wrapper.position? = some 2 ∧
          report.Quotes wrapper.nested .templated (unknownTypeText .templated) := by
  obtain ⟨conditions, single, list⟩ := messages_exact_and_verbatim
  have misnames : (Value.mapping [(.text "type", .text .templated)]).MisnamesType .templated :=
    ⟨rfl, by decide, by decide⟩
  refine ⟨?conditions, single _ _ misnames, ?actions⟩
  case conditions =>
    obtain ⟨report, checked, traces, quotes⟩ := conditions 5 0 Value.templated
    have place : Value.templated.At [2, 1] Value.templated.rule :=
      .rule ⟨rfl, rfl, rfl⟩ rfl (.rule ⟨rfl, rfl, rfl⟩ rfl (.here _))
    have comparison : Value.templated.rule.IsComparison .templated :=
      ⟨rfl, nofun, rfl, rfl, rfl, rfl, .inl rfl⟩
    have quoted := quotes [2, 1] _ _ _ place (by decide)
      (.field comparison rfl (by decide) (by decide))
    have errors : report.errors =
        [.ofString "Rule 2: Rule 1: Invalid field path: \x7b0!r\x7d%s"] := by
      cases checked
      rfl
    obtain ⟨cause, only, here⟩ : ∃ cause, Issue.causes report.issues = [cause] ∧
        cause ∈ Issue.under [2, 1] report.issues := by
      cases checked
      exact ⟨_, rfl, List.mem_cons_self⟩
    exact ⟨report, checked, errors, ⟨cause, only, (traces cause only).2 _ here⟩, quoted⟩
  case actions =>
    have each : ∀ action ∈ [.null, Value.mapping [(.text "type", .text .templated)]],
        ∃ own, checkAction none action = .ok own := by
      rw [List.forall_mem_cons, List.forall_mem_singleton]
      exact ⟨⟨_, rfl⟩, _, rfl⟩
    obtain ⟨report, checked, quotes⟩ := list _ _ (.inl rfl) each
    exact ⟨report, checked, quotes 1 _ _ rfl misnames⟩

end Rulebook
