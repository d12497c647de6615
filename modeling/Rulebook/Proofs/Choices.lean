import Rulebook.Proofs.Action.Findings
import Rulebook.Proofs.Condition.Grammar

/-!
# The words on offer

Operators and types of actions are offered to people as choices, and the checks know them as words
of the vocabulary.  Whatever value stands where such a word is expected, it passes exactly if it is
the word of a choice.  A choice of a type of action also names the keys that the configuration must
fill, and the check asks for no others.
-/

namespace Rulebook

/-! ## Choices and words -/

/-- Where everything has an entry in a table of offers, something suits exactly if an offer of it
does. -/
theorem exists_offered_iff {α β γ : Type} {table : List β} {all : List α} {subject : β → α}
    (complete : table.map subject = all) (mem_all : ∀ known, known ∈ all) (offer : β → γ)
    {suits : γ → Prop} {fits : α → Prop}
    (judged : ∀ entry ∈ table, suits (offer entry) ↔ fits (subject entry)) :
    (∃ choice ∈ table.map offer, suits choice) ↔ ∃ known, fits known := by
  constructor
  · rintro ⟨_, member, suited⟩
    obtain ⟨entry, listed, rfl⟩ := List.mem_map.mp member
    exact ⟨subject entry, (judged entry listed).mp suited⟩
  · rintro ⟨known, fitting⟩
    obtain ⟨entry, listed, rfl⟩ := List.mem_map.mp (complete ▸ mem_all known)
    exact ⟨offer entry, List.mem_map_of_mem listed, (judged entry listed).mpr fitting⟩

theorem LogicalOperator.exists_choice_iff (value : Value) :
    (∃ choice ∈ choices, value = .text choice.value) ↔
      ∃ known : LogicalOperator, value = .text known.symbol :=
  exists_offered_iff map_fst_labels mem_all _ fun _ _ => Iff.rfl

theorem ComparisonOperator.exists_choice_iff (value : Value) :
    (∃ choice ∈ choices, value = .text choice.value) ↔
      ∃ known : ComparisonOperator, value = .text known.symbol :=
  exists_offered_iff map_fst_labels mem_all _ fun _ _ => Iff.rfl

/-- A choice of a type of action carries the keys of that type. -/
theorem ActionType.exists_choice_iff (value : Value) (suits : ActionSchema → Prop) :
    (∃ choice ∈ choices, value = .text choice.value ∧ suits choice.schema) ↔
      ∃ known : ActionType, value = .text known.symbol ∧ suits known.schema := by
  have complete : schemas.map Prod.fst = all := by
    rw [schemas_eq, List.map_map]
    exact List.map_id _
  refine exists_offered_iff complete mem_all _ fun entry listed => ?_
  rw [schemas_eq] at listed
  obtain ⟨type, -, rfl⟩ := List.mem_map.mp listed
  exact Iff.rfl

theorem ActionType.schema_symbol (known : ActionType) :
    (Value.text known.symbol).schema = known.schema := by
  rw [Value.schema, Value.text?, Option.bind_some, (ofSymbol?_eq_some_iff _ known).mpr rfl]

/-! ## Actions without findings -/

theorem typeFindings_eq_nil_iff (type : Value) :
    typeFindings type = [] ↔ ∃ known : ActionType, type = .text known.symbol := by
  cases type with
  | text content =>
      simp only [typeFindings, Value.text.injEq]
      constructor
      · intro clear
        split at clear
        · cases clear
        · split at clear
          · rename_i known
            obtain ⟨type, found⟩ := Option.isSome_iff_exists.mp known
            exact ⟨type, ((ActionType.ofSymbol?_eq_some_iff _ _).mp found).symm⟩
          · cases clear
      · rintro ⟨known, rfl⟩
        have filled : known.symbol.isEmpty = false := by cases known <;> rfl
        simp [filled, (ActionType.ofSymbol?_eq_some_iff _ known).mpr rfl]
  | _ => simp [typeFindings]

theorem headFindings_eq_nil_iff (action : Value) :
    action.headFindings = [] ↔ ∃ known : ActionType, action.actionType = .text known.symbol := by
  rw [Value.headFindings]
  split
  · -- An absent action has no type either, so neither side holds.
    rename_i absent
    cases action with
    | null => simp [Value.actionType, actionEntries, Entries.getD]
    | _ => cases absent
  · exact typeFindings_eq_nil_iff action.actionType

/-- A configuration fills every required key with a value that is not blank; where nothing is
required, it may be anything. -/
def ActionSchema.IsMetBy (schema : ActionSchema) (config : Value) : Prop :=
  schema.required ≠ [] → ∃ entries : Entries, config = .mapping entries ∧
    ∀ key ∈ schema.required, ∃ value, entries.get? key = some value ∧ ¬value.IsBlank

theorem Entries.not_lacks_iff (entries : Entries) (key : Text) :
    ¬entries.Lacks key ↔ ∃ value, entries.get? key = some value ∧ ¬value.IsBlank := by
  simp [Lacks]

theorem configFindings_eq_nil_iff (type config : Value) :
    configFindings type config = [] ↔
      type.schema.IsMetBy config ∧ ¬type.HasOverlargeKey config := by
  rw [List.eq_nil_iff_forall_not_mem]
  constructor
  · intro clear
    refine ⟨fun some => ?_, fun overlarge => ?_⟩
    · cases config with
      | mapping entries =>
          refine ⟨entries, rfl, fun key required => ?_⟩
          rw [← Entries.not_lacks_iff]
          intro lacks
          exact clear _ ((missing_mem_configFindings_iff type _ key).mpr
            ⟨entries, rfl, required, lacks⟩)
      | _ =>
          -- What is no mapping is itself reported as soon as a key is required.
          refine absurd ?_ (clear (absentConfigFinding type))
          rw [mem_configFindings_iff]
          exact .inr (.inl ⟨nofun, some, rfl⟩)
    · exact clear _ ((fault_mem_configFindings_iff type config).mpr overlarge)
  · rintro ⟨met, small⟩ finding member
    obtain ⟨entries, key, rfl, required, lacks, -⟩ | ⟨absent, some, -⟩ | ⟨overlarge, -⟩ :=
      (mem_configFindings_iff type config finding).mp member
    · obtain ⟨_, same, each⟩ := met (List.ne_nil_of_mem required)
      cases same
      exact (Entries.not_lacks_iff entries key).mpr (each key required) lacks
    · obtain ⟨entries, same, -⟩ := met some
      exact absent entries same
    · exact small overlarge

theorem actionFindings_eq_nil_iff (action : Value) :
    actionFindings action = [] ↔
      (∃ known : ActionType, action.actionType = .text known.symbol ∧
        known.schema.IsMetBy action.actionConfig) ∧
      ¬action.actionType.HasOverlargeKey action.actionConfig := by
  rw [actionFindings_eq, List.append_eq_nil_iff, headFindings_eq_nil_iff,
    configFindings_eq_nil_iff, ← and_assoc]
  refine and_congr_left fun _ => ?_
  constructor
  · rintro ⟨⟨known, same⟩, met⟩
    rw [same, ActionType.schema_symbol] at met
    exact ⟨known, same, met⟩
  · rintro ⟨known, same, met⟩
    rw [same, ActionType.schema_symbol]
    exact ⟨⟨known, rfl⟩, met⟩

theorem actionFindings_complete {action : Value}
    (small : ¬action.actionType.HasOverlargeKey action.actionConfig) :
    ∀ finding ∈ actionFindings action, finding.Complete := by
  intro finding member
  obtain plain | rfl := actionFindings_cases member
  · exact plain.complete
  · exact absurd ((fault_mem_actionFindings_iff action).mp member) small

/-! ## Verdicts -/

/-- The check ends in a report, which is valid exactly if the artefact is sound. -/
def Judges (outcome : Except Fault Report) (sound : Prop) : Prop :=
  ∃ report, outcome = .ok report ∧ (report.valid = true ↔ sound)

namespace Judges

variable {outcome : Except Fault Report} {sound other : Prop}

theorem congr (judged : Judges outcome sound) (same : sound ↔ other) : Judges outcome other := by
  rw [← same]
  exact judged

/-- A check has one verdict. -/
theorem unique (judged : Judges outcome sound) (again : Judges outcome other) :
    sound ↔ other := by
  obtain ⟨report, made, verdict⟩ := judged
  obtain ⟨_, madeAgain, verdictAgain⟩ := again
  rw [made] at madeAgain
  cases madeAgain
  exact verdict.symm.trans verdictAgain

end Judges

section Words

variable {wording : Option Wording} (spoken : Speaks wording) {limit depth : Int}

include spoken

theorem judges_of_complete {findings : List Finding}
    (complete : ∀ finding ∈ findings, finding.Complete) :
    Judges (Report.ofFindings wording findings) (findings = []) := by
  refine ⟨_, Report.ofFindings_of_complete spoken complete, ?_⟩
  rw [Report.ofIssues_valid, List.isEmpty_iff, Finding.issues_eq_nil_iff wording complete]

theorem checkCondition_judges (expression : Value) :
    Judges (checkCondition wording (.int limit) (.int depth) expression)
      (expression.Passes limit depth) := by
  rw [checkCondition_eq_ofFindings]
  exact judges_of_complete spoken (conditionFindings_complete limit depth expression)

end Words

/-- Words of the vocabulary are accepted exactly if they are on offer.  A comparison of a field
path with a value passes exactly if its operator is the word of a choice, and so does a group of
rules that pass one level down.  An action passes exactly if its type is the word of a choice whose
keys its configuration fills, unless a required number is overlarge. -/
theorem checks_accept_choices {wording : Option Wording} (spoken : Speaks wording)
    (limit depth : Int) :
    (∀ (expression : Value) (comparison : Comparison), expression.IsComparison comparison →
      depth ≤ limit →
      (∃ path, comparison.field = .text path ∧ FieldPath.isValid path = true) →
      comparison.value.isSome = true →
      (comparison.valueField.truthy = true → ∃ name, comparison.valueField = .text name) →
      Judges (checkCondition wording (.int limit) (.int depth) expression)
        (∃ choice ∈ ComparisonOperator.choices, comparison.operator = .text choice.value)) ∧
    (∀ (expression operator : Value) (rules : List Value), expression.IsGroup operator rules →
      depth ≤ limit → rules ≠ [] →
      (∀ rule ∈ rules,
        Judges (checkCondition wording (.int limit) (.int (depth + 1)) rule) True) →
      Judges (checkCondition wording (.int limit) (.int depth) expression)
        (∃ choice ∈ LogicalOperator.choices, operator = .text choice.value)) ∧
    (∀ action : Value, ¬action.actionType.HasOverlargeKey action.actionConfig →
      Judges (checkAction wording action)
        (∃ choice ∈ ActionType.choices, action.actionType = .text choice.value ∧
          choice.schema.IsMetBy action.actionConfig)) := by
  refine ⟨?comparison, ?group, ?action⟩
  case comparison =>
    intro expression comparison shape within field compared named
    apply (checkCondition_judges spoken expression).congr
    rw [shape.passes_iff, ComparisonOperator.exists_choice_iff]
    constructor
    · rintro ⟨-, sound⟩
      exact sound.operator
    · intro operator
      simp only [FieldPath.isValid_iff_mem_matches] at field
      exact ⟨within, field, operator, .inl compared, named⟩
  case group =>
    intro expression operator rules shape within filled each
    apply (checkCondition_judges spoken expression).congr
    rw [shape.passes_iff, LogicalOperator.exists_choice_iff]
    have sound : ∀ rule ∈ rules, rule.Passes limit (depth + 1) := by
      intro rule member
      exact ((each rule member).unique (checkCondition_judges spoken rule)).mp trivial
    constructor
    · rintro ⟨-, known, -, -⟩
      exact known
    · intro known
      exact ⟨within, known, filled, sound⟩
  case action =>
    intro action small
    rw [checkAction_eq_ofFindings]
    apply (judges_of_complete spoken (actionFindings_complete small)).congr
    rw [actionFindings_eq_nil_iff, ActionType.exists_choice_iff _ (·.IsMetBy action.actionConfig)]
    exact and_iff_left small

/-- A comparison of a field with a list. -/
def Value.listing (operator : Value) : Value :=
  .mapping [(.text "field", .text "tag"), (.text "operator", operator),
    (.text "value", .list [.text "a"])]

/-- A group whose only rule is absent. -/
def Value.vacant (operator : Value) : Value :=
  .mapping [(.text "operator", operator), (.text "rules", .list [.null])]

/-- An operator is on offer in capitals only, a list does not stand for the word that it holds, and
an empty list fills a required key. -/
theorem checks_accept_choices_only :
    Speaks none ∧
      Judges (checkCondition none (.int 5) (.int 0) (.listing (.text "NOT_IN"))) True ∧
      Judges (checkCondition none (.int 5) (.int 0) (.listing (.text "not_in"))) False ∧
      Judges (checkCondition none (.int 5) (.int 0) (.vacant (.list [.text "AND"]))) False ∧
      Judges (checkAction none
        (.mapping [(.text "type", .text "LOG"),
          (.text "config", .mapping [(.text "message", .list [])])])) True := by
  obtain ⟨comparison, group, action⟩ := checks_accept_choices speaks_none 5 0
  have listed (operator : Value) := comparison (.listing operator)
    ⟨.text "tag", operator, some (.list [.text "a"]), .null⟩
    ⟨rfl, nofun, rfl, rfl, rfl, rfl, .inl rfl⟩ (by decide) ⟨_, rfl, by decide⟩ rfl nofun
  refine ⟨speaks_none, ?known, ?small, ?list, ?empty⟩
  case known =>
    apply (listed _).congr
    exact iff_true_intro ⟨⟨"NOT_IN", "not in"⟩, by decide, rfl⟩
  case small =>
    apply (listed _).congr
    refine iff_false_intro fun offered => ?_
    obtain ⟨choice, member, same⟩ := offered
    have foreign : ∀ choice ∈ ComparisonOperator.choices, Text.ofString "not_in" ≠ choice.value :=
      by decide
    exact foreign choice member (Value.text.inj same)
  case list =>
    have passes : ∀ rule ∈ [Value.null],
        Judges (checkCondition none (.int 5) (.int 1) rule) True := by
      intro rule member
      obtain rfl := List.mem_singleton.mp member
      exact ⟨.clean, checkCondition_null _ _ _, iff_true_intro rfl⟩
    apply (group (.vacant (.list [.text "AND"])) _ [.null] ⟨rfl, rfl, rfl⟩ (by decide) (by simp)
      passes).congr
    exact iff_false_intro nofun
  case empty =>
    refine (action _ ?_).congr (iff_true_intro ?_)
    · rintro ⟨_, key, same, required, overlarge⟩
      cases same
      obtain rfl := List.mem_singleton.mp required
      obtain ⟨number, given, -⟩ := overlarge
      cases given
    · refine ⟨⟨⟨"LOG", "Log message"⟩, ⟨["message"], ["level"]⟩⟩, by decide, rfl, fun _ => ?_⟩
      refine ⟨_, rfl, fun key required => ?_⟩
      obtain rfl := List.mem_singleton.mp required
      exact ⟨_, rfl, nofun⟩

end Rulebook
