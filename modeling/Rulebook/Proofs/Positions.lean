import Rulebook.Proofs.Action.Range
import Rulebook.Proofs.Condition.Located

/-!
# Elements at their positions

Rules and actions are checked one by one, and the issue about one of them depends on nothing but
the element and its position.  So the issues about two lists, one after the other, are those about
each, the latter moved on by the length of the former.  Another element in the place of one changes
no issue but its own, and the verdict does not depend on the order of the elements.
-/

namespace Rulebook

/-! ## Issues with positions -/

/-- The value so much further on, if it is a position. -/
def Value.movedBy (offset : Nat) : Value → Value
  | .int position => .int (position + (offset : Int))
  | other => other

namespace Issue

/-- The issue for an element that stands so much further on, put into words for that position. -/
def movedBy (wording : Option Wording) (offset : Nat) (issue : Issue) : Issue :=
  let values := issue.values.map fun entry =>
    (entry.1, if entry.1 = Text.ofString "index" then entry.2.movedBy offset else entry.2)
  .mk issue.code (issue.code.text wording ⟨values, issue.nested⟩) values issue.nested

/-- The issues are the same but for what is told of the element at a position, about which there is
at most one issue on either side. -/
inductive DifferAt (position : Nat) : List Issue → List Issue → Prop
  | mk {before own other after : List Issue}
      (elsewhere : ∀ issue ∈ before ++ after, issue.position? ≠ some (position : Int))
      (here : ∀ issue ∈ own ++ other, issue.position? = some (position : Int))
      (ownSingle : own.length ≤ 1) (otherSingle : other.length ≤ 1) :
      DifferAt position (before ++ own ++ after) (before ++ other ++ after)

theorem DifferAt.refl {position : Nat} {issues : List Issue}
    (elsewhere : ∀ issue ∈ issues, issue.position? ≠ some (position : Int)) :
    DifferAt position issues issues := by
  have none : ∀ issue ∈ issues ++ [], issue.position? ≠ some (position : Int) := by
    rwa [List.append_nil]
  have differ : DifferAt position (issues ++ [] ++ []) (issues ++ [] ++ []) :=
    .mk none nofun (Nat.zero_le 1) (Nat.zero_le 1)
  simpa using differ

/-- Issues that are about no element at the position may stand before the others. -/
theorem DifferAt.prepend {position : Nat} {left right first : List Issue}
    (elsewhere : ∀ issue ∈ first, issue.position? ≠ some (position : Int))
    (differ : DifferAt position left right) :
    DifferAt position (first ++ left) (first ++ right) := by
  cases differ with
  | mk others here ownSingle otherSingle =>
      rename_i before own other after
      have all : ∀ issue ∈ first ++ before ++ after, issue.position? ≠ some (position : Int) := by
        rw [List.append_assoc, List.forall_mem_append]
        exact ⟨elsewhere, others⟩
      simpa only [List.append_assoc] using mk all here ownSingle otherSingle

end Issue

namespace Finding

/-! ## Issues about elements -/

section Elements

variable (wording : Option Wording) (code : Code)

theorem elementIssue_add (position offset : Nat) (own : List Finding) :
    elementIssue wording code (position + offset) own =
      (elementIssue wording code position own).movedBy wording offset := rfl

theorem position?_of_mem_elementIssue {position : Nat} {own : List Finding} {issue : Issue}
    (member : issue ∈ if own.isEmpty then [] else [elementIssue wording code position own]) :
    issue.position? = some (position : Int) := by
  split at member
  · cases member
  · obtain rfl := List.mem_singleton.mp member
    rfl

/-- The issues about elements, of which the first has the given position, from the findings of
each. -/
def elementIssues (position : Nat) (lists : List (List Finding)) : List Issue :=
  issues wording (ofElements code position lists)

theorem elementIssues_nil (position : Nat) : elementIssues wording code position [] = [] := by
  rw [elementIssues, ofElements_nil, issues_nil]

theorem elementIssues_cons (position : Nat) (own : List Finding) (rest : List (List Finding)) :
    elementIssues wording code position (own :: rest) =
      (if own.isEmpty then [] else [elementIssue wording code position own]) ++
        elementIssues wording code (position + 1) rest := by
  rw [elementIssues, ofElements_cons, issues_append, issues_ofElement]
  rfl

theorem elementIssues_append (position : Nat) (left right : List (List Finding)) :
    elementIssues wording code position (left ++ right) =
      elementIssues wording code position left ++
        elementIssues wording code (position + left.length) right := by
  induction left generalizing position with
  | nil => simp [elementIssues_nil]
  | cons own rest induction =>
      rw [List.cons_append, elementIssues_cons, elementIssues_cons, induction, List.append_assoc,
        List.length_cons, Nat.add_right_comm, Nat.add_assoc]

/-- Elements further on have the same issues, moved on. -/
theorem elementIssues_add (position offset : Nat) (lists : List (List Finding)) :
    elementIssues wording code (position + offset) lists =
      (elementIssues wording code position lists).map (Issue.movedBy wording offset) := by
  induction lists generalizing position with
  | nil => simp [elementIssues_nil]
  | cons own rest induction =>
      rw [elementIssues_cons, elementIssues_cons, Nat.add_right_comm, induction, List.map_append,
        elementIssue_add]
      split
      · rfl
      · rfl

theorem mem_elementIssues_iff (position : Nat) (lists : List (List Finding)) (issue : Issue) :
    issue ∈ elementIssues wording code position lists ↔
      ∃ index own, lists[index]? = some own ∧ own ≠ [] ∧
        issue = elementIssue wording code (position + index) own := by
  rw [elementIssues, mem_issues_iff]
  constructor
  · rintro ⟨finding, member, stands⟩
    obtain ⟨index, own, found, some, rfl⟩ := (mem_ofElements_iff _ _ _ _).mp member
    rw [issue?_element] at stands
    exact ⟨index, own, found, some, (Option.some.inj stands).symm⟩
  · rintro ⟨index, own, found, some, rfl⟩
    exact ⟨_, (mem_ofElements_iff _ _ _ _).mpr ⟨index, own, found, some, rfl⟩,
      issue?_element wording code _ own⟩

theorem position?_of_mem_elementIssues {position : Nat} {lists : List (List Finding)}
    {issue : Issue} (member : issue ∈ elementIssues wording code position lists) :
    ∃ index < lists.length, issue.position? = some ((position + index : Nat) : Int) := by
  obtain ⟨index, own, found, -, rfl⟩ := (mem_elementIssues_iff wording code _ _ _).mp member
  obtain ⟨below, -⟩ := List.getElem?_eq_some_iff.mp found
  exact ⟨index, below, elementIssue_position? wording code _ own⟩

/-- There are no issues about elements exactly if nothing was found about any of them. -/
theorem elementIssues_eq_nil_iff (position : Nat) (lists : List (List Finding)) :
    elementIssues wording code position lists = [] ↔ ∀ own ∈ lists, own = [] := by
  induction lists generalizing position with
  | nil => simp [elementIssues_nil]
  | cons own rest induction =>
      rw [elementIssues_cons, List.append_eq_nil_iff, induction, List.forall_mem_cons]
      cases own <;> simp

/-- Other findings about one element change the issue about that element alone. -/
theorem elementIssues_differAt (before after : List (List Finding)) (old new : List Finding) :
    Issue.DifferAt (before.length + 1) (elementIssues wording code 1 (before ++ old :: after))
      (elementIssues wording code 1 (before ++ new :: after)) := by
  simp only [elementIssues_append, elementIssues_cons, ← List.append_assoc, Nat.add_comm 1]
  refine .mk ?elsewhere ?here ?own ?other
  case elsewhere =>
    intro issue member same
    rcases List.mem_append.mp member with earlier | later
    · obtain ⟨index, below, own⟩ := position?_of_mem_elementIssues wording code earlier
      rw [own, Option.some.injEq, Int.ofNat_inj] at same
      omega
    · obtain ⟨index, -, own⟩ := position?_of_mem_elementIssues wording code later
      rw [own, Option.some.injEq, Int.ofNat_inj] at same
      omega
  case here =>
    intro issue member
    rcases List.mem_append.mp member with own | other
    · exact position?_of_mem_elementIssue wording code own
    · exact position?_of_mem_elementIssue wording code other
  case own => split <;> simp
  case other => split <;> simp

end Elements

end Finding

/-! ## Rendered findings -/

theorem Code.text_of_message {wording : Option Wording} {code : Code} {params : Params}
    {message : Text} (worded : code.message wording params = .ok message) :
    code.text wording params = message := by
  rw [Code.text, worded]

namespace Finding

theorem issues_of_renderAll_of_each {wording : Option Wording} {findings : List Finding}
    (each : ∀ finding ∈ findings, ∀ issue, render wording finding = .ok issue →
      issue? wording finding = some issue)
    {rendered : List Issue} (made : renderAll wording findings = .ok rendered) :
    issues wording findings = rendered := by
  induction findings generalizing rendered with
  | nil =>
      cases made
      rw [issues_nil]
  | cons finding rest induction =>
      rw [List.forall_mem_cons] at each
      obtain ⟨issue, others, first, tail, rfl⟩ := renderAll_cons_eq_ok made
      rw [issues, each.1 issue first, induction each.2 tail]
      rfl

/-- A finding that is rendered is rendered as the issue that it stands for. -/
theorem issue?_of_render {wording : Option Wording} {finding : Finding} {issue : Issue}
    (made : render wording finding = .ok issue) : issue? wording finding = some issue := by
  induction finding generalizing issue with
  | problem code values =>
      rw [render] at made
      obtain ⟨message, worded, rfl⟩ := Issue.make_eq_ok_iff.mp made
      rw [issue?, Code.text_of_message worded]
  | element code position findings induction =>
      rw [render, bind_eq_ok_iff] at made
      obtain ⟨nested, inner, finished⟩ := made
      obtain ⟨message, worded, rfl⟩ := Issue.make_eq_ok_iff.mp finished
      have same :=
        issues_of_renderAll_of_each (fun finding member _ => induction finding member) inner
      rw [issue?, same, Code.text_of_message worded]
  | fault cause =>
      rw [render] at made
      cases made

end Finding

/-- A report that is made tells the issues that the findings stand for. -/
theorem Report.eq_of_ofFindings {wording : Option Wording} {findings : List Finding}
    {report : Report} (made : ofFindings wording findings = .ok report) :
    report = .ofIssues (Finding.issues wording findings) := by
  obtain ⟨rendered, same⟩ := eq_ofIssues_of_ofFindings made
  rw [same, Finding.issues_of_renderAll_of_each (fun _ _ _ => Finding.issue?_of_render) rendered]

/-! ## Checks of lists -/

/-- A check of artefacts that stand for a list checks its elements one by one. -/
structure ChecksEach (wording : Option Wording) (form : List Value → Value → Prop)
    (check : Value → Except Fault Report) (told : Report → List Issue) : Prop where
  /-- Of two lists, one after the other, is told what is told of each, with the positions of the
  second counted on from the first. -/
  append : ∀ {first second : List Value} {left right whole : Value},
    form first left → form second right → form (first ++ second) whole →
      ∀ {leftReport rightReport : Report}, check left = .ok leftReport →
        check right = .ok rightReport →
          ∃ report, check whole = .ok report ∧
            told report =
              told leftReport ++ (told rightReport).map (Issue.movedBy wording first.length)
  /-- Another element in the place of one changes only what is told of that position. -/
  replace : ∀ {before after : List Value} {old new left right : Value},
    form (before ++ old :: after) left → form (before ++ new :: after) right →
      ∀ {leftReport rightReport : Report}, check left = .ok leftReport →
        check right = .ok rightReport →
          Issue.DifferAt (before.length + 1) leftReport.issues rightReport.issues
  /-- The order of the elements does not matter to the verdict. -/
  reorder : ∀ {first second : List Value} {left right : Value}, first.Perm second →
    form first left → form second right → ∀ {report : Report}, check left = .ok report →
      ∃ other, check right = .ok other ∧ other.valid = report.valid

theorem FailsIff.exists_ok_iff {α : Type} {cause : Fault} {fails : Prop}
    {outcome : Except Fault α} (given : FailsIff cause fails outcome) :
    (∃ result, outcome = .ok result) ↔ ¬fails := by
  cases given with
  | ok holds result => simp [holds]
  | error holds => simp [holds]

/-! ## Actions -/

/-- The value is the list or the tuple of those elements. -/
def Value.IsSequence (elements : List Value) (value : Value) : Prop :=
  value = .list elements ∨ value = .tuple elements

theorem Value.IsSequence.actions_eq {elements : List Value} {value : Value}
    (sequence : value.IsSequence elements) : value.actions = elements := by
  rcases sequence with rfl | rfl <;> rfl

theorem Value.IsSequence.actionListFindings_eq {elements : List Value} {value : Value}
    (sequence : value.IsSequence elements) :
    actionListFindings value =
      Finding.ofElements .actionError 1 (elements.map actionFindings) := by
  rcases sequence with rfl | rfl
  · exact actionsFindings_eq_ofElements 1 elements
  · exact actionsFindings_eq_ofElements 1 elements

section Actions

variable {wording : Option Wording}

theorem checkAction_returns_iff (spoken : Speaks wording) (action : Value) :
    (∃ report, checkAction wording action = .ok report) ↔
      .fault .integerTooLarge ∉ actionFindings action := by
  have complete : ∀ finding ∈ actionFindings action, finding.CompleteBut .integerTooLarge :=
    fun _ member => Finding.completeBut_of_cases (actionFindings_cases member)
  rw [checkAction_eq_ofFindings, (Report.ofFindings_failsIff spoken complete).exists_ok_iff,
    exists_liesIn_actionFindings_iff]

/-- The check of a list returns exactly if the check of each of its actions does. -/
theorem checkActions_returns_iff (spoken : Speaks wording) {actions : List Value} {value : Value}
    (sequence : value.IsSequence actions) :
    (∃ report, checkActions wording value = .ok report) ↔
      ∀ action ∈ actions, ∃ own, checkAction wording action = .ok own := by
  have fails := Report.ofFindings_failsIff spoken (actionListFindings_completeBut value)
  rw [checkActions_eq_ofFindings, fails.exists_ok_iff,
    exists_liesIn_actionListFindings_iff value (Finding.isLeaf_fault _)
      (by simp [Finding.code?]), sequence.actions_eq]
  simp only [checkAction_returns_iff spoken, not_exists, not_and]

theorem issues_of_checkActions {actions : List Value} {value : Value}
    (sequence : value.IsSequence actions) {report : Report}
    (checked : checkActions wording value = .ok report) :
    report = .ofIssues
      (Finding.elementIssues wording .actionError 1 (actions.map actionFindings)) := by
  rw [checkActions_eq_ofFindings, sequence.actionListFindings_eq] at checked
  exact Report.eq_of_ofFindings checked

theorem checkActions_checksEach (spoken : Speaks wording) :
    ChecksEach wording Value.IsSequence (checkActions wording) Report.issues := by
  refine ⟨?append, ?replace, ?reorder⟩
  case append =>
    intro first second left right whole leftForm rightForm wholeForm leftReport rightReport
      leftChecked rightChecked
    have leftReturns := (checkActions_returns_iff spoken leftForm).mp ⟨_, leftChecked⟩
    have rightReturns := (checkActions_returns_iff spoken rightForm).mp ⟨_, rightChecked⟩
    obtain ⟨report, checked⟩ := (checkActions_returns_iff spoken wholeForm).mpr
      (List.forall_mem_append.mpr ⟨leftReturns, rightReturns⟩)
    refine ⟨report, checked, ?_⟩
    rw [issues_of_checkActions leftForm leftChecked, issues_of_checkActions rightForm rightChecked,
      issues_of_checkActions wholeForm checked]
    simp only [Report.ofIssues_issues]
    rw [List.map_append, Finding.elementIssues_append, List.length_map, Finding.elementIssues_add]
  case replace =>
    intro before after old new left right leftForm rightForm leftReport rightReport leftChecked
      rightChecked
    rw [issues_of_checkActions leftForm leftChecked, issues_of_checkActions rightForm rightChecked]
    simp only [Report.ofIssues_issues, List.map_append, List.map_cons]
    have differ := Finding.elementIssues_differAt wording .actionError (before.map actionFindings)
      (after.map actionFindings) (actionFindings old) (actionFindings new)
    rwa [List.length_map] at differ
  case reorder =>
    intro first second left right same leftForm rightForm report leftChecked
    have returns := (checkActions_returns_iff spoken leftForm).mp ⟨_, leftChecked⟩
    obtain ⟨other, rightChecked⟩ := (checkActions_returns_iff spoken rightForm).mpr
      fun action member => returns action (same.mem_iff.mpr member)
    refine ⟨other, rightChecked, ?_⟩
    rw [issues_of_checkActions leftForm leftChecked, issues_of_checkActions rightForm rightChecked,
      Report.ofIssues_valid, Report.ofIssues_valid, Bool.eq_iff_iff, List.isEmpty_iff,
      List.isEmpty_iff, Finding.elementIssues_eq_nil_iff, Finding.elementIssues_eq_nil_iff]
    simp only [List.forall_mem_map, same.mem_iff]

end Actions

/-! ## Rules -/

/-- The expression is a group of rules, of which there is one at least. -/
structure Value.IsFilledGroup (expression operator : Value) (rules : List Value) : Prop where
  shape : expression.IsGroup operator rules
  filled : rules ≠ []

/-- The issues of a report that are about rules. -/
def Report.ruleErrors (report : Report) : List Issue :=
  report.issues.filter (·.code = .ruleError)

section Rules

variable (wording : Option Wording) {limit depth : Int} {operator : Value}

/-- Whatever a group is told besides its rules' issues. -/
def groupIssues (limit depth : Int) (operator : Value) : List Issue :=
  Finding.issues wording
    (if depth ≤ limit then logicalOperatorFindings operator
    else [.of .depthExceeded [("max_depth", .int limit)]])

/-- The issues about rules at a depth, if the group above them lies within the limit. -/
def rulesIssues (limit depth : Int) (rules : List Value) : List Issue :=
  if depth ≤ limit then
    Finding.elementIssues wording .ruleError 1
      (rules.map (conditionFindings (.int limit) (.int (depth + 1))))
  else []

theorem conditionIssues_of_group {rules : List Value} {expression : Value}
    (group : expression.IsFilledGroup operator rules) :
    conditionIssues wording limit depth expression =
      groupIssues wording limit depth operator ++ rulesIssues wording limit depth rules := by
  rw [conditionIssues, groupIssues, rulesIssues]
  by_cases within : depth ≤ limit
  · have filled : rules.isEmpty = false := by simpa using group.filled
    rw [conditionFindings_group within group.shape, filled, Finding.issues_append, if_pos within,
      if_pos within, if_neg Bool.false_ne_true, rulesFindings_eq_ofElements]
    rfl
  · rw [conditionFindings_of_lt (Int.not_le.mp within) group.shape.ne_null, if_neg within,
      if_neg within, List.append_nil]

theorem position?_of_mem_groupIssues {issue : Issue}
    (member : issue ∈ groupIssues wording limit depth operator) :
    issue.code ≠ .ruleError ∧ issue.position? = none := by
  rw [groupIssues] at member
  obtain ⟨finding, own, stands⟩ := (Finding.mem_issues_iff _ _ _).mp member
  split at own
  · rw [logicalOperatorFindings] at own
    split at own
    · cases own
    · obtain rfl := List.mem_singleton.mp own
      cases stands
      exact ⟨by simp, rfl⟩
  · obtain rfl := List.mem_singleton.mp own
    cases stands
    exact ⟨by simp, rfl⟩

theorem code_of_mem_rulesIssues {rules : List Value} {issue : Issue}
    (member : issue ∈ rulesIssues wording limit depth rules) : issue.code = .ruleError := by
  rw [rulesIssues] at member
  split at member
  · obtain ⟨index, own, -, -, rfl⟩ := (Finding.mem_elementIssues_iff _ _ _ _ _).mp member
    rfl
  · cases member

variable {wording} (spoken : Speaks wording)

include spoken

theorem ruleErrors_of_group {rules : List Value} {expression : Value}
    (group : expression.IsFilledGroup operator rules) {report : Report}
    (checked : checkCondition wording (.int limit) (.int depth) expression = .ok report) :
    report.ruleErrors = rulesIssues wording limit depth rules := by
  rw [checkCondition_eq_ok spoken] at checked
  cases checked
  have own : (groupIssues wording limit depth operator).filter (·.code = .ruleError) = [] := by
    rw [List.filter_eq_nil_iff]
    intro issue member
    simpa using (position?_of_mem_groupIssues wording member).1
  have below : (rulesIssues wording limit depth rules).filter (·.code = .ruleError) =
      rulesIssues wording limit depth rules := by
    rw [List.filter_eq_self]
    intro issue member
    simpa using code_of_mem_rulesIssues wording member
  rw [Report.ruleErrors, Report.ofIssues_issues, conditionIssues_of_group wording group,
    List.filter_append, own, below, List.nil_append]

theorem checkCondition_checksEach (limit depth : Int) (operator : Value) :
    ChecksEach wording (fun rules expression => expression.IsFilledGroup operator rules)
      (checkCondition wording (.int limit) (.int depth)) Report.ruleErrors := by
  refine ⟨?append, ?replace, ?reorder⟩
  case append =>
    intro first second left right whole leftForm rightForm wholeForm leftReport rightReport
      leftChecked rightChecked
    have checked := checkCondition_eq_ok spoken limit depth whole
    refine ⟨_, checked, ?_⟩
    rw [ruleErrors_of_group spoken leftForm leftChecked,
      ruleErrors_of_group spoken rightForm rightChecked,
      ruleErrors_of_group spoken wholeForm checked, rulesIssues, rulesIssues, rulesIssues]
    split
    · rw [List.map_append, Finding.elementIssues_append, List.length_map, Finding.elementIssues_add]
    · rfl
  case replace =>
    intro before after old new left right leftForm rightForm leftReport rightReport leftChecked
      rightChecked
    rw [checkCondition_eq_ok spoken] at leftChecked rightChecked
    cases leftChecked
    cases rightChecked
    rw [Report.ofIssues_issues, Report.ofIssues_issues, conditionIssues_of_group wording leftForm,
      conditionIssues_of_group wording rightForm]
    apply Issue.DifferAt.prepend
    · intro issue member
      rw [(position?_of_mem_groupIssues wording member).2]
      nofun
    · rw [rulesIssues, rulesIssues]
      split
      · have differ := Finding.elementIssues_differAt wording .ruleError
          (before.map (conditionFindings (.int limit) (.int (depth + 1))))
          (after.map (conditionFindings (.int limit) (.int (depth + 1))))
          (conditionFindings (.int limit) (.int (depth + 1)) old)
          (conditionFindings (.int limit) (.int (depth + 1)) new)
        rwa [List.length_map, ← List.map_cons, ← List.map_cons, ← List.map_append,
          ← List.map_append] at differ
      · exact .refl nofun
  case reorder =>
    intro first second left right same leftForm rightForm report leftChecked
    have rightChecked := checkCondition_eq_ok spoken limit depth right
    refine ⟨_, rightChecked, ?_⟩
    rw [checkCondition_eq_ok spoken] at leftChecked
    cases leftChecked
    rw [Report.ofIssues_valid, Report.ofIssues_valid, Bool.eq_iff_iff, List.isEmpty_iff,
      List.isEmpty_iff, conditionIssues_of_group wording leftForm,
      conditionIssues_of_group wording rightForm, List.append_eq_nil_iff, List.append_eq_nil_iff,
      rulesIssues, rulesIssues]
    split
    · simp only [Finding.elementIssues_eq_nil_iff, List.forall_mem_map, same.mem_iff]
    · rfl

end Rules

/-- Actions of a list and rules of a group are checked one by one, each for itself and at its
position. -/
theorem lists_checked_by_element {wording : Option Wording} (spoken : Speaks wording) :
    ChecksEach wording Value.IsSequence (checkActions wording) Report.issues ∧
      ∀ (limit depth : Int) (operator : Value),
        ChecksEach wording (fun rules expression => expression.IsFilledGroup operator rules)
          (checkCondition wording (.int limit) (.int depth)) Report.ruleErrors :=
  ⟨checkActions_checksEach spoken, checkCondition_checksEach spoken⟩

/-- A group of which one of the rules has to hold. -/
def Value.anyOf (rules : List Value) : Value :=
  .mapping [(.text "operator", .text "OR"), (.text "rules", .list rules)]

theorem Value.isFilledGroup_anyOf (rule : Value) (rest : List Value) :
    (anyOf (rule :: rest)).IsFilledGroup (.text "OR") (rule :: rest) :=
  ⟨⟨rfl, rfl, rfl⟩, List.cons_ne_nil rule rest⟩

/-- The positions of actions go on from list to list, and what replaces a rule without issues is
told of at the position of that rule. -/
theorem lists_checked_joined :
    Speaks none ∧
      (∃ left right report, checkActions none (.list [.null]) = .ok left ∧
        checkActions none (.tuple [.int 7, .null]) = .ok right ∧
        checkActions none (.list [.null, .int 7, .null]) = .ok report ∧
        report.issues = left.issues ++ right.issues.map (Issue.movedBy none 1) ∧
        report.issues.map (·.position?) = [some 1, some 2, some 3]) ∧
      ∃ left right, checkCondition none (.int 5) (.int 3) (.anyOf [.text "x", .null]) = .ok left ∧
        checkCondition none (.int 5) (.int 3) (.anyOf [.text "x", .int 7]) = .ok right ∧
        Issue.DifferAt 2 left.issues right.issues ∧
        left.ruleErrors.map (·.position?) = [some 1] ∧
        right.ruleErrors.map (·.position?) = [some 1, some 2] := by
  obtain ⟨actions, groups⟩ := lists_checked_by_element speaks_none
  refine ⟨speaks_none, ?actions, ?rules⟩
  case actions =>
    have left : checkActions none (.list [.null]) = .ok _ := rfl
    have right : checkActions none (.tuple [.int 7, .null]) = .ok _ := rfl
    obtain ⟨report, checked, joined⟩ :=
      actions.append (.inl rfl) (.inr rfl) (.inl rfl) left right
    refine ⟨_, _, report, left, right, checked, joined, ?_⟩
    cases checked
    rfl
  case rules =>
    have left := checkCondition_eq_ok speaks_none 5 3 (.anyOf [.text "x", .null])
    have right := checkCondition_eq_ok speaks_none 5 3 (.anyOf [.text "x", .int 7])
    have group (rule : Value) : (Value.anyOf [.text "x", rule]).IsFilledGroup (.text "OR")
        ([.text "x"] ++ rule :: []) := Value.isFilledGroup_anyOf _ _
    have differ := (groups 5 3 (.text "OR")).replace (group .null) (group (.int 7)) left right
    exact ⟨_, _, left, right, differ, rfl, rfl⟩

end Rulebook
