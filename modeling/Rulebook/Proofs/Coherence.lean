import Rulebook.Proofs.Action.Range
import Rulebook.Proofs.Rewording

/-!
# Coherent reports

A report tells its issues twice, as messages and as issues, and an issue about an element repeats
the messages of the issues that it wraps.  The two tellings agree because the findings of a check
come in layers: only the finding about an element wraps others, and it wraps at least one.  Layered
findings are rendered as coherent issues in every wording that does not fail for one of them.
-/

namespace Rulebook

/-- Issues of the code are about an element of a list and wrap the issues of that element. -/
def Code.wraps : Code → Bool
  | .ruleError | .actionError => true
  | _ => false

/-- At every level the message is the one of the code for its parameters, and an issue about an
element wraps at least one issue and repeats the messages of those it wraps. -/
inductive Issue.IsCoherent (wording : Option Wording) : Issue → Prop
  | alone {code : Code} {message : Text} {values : List (Text × Value)}
      (single : code.wraps = false)
      (worded : code.message wording ⟨values, []⟩ = .ok message) :
      IsCoherent wording (.mk code message values [])
  | wrapping {code : Code} {message : Text} {values : List (Text × Value)} {nested : List Issue}
      (wraps : code.wraps = true)
      (worded : code.message wording ⟨values, nested⟩ = .ok message)
      (wrapped : nested ≠ [])
      (repeated : Assoc.get? (Text.ofString "errors") values =
        some (.text (Text.join ", " (nested.map (·.message)))))
      (each : ∀ issue ∈ nested, IsCoherent wording issue) :
      IsCoherent wording (.mk code message values nested)

/-- The report tells the same by its verdict, its messages and its issues. -/
structure Report.IsCoherent (wording : Option Wording) (report : Report) : Prop where
  /-- The artefact is valid exactly if there are no issues. -/
  verdict : report.valid = true ↔ report.issues = []
  /-- The messages are those of the issues, in the same order. -/
  told : report.errors = report.issues.map (·.message)
  each : ∀ issue ∈ report.issues, issue.IsCoherent wording

/-! ## Layers of findings -/

namespace Finding

/-- Only the findings about elements wrap others, and none of them is without any. -/
inductive IsLayered : Finding → Prop
  | problem {code : Code} {values : List (Text × Value)} (single : code.wraps = false) :
      IsLayered (.problem code values)
  | element {code : Code} {position : Nat} {findings : List Finding}
      (wraps : code.wraps = true) (wrapped : findings ≠ [])
      (each : ∀ finding ∈ findings, IsLayered finding) :
      IsLayered (.element code position findings)
  | fault (cause : Fault) : IsLayered (.fault cause)

theorem isLayered_of {code : Code} (single : code.wraps = false)
    (values : List (String × Value)) : (of code values).IsLayered :=
  .problem single

theorem isLayered_of_single {code : Code} (single : code.wraps = false)
    (values : List (String × Value)) : ∀ finding ∈ [of code values], finding.IsLayered :=
  List.forall_mem_singleton.mpr (isLayered_of single values)

theorem isLayered_of_ite {condition : Prop} [Decidable condition] {left right : List Finding}
    (first : ∀ finding ∈ left, finding.IsLayered) (second : ∀ finding ∈ right, finding.IsLayered) :
    ∀ finding ∈ (if condition then left else right), finding.IsLayered := by
  split
  · exact first
  · exact second

theorem isLayered_of_ofElements {code : Code} (wraps : code.wraps = true) {position : Nat}
    {lists : List (List Finding)}
    (each : ∀ own ∈ lists, ∀ finding ∈ own, finding.IsLayered) :
    ∀ finding ∈ ofElements code position lists, finding.IsLayered := by
  intro finding member
  obtain ⟨index, own, found, wrapped, rfl⟩ :=
    (mem_ofElements_iff code position lists finding).mp member
  exact .element wraps wrapped (each own (List.mem_of_getElem? found))

theorem get?_errors_elementValues (position : Nat) (messages : List Text) :
    Assoc.get? (Text.ofString "errors") (Issue.elementValues position messages) =
      some (.text (Text.join ", " messages)) := rfl

/-- The issue of a layered finding is coherent in the wording that it was put into. -/
theorem IsLayered.isCoherent_of_render {wording : Option Wording} {finding : Finding}
    {issue : Issue} (layered : finding.IsLayered)
    (rendered : render wording finding = .ok issue) : issue.IsCoherent wording := by
  induction finding generalizing issue with
  | problem code values =>
      obtain ⟨single⟩ := layered
      rw [render] at rendered
      obtain ⟨message, worded, rfl⟩ := Issue.make_eq_ok_iff.mp rendered
      exact .alone single worded
  | element code position findings induction =>
      cases layered with
      | element wraps wrapped each =>
          rw [render, bind_eq_ok_iff] at rendered
          obtain ⟨nested, inner, made⟩ := rendered
          obtain ⟨message, worded, rfl⟩ := Issue.make_eq_ok_iff.mp made
          have some : nested ≠ [] := by
            rw [ne_eq, ← List.isEmpty_iff, isEmpty_of_renderAll inner, List.isEmpty_iff]
            exact wrapped
          refine .wrapping wraps worded some (get?_errors_elementValues position _) ?_
          intro issue member
          obtain ⟨finding, own, told⟩ := (mem_of_renderAll inner issue).mp member
          exact induction finding own (each finding own) told
  | fault cause =>
      rw [render] at rendered
      cases rendered

end Finding

/-- The report of layered findings is coherent in the wording that it was made in. -/
theorem Report.isCoherent_of_ofFindings {wording : Option Wording} {findings : List Finding}
    {report : Report} (layered : ∀ finding ∈ findings, finding.IsLayered)
    (made : ofFindings wording findings = .ok report) : report.IsCoherent wording := by
  obtain ⟨rendered, same⟩ := eq_ofIssues_of_ofFindings made
  refine ⟨?_, ?_, ?_⟩
  · rw [same, ofIssues_valid, ofIssues_issues, List.isEmpty_iff]
  · rw [same, ofIssues_errors, ofIssues_issues]
  · intro issue member
    obtain ⟨finding, own, told⟩ := (Finding.mem_of_renderAll rendered issue).mp member
    exact (layered finding own).isCoherent_of_render told

/-! ## The findings of the checks -/

open Finding

theorem guardDepth_isLayered (limit depth : Value) {findings : List Finding}
    (layered : ∀ finding ∈ findings, finding.IsLayered) :
    ∀ finding ∈ guardDepth limit depth findings, finding.IsLayered := by
  rw [guardDepth]
  split
  · exact List.forall_mem_singleton.mpr (.fault _)
  · exact isLayered_of_single rfl _
  · exact layered

theorem logicalOperatorFindings_isLayered (operator : Value) :
    ∀ finding ∈ logicalOperatorFindings operator, finding.IsLayered :=
  isLayered_of_ite (List.forall_mem_nil _) (isLayered_of_single rfl _)

theorem Comparison.findings_isLayered (comparison : Comparison) :
    ∀ finding ∈ comparison.findings, finding.IsLayered := by
  rw [findings, List.forall_mem_append, List.forall_mem_append, List.forall_mem_append]
  refine ⟨⟨⟨?_, ?_⟩, ?_⟩, ?_⟩
  · exact isLayered_of_ite (isLayered_of_single rfl _)
      (isLayered_of_ite (isLayered_of_single rfl _) (List.forall_mem_nil _))
  · exact isLayered_of_ite (isLayered_of_single rfl _)
      (isLayered_of_ite (isLayered_of_single rfl _) (List.forall_mem_nil _))
  · exact isLayered_of_ite (isLayered_of_single rfl _) (List.forall_mem_nil _)
  · exact isLayered_of_ite (isLayered_of_single rfl _) (List.forall_mem_nil _)

namespace Outline

theorem findings_isLayered (limit depth : Value) (outline : Outline) :
    ∀ finding ∈ outline.findings limit depth, finding.IsLayered := by
  induction outline generalizing depth with
  | absent =>
      rw [findings]
      exact List.forall_mem_nil _
  | group operator rules induction =>
      rw [findings]
      apply guardDepth_isLayered
      rw [List.forall_mem_append]
      refine ⟨logicalOperatorFindings_isLayered operator, isLayered_of_ite ?_ ?_⟩
      · exact isLayered_of_single rfl _
      · rw [rulesFindings_eq_ofElements]
        apply isLayered_of_ofElements rfl
        intro own member
        obtain ⟨rule, inside, rfl⟩ := List.mem_map.mp member
        -- Rules are checked one level deeper, so the depth is left open in the induction.
        exact induction rule inside depth.deeper
  | comparison found =>
      rw [findings]
      exact guardDepth_isLayered limit depth found.findings_isLayered
  | unclassified =>
      rw [findings]
      exact guardDepth_isLayered limit depth (isLayered_of_single rfl _)

end Outline

theorem typeFindings_isLayered (type : Value) :
    ∀ finding ∈ typeFindings type, finding.IsLayered := by
  cases type with
  | text content =>
      exact isLayered_of_ite (isLayered_of_single rfl _)
        (isLayered_of_ite (List.forall_mem_nil _) (isLayered_of_single rfl _))
  | _ => exact isLayered_of_single rfl _

theorem configFindings_isLayered (type config : Value) :
    ∀ finding ∈ configFindings type config, finding.IsLayered := by
  intro finding member
  obtain ⟨_, key, -, -, -, rfl⟩ | ⟨-, -, rfl⟩ | ⟨-, rfl⟩ :=
    (mem_configFindings_iff type config finding).mp member
  · exact isLayered_of rfl _
  · exact isLayered_of rfl _
  · exact .fault _

theorem actionFindings_isLayered (action : Value) :
    ∀ finding ∈ actionFindings action, finding.IsLayered := by
  rw [actionFindings_eq, List.forall_mem_append]
  refine ⟨isLayered_of_ite ?_ (typeFindings_isLayered _), configFindings_isLayered _ _⟩
  exact isLayered_of_single rfl _

theorem actionListFindings_isLayered (list : Value) :
    ∀ finding ∈ actionListFindings list, finding.IsLayered := by
  obtain elements | ⟨-, noList⟩ := actionListFindings_cases list
  · rw [elements]
    apply isLayered_of_ofElements rfl
    intro own member
    obtain ⟨action, -, rfl⟩ := List.mem_map.mp member
    exact actionFindings_isLayered action
  · rw [noList]
    exact isLayered_of_single rfl _

section Checks

variable {wording : Option Wording} {report : Report}

theorem checkCondition_isCoherent {limit depth expression : Value}
    (made : checkCondition wording limit depth expression = .ok report) :
    report.IsCoherent wording := by
  rw [checkCondition_eq_ofFindings] at made
  exact Report.isCoherent_of_ofFindings (expression.outline.findings_isLayered limit depth) made

theorem checkAction_isCoherent {action : Value} (made : checkAction wording action = .ok report) :
    report.IsCoherent wording := by
  rw [checkAction_eq_ofFindings] at made
  exact Report.isCoherent_of_ofFindings (actionFindings_isLayered action) made

theorem checkActions_isCoherent {actions : Value}
    (made : checkActions wording actions = .ok report) : report.IsCoherent wording := by
  rw [checkActions_eq_ofFindings] at made
  exact Report.isCoherent_of_ofFindings (actionListFindings_isLayered actions) made

theorem checkConfig_isCoherent {type config : Value}
    (made : checkConfig wording type config = .ok report) : report.IsCoherent wording := by
  rw [checkConfig_eq_ofFindings] at made
  exact Report.isCoherent_of_ofFindings (configFindings_isLayered type config) made

end Checks

/-- Whatever is checked, in whatever wording, the report is coherent if one is returned. -/
theorem checks_coherent (wording : Option Wording) (report : Report) :
    (∀ limit depth expression : Value,
      checkCondition wording limit depth expression = .ok report → report.IsCoherent wording) ∧
    (∀ action : Value, checkAction wording action = .ok report → report.IsCoherent wording) ∧
    (∀ actions : Value, checkActions wording actions = .ok report → report.IsCoherent wording) ∧
    (∀ type config : Value,
      checkConfig wording type config = .ok report → report.IsCoherent wording) :=
  ⟨fun _ _ _ => checkCondition_isCoherent, fun _ => checkAction_isCoherent,
    fun _ => checkActions_isCoherent, fun _ _ => checkConfig_isCoherent⟩

/-- A group of an unknown operator around a group without rules. -/
def Value.exclusive : Value :=
  Value.hollow.group "XOR" [Value.hollow.group "AND" []]

/-- Reports of faulty artefacts, three of which wrap the issues of an element: one in English, the
others in bare codes. -/
theorem checks_coherent_faulty :
    let wording : Option Wording := some fun code _ => .ok code.symbol
    (∃ report, checkCondition none (.int 5) (.int 0) Value.exclusive = .ok report ∧
      report.errors =
        [.ofString "Invalid logical operator: XOR. Valid operators: AND, OR, NOT",
          .ofString "Rule 1: Group must contain at least one rule"] ∧ report.IsCoherent none) ∧
    (∃ report, checkCondition wording (.int 5) (.int 0) Value.hollow = .ok report ∧
      report.errors = [Code.ruleError.symbol] ∧ report.IsCoherent wording) ∧
    (∃ report, checkAction wording .null = .ok report ∧
      report.errors = [Code.actionRequired.symbol] ∧ report.IsCoherent wording) ∧
    (∃ report, checkActions wording (.list [.null]) = .ok report ∧
      report.errors = [Code.actionError.symbol] ∧ report.IsCoherent wording) ∧
    (∃ report, checkConfig wording (.text ActionType.log.symbol) .null = .ok report ∧
      report.errors = [Code.configRequired.symbol] ∧ report.IsCoherent wording) := by
  intro wording
  refine ⟨⟨_, rfl, rfl, ?_⟩, ⟨_, rfl, rfl, ?_⟩, ⟨_, rfl, rfl, ?_⟩, ⟨_, rfl, rfl, ?_⟩,
    ⟨_, rfl, rfl, ?_⟩⟩
  · exact (checks_coherent none _).1 (.int 5) (.int 0) Value.exclusive rfl
  · exact (checks_coherent wording _).1 (.int 5) (.int 0) Value.hollow rfl
  · exact (checks_coherent wording _).2.1 .null rfl
  · exact (checks_coherent wording _).2.2.1 (.list [.null]) rfl
  · exact (checks_coherent wording _).2.2.2 (.text ActionType.log.symbol) .null rfl

end Rulebook
