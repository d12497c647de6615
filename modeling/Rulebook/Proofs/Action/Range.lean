import Rulebook.Proofs.Action.Findings
import Rulebook.Proofs.Faults
import Rulebook.Proofs.Rewording

/-!
# The range of required values

A required value is compared with zero, and a number beyond the range of binary64 cannot be.  This
is the one reason for which the checks of actions fail: whatever else an action, a configuration or
a list of actions may hold, there is a report.  The report then tells of exactly those required keys
that have no value, or a blank one.
-/

namespace Rulebook

namespace Finding

/-! ## Findings that fail for one fault -/

theorem IsPlain.completeBut {finding : Finding} (plain : finding.IsPlain) (cause : Fault) :
    finding.CompleteBut cause := by
  have complete := plain.complete
  cases plain with
  | of own given =>
      cases complete with
      | problem given => exact .problem given

theorem IsPlain.isLeaf {finding : Finding} (plain : finding.IsPlain) : finding.IsLeaf := by
  cases plain with
  | of own given => exact isLeaf_problem _ _

theorem completeBut_of_cases {finding : Finding} {cause : Fault}
    (cases : finding.IsPlain ∨ finding = .fault cause) : finding.CompleteBut cause := by
  obtain plain | rfl := cases
  · exact plain.completeBut cause
  · exact .fault

theorem isLeaf_of_cases {finding : Finding} {cause : Fault}
    (cases : finding.IsPlain ∨ finding = .fault cause) : finding.IsLeaf := by
  obtain plain | rfl := cases
  · exact plain.isLeaf
  · exact isLeaf_fault cause

/-! ## Issues told of findings -/

/-- The issues of findings have what each finding's own issue has. -/
theorem exists_postorders_iff_of_each {wording : Option Wording} {told : Issue → Prop}
    {leaf : Finding} {findings : List Finding} {issues : List Issue}
    (rendered : renderAll wording findings = .ok issues)
    (each : ∀ finding ∈ findings, ∀ issue, render wording finding = .ok issue →
      ((∃ below ∈ issue.postorder, told below) ↔ LiesIn leaf finding)) :
    (∃ below ∈ Issue.postorders issues, told below) ↔
      ∃ finding ∈ findings, LiesIn leaf finding := by
  rw [Issue.postorders_eq_flatMap]
  simp only [List.mem_flatMap]
  constructor
  · intro inside
    obtain ⟨below, ⟨issue, member, within⟩, holds⟩ := inside
    obtain ⟨finding, findingMember, own⟩ := (mem_of_renderAll rendered issue).mp member
    exact ⟨finding, findingMember, (each finding findingMember issue own).mp ⟨below, within, holds⟩⟩
  · intro inside
    obtain ⟨finding, member, lies⟩ := inside
    obtain ⟨issue, own⟩ := render_returns rendered member
    obtain ⟨below, within, holds⟩ := (each finding member issue own).mpr lies
    have issueMember := (mem_of_renderAll rendered issue).mpr ⟨finding, member, own⟩
    exact ⟨below, ⟨issue, issueMember, within⟩, holds⟩

/-- Values that no element has are told, at whatever level, exactly of the problems that have
them. -/
theorem exists_postorder_iff {wording : Option Wording} {code : Code}
    {values : List (Text × Value)}
    (foreign : ∀ position messages, Issue.elementValues position messages ≠ values)
    {finding : Finding} {issue : Issue} (rendered : render wording finding = .ok issue) :
    (∃ told ∈ issue.postorder, told.code = code ∧ told.values = values) ↔
      LiesIn (.problem code values) finding := by
  have single := isLeaf_problem code values
  induction finding generalizing issue with
  | problem other own =>
      rw [render] at rendered
      obtain ⟨message, rfl⟩ := Issue.eq_mk_of_make rendered
      rw [(isLeaf_problem other own).liesIn_iff]
      simp [Issue.postorder, eq_comm]
  | element other position findings induction =>
      obtain ⟨message, nested, inner, rfl⟩ := render_element_eq_ok rendered
      have below := exists_postorders_iff_of_each inner fun finding member issue own =>
        induction finding member own
      rw [liesIn_element_iff single, ← below, Issue.postorder]
      simp [foreign, or_and_right, exists_or]
  | fault cause =>
      rw [render] at rendered
      cases rendered

end Finding

/-- A report tells, of whatever action, that the configuration lacks a key. -/
def Report.TellsMissing (report : Report) (key : Text) : Prop :=
  ∃ issue ∈ Issue.postorders report.issues,
    issue.code = .configFieldMissing ∧ issue.values = [(Text.ofString "field", .text key)]

theorem Report.tellsMissing_iff {wording : Option Wording} {findings : List Finding}
    {report : Report} (made : ofFindings wording findings = .ok report) (key : Text) :
    report.TellsMissing key ↔
      ∃ finding ∈ findings,
        (Finding.of .configFieldMissing [("field", .text key)]).LiesIn finding := by
  have rendered := (eq_ofIssues_of_ofFindings made).1
  have foreign : ∀ position messages,
      Issue.elementValues position messages ≠ [(Text.ofString "field", .text key)] := by
    simp [Issue.elementValues]
  exact Finding.exists_postorders_iff_of_each rendered fun finding _ issue own =>
    Finding.exists_postorder_iff foreign own

/-! ## Checks of actions -/

/-- A check fails exactly for overlarge numbers, and tells of the keys that are lacking. -/
structure TellsRequired (overlarge : Prop) (lacking : Text → Prop)
    (outcome : Except Fault Report) : Prop where
  fails : FailsIff .integerTooLarge overlarge outcome
  tells : ∀ report, outcome = .ok report → ∀ key, report.TellsMissing key ↔ lacking key

theorem Report.ofFindings_tellsRequired {findings : List Finding} {overlarge : Prop}
    {lacking : Text → Prop}
    (complete : ∀ finding ∈ findings, finding.CompleteBut .integerTooLarge)
    (faults : (∃ finding ∈ findings, (Finding.fault .integerTooLarge).LiesIn finding) ↔ overlarge)
    (missing : ∀ key, (∃ finding ∈ findings,
      (Finding.of .configFieldMissing [("field", .text key)]).LiesIn finding) ↔ lacking key) :
    TellsRequired overlarge lacking (ofFindings none findings) where
  fails := (ofFindings_failsIff speaks_none complete).congr faults
  tells := fun _ made key => (tellsMissing_iff made key).trans (missing key)

/-- The actions of a list of actions, in order. -/
def Value.actions (list : Value) : List Value :=
  match list with
  | .list actions => actions
  | .tuple actions => actions
  | _ => []

theorem actionsFindings_eq_ofElements (position : Nat) (actions : List Value) :
    actionsFindings position actions =
      Finding.ofElements .actionError position (actions.map actionFindings) := by
  induction actions generalizing position with
  | nil => rfl
  | cons action rest induction =>
      rw [actionsFindings, induction, List.map_cons, Finding.ofElements_cons]

/-- What is no list is found to be none and has no actions. -/
theorem actionListFindings_cases (list : Value) :
    actionListFindings list =
        Finding.ofElements .actionError 1 (list.actions.map actionFindings) ∨
      (list.actions = [] ∧
        actionListFindings list = [.of .actionsNotList [("field_name", .text "Actions")]]) := by
  cases list with
  | null => exact .inl rfl
  | list actions => exact .inl (actionsFindings_eq_ofElements 1 actions)
  | tuple actions => exact .inl (actionsFindings_eq_ofElements 1 actions)
  | _ => exact .inr ⟨rfl, rfl⟩

theorem actionListFindings_completeBut (list : Value) :
    ∀ finding ∈ actionListFindings list, finding.CompleteBut .integerTooLarge := by
  obtain elements | ⟨-, noList⟩ := actionListFindings_cases list
  · rw [elements]
    apply Finding.ofElements_completeBut (Finding.elementValues_given rfl)
    intro own member finding inside
    obtain ⟨action, -, rfl⟩ := List.mem_map.mp member
    exact Finding.completeBut_of_cases (actionFindings_cases inside)
  · intro finding member
    rw [noList] at member
    obtain rfl := List.mem_singleton.mp member
    have plain : (Finding.of .actionsNotList [("field_name", .text "Actions")]).IsPlain :=
      Finding.isPlain_of ["field_name"] (by decide) rfl (by decide)
    exact plain.completeBut _

theorem exists_liesIn_actionFindings_iff (action : Value) (leaf : Finding) :
    (∃ finding ∈ actionFindings action, leaf.LiesIn finding) ↔ leaf ∈ actionFindings action :=
  Finding.exists_liesIn_iff_mem
    (fun _ member => Finding.isLeaf_of_cases (actionFindings_cases member)) leaf

theorem exists_liesIn_actionListFindings_iff (list : Value) {leaf : Finding}
    (single : leaf.IsLeaf) (foreign : leaf.code? ≠ some .actionsNotList) :
    (∃ finding ∈ actionListFindings list, leaf.LiesIn finding) ↔
      ∃ action ∈ list.actions, leaf ∈ actionFindings action := by
  obtain elements | ⟨empty, noList⟩ := actionListFindings_cases list
  · rw [elements, Finding.liesIn_ofElements_iff single]
    simp only [List.mem_map]
    constructor
    · intro inside
      obtain ⟨_, ⟨action, member, rfl⟩, lies⟩ := inside
      exact ⟨action, member, (exists_liesIn_actionFindings_iff action leaf).mp lies⟩
    · intro inside
      obtain ⟨action, member, lies⟩ := inside
      exact ⟨_, ⟨action, member, rfl⟩, (exists_liesIn_actionFindings_iff action leaf).mpr lies⟩
  · have plain : (Finding.of .actionsNotList [("field_name", .text "Actions")]).IsLeaf :=
      Finding.isLeaf_problem _ _
    rw [noList, empty]
    simp only [List.mem_singleton, exists_eq_left, plain.liesIn_iff]
    constructor
    · intro same
      rw [same] at foreign
      exact absurd rfl foreign
    · simp

/-- The checks of a configuration, of an action and of a list of actions fail only for a required
number that is overlarge, and otherwise tell of the required keys whose values are absent or
blank. -/
theorem actionChecks_tellRequired (type config action list : Value) :
    TellsRequired (type.HasOverlargeKey config) (type.LacksKey config)
      (checkConfig none type config) ∧
    TellsRequired (action.actionType.HasOverlargeKey action.actionConfig)
      (action.actionType.LacksKey action.actionConfig) (checkAction none action) ∧
    TellsRequired
      (∃ action ∈ list.actions, action.actionType.HasOverlargeKey action.actionConfig)
      (fun key => ∃ action ∈ list.actions, action.actionType.LacksKey action.actionConfig key)
      (checkActions none list) := by
  refine ⟨?config, ?action, ?list⟩
  case config =>
    have leaves : ∀ finding ∈ configFindings type config, finding.IsLeaf := fun finding member =>
      Finding.isLeaf_of_cases (configFindings_cases member)
    rw [checkConfig_eq_ofFindings]
    apply Report.ofFindings_tellsRequired
    · intro finding member
      exact Finding.completeBut_of_cases (configFindings_cases member)
    · rw [Finding.exists_liesIn_iff_mem leaves, fault_mem_configFindings_iff]
    · intro key
      rw [Finding.exists_liesIn_iff_mem leaves, missing_mem_configFindings_iff]
  case action =>
    rw [checkAction_eq_ofFindings]
    apply Report.ofFindings_tellsRequired
    · intro finding member
      exact Finding.completeBut_of_cases (actionFindings_cases member)
    · rw [exists_liesIn_actionFindings_iff, fault_mem_actionFindings_iff]
    · intro key
      rw [exists_liesIn_actionFindings_iff, missing_mem_actionFindings_iff]
  case list =>
    rw [checkActions_eq_ofFindings]
    apply Report.ofFindings_tellsRequired (actionListFindings_completeBut list)
    · have leaf := Finding.isLeaf_fault .integerTooLarge
      rw [exists_liesIn_actionListFindings_iff list leaf (by simp [Finding.code?])]
      simp only [fault_mem_actionFindings_iff]
    · intro key
      have leaf : (Finding.of .configFieldMissing [("field", .text key)]).IsLeaf :=
        Finding.isLeaf_problem _ _
      rw [exists_liesIn_actionListFindings_iff list leaf (by simp [Finding.of, Finding.code?])]
      simp only [missing_mem_actionFindings_iff]

/-- The document of an action that logs a message. -/
def Json.logging (message : Json) : Json :=
  .object [("type", .text "LOG"), ("config", .object [("message", message)])]

theorem checkActions_tell_blank_message :
    ∃ report,
      checkActions none
          (.list [.ofJson (.logging (.double .nan)), .ofJson (.logging (.bool true))]) =
        .ok report ∧ report.TellsMissing "message" := by
  let list : Value := .list [.ofJson (.logging (.double .nan)), .ofJson (.logging (.bool true))]
  obtain ⟨report, made⟩ : ∃ report, checkActions none list = .ok report := ⟨_, rfl⟩
  obtain ⟨-, -, told⟩ := actionChecks_tellRequired .null .null .null list
  refine ⟨report, made, (told.tells report made "message").mpr ?_⟩
  refine ⟨.ofJson (.logging (.double .nan)), List.mem_cons_self, _, rfl, List.mem_cons_self, ?_⟩
  intro value given
  cases given
  exact .notNumber

/-- There is a document of an action that is not checked to its end. -/
theorem checkAction_lost_for_large_message :
    ¬∀ document : Json, ∃ report, checkAction none (.ofJson document) = .ok report := by
  intro returns
  obtain ⟨report, returned⟩ := returns (.logging (.int (10 ^ 309)))
  have overlarge : (Value.int (10 ^ 309)).IsOverlarge := ⟨_, rfl, by decide +kernel⟩
  have fault := (fault_mem_actionFindings_iff (.ofJson (.logging (.int (10 ^ 309))))).mpr
    ⟨_, "message", rfl, List.mem_cons_self, overlarge⟩
  rw [checkAction_eq_ofFindings] at returned
  have rendered := (Report.eq_ofIssues_of_ofFindings returned).1
  obtain ⟨issue, told⟩ := Finding.render_returns rendered fault
  rw [Finding.render] at told
  cases told

end Rulebook
