import Rulebook.Payload.Sections
import Rulebook.Proofs.Outcome

/-!
# Verdicts on the sections of a payload

A section is judged by its own check.  Where the check cannot be carried through, or where there is
no list to check, one message stands in for its report.  Either way the verdict is unfavourable
exactly if it tells an error.
-/

namespace Rulebook

/-! ## Verdicts and their errors -/

/-- The verdict is favourable exactly if it tells no error. -/
def Verdict.IsGrounded (verdict : Verdict) : Prop := verdict.valid = verdict.errorList.isEmpty

theorem Verdict.isGrounded_clean : clean.IsGrounded := rfl

theorem Verdict.isGrounded_ofErrors (errors : List Text) (summary : Option Text) :
    (ofErrors errors summary).IsGrounded := by
  rw [IsGrounded, ofErrors_valid, ofErrors_errorList]

theorem Verdict.isGrounded_internal (message : Text) : (internal message).IsGrounded := rfl

theorem Verdict.IsGrounded.errorList_ne_nil {verdict : Verdict} (grounded : verdict.IsGrounded)
    (invalid : verdict.valid = false) : verdict.errorList ≠ [] := by
  intro empty
  rw [grounded, empty] at invalid
  cases invalid

theorem Report.isGrounded_verdict (lead : Text) (report : Report) :
    (report.verdict lead).IsGrounded := by
  rw [verdict]
  split
  · exact Verdict.isGrounded_clean
  · exact Verdict.isGrounded_ofErrors _ _

/-! ## Messages in place of a report -/

/-- What the message refers to that says that something could not be validated. -/
def Params.ofFailure (title : Text) (cause : Fault) : Params :=
  ⟨[("section", .text title), ("detail", .text cause.detail)], []⟩

/-- What the message refers to that says that a field is no list. -/
def Params.ofField (field : Text) : Params := ⟨[("field_name", .text field)], []⟩

theorem internalVerdict_eq_ok_iff (wording : Option Wording) (title : Text) (cause : Fault)
    (verdict : Verdict) :
    internalVerdict wording title cause = .ok verdict ↔
      ∃ text, Code.internalError.message wording (.ofFailure title cause) = .ok text ∧
        verdict = .internal text := by
  rw [internalVerdict, bind_eq_ok_iff]
  simp [Params.ofFailure, eq_comm]

/-- The verdict on the outcome of a check. -/
def outcomeVerdict (wording : Option Wording) (title lead : Text) :
    Except Fault Report → Except Fault Verdict
  | .ok report => .ok (report.verdict lead)
  | .error cause => internalVerdict wording title cause

theorem isGrounded_of_outcomeVerdict {wording : Option Wording} {title lead : Text}
    {outcome : Except Fault Report} {verdict : Verdict}
    (judged : outcomeVerdict wording title lead outcome = .ok verdict) : verdict.IsGrounded := by
  cases outcome with
  | ok report =>
      cases judged
      exact report.isGrounded_verdict lead
  | error cause =>
      obtain ⟨text, -, rfl⟩ := (internalVerdict_eq_ok_iff _ _ _ _).mp judged
      exact Verdict.isGrounded_internal text

/-! ## One section -/

theorem conditionVerdict_eq (wording : Option Wording) (limit expression : Value) :
    conditionVerdict wording limit expression =
      outcomeVerdict wording "condition expression" "Invalid condition expression: "
        (checkCondition wording limit (.int 0) expression) := by
  rw [conditionVerdict]
  split
  case isTrue absent =>
    cases expression <;> cases absent
    rw [checkCondition_null]
    rfl
  case isFalse => cases checkCondition wording limit (.int 0) expression <;> rfl

/-- Actions that are absent or a list are judged by their check. -/
theorem actionsVerdict_of_checked (wording : Option Wording) (field : Text) {actions : Value}
    (checked : actions = .null ∨ ∃ elements, actions = .list elements) :
    actionsVerdict wording field actions =
      outcomeVerdict wording field (Text.ofString "Invalid " ++ field ++ Text.ofString ": ")
        (checkActions wording actions) := by
  obtain rfl | ⟨elements, rfl⟩ := checked
  · rfl
  · cases elements with
    | nil => rfl
    | cons first rest =>
        cases outcome : checkActions wording (.list (first :: rest)) <;>
          simp [actionsVerdict, outcomeVerdict, outcome]

theorem actionsVerdict_of_noList (wording : Option Wording) (field : Text) {actions : Value}
    (present : actions ≠ .null) (noList : ∀ elements, actions ≠ .list elements) :
    actionsVerdict wording field actions =
      (Code.actionsNotList.message wording (.ofField field) >>= fun text =>
        .ok (.ofErrors [text] none)) := by
  cases actions with
  | null => exact absurd rfl present
  | list elements => exact absurd rfl (noList elements)
  | _ => rfl

theorem isGrounded_of_actionsVerdict {wording : Option Wording} {field : Text} {actions : Value}
    {verdict : Verdict} (judged : actionsVerdict wording field actions = .ok verdict) :
    verdict.IsGrounded := by
  by_cases checked : actions = .null ∨ ∃ elements, actions = .list elements
  · rw [actionsVerdict_of_checked wording field checked] at judged
    exact isGrounded_of_outcomeVerdict judged
  · simp only [not_or, not_exists] at checked
    rw [actionsVerdict_of_noList wording field checked.1 checked.2, bind_eq_ok_iff] at judged
    obtain ⟨text, -, finished⟩ := judged
    cases finished
    exact Verdict.isGrounded_ofErrors [text] none

/-! ## All sections -/

namespace Payload

/-- The actions of a section, with the name of their field. -/
def actions? (payload : Payload) : Section → Option (Text × Value)
  | .condition => none
  | .successActions => some ("successActions", payload.successActions)
  | .failureActions => some ("failureActions", payload.failureActions)

theorem actions?_eq_none_iff (payload : Payload) (part : Section) :
    payload.actions? part = none ↔ part = .condition := by
  cases part <;> simp [actions?]

/-- The verdict on a section. -/
def sectionVerdict (wording : Option Wording) (limit : Value) (payload : Payload)
    (part : Section) : Except Fault Verdict :=
  match payload.actions? part with
  | none => conditionVerdict wording limit payload.condition
  | some (field, actions) => actionsVerdict wording field actions

theorem sections_eq_ok_iff (wording : Option Wording) (limit : Value) (payload : Payload)
    (verdicts : SectionVerdicts) :
    payload.sections wording limit = .ok verdicts ↔
      ∀ part, payload.sectionVerdict wording limit part = .ok (verdicts.get part) := by
  simp only [sections, bind_eq_ok_iff]
  constructor
  · intro judged part
    obtain ⟨condition, first, success, second, failure, third, finished⟩ := judged
    cases finished
    cases part
    · exact first
    · exact second
    · exact third
  · intro each
    exact ⟨_, each .condition, _, each .successActions, _, each .failureActions, rfl⟩

theorem isGrounded_of_sectionVerdict {wording : Option Wording} {limit : Value}
    {payload : Payload} {part : Section} {verdict : Verdict}
    (judged : payload.sectionVerdict wording limit part = .ok verdict) : verdict.IsGrounded := by
  rw [sectionVerdict] at judged
  split at judged
  · rw [conditionVerdict_eq] at judged
    exact isGrounded_of_outcomeVerdict judged
  · exact isGrounded_of_actionsVerdict judged

end Payload

theorem payloadSections_of_read {wording : Option Wording} {limit payload : Value}
    {parts : Payload} (read : payload.payload? = some parts) :
    payloadSections wording limit payload = parts.sections wording limit := by
  rw [payloadSections, read]

theorem payloadSections_eq_ok_of_unread {wording : Option Wording} {limit payload : Value}
    (unread : payload.payload? = none) (verdicts : SectionVerdicts) :
    payloadSections wording limit payload = .ok verdicts ↔
      ∃ text, Code.internalError.message wording (.ofFailure "rule payload" .objectExpected) =
          .ok text ∧
        verdicts = ⟨.internal text, .clean, .clean⟩ := by
  rw [payloadSections, unread]
  simp only [bind_eq_ok_iff, internalVerdict_eq_ok_iff]
  constructor
  · intro judged
    obtain ⟨failure, ⟨text, said, rfl⟩, finished⟩ := judged
    cases finished
    exact ⟨text, said, rfl⟩
  · intro told
    obtain ⟨text, said, rfl⟩ := told
    exact ⟨.internal text, ⟨text, said, rfl⟩, rfl⟩

theorem isGrounded_of_payloadSections {wording : Option Wording} {limit payload : Value}
    {verdicts : SectionVerdicts}
    (judged : payloadSections wording limit payload = .ok verdicts) (part : Section) :
    (verdicts.get part).IsGrounded := by
  cases read : payload.payload? with
  | some parts =>
      rw [payloadSections_of_read read, Payload.sections_eq_ok_iff] at judged
      exact Payload.isGrounded_of_sectionVerdict (judged part)
  | none =>
      obtain ⟨text, -, rfl⟩ := (payloadSections_eq_ok_of_unread read verdicts).mp judged
      cases part
      · exact Verdict.isGrounded_internal text
      · exact Verdict.isGrounded_clean
      · exact Verdict.isGrounded_clean

end Rulebook
