import Rulebook.Proofs.Payload.Aggregation
import Rulebook.Proofs.Rendering

/-!
# How the validation of a payload can fail

A fault inside a check never leaves the validation: it becomes a message about the section.  That
message, and the one that a section is no list, are put into words outside of the checks.  They are
the only ones, so the validation returns exactly if the wording has them, and then it reports them.
-/

namespace Rulebook

/-! ## Messages outside of the checks -/

/-- A message takes the place of the report on a section. -/
inductive Payload.StandsIn (wording : Option Wording) (limit : Value) (payload : Payload) :
    Section → Code → Params → Prop
  | condition {cause : Fault}
      (failed : checkCondition wording limit (.int 0) payload.condition = .error cause) :
      StandsIn wording limit payload .condition .internalError
        (.ofFailure "condition expression" cause)
  | actions {part : Section} {field : Text} {elements : List Value} {cause : Fault}
      (given : payload.actions? part = some (field, .list elements))
      (failed : checkActions wording (.list elements) = .error cause) :
      StandsIn wording limit payload part .internalError (.ofFailure field cause)
  | noList {part : Section} {field : Text} {actions : Value}
      (given : payload.actions? part = some (field, actions)) (present : actions ≠ .null)
      (noList : ∀ elements, actions ≠ .list elements) :
      StandsIn wording limit payload part .actionsNotList (.ofField field)

/-- The validation of a payload puts a message about a section into words outside of the checks. -/
inductive Value.Unguarded (payload : Value) (wording : Option Wording) (limit : Value) :
    Section → Code → Params → Prop
  | noObject (unread : payload.payload? = none) :
      Unguarded payload wording limit .condition .internalError
        (.ofFailure "rule payload" .objectExpected)
  | part {parts : Payload} {part : Section} {code : Code} {params : Params}
      (read : payload.payload? = some parts)
      (message : parts.StandsIn wording limit part code params) :
      Unguarded payload wording limit part code params

theorem Params.ofFailure_given (title : Text) (cause : Fault) :
    ∀ name ∈ Code.internalError.template.holes,
      Assoc.has name (ofFailure title cause).values = true := by
  have holes : Code.internalError.template.holes =
      [Text.ofString "section", Text.ofString "detail"] := rfl
  rw [holes, List.forall_mem_cons, List.forall_mem_singleton]
  exact ⟨rfl, rfl⟩

theorem Params.ofField_given (field : Text) :
    ∀ name ∈ Code.actionsNotList.template.holes,
      Assoc.has name (ofField field).values = true := by
  have holes : Code.actionsNotList.template.holes = [Text.ofString "field_name"] := rfl
  rw [holes, List.forall_mem_singleton]
  rfl

/-- The messages outside of the checks give every parameter that their English templates name. -/
theorem Value.Unguarded.spoken {payload : Value} {wording : Option Wording} {limit : Value}
    {part : Section} {code : Code} {params : Params}
    (message : payload.Unguarded wording limit part code params) (speaks : Speaks wording) :
    ∃ text, code.message wording params = .ok text := by
  refine ⟨code.text wording params, Code.message_eq_text speaks code params ?_⟩
  cases message with
  | noObject unread => exact Params.ofFailure_given _ _
  | part read message =>
      cases message with
      | condition failed => exact Params.ofFailure_given _ _
      | actions given failed => exact Params.ofFailure_given _ _
      | noList given present noList => exact Params.ofField_given _

/-! ## One section -/

namespace Payload

variable {wording : Option Wording} {limit : Value} {payload : Payload} {part : Section}

/-- A message in place of the report is all that is told about the section. -/
theorem sectionVerdict_of_standsIn {code : Code} {params : Params}
    (message : payload.StandsIn wording limit part code params) :
    payload.sectionVerdict wording limit part =
      (code.message wording params >>= fun text => .ok (.internal text)) := by
  cases message with
  | condition failed =>
      rw [sectionVerdict, actions?, conditionVerdict_eq, failed]
      rfl
  | actions given failed =>
      rw [sectionVerdict, given]
      change actionsVerdict wording _ _ = _
      rw [actionsVerdict_of_checked _ _ (.inr ⟨_, rfl⟩), failed]
      rfl
  | noList given present noList =>
      rw [sectionVerdict, given]
      exact actionsVerdict_of_noList wording _ present noList

theorem sectionVerdict_of_checked
    (checked : ∀ code params, ¬payload.StandsIn wording limit part code params) :
    ∃ verdict, payload.sectionVerdict wording limit part = .ok verdict := by
  cases given : payload.actions? part with
  | none =>
      obtain rfl := (payload.actions?_eq_none_iff part).mp given
      rw [sectionVerdict, actions?, conditionVerdict_eq]
      cases outcome : checkCondition wording limit (.int 0) payload.condition with
      | ok report => exact ⟨_, rfl⟩
      | error cause => exact absurd (.condition outcome) (checked _ _)
  | some named =>
      obtain ⟨field, actions⟩ := named
      rw [sectionVerdict, given]
      change ∃ verdict, actionsVerdict wording field actions = .ok verdict
      -- Absent actions are clean without a check, so two kinds are left: lists, and the rest.
      by_cases absent : actions = .null
      · rw [absent]
        exact ⟨.clean, rfl⟩
      · by_cases list : ∃ elements, actions = .list elements
        · rw [actionsVerdict_of_checked wording field (.inr list)]
          obtain ⟨elements, rfl⟩ := list
          cases outcome : checkActions wording (.list elements) with
          | ok report => exact ⟨_, rfl⟩
          | error cause => exact absurd (.actions given outcome) (checked _ _)
        · exact absurd (.noList given absent (not_exists.mp list)) (checked _ _)

theorem sectionVerdict_returns
    (spoken : ∀ code params, payload.StandsIn wording limit part code params →
      ∃ text, code.message wording params = .ok text) :
    ∃ verdict, payload.sectionVerdict wording limit part = .ok verdict := by
  by_cases replaced : ∃ code params, payload.StandsIn wording limit part code params
  · obtain ⟨code, params, message⟩ := replaced
    obtain ⟨text, said⟩ := spoken code params message
    refine ⟨.internal text, ?_⟩
    rw [sectionVerdict_of_standsIn message, said]
    rfl
  · exact sectionVerdict_of_checked fun code params message => replaced ⟨code, params, message⟩

theorem sections_return
    (spoken : ∀ part code params, payload.StandsIn wording limit part code params →
      ∃ text, code.message wording params = .ok text) :
    ∃ verdicts, payload.sections wording limit = .ok verdicts := by
  obtain ⟨condition, first⟩ := sectionVerdict_returns (spoken .condition)
  obtain ⟨success, second⟩ := sectionVerdict_returns (spoken .successActions)
  obtain ⟨failure, third⟩ := sectionVerdict_returns (spoken .failureActions)
  refine ⟨⟨condition, success, failure⟩, (sections_eq_ok_iff _ _ _ _).mpr ?_⟩
  intro part
  cases part
  · exact first
  · exact second
  · exact third

end Payload

/-! ## The payload -/

section Payloads

variable {wording : Option Wording} {limit payload : Value}

theorem payloadSections_return
    (spoken : ∀ part code params, payload.Unguarded wording limit part code params →
      ∃ text, code.message wording params = .ok text) :
    ∃ verdicts, payloadSections wording limit payload = .ok verdicts := by
  cases read : payload.payload? with
  | none =>
      obtain ⟨text, said⟩ := spoken _ _ _ (.noObject read)
      exact ⟨_, (payloadSections_eq_ok_of_unread read _).mpr ⟨text, said, rfl⟩⟩
  | some parts =>
      rw [payloadSections_of_read read]
      apply Payload.sections_return
      intro part code params message
      exact spoken part code params (.part read message)

/-- The wording has every message that it is asked for outside of the checks, and that message is
all that the verdict on the section tells. -/
theorem payloadSections_tell {verdicts : SectionVerdicts}
    (judged : payloadSections wording limit payload = .ok verdicts) {part : Section}
    {code : Code} {params : Params}
    (message : payload.Unguarded wording limit part code params) :
    ∃ text, code.message wording params = .ok text ∧ verdicts.get part = .internal text := by
  cases message with
  | noObject unread =>
      obtain ⟨text, said, rfl⟩ := (payloadSections_eq_ok_of_unread unread verdicts).mp judged
      exact ⟨text, said, rfl⟩
  | part read message =>
      rw [payloadSections_of_read read, Payload.sections_eq_ok_iff] at judged
      have own := judged part
      rw [Payload.sectionVerdict_of_standsIn message, bind_eq_ok_iff] at own
      obtain ⟨text, said, finished⟩ := own
      exact ⟨text, said, (Except.ok.inj finished).symm⟩

theorem payloadVerdict_tells {verdict : Verdict}
    (returned : payloadVerdict wording limit payload = .ok verdict) {part : Section}
    {code : Code} {params : Params}
    (message : payload.Unguarded wording limit part code params) :
    ∃ text, code.message wording params = .ok text ∧
      part.title ++ Text.ofString ": " ++ text ∈ verdict.errorList := by
  obtain ⟨verdicts, judged, rfl⟩ := (payloadVerdict_eq_ok_iff _ _ _ _).mp returned
  obtain ⟨text, said, own⟩ := payloadSections_tell judged message
  have invalid : (verdicts.get part).valid = false := by
    rw [own]
    rfl
  have member : text ∈ (verdicts.get part).errorList := by
    rw [own]
    exact List.mem_singleton_self text
  refine ⟨text, said, ?_⟩
  rw [Verdict.ofErrors_errorList]
  exact SectionVerdicts.mem_errors invalid member

theorem payloadVerdict_returns
    (spoken : ∀ part code params, payload.Unguarded wording limit part code params →
      ∃ text, code.message wording params = .ok text) :
    ∃ verdict, payloadVerdict wording limit payload = .ok verdict := by
  obtain ⟨verdicts, judged⟩ := payloadSections_return spoken
  exact ⟨_, (payloadVerdict_eq_ok_iff _ _ _ _).mpr ⟨verdicts, judged, rfl⟩⟩

/-- A payload of any shape gets a verdict in English, and in every wording that has all messages. -/
theorem payloadVerdict_of_speaks (speaks : Speaks wording) :
    ∃ verdict, payloadVerdict wording limit payload = .ok verdict := by
  apply payloadVerdict_returns
  intro part code params message
  exact message.spoken speaks

end Payloads

/-- The validation of a payload returns exactly if the wording has all messages that it is asked
for outside of the checks, and each of them is then reported under its section. -/
theorem payloadVerdict_returns_iff (wording : Option Wording) (limit payload : Value) :
    ((∃ verdict, payloadVerdict wording limit payload = .ok verdict) ↔
      ∀ part code params, payload.Unguarded wording limit part code params →
        ∃ text, code.message wording params = .ok text) ∧
    ∀ verdict, payloadVerdict wording limit payload = .ok verdict →
      ∀ part code params, payload.Unguarded wording limit part code params →
        ∃ text, code.message wording params = .ok text ∧
          part.title ++ Text.ofString ": " ++ text ∈ verdict.errorList := by
  refine ⟨⟨?_, payloadVerdict_returns⟩, ?_⟩
  · intro returned part code params message
    obtain ⟨verdict, returned⟩ := returned
    obtain ⟨text, said, -⟩ := payloadVerdict_tells returned message
    exact ⟨text, said⟩
  · intro verdict returned part code params message
    exact payloadVerdict_tells returned message

/-- English, but for a code whose message it fails for. -/
def Wording.englishBut (failing : Code) : Wording := fun code params =>
  if code = failing then .error (.signalled .value (some "boom")) else Wording.english code params

/-- A payload with that part alone. -/
def Value.payloadOf (name : String) (part : Value) : Value := .mapping [(.text name, part)]

/-- A fault inside of the check of a section is reported. -/
theorem payloadVerdict_reports_failed_check :
    ∃ verdict,
      payloadVerdict (some (.englishBut .actionRequired)) (.int 5)
        (Value.payloadOf "failureActions" (.list [.null])) = .ok verdict ∧
      ∃ text,
        Code.internalError.message (some (.englishBut .actionRequired))
          (.ofFailure "failureActions" (.signalled .value (some "boom"))) = .ok text ∧
        Section.failureActions.title ++ Text.ofString ": " ++ text ∈ verdict.errorList := by
  let payload := Value.payloadOf "failureActions" (.list [.null])
  obtain ⟨verdict, returned⟩ : ∃ verdict,
      payloadVerdict (some (.englishBut .actionRequired)) (.int 5) payload = .ok verdict :=
    ⟨_, rfl⟩
  refine ⟨verdict, returned, ?_⟩
  apply (payloadVerdict_returns_iff _ _ _).2 verdict returned
  exact .part rfl (.actions rfl rfl)

/-- A section that is no list ends the validation if the wording fails to say so. -/
theorem payloadVerdict_lost_without_message :
    ¬∃ verdict, payloadVerdict (some (.englishBut .actionsNotList)) (.int 5)
      (Value.payloadOf "successActions" (.mapping [])) = .ok verdict := by
  have failed : payloadVerdict (some (.englishBut .actionsNotList)) (.int 5)
      (Value.payloadOf "successActions" (.mapping [])) =
        .error (.signalled .value (some "boom")) := rfl
  rw [failed]
  simp

end Rulebook
