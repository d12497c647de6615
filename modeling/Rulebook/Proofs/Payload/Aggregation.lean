import Rulebook.Proofs.Payload.Sections

/-!
# The verdict on a payload

A payload is judged by the errors of its sections alone: the flags of the sections are not looked
at again once the errors are in one list.  That is sound because no section is unfavourable without
an error, whichever way its verdict came about.
-/

namespace Rulebook

/-- The errors of an unfavourable verdict, each led by the given words. -/
def Verdict.ledBy (lead : Text) (verdict : Verdict) : List Text :=
  if verdict.valid then [] else verdict.errorList.map (lead ++ ·)

theorem Verdict.IsGrounded.ledBy_eq_nil_iff {verdict : Verdict} (grounded : verdict.IsGrounded)
    (lead : Text) : verdict.ledBy lead = [] ↔ verdict.valid = true := by
  rw [ledBy]
  cases outcome : verdict.valid with
  | true => simp
  | false => simpa using grounded.errorList_ne_nil outcome

theorem Verdict.IsGrounded.ledBy_eq {verdict : Verdict} (grounded : verdict.IsGrounded)
    (lead : Text) : verdict.ledBy lead = verdict.errorList.map (lead ++ ·) := by
  rw [ledBy]
  cases outcome : verdict.valid with
  | false => rfl
  | true =>
      have none : verdict.errorList.isEmpty = true := by
        rw [← grounded]
        exact outcome
      rw [List.isEmpty_iff.mp none]
      rfl

/-- The words that lead the errors of a section. -/
def Section.lead (part : Section) : Text := part.title ++ Text.ofString ": "

namespace SectionVerdicts

/-- The errors of all sections, those about the condition first. -/
def errors (verdicts : SectionVerdicts) : List Text :=
  verdicts.condition.ledBy "Condition: " ++ verdicts.successActions.ledBy "Success actions: " ++
    verdicts.failureActions.ledBy "Failure actions: "

theorem errors_eq_flatMap (verdicts : SectionVerdicts) :
    verdicts.errors = Section.all.flatMap fun part => (verdicts.get part).ledBy part.lead := by
  simp only [Section.all, List.flatMap_cons, List.flatMap_nil, List.append_nil,
    ← List.append_assoc]
  rfl

theorem aggregate_get (verdicts : SectionVerdicts) :
    aggregate (fun part => some (verdicts.get part)) = .ofErrors verdicts.errors none := by
  simp only [aggregate, Section.all, List.flatMap_cons, List.flatMap_nil, List.append_nil,
    ← List.append_assoc]
  -- The titles with their colons are the leads as they are written out in the list.
  rfl

theorem errors_eq_nil_iff {verdicts : SectionVerdicts}
    (grounded : ∀ part, (verdicts.get part).IsGrounded) :
    verdicts.errors = [] ↔ ∀ part, (verdicts.get part).valid = true := by
  have condition := (grounded .condition).ledBy_eq_nil_iff "Condition: "
  have success := (grounded .successActions).ledBy_eq_nil_iff "Success actions: "
  have failure := (grounded .failureActions).ledBy_eq_nil_iff "Failure actions: "
  simp only [get] at condition success failure
  rw [errors, List.append_eq_nil_iff, List.append_eq_nil_iff, condition, success, failure]
  constructor
  · intro all part
    obtain ⟨⟨first, second⟩, third⟩ := all
    cases part
    · exact first
    · exact second
    · exact third
  · intro all
    exact ⟨⟨all .condition, all .successActions⟩, all .failureActions⟩

theorem mem_errors {verdicts : SectionVerdicts} {part : Section} {error : Text}
    (invalid : (verdicts.get part).valid = false)
    (member : error ∈ (verdicts.get part).errorList) :
    part.title ++ Text.ofString ": " ++ error ∈ verdicts.errors := by
  have led : part.title ++ Text.ofString ": " ++ error ∈
      (verdicts.get part).ledBy (part.title ++ Text.ofString ": ") := by
    rw [Verdict.ledBy, invalid]
    exact List.mem_map_of_mem member
  rw [errors, List.mem_append, List.mem_append]
  cases part
  · exact .inl (.inl led)
  · exact .inl (.inr led)
  · exact .inr led

end SectionVerdicts

theorem payloadVerdict_eq_ok_iff (wording : Option Wording) (limit payload : Value)
    (verdict : Verdict) :
    payloadVerdict wording limit payload = .ok verdict ↔
      ∃ verdicts, payloadSections wording limit payload = .ok verdicts ∧
        verdict = .ofErrors verdicts.errors none := by
  simp only [payloadVerdict, bind_eq_ok_iff, SectionVerdicts.aggregate_get, Except.ok.injEq,
    @eq_comm _ verdict]

/-- The verdict joins those on the sections. -/
structure Verdict.Joins (verdict : Verdict) (verdicts : SectionVerdicts) : Prop where
  valid : verdict.valid = true ↔ ∀ part, (verdicts.get part).valid = true
  /-- A favourable verdict is told without anything else. -/
  favourable : verdict.valid = true → verdict.response = .object [("valid", .bool true)]
  unfavourable : verdict.valid = false →
    verdict.errors = some verdicts.errors ∧
      verdict.error = some (Text.join "; " verdicts.errors)
  /-- No section is unfavourable without an error of its own. -/
  backed : ∀ part, (verdicts.get part).valid = false → (verdicts.get part).errorList ≠ []

theorem Verdict.joins_of_grounded {verdicts : SectionVerdicts}
    (grounded : ∀ part, (verdicts.get part).IsGrounded) :
    (ofErrors verdicts.errors none).Joins verdicts := by
  refine ⟨?_, ?_, ?_, ?_⟩
  · rw [ofErrors_valid, List.isEmpty_iff]
    exact SectionVerdicts.errors_eq_nil_iff grounded
  · intro valid
    rw [ofErrors_valid, List.isEmpty_iff] at valid
    rw [valid]
    rfl
  · intro invalid
    rw [ofErrors_valid] at invalid
    rw [ofErrors, invalid]
    exact ⟨rfl, rfl⟩
  · intro part
    exact (grounded part).errorList_ne_nil

/-- A payload of any shape is judged as its sections are.  It is valid exactly if all of them are,
and then the answer says no more than that; otherwise it has the errors of the sections that are
not, those about the condition first, each led by the title of its section and none left out. -/
theorem payloadVerdict_joins_sections {wording : Option Wording} {limit payload : Value}
    {verdict : Verdict} (judged : payloadVerdict wording limit payload = .ok verdict) :
    ∃ verdicts, payloadSections wording limit payload = .ok verdicts ∧ verdict.Joins verdicts := by
  obtain ⟨verdicts, sections, rfl⟩ := (payloadVerdict_eq_ok_iff _ _ _ _).mp judged
  exact ⟨verdicts, sections, Verdict.joins_of_grounded (isGrounded_of_payloadSections sections)⟩

/-- A payload of which two sections fail, the one that is reported last named first. -/
def Value.lopsided : Value :=
  .mapping [(.text "failureActions", .int 5), (.text "conditionExpression", .text "later")]

theorem payloadVerdict_lopsided_joins :
    ∃ verdict verdicts, payloadVerdict none (.int 5) Value.lopsided = .ok verdict ∧
      verdict.valid = false ∧
      payloadSections none (.int 5) Value.lopsided = .ok verdicts ∧ verdict.Joins verdicts := by
  obtain ⟨verdict, judged, invalid⟩ : ∃ verdict,
      payloadVerdict none (.int 5) Value.lopsided = .ok verdict ∧ verdict.valid = false :=
    ⟨_, rfl, rfl⟩
  obtain ⟨verdicts, sections, joins⟩ := payloadVerdict_joins_sections judged
  exact ⟨verdict, verdicts, judged, invalid, sections, joins⟩

end Rulebook
