import Rulebook.Proofs.Service.Verdicts

/-!
# What answers tell

An answer alone tells what was validated: the outcome of each section, how many errors there were,
and whether the guard refused an expression.  A list of recordings covers answers if it holds what
they tell and nothing else.
-/

namespace Rulebook

/-! ## Reading answers -/

/-- The texts listed under a name of a document. -/
def Json.textsUnder (name : Text) (content : Json) : List Text :=
  match content.member? name with
  | some (.array items) => items.filterMap fun
      | .text value => some value
      | _ => none
  | _ => []

/-- The truth value under a name of a document, if there is one. -/
def Json.truthUnder? (name : Text) (content : Json) : Option Bool :=
  match content.member? name with
  | some (.bool value) => some value
  | _ => none

namespace Response

/-- The document of a response; a page counts for a document without members. -/
def content (response : Response) : Json :=
  match response.body with
  | .document content => content
  | .page _ => .object []

/-- The errors that a response tells. -/
def errors (response : Response) : List Text := response.content.textsUnder "errors"

/-- Whether the response says that something is valid, if it says anything about that. -/
def valid? (response : Response) : Option Bool := response.content.truthUnder? "valid"

end Response

/-- A request with its answer. -/
structure Answer where
  request : Request
  response : Response

namespace Answer

/-- The answer refuses an expression beyond the safety ceilings. -/
def isRefusal (answer : Answer) : Bool :=
  answer.response.status = 422 && answer.response.valid? = some false

/-- The sections whose validation is answered, each with its outcome and its number of errors.  The
errors of a section of a rule are those that its title begins, and it is valid if there are none.  A
single condition or list of actions is what the answer says it is. -/
def validations (answer : Answer) : List (ValidationKey × Nat) :=
  let errors := answer.response.errors
  let valid := answer.response.valid?.getD false
  if answer.response.status = 200 then
    match resolve answer.request.method answer.request.path with
    | .route .rule => Section.all.map fun part =>
        (⟨part.symbol, !errors.any part.title.isPrefixOf⟩, errors.countP part.title.isPrefixOf)
    | .route .condition => [(⟨"condition", valid⟩, errors.length)]
    | .route .actions => [(⟨"actions", valid⟩, errors.length)]
    | _ => []
  else []

/-- How many errors an answer tells; one that refuses what it was asked tells none. -/
def errorCount (answer : Answer) : Nat :=
  if answer.response.status = 200 then answer.response.errors.length else 0

theorem errorCount_of_ok {answer : Answer} (ok : answer.response.status = 200) :
    answer.errorCount = answer.response.errors.length := if_pos ok

end Answer

/-! ## Recordings of answers -/

/-- The recordings are those of the answers. -/
structure Covers (answers : List Answer) (recordings : List Recording) : Prop where
  refusals : recordings.count .refusal = answers.countP (·.isRefusal)
  validations : recordings.filterMap Recording.validation? = answers.flatMap (·.validations)
  errors : (recordings.map (·.told)).sum = (answers.map (·.errorCount)).sum

theorem Covers.nil : Covers [] [] := ⟨rfl, rfl, rfl⟩

theorem Covers.append {first second : List Answer} {left right : List Recording}
    (one : Covers first left) (two : Covers second right) :
    Covers (first ++ second) (left ++ right) := by
  constructor
  · rw [List.count_append, List.countP_append, one.refusals, two.refusals]
  · rw [List.filterMap_append, List.flatMap_append, one.validations, two.validations]
  · rw [List.map_append, List.map_append, List.sum_append, List.sum_append, one.errors, two.errors]

/-- An answer that tells of no validation has the same recordings as none. -/
theorem Covers.of_silent {answer : Answer} {recordings : List Recording}
    (none : Covers [] recordings) (unrefused : answer.isRefusal = false)
    (idle : answer.validations = []) (noError : answer.errorCount = 0) :
    Covers [answer] recordings := by
  constructor
  · simpa [unrefused] using none.refusals
  · simpa [idle] using none.validations
  · simpa [noError] using none.errors

/-- An answer with another status than that of verdicts and refusals tells of no validation. -/
theorem Covers.of_status {status : Nat} {recordings : List Recording}
    (none : Covers [] recordings) (other : status ∉ [200, 422]) (request : Request) (body : Body)
    (headers : List (Text × Text)) : Covers [⟨request, ⟨status, body, headers⟩⟩] recordings := by
  obtain ⟨unanswered, unrefused⟩ : status ≠ 200 ∧ status ≠ 422 := by simpa using other
  apply none.of_silent
  · simp [Answer.isRefusal, unrefused]
  · simp [Answer.validations, unanswered]
  · simp [Answer.errorCount, unanswered]

/-! ## Verdicts as they are answered -/

namespace Verdict

theorem valid?_told (status : Nat) (verdict : Verdict) :
    (verdict.told status).valid? = some verdict.valid := rfl

theorem errors_told (status : Nat) (verdict : Verdict) :
    (verdict.told status).errors = verdict.errorList := by
  obtain ⟨valid, error, errors⟩ := verdict
  have texts : ∀ values : List Text,
      ((values.map Json.text).filterMap fun
        | .text value => some value
        | _ => none) = values := by
    intro values
    simp [List.filterMap_map]
  cases error with
  | none =>
      cases errors with
      | none => rfl
      | some errors => exact texts errors
  | some error =>
      cases errors with
      | none => rfl
      | some errors => exact texts errors

end Verdict

/-- The title of a section begins the errors of that section and of no other. -/
theorem Section.isPrefixOf_title_iff (part other : Section) (error : Text) :
    part.title.isPrefixOf (other.lead ++ error) = true ↔ part = other := by
  constructor
  · intro begins
    cases part <;> cases other <;> first | rfl | cases begins
  · intro same
    rw [same, Section.lead, List.append_assoc, List.isPrefixOf_iff_prefix]
    exact List.prefix_append _ _

namespace SectionVerdicts

variable {verdicts : SectionVerdicts} (grounded : ∀ part, (verdicts.get part).IsGrounded)

include grounded

/-- The errors that the title of a section begins are as many as that section has. -/
theorem countP_title (part : Section) :
    verdicts.errors.countP part.title.isPrefixOf = (verdicts.get part).errorList.length := by
  have each : ∀ other : Section,
      ((verdicts.get other).ledBy other.lead).countP part.title.isPrefixOf =
        if part = other then (verdicts.get other).errorList.length else 0 := by
    intro other
    rw [(grounded other).ledBy_eq, List.countP_map]
    split_ifs with same
    · exact List.countP_eq_length.mpr fun error _ =>
        (part.isPrefixOf_title_iff other error).mpr same
    · exact List.countP_eq_zero.mpr fun error _ begins =>
        same ((part.isPrefixOf_title_iff other error).mp begins)
  rw [verdicts.errors_eq_flatMap, List.countP_flatMap]
  simp only [Section.all, List.map_cons, List.map_nil, Function.comp_apply, each]
  cases part <;> simp

/-- A section is valid exactly if its title begins no error. -/
theorem valid_eq (part : Section) :
    (verdicts.get part).valid = !verdicts.errors.any part.title.isPrefixOf := by
  have told : verdicts.errors.any part.title.isPrefixOf =
      !(verdicts.get part).errorList.isEmpty := by
    rw [Bool.eq_iff_iff, List.any_eq_true, ← List.countP_pos_iff, countP_title grounded]
    simp [List.length_pos_iff]
  rw [told, Bool.not_not]
  exact grounded part

end SectionVerdicts

section Covers

variable {request : Request}

theorem covers_rule (route : resolve request.method request.path = .route .rule)
    {verdicts : SectionVerdicts} (grounded : ∀ part, (verdicts.get part).IsGrounded) :
    Covers [⟨request, (Verdict.ofErrors verdicts.errors none).told 200⟩] verdicts.recordings := by
  have errors : ((Verdict.ofErrors verdicts.errors none).told 200).errors = verdicts.errors := by
    rw [Verdict.errors_told, Verdict.ofErrors_errorList]
  constructor
  case refusals => rfl
  case validations =>
    have told : Answer.validations ⟨request, (Verdict.ofErrors verdicts.errors none).told 200⟩ =
        Section.all.map fun part =>
          (⟨part.symbol, (verdicts.get part).valid⟩, (verdicts.get part).errorList.length) := by
      simp only [Answer.validations, route, errors, SectionVerdicts.valid_eq grounded,
        SectionVerdicts.countP_title grounded]
      rfl
    rw [List.flatMap_singleton, told, SectionVerdicts.recordings, List.filterMap_map]
    rfl
  case errors =>
    have each : ∀ part, ((verdicts.get part).recording part.symbol).told =
        ((verdicts.get part).ledBy part.lead).length := by
      intro part
      rw [(grounded part).ledBy_eq, List.length_map]
      rfl
    have count : Answer.errorCount ⟨request, (Verdict.ofErrors verdicts.errors none).told 200⟩ =
        verdicts.errors.length := by rw [Answer.errorCount_of_ok rfl, errors]
    rw [List.map_singleton, List.sum_singleton, count, verdicts.errors_eq_flatMap,
      List.length_flatMap, SectionVerdicts.recordings, List.map_map]
    simp only [Function.comp_def, each]

theorem covers_single {part : Text} {verdict : Verdict}
    (told : Answer.validations ⟨request, verdict.told 200⟩ =
      [(⟨part, verdict.valid⟩, verdict.errorList.length)]) :
    Covers [⟨request, verdict.told 200⟩] [verdict.recording part] := by
  constructor
  case refusals => rfl
  case validations =>
    rw [List.flatMap_singleton, told]
    rfl
  case errors =>
    have count : Answer.errorCount ⟨request, verdict.told 200⟩ = verdict.errorList.length := by
      rw [Answer.errorCount_of_ok rfl, Verdict.errors_told]
    rw [List.map_singleton, List.map_singleton, List.sum_singleton, List.sum_singleton, count]
    rfl

theorem covers_condition (route : resolve request.method request.path = .route .condition)
    (verdict : Verdict) :
    Covers [⟨request, verdict.told 200⟩] [verdict.recording Section.condition.symbol] := by
  refine covers_single ?_
  simp only [Answer.validations, route, Verdict.valid?_told, Verdict.errors_told]
  rfl

theorem covers_actions (route : resolve request.method request.path = .route .actions)
    (verdict : Verdict) :
    Covers [⟨request, verdict.told 200⟩] [verdict.recording "actions"] := by
  refine covers_single ?_
  simp only [Answer.validations, route, Verdict.valid?_told, Verdict.errors_told]
  rfl

theorem covers_refusal (message : Text) :
    Covers [⟨request, (Verdict.internal message).told 422⟩] [.refusal] := ⟨rfl, rfl, rfl⟩

end Covers

end Rulebook
