import Rulebook.Proofs.Sendable
import Rulebook.Proofs.Service.Sessions

/-!
# Declared lengths

A declared length counts only if it is written with digits alone.  The raised digits one, two and
three are digits as well but stand for no number, and no number of more than 4300 digits is read,
so that a length written with them is a fault.  In every other case the body check settles a
request by itself: it passes the request on, or answers that the body is too large or no document.
-/

namespace Rulebook

namespace CodePoint

/-- One of the ten digits of the first 128 code points. -/
def IsDecimal (point : CodePoint) : Prop := 0x30 ≤ point.val ∧ point.val ≤ 0x39

/-- A raised digit one, two or three. -/
def IsRaised (point : CodePoint) : Prop :=
  point.val = 0xB2 ∨ point.val = 0xB3 ∨ point.val = 0xB9

theorem isSome_digit?_iff (point : CodePoint) : point.digit?.isSome = true ↔ point.IsDecimal := by
  have low : '0'.toNat = 0x30 := rfl
  have high : '9'.toNat = 0x39 := rfl
  simp [digit?, isBetween, IsDecimal, low, high]

theorem isDigitLike_iff (point : CodePoint) :
    point.isDigitLike = true ↔ point.IsDecimal ∨ point.IsRaised := by
  rw [isDigitLike, Bool.or_eq_true, isSome_digit?_iff]
  simp [IsRaised]

theorem IsRaised.not_isDecimal {point : CodePoint} (raised : point.IsRaised) :
    ¬point.IsDecimal := by
  rw [IsRaised] at raised
  rw [IsDecimal]
  omega

end CodePoint

/-! ## Lengths that cannot be read -/

/-- The text is written with digits alone, but one of them is raised or there are too many. -/
structure Text.IsUnreadableLength (written : Text) : Prop where
  nonempty : written ≠ []
  digits : ∀ point ∈ written, point.IsDecimal ∨ point.IsRaised
  unread : (∃ point ∈ written, point.IsRaised) ∨ 4300 < written.length

/-- The request declares a length that cannot be read. -/
def Request.DeclaresUnreadable (request : Request) : Prop :=
  ∃ written, request.header? "content-length" = some written ∧ written.IsUnreadableLength

theorem Json.length_leadingDigits_le (text : Text) : (leadingDigits text).length ≤ text.length := by
  induction text with
  | nil => exact Nat.le_refl _
  | cons point rest induction =>
      rw [leadingDigits]
      cases point.digit? with
      | none => exact Nat.zero_le _
      | some digit => exact Nat.succ_le_succ induction

/-- The digits in front are the whole text exactly if there is nothing but decimal digits. -/
theorem Json.length_leadingDigits_eq_iff (text : Text) :
    (leadingDigits text).length = text.length ↔ ∀ point ∈ text, point.IsDecimal := by
  induction text with
  | nil => simp [leadingDigits]
  | cons point rest induction =>
      rw [List.forall_mem_cons, ← induction, ← point.isSome_digit?_iff, leadingDigits]
      cases point.digit? <;> simp

/-- Of texts that are written with digits alone, those cannot be read that have more digits in
front than are read, or fewer than they are long. -/
theorem Text.isUnreadableLength_iff (written : Text) :
    written.IsUnreadableLength ↔
      (written.isEmpty || !written.all (·.isDigitLike)) = false ∧
        (4300 < (Json.leadingDigits written).length ∨
          (Json.leadingDigits written).length < written.length) := by
  have le := Json.length_leadingDigits_le written
  have whole := Json.length_leadingDigits_eq_iff written
  have shape : (written.isEmpty || !written.all (·.isDigitLike)) = false ↔
      written ≠ [] ∧ ∀ point ∈ written, point.IsDecimal ∨ point.IsRaised := by
    simp [CodePoint.isDigitLike_iff]
  rw [shape]
  constructor
  · rintro ⟨nonempty, digits, ⟨point, member, raised⟩ | long⟩
    -- A raised digit ends the digits in front before the text ends.
    · have short : (Json.leadingDigits written).length ≠ written.length := fun same =>
        raised.not_isDecimal (whole.mp same point member)
      exact ⟨⟨nonempty, digits⟩, .inr (by omega)⟩
    · exact ⟨⟨nonempty, digits⟩, by omega⟩
  · rintro ⟨⟨nonempty, digits⟩, unread⟩
    refine ⟨nonempty, digits, ?_⟩
    by_cases decimal : ∀ point ∈ written, point.IsDecimal
    · right
      have same := whole.mpr decimal
      omega
    · left
      obtain ⟨point, refuted⟩ := not_forall.mp decimal
      obtain ⟨member, other⟩ := Classical.not_imp.mp refuted
      exact ⟨point, member, (digits point member).resolve_left other⟩

/-- Reading the declared length is a fault about its value exactly if it cannot be read. -/
theorem Request.declaredLength?_cases (request : Request) :
    (request.DeclaresUnreadable ∧ ∃ cause,
      cause.className = FaultClass.value.name ∧ request.declaredLength? = .error cause) ∨
    (¬request.DeclaresUnreadable ∧ ∃ declared, request.declaredLength? = .ok declared) := by
  rw [DeclaresUnreadable, declaredLength?]
  cases request.header? "content-length" with
  | none => exact .inr ⟨nofun, none, rfl⟩
  | some written =>
      simp only [Option.some.injEq, exists_eq_left', written.isUnreadableLength_iff]
      split_ifs with foreign many short
      · exact .inr ⟨fun unreadable => absurd unreadable.1 (by simp [foreign]), none, rfl⟩
      · exact .inl ⟨⟨eq_false_of_ne_true foreign, .inl many⟩, _, rfl, rfl⟩
      · exact .inl ⟨⟨eq_false_of_ne_true foreign, .inr short⟩, _, rfl, rfl⟩
      · exact .inr ⟨fun unreadable => unreadable.2.elim many short, _, rfl⟩

/-! ## What the body check answers -/

theorem isSendable_tooLargeDocument (maxSize size : Int) :
    (tooLargeDocument maxSize size).IsSendable := by
  apply Json.isSendable_record
  rw [List.forall_mem_cons, List.forall_mem_cons, List.forall_mem_cons, List.forall_mem_singleton]
  refine ⟨?_, ?_, Json.isSendable_int maxSize, Json.isSendable_int size⟩
  · exact Json.isSendable_string _
  · apply Json.isSendable_text
    rw [Text.hasByteForm_append_iff, Text.hasByteForm_append_iff]
    exact ⟨⟨Text.hasByteForm_ofString _, Text.hasByteForm_ofInt maxSize⟩,
      Text.hasByteForm_ofString _⟩

theorem isSendable_notDocumentDocument : notDocumentDocument.IsSendable := by
  apply Json.isSendable_record
  rw [List.forall_mem_cons, List.forall_mem_cons, List.forall_mem_singleton]
  exact ⟨Json.isSendable_string _, Json.isSendable_string _, Json.isSendable_string _⟩

theorem run_refuseTooLarge (maxSize size : Int) (path : Text) (world : World) :
    (refuseTooLarge maxSize size path).run.run world =
      (.ok ⟨413, .document (tooLargeDocument maxSize size), []⟩,
        world.logged (tooLargeEvent path maxSize size)) := by
  rw [refuseTooLarge, Serve.run_bind, Serve.run_report]
  dsimp only
  rw [Serve.answer, Response.ofDocument_of_isSendable (isSendable_tooLargeDocument maxSize size),
    Serve.run_ofOutcome]
  rfl

theorem run_refuseNotDocument (path : Text) (world : World) :
    (refuseNotDocument path).run.run world =
      (.ok ⟨400, .document notDocumentDocument, []⟩, world.logged (notDocumentEvent path)) := by
  rw [refuseNotDocument, Serve.run_bind, Serve.run_report]
  dsimp only
  rw [Serve.answer, Response.ofDocument_of_isSendable isSendable_notDocumentDocument,
    Serve.run_ofOutcome]
  rfl

namespace Request

/-- The body check answers the request itself, whatever lies behind. -/
inductive IsRefused (maxSize : Int) (request : Request) : Prop
  | tooLarge (size : Int)
      (answered : ∀ inner world, (withBodyCheck maxSize inner request).run.run world =
        (.ok ⟨413, .document (tooLargeDocument maxSize size), []⟩,
          world.logged (tooLargeEvent request.location maxSize size)))
  | notDocument
      (answered : ∀ inner world, (withBodyCheck maxSize inner request).run.run world =
        (.ok ⟨400, .document notDocumentDocument, []⟩,
          world.logged (notDocumentEvent request.location)))

/-- The body check fails with that cause, whatever lies behind. -/
structure FailsBodyCheck (maxSize : Int) (request : Request) (cause : Fault) : Prop where
  ofValue : cause.className = FaultClass.value.name
  raised : ∀ inner world,
    (withBodyCheck maxSize inner request).run.run world = (.error cause, world)
  /-- Behind recovery the request is answered as one whose handling ended in a fault. -/
  recovered : ∀ inner world,
    (withRecovery (withBodyCheck maxSize inner) request).run.run world =
      (Response.ofDocument 500 (faultDocument world.correlation request.location),
        world.logged (unhandledEvent request.location cause))

theorem IsRefused.exists_answer {maxSize : Int} {request : Request}
    (refused : request.IsRefused maxSize) (inner : Handler) (world : World) :
    ∃ response after,
      (withBodyCheck maxSize inner request).run.run world = (.ok response, after) := by
  cases refused with
  | tooLarge size answered => exact ⟨_, _, answered inner world⟩
  | notDocument answered => exact ⟨_, _, answered inner world⟩

/-- A request that passes or is refused does not fail. -/
theorem FailsBodyCheck.not_settled {maxSize : Int} {request : Request} {cause : Fault}
    (fails : request.FailsBodyCheck maxSize cause) :
    ¬(request.PassesBodyCheck maxSize ∨ request.IsRefused maxSize) := by
  rintro (passes | refused)
  -- Passed on to a handler that answers, the request would be answered.
  · have raised := fails.raised (fun _ => Serve.ofOutcome (.ok ⟨200, .page [], []⟩))
      ⟨.fresh .default, [], [], []⟩
    rw [passes, Serve.run_ofOutcome] at raised
    cases raised
  · obtain ⟨response, after, answered⟩ := refused.exists_answer
      (fun _ => Serve.ofOutcome (.error cause)) ⟨.fresh .default, [], [], []⟩
    rw [fails.raised] at answered
    cases answered

theorem failsBodyCheck_of_unread {maxSize : Int} {request : Request} {cause : Fault}
    (sends : request.sendsBody = true) (unread : request.declaredLength? = .error cause)
    (ofValue : cause.className = FaultClass.value.name) :
    request.FailsBodyCheck maxSize cause := by
  have raised : ∀ inner world,
      (withBodyCheck maxSize inner request).run.run world = (.error cause, world) := by
    intro inner world
    rw [withBodyCheck_of_unread sends unread, Serve.run_ofOutcome]
  refine ⟨ofValue, raised, ?_⟩
  intro inner world
  rw [run_withRecovery, raised]

theorem settles_of_read {request : Request} {declared : Option Nat} (maxSize : Int)
    (read : request.declaredLength? = .ok declared) :
    request.PassesBodyCheck maxSize ∨ request.IsRefused maxSize := by
  obtain passes | ⟨size, refused⟩ | refused := withBodyCheck_cases_of_read maxSize read
  · exact .inl passes
  · right
    refine .tooLarge size fun inner world => ?_
    rw [refused, run_refuseTooLarge]
  · right
    refine .notDocument fun inner world => ?_
    rw [refused, run_refuseNotDocument]

end Request

/-- Whatever its header fields and its body are, the body check passes a request on or answers it,
unless the request sends a body and declares a length that cannot be read; then the check fails. -/
theorem bodyCheck_settles_iff (maxSize : Int) (request : Request) :
    (request.PassesBodyCheck maxSize ∨ request.IsRefused maxSize ↔
      ¬(request.sendsBody = true ∧ request.DeclaresUnreadable)) ∧
    ((∃ cause, request.FailsBodyCheck maxSize cause) ↔
      request.sendsBody = true ∧ request.DeclaresUnreadable) := by
  have fails : request.sendsBody = true ∧ request.DeclaresUnreadable →
      ∃ cause, request.FailsBodyCheck maxSize cause := by
    rintro ⟨sends, unreadable⟩
    obtain ⟨-, cause, ofValue, unread⟩ | ⟨readable, -⟩ := request.declaredLength?_cases
    · exact ⟨cause, Request.failsBodyCheck_of_unread sends unread ofValue⟩
    · exact absurd unreadable readable
  have settles : ¬(request.sendsBody = true ∧ request.DeclaresUnreadable) →
      request.PassesBodyCheck maxSize ∨ request.IsRefused maxSize := by
    intro readable
    cases sends : request.sendsBody with
    | false => exact .inl (withBodyCheck_of_bodiless sends)
    | true =>
        obtain ⟨unreadable, -⟩ | ⟨-, declared, read⟩ := request.declaredLength?_cases
        · exact absurd ⟨sends, unreadable⟩ readable
        · exact Request.settles_of_read maxSize read
  constructor
  case left =>
    refine ⟨?_, settles⟩
    intro settled unreadable
    obtain ⟨cause, failing⟩ := fails unreadable
    exact failing.not_settled settled
  case right =>
    refine ⟨?_, fails⟩
    rintro ⟨cause, failing⟩
    by_contra readable
    exact failing.not_settled (settles readable)

/-- A request that declares its length by a raised digit two. -/
def Request.raisedLength : Request :=
  ⟨"POST", "/v1/rules/validate",
    [("content-length", "²"), ("content-type", "application/json")], [0x7B, 0x7D]⟩

/-- A declared length of one code point below 256 makes the body check fail, and the service answers
with status 500. -/
theorem bodyCheck_raisedLength_fails :
    Request.raisedLength.header? "content-length" = some [0xB2] ∧
      ¬(Request.raisedLength.PassesBodyCheck 1048576 ∨ Request.raisedLength.IsRefused 1048576) ∧
      ∃ response,
        (Service.plain.handle Occasion.plain (Metrics.fresh .default)
            Request.raisedLength).outcome = .ok response ∧ response.status = 500 := by
  have unread : Request.raisedLength.declaredLength? = .error (.notDecimal [0xB2]) := rfl
  have fails : Request.raisedLength.FailsBodyCheck 1048576 (.notDecimal [0xB2]) :=
    Request.failsBodyCheck_of_unread rfl unread rfl
  exact ⟨rfl, fails.not_settled, _, rfl, rfl⟩

end Rulebook
