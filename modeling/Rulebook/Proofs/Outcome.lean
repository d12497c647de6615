import Rulebook.Fault

/-!
# Outcomes of computations that may fail

A computation made of steps succeeds exactly if its steps do, one on the result of the other.  One
whose failure is known beforehand is a result with a fault in its way.
-/

namespace Rulebook

theorem bind_eq_ok_iff {ε α β : Type} {first : Except ε α} {next : α → Except ε β} {result : β} :
    (first >>= next) = .ok result ↔ ∃ given, first = .ok given ∧ next given = .ok result := by
  cases first <;> simp [bind, Except.bind]

theorem ok_bind {ε α β : Type} (given : α) (next : α → Except ε β) :
    (Except.ok given >>= next) = next given := rfl

/-- The result, unless there is a fault. -/
def unlessFault {α : Type} (fault : Option Fault) (result : α) : Except Fault α :=
  match fault with
  | some cause => .error cause
  | none => .ok result

@[simp]
theorem unlessFault_none {α : Type} (result : α) : unlessFault none result = .ok result := rfl

@[simp]
theorem unlessFault_some {α : Type} (cause : Fault) (result : α) :
    unlessFault (some cause) result = .error cause := rfl

/-- Of two steps the first fault counts. -/
theorem unlessFault_bind {α β : Type} (first : Option Fault) (second : α → Option Fault)
    (value : α) (result : α → β) :
    (unlessFault first value >>= fun given => unlessFault (second given) (result given)) =
      unlessFault (first.or (second value)) (result value) := by
  cases first with
  | none => rfl
  | some cause => rfl

theorem unlessFault_both {α β γ : Type} (first second : Option Fault) (left : α) (right : β)
    (result : α → β → γ) :
    (do
      let one ← unlessFault first left
      let two ← unlessFault second right
      .ok (result one two)) = unlessFault (first.or second) (result left right) := by
  cases first with
  | none => cases second <;> rfl
  | some cause => rfl

/-- The outcome is that fault exactly if something holds, and a result otherwise. -/
inductive FailsIff {α : Type} (cause : Fault) (fails : Prop) : Except Fault α → Prop
  | ok (holds : ¬fails) (result : α) : FailsIff cause fails (.ok result)
  | error (holds : fails) : FailsIff cause fails (.error cause)

namespace FailsIff

variable {α β γ : Type} {cause : Fault} {fails others : Prop}

theorem congr {outcome : Except Fault α} (same : fails ↔ others)
    (given : FailsIff cause fails outcome) : FailsIff cause others outcome := by
  rw [← same]
  exact given

/-- A step that always succeeds changes nothing about when a computation fails. -/
theorem bind {outcome : Except Fault α} {next : α → Except Fault β}
    (given : FailsIff cause fails outcome) (succeeds : ∀ value, ∃ result, next value = .ok result) :
    FailsIff cause fails (outcome >>= next) := by
  cases given with
  | ok holds value =>
      obtain ⟨result, finished⟩ := succeeds value
      change FailsIff cause fails (next value)
      rw [finished]
      exact .ok holds result
  | error holds => exact .error holds

/-- Two steps fail alike if one of them does. -/
theorem both {first : Except Fault α} {second : Except Fault β} (result : α → β → γ)
    (one : FailsIff cause fails first) (two : FailsIff cause others second) :
    FailsIff cause (fails ∨ others)
      (do
        let left ← first
        let right ← second
        .ok (result left right)) := by
  cases one with
  | ok holds left =>
      cases two with
      | ok also right => exact .ok (not_or.mpr ⟨holds, also⟩) (result left right)
      | error also => exact .error (.inr also)
  | error holds => exact .error (.inl holds)

end FailsIff

end Rulebook
