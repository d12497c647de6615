import Rulebook.Value.Basic

/-!
# Field paths

A field path names a place in a record, such as `order.items[0].sku`: an identifier followed by
any mix of letters, digits, underscores, dots and brackets.  Only the first 128 code points count
as letters and digits.
-/

namespace Rulebook

namespace FieldPath

/-- A code point that may begin a path. -/
def isHead (point : CodePoint) : Bool :=
  point.isBetween 'A' 'Z' || point.isBetween 'a' 'z' || point = .ofChar '_'

/-- A code point that may continue a path. -/
def isTail (point : CodePoint) : Bool :=
  isHead point || point.isBetween '0' '9' || point = .ofChar '.' || point = .ofChar '[' ||
    point = .ofChar ']'

/-- The text is a field path. -/
def isValid : Text → Bool
  | [] => false
  | head :: tail => isHead head && tail.all isTail

@[simp]
theorem isValid_nil : isValid [] = false := rfl

@[simp]
theorem isValid_cons (head : CodePoint) (tail : Text) :
    isValid (head :: tail) = (isHead head && tail.all isTail) := rfl

theorem isValid_append (path rest : Text) (valid : isValid path = true) :
    isValid (path ++ rest) = rest.all isTail := by
  cases path with
  | nil => simp at valid
  | cons head tail =>
      simp only [isValid_cons, Bool.and_eq_true] at valid
      simp [valid.1, valid.2]

end FieldPath

/-- The value is a text that is a field path. -/
def Value.isFieldPath : Value → Bool
  | .text path => FieldPath.isValid path
  | _ => false

end Rulebook
