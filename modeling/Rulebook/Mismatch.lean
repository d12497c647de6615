import Rulebook.Text.Basic

/-!
# Mismatches

Reading data into a typed record reports every place at which the data does not fit, in the order
of the record's fields, each with the path that leads to it.
-/

namespace Rulebook

/-- How data fails to fit a typed record. -/
inductive MismatchKind where
  /-- The data is no mapping and no record of the type. -/
  | recordType
  | missing
  | textType
  /-- One of a fixed set of words is expected. -/
  | word
  | listType
  | tooShort
  | mappingType
  /-- A truth value is expected, and the data is of no kind that could be read as one. -/
  | truthType
  /-- The data cannot be read as a truth value. -/
  | truthReading
  /-- The text cannot be read as a whole number. -/
  | integerReading
  /-- The text has too many digits to be read as a whole number. -/
  | integerSize
  deriving DecidableEq, Repr

/-- The word that reports a mismatch. -/
def MismatchKind.symbol : MismatchKind → Text
  | .recordType => "model_type"
  | .missing => "missing"
  | .textType => "string_type"
  | .word => "enum"
  | .listType => "list_type"
  | .tooShort => "too_short"
  | .mappingType => "dict_type"
  | .truthType => "bool_type"
  | .truthReading => "bool_parsing"
  | .integerReading => "int_parsing"
  | .integerSize => "int_parsing_size"

/-- One step of the path to a mismatch. -/
inductive Step where
  /-- Into a field, or into a kind of record. -/
  | name (name : Text)
  /-- Into an element of a list. -/
  | index (index : Nat)
  deriving DecidableEq, Repr

/-- A place at which data does not fit. -/
structure Mismatch where
  /-- How it fails to fit. -/
  kind : MismatchKind
  /-- Where it stands, from the outside in. -/
  path : List Step
  deriving DecidableEq, Repr

/-- The outcome of reading data into a record: the record, or every mismatch. -/
abbrev Fit (α : Type) := Except (List Mismatch) α

namespace Fit

/-- A single mismatch at the place itself. -/
def fail {α : Type} (kind : MismatchKind) : Fit α := .error [⟨kind, []⟩]

/-- The outcome as seen from one step further out. -/
def under {α : Type} (step : Step) : Fit α → Fit α
  | .ok result => .ok result
  | .error mismatches => .error (mismatches.map fun m => ⟨m.kind, step :: m.path⟩)

/-- Both outcomes together; the mismatches of the left one come first. -/
def both {α β : Type} : Fit α → Fit β → Fit (α × β)
  | .ok left, .ok right => .ok (left, right)
  | .ok _, .error mismatches => .error mismatches
  | .error mismatches, .ok _ => .error mismatches
  | .error left, .error right => .error (left ++ right)

/-- The outcomes of a list together. -/
def all {α : Type} : List (Fit α) → Fit (List α)
  | [] => .ok []
  | first :: rest =>
      match both first (all rest) with
      | .ok (head, tail) => .ok (head :: tail)
      | .error mismatches => .error mismatches

theorem both_eq_ok_iff {α β : Type} (left : Fit α) (right : Fit β) (result : α × β) :
    both left right = .ok result ↔ left = .ok result.1 ∧ right = .ok result.2 := by
  obtain ⟨a, b⟩ := result
  cases left <;> cases right <;> simp [both]

@[simp]
theorem under_eq_ok_iff {α : Type} (step : Step) (fit : Fit α) (result : α) :
    under step fit = .ok result ↔ fit = .ok result := by
  cases fit <;> simp [under]

end Fit

end Rulebook
