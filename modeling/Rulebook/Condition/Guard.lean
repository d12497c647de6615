import Rulebook.Value.Display

/-!
# The safety guard

Expressions beyond absolute ceilings are refused before they are looked at in detail.  The guard
descends every list of rules of a mapping, whatever else the mapping holds, and bounds the depth,
the number of rules of a group, and the length of a field as it is shown.
-/

namespace Rulebook

/-- The greatest depth of a safe expression; the expression itself is at depth zero. -/
def maxSafeDepth : Nat := 10

/-- The greatest number of rules of a group in a safe expression. -/
def maxRulesPerGroup : Nat := 50

/-- The greatest number of code points of a field in a safe expression. -/
def maxFieldLength : Nat := 200

/-- The rules that the guard descends: the list under `rules` of a mapping. -/
def Value.rules? : Value → Option (List Value)
  | .mapping entries => (Entries.getD "rules" entries).list?
  | _ => none

/-- The field of a mapping, if it has one, is short enough. -/
def Value.hasShortField : Value → Bool
  | .mapping entries =>
      match Entries.get? "field" entries with
      | some field => field.display.length ≤ maxFieldLength
      | none => true
  | _ => true

/-- The expression respects the ceilings with that many levels left for itself and below. -/
def Value.fitsLevels : (levels : Nat) → Value → Bool
  | 0, _ => false
  | levels + 1, expression =>
      match expression.rules? with
      | some rules => rules.length ≤ maxRulesPerGroup && rules.all (fitsLevels levels)
      | none => expression.hasShortField

/-- The expression respects every ceiling. -/
def isSafe (expression : Value) : Bool := expression.fitsLevels (maxSafeDepth + 1)

@[simp]
theorem isSafe_null : isSafe .null = true := rfl

end Rulebook
