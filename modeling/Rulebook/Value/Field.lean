import Rulebook.Mismatch
import Rulebook.Value.Basic

/-!
# Reading fields

The parts that typed records are read from: texts, words of a vocabulary, and fields looked up by
one name or by either of two.
-/

namespace Rulebook

namespace Text

/-- The words that are read as true, in small letters. -/
def trueWords : List Text := ["1", "on", "t", "true", "y", "yes"]

/-- The words that are read as false, in small letters. -/
def falseWords : List Text := ["0", "off", "f", "false", "n", "no"]

/-- Reads a word for a truth value, in any case of its letters. -/
def fitTruth (word : Text) : Fit Bool :=
  if trueWords.contains word.lower then .ok true
  else if falseWords.contains word.lower then .ok false
  else Fit.fail .truthReading

end Text

namespace Value

/-- Reads a text. -/
def fitText : Value → Fit Text
  | .text content => .ok content
  | _ => Fit.fail .textType

/-- Reads a text or its absence. -/
def fitOptionalText : Value → Fit (Option Text)
  | .null => .ok none
  | .text content => .ok (some content)
  | _ => Fit.fail .textType

/-- The truth value of a whole number: one or zero. -/
def fitUnit (value : Int) : Fit Bool :=
  if value = 0 then .ok false else if value = 1 then .ok true else Fit.fail .truthReading

/-- Reads a truth value from a truth value, a word for one, or the number one or zero. -/
def fitTruth : Value → Fit Bool
  | .bool value => .ok value
  | .text content => content.fitTruth
  | .int value =>
      if Double.holds value then fitUnit value else Fit.fail .truthType
  | .double value =>
      match value.toRat? with
      | some ratio => if ratio.den = 1 then fitUnit ratio.num else Fit.fail .truthType
      | none => Fit.fail .truthType
  | _ => Fit.fail .truthType

/-- Reads a list of texts or its absence. -/
def fitOptionalTexts : Value → Fit (Option (List Text))
  | .null => .ok none
  | .list elements =>
      match Fit.all (elements.mapIdx fun index element =>
          Fit.under (.index index) element.fitText) with
      | .ok texts => .ok (some texts)
      | .error mismatches => .error mismatches
  | _ => Fit.fail .listType

/-- Reads a word of a vocabulary. -/
def fitWord {α : Type} (ofSymbol? : Text → Option α) : Value → Fit α
  | .text content =>
      match ofSymbol? content with
      | some meaning => .ok meaning
      | none => Fit.fail .word
  | _ => Fit.fail .word

end Value

namespace Entries

/-- Reads a field that must be there. -/
def fitRequired {α : Type} (name : Text) (fit : Value → Fit α) (entries : Entries) : Fit α :=
  Fit.under (.name name)
    (match get? name entries with
    | some value => fit value
    | none => Fit.fail .missing)

/-- Reads a field that may be left out. -/
def fitOptional {α : Type} (name : Text) (fit : Value → Fit (Option α)) (entries : Entries) :
    Fit (Option α) :=
  match get? name entries with
  | some value => Fit.under (.name name) (fit value)
  | none => .ok none

/-- The entry under either of two names, the first name first. -/
def either? (first second : Text) (entries : Entries) : Option (Text × Value) :=
  match get? first entries with
  | some value => some (first, value)
  | none => (get? second entries).map fun value => (second, value)

end Entries

end Rulebook
