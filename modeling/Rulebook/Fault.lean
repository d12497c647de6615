import Rulebook.Mismatch
import Rulebook.Text.Utf8

/-!
# Faults

A validation that cannot be carried through ends with a fault, which is no verdict on the data.
Each fault is a cause; its class and its message are derived from it.
-/

namespace Rulebook

/-- The classes of fault that a wording may signal. -/
inductive FaultClass where
  /-- A value is out of its domain. -/
  | value
  | key
  /-- Something failed while running. -/
  | runtime
  | type
  deriving DecidableEq, Repr

/-- The name of a class of fault. -/
def FaultClass.name : FaultClass → Text
  | .value => "ValueError"
  | .key => "KeyError"
  | .runtime => "RuntimeError"
  | .type => "TypeError"

/-- Why a validation could not be carried through. -/
inductive Fault where
  /-- A wording, or a component put in place of another, signalled a failure of its own. -/
  | signalled (cls : FaultClass) (message : Option Text)
  /-- A depth of this kind cannot be compared with a limit of that kind. -/
  | incomparable (depthKind limitKind : Text)
  /-- A whole number lies beyond the range of binary64. -/
  | integerTooLarge
  /-- A message names a parameter that is not given. -/
  | missingParameter (name : Text)
  /-- A word is not in the named vocabulary. -/
  | unknownWord (word : Text) (vocabulary : Text)
  | objectExpected
  /-- A counter was asked to fall. -/
  | negativeIncrement
  /-- An answer holds code points that have no byte form. -/
  | unencodable (place : Text.Unencodable)
  /-- An answer holds a number that is not finite. -/
  | notFinite
  /-- A declared length is written with digits that are not decimal. -/
  | notDecimal (written : Text)
  /-- A declared length has more digits than are read. -/
  | tooManyDigits (count : Nat)
  | settings (mismatches : List Mismatch)
  deriving DecidableEq

namespace Fault

/-- The name of the fault's class. -/
def className : Fault → Text
  | .signalled cls _ => cls.name
  | .incomparable .. => FaultClass.type.name
  | .integerTooLarge => "OverflowError"
  | .missingParameter _ => FaultClass.key.name
  | .unknownWord .. => FaultClass.value.name
  | .objectExpected => FaultClass.type.name
  | .negativeIncrement => FaultClass.value.name
  | .unencodable _ => "UnicodeEncodeError"
  | .notFinite => FaultClass.value.name
  | .notDecimal _ => FaultClass.value.name
  | .tooManyDigits _ => FaultClass.value.name
  | .settings _ => "ValidationError"

/-- The message of the fault; it may be empty. -/
def message : Fault → Text
  | .signalled _ none => []
  | .signalled .key (some text) => text.quoted
  | .signalled _ (some text) => text
  | .incomparable depthKind limitKind =>
      Text.ofString "'>' not supported between instances of '" ++ depthKind ++
        Text.ofString "' and '" ++ limitKind ++ Text.ofString "'"
  | .integerTooLarge => "int too large to convert to float"
  | .missingParameter name => name.quoted
  | .unknownWord word vocabulary =>
      word.quoted ++ Text.ofString " is not a valid " ++ vocabulary
  | .objectExpected => "expected an object"
  | .negativeIncrement => "Counters can only be incremented by non-negative amounts."
  | .unencodable place => place.message
  | .notFinite => "Out of range float values are not JSON compliant"
  | .notDecimal written =>
      Text.ofString "invalid literal for int() with base 10: " ++ written.quoted.take 200
  | .tooManyDigits count =>
      Text.ofString "Exceeds the limit (4300 digits) for integer string conversion: value has " ++
        Text.ofNat count ++
        Text.ofString " digits; use sys.set_int_max_str_digits() to increase the limit"
  | .settings mismatches =>
      Text.ofNat mismatches.length ++ Text.ofString " validation errors for Settings"

/-- What is reported of the fault: its message, or the name of its class if there is none. -/
def detail (fault : Fault) : Text :=
  if fault.message.isEmpty then fault.className else fault.message

@[simp]
theorem message_signalled_none (cls : FaultClass) : (signalled cls none).message = [] := by
  cases cls <;> rfl

theorem className_ne_nil (fault : Fault) : fault.className ≠ [] := by
  cases fault with
  | signalled cls _ => cases cls <;> exact List.cons_ne_nil _ _
  | _ => exact List.cons_ne_nil _ _

theorem detail_ne_nil (fault : Fault) : fault.detail ≠ [] := by
  cases found : fault.message with
  | nil => simpa [detail, found] using fault.className_ne_nil
  | cons first rest => simp [detail, found]

end Fault

end Rulebook
