import Rulebook.Value.Field

/-!
# Settings

The settings of the service are read from environment variables, whose names count in any case.
A variable that is not set leaves its setting at the default, and one that cannot be read is a
mismatch.
-/

namespace Rulebook

namespace Text

/-- White space in the wide sense, as trimmed from written numbers. -/
def isBlank (point : CodePoint) : Bool :=
  let value := point.val
  (9 ≤ value && value ≤ 13) || value = 0x20 || value = 0x85 || value = 0xA0 ||
    value = 0x1680 || (0x2000 ≤ value && value ≤ 0x200A) || value = 0x2028 ||
    value = 0x2029 || value = 0x202F || value = 0x205F || value = 0x3000

/-- The text without white space at its two ends. -/
def trim (text : Text) : Text :=
  ((text.dropWhile isBlank).reverse.dropWhile isBlank).reverse

/-- The text without one leading plus sign; a minus sign may not follow it. -/
def withoutPlus? (text : Text) : Option Text :=
  match text with
  | sign :: rest =>
      if sign = .ofChar '+' then
        if rest.head? = some (.ofChar '-') then none else some rest
      else some text
  | [] => some text

/-- The written number behind its leading zeros and underscores, of which `last` is the one read
before.  Without digits behind them the last of them stays, and also before a point. -/
def afterZeros? (last : CodePoint) : Text → Option Text
  | [] => some [last]
  | point :: rest =>
      if point = .ofChar '0' || point = .ofChar '_' then afterZeros? point rest
      else if point.isBetween '1' '9' || point = .ofChar '-' then some (point :: rest)
      else if point = .ofChar '.' then some (last :: point :: rest)
      else none

/-- The written magnitude without superfluous leading zeros; it must begin with a digit.  A minus
sign may follow the zeros. -/
def withoutZeros? : Text → Option Text
  | [] => none
  | point :: rest =>
      if point = .ofChar '0' then afterZeros? point rest
      else if point.isBetween '1' '9' then some (point :: rest)
      else none

/-- The written number without superfluous leading zeros, also behind a minus sign. -/
def withoutLeadingZeros? : Text → Option Text
  | [] => none
  | sign :: rest =>
      if sign = .ofChar '-' then (withoutZeros? rest).map (sign :: ·)
      else withoutZeros? (sign :: rest)

/-- The written number without a fraction of zeros, of which there must be at least one. -/
def withoutZeroFraction (text : Text) : Text :=
  let whole := text.takeWhile (· ≠ .ofChar '.')
  let fraction := text.drop (whole.length + 1)
  if !fraction.isEmpty && fraction.all (· = .ofChar '0') then whole else text

/-- The written number without underscores, none of which may be doubled or stand at an end. -/
def withoutUnderscores (text : Text) : Text :=
  let isUnderscore (point : CodePoint) : Bool := point = .ofChar '_'
  let doubled := (text.zip (text.drop 1)).any fun pair =>
    isUnderscore pair.1 && isUnderscore pair.2
  let atEnd := text.head?.any isUnderscore || text.getLast?.any isUnderscore
  if doubled || atEnd then text else text.filter (!isUnderscore ·)

/-- The magnitude written with digits alone, the first of which is a zero only if it is the only
one. -/
def plainNat? (text : Text) : Option Nat := do
  let digits ← text.mapM (·.digit?)
  match digits with
  | [] => none
  | 0 :: _ :: _ => none
  | _ => some (digitsValue digits)

/-- The whole number written with an optional minus sign and digits. -/
def plainInt? (text : Text) : Option Int :=
  match text with
  | sign :: rest =>
      if sign = .ofChar '-' then (plainNat? rest).map fun value => -(value : Int)
      else (plainNat? text).map fun value => (value : Int)
  | [] => none

/-- The greatest length of a whole number that is read, its sign included. -/
def maxNumeralLength : Nat := 4300

/-- The number begins with more digits than are read.  One that begins with a zero has no more
digits. -/
def isOverlong (numeral : Text) : Bool :=
  let signWidth := if numeral.head? = some (.ofChar '-') then 1 else 0
  let digits := (numeral.drop signWidth).takeWhile (·.isBetween '0' '9')
  digits.head? ≠ some (.ofChar '0') && maxNumeralLength < signWidth + digits.length

/-- The written number without all that may be written around its sign and digits: white space at
the ends, a plus sign, leading zeros, a fraction of zeros, and underscores between digits. -/
def numeral? (text : Text) : Option Text := do
  let unsigned ← text.trim.withoutPlus?
  let stripped ← unsigned.withoutLeadingZeros?
  some (withoutUnderscores (withoutZeroFraction stripped))

/-- Reads a whole number. -/
def fitInt (text : Text) : Fit Int :=
  match text.numeral? with
  | none => Fit.fail .integerReading
  | some numeral =>
      if numeral.isOverlong then Fit.fail .integerSize
      else
        match numeral.plainInt? with
        | some value => .ok value
        | none => Fit.fail .integerReading

example : fitInt " -00_7.0 " = .ok (-7) := rfl

end Text

/-- The settings of the service. -/
structure Settings where
  environment : Text
  /-- The port that the service listens on. -/
  port : Int
  /-- Log entries are documents. -/
  logsDocuments : Bool
  /-- The greatest number of bytes of a request body. -/
  maxPayloadSize : Int
  /-- The deepest level of a condition that is validated. -/
  maxDepth : Int
  /-- The safety guard runs before validation. -/
  enforcesGuard : Bool
  deriving DecidableEq

namespace Settings

/-- The settings if nothing is set. -/
def default : Settings :=
  { environment := "dev"
    port := 8080
    logsDocuments := true
    maxPayloadSize := 65536
    maxDepth := 5
    enforcesGuard := true }

/-- The value of a variable, the last one if several names differ in case only. -/
def lookup (name : String) (assigned : List (Text × Text)) : Option Text :=
  (assigned.reverse.find? fun entry => entry.1.lower = Text.lower name).map (·.2)

/-- Reads the variable of that name, leaving the default if it is not set. -/
def fit {α : Type} (name : String) (read : Text → Fit α) (otherwise : α)
    (assigned : List (Text × Text)) : Fit α :=
  match lookup name assigned with
  | some value => Fit.under (.name name) (read value)
  | none => .ok otherwise

/-- Reads the settings from environment variables. -/
def ofAssigned (assigned : List (Text × Text)) : Fit Settings :=
  let fields :=
    Fit.both (fit "ENV" .ok default.environment assigned)
      (Fit.both (fit "SERVICE_PORT" Text.fitInt default.port assigned)
        (Fit.both (fit "LOG_JSON" Text.fitTruth default.logsDocuments assigned)
          (Fit.both (fit "MAX_PAYLOAD_SIZE" Text.fitInt default.maxPayloadSize assigned)
            (Fit.both (fit "CONDITION_MAX_DEPTH" Text.fitInt default.maxDepth assigned)
              (fit "ENFORCE_SAFETY_GUARD" Text.fitTruth default.enforcesGuard assigned)))))
  match fields with
  | .ok (environment, port, logsDocuments, maxPayloadSize, maxDepth, enforcesGuard) =>
      .ok ⟨environment, port, logsDocuments, maxPayloadSize, maxDepth, enforcesGuard⟩
  | .error mismatches => .error mismatches

@[simp]
theorem ofAssigned_nil : ofAssigned [] = .ok default := rfl

end Settings

end Rulebook
