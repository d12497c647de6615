/-!
# Text as a sequence of code points

Rule documents may carry lone surrogates, which `Char` and `String` cannot hold, and every limit
on text counts code points.  Text is therefore a list of code points of the full range, written
in this library as string literals through a coercion.
-/

namespace Rulebook

/-- A code point of the full range, surrogates included. -/
abbrev CodePoint := Fin 0x110000

/-- Text is a sequence of code points; its length counts code points. -/
abbrev Text := List CodePoint

namespace CodePoint

/-- The code point of a character. -/
def ofChar (char : Char) : CodePoint :=
  ⟨char.toNat, by
    have valid := char.valid
    simp only [UInt32.isValidChar, Nat.isValidChar] at valid
    simp only [Char.toNat]
    omega⟩

/-- The code point lies between the two characters, ends included. -/
def isBetween (low high : Char) (point : CodePoint) : Bool :=
  low.toNat ≤ point.val && point.val ≤ high.toNat

/-- A lone half of a surrogate pair. -/
def isSurrogate (point : CodePoint) : Bool :=
  0xD800 ≤ point.val && point.val ≤ 0xDFFF

/-- The value of a decimal digit of the first 128 code points. -/
def digit? (point : CodePoint) : Option Nat :=
  if point.isBetween '0' '9' then some (point.val - '0'.toNat) else none

/-- The value of a hexadecimal digit in either case. -/
def hexDigit? (point : CodePoint) : Option Nat :=
  if point.isBetween '0' '9' then some (point.val - '0'.toNat)
  else if point.isBetween 'a' 'f' then some (point.val - 'a'.toNat + 10)
  else if point.isBetween 'A' 'F' then some (point.val - 'A'.toNat + 10)
  else none

/-- The small letter of a capital letter from `A` to `Z`; any other code point is unchanged. -/
def lower (point : CodePoint) : CodePoint :=
  if point.isBetween 'A' 'Z' then Fin.ofNat 0x110000 (point.val + 32) else point

/-- The code point of a natural number, which is taken within the range. -/
def ofNat (value : Nat) : CodePoint := Fin.ofNat 0x110000 value

end CodePoint

/-- The order of lists by their first difference, a list coming before its extensions. -/
def lexLe {α : Type} (lt : α → α → Bool) : List α → List α → Bool
  | [], _ => true
  | _ :: _, [] => false
  | left :: lefts, right :: rights =>
      if lt left right then true
      else if lt right left then false
      else lexLe lt lefts rights

namespace Text

/-- The order of texts by code points. -/
def le (left right : Text) : Bool := lexLe (fun a b => a.val < b.val) left right

/-- The strict order of texts by code points. -/
def lt (left right : Text) : Bool := !le right left

/-- The code points of a string. -/
def ofString (string : String) : Text := string.toList.map CodePoint.ofChar

instance : Coe String Text := ⟨ofString⟩

/-- The text of a natural number in decimal digits. -/
def ofNat (value : Nat) : Text := (Nat.toDigits 10 value).map CodePoint.ofChar

/-- The text of an integer: decimal digits, with a minus sign before a negative one. -/
def ofInt (value : Int) : Text :=
  if value < 0 then ofString "-" ++ ofNat value.natAbs else ofNat value.natAbs

/-- The texts one after the other with a separator between neighbours. -/
def join (separator : Text) : List Text → Text
  | [] => []
  | [last] => last
  | first :: second :: rest => first ++ separator ++ join separator (second :: rest)

/-- Every capital letter from `A` to `Z` becomes its small letter. -/
def lower (text : Text) : Text := text.map CodePoint.lower

/-- Exactly `width` hexadecimal digits of a number, in small letters. -/
def hex : (width : Nat) → (value : Nat) → Text
  | 0, _ => []
  | width + 1, value =>
      hex width (value / 16) ++ [CodePoint.ofChar (Nat.digitChar (value % 16))]

/-- The value of a sequence of decimal digits, most significant first. -/
def digitsValue (digits : List Nat) : Nat :=
  digits.foldl (fun value digit => value * 10 + digit) 0

/-- The code point that a high surrogate and a low one make up. -/
def joined? (high low : CodePoint) : Option CodePoint :=
  if 0xD800 ≤ high.val && high.val < 0xDC00 && 0xDC00 ≤ low.val && low.val < 0xE000 then
    some (.ofNat (0x10000 + (high.val - 0xD800) * 0x400 + (low.val - 0xDC00)))
  else none

/-- Joins each high surrogate with a low one that follows it. -/
def joinSurrogates : Text → Text
  | high :: low :: rest =>
      match joined? high low with
      | some point => point :: joinSurrogates rest
      | none => high :: joinSurrogates (low :: rest)
  | short => short

/-- The string of a text, each lone surrogate becoming the replacement character. -/
def toString (text : Text) : String :=
  String.ofList (text.map fun point =>
    if point.isSurrogate then '\uFFFD' else Char.ofNat point.val)

@[simp]
theorem join_nil (separator : Text) : join separator [] = [] := rfl

@[simp]
theorem join_singleton (separator text : Text) : join separator [text] = text := rfl

theorem join_cons_cons (separator first second : Text) (rest : List Text) :
    join separator (first :: second :: rest) =
      first ++ separator ++ join separator (second :: rest) := rfl

@[simp]
theorem length_hex (width value : Nat) : (hex width value).length = width := by
  induction width generalizing value with
  | zero => rfl
  | succ width ih => simp [hex, ih]

end Text

end Rulebook
