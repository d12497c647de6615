import Rulebook.Json.Basic

/-!
# JSON tokens

The lexical half of reading a document.  A dialect settles what the grammar leaves to the reader:
whether the three values that are no numbers may be written, whether a lone surrogate may stand,
and how large a number may be.
-/

namespace Rulebook

namespace Json

/-- What a reader accepts beyond the common grammar. -/
structure Dialect where
  /-- The words `NaN`, `Infinity` and `-Infinity` are values. -/
  allowsSpecials : Bool
  /-- Escaped lone surrogates may stand in texts. -/
  allowsSurrogates : Bool
  /-- Every number must lie within the range of binary64. -/
  boundsNumbers : Bool
  /-- The greatest number of digits of a whole number, if there is a limit. -/
  digitLimit : Option Nat
  /-- The greatest number of arrays and objects inside each other, if there is a limit. -/
  depthLimit : Option Nat

namespace Dialect

/-- The dialect of interchange: only what every reader agrees on. -/
def strict : Dialect :=
  { allowsSpecials := false
    allowsSurrogates := false
    boundsNumbers := true
    digitLimit := none
    depthLimit := some 1024 }

/-- The dialect of request documents: special values, lone surrogates and large numbers are read,
but no whole number of more than 4300 digits.  How far arrays and objects can stand inside each
other before an interpreter's stack is exhausted is left out. -/
def lenient : Dialect :=
  { allowsSpecials := true
    allowsSurrogates := true
    boundsNumbers := false
    digitLimit := some 4300
    depthLimit := none }

/-- The lenient dialect without a limit on digits. -/
def unlimited : Dialect := { lenient with digitLimit := none }

end Dialect

/-- A lexical unit of a document. -/
inductive Token where
  | openArray
  | closeArray
  | openObject
  | closeObject
  | comma
  | colon
  /-- A text, which may also be a name. -/
  | text (value : Text)
  /-- A null, a truth value or a number. -/
  | scalar (value : Json)
  /-- A whole number with more digits than the dialect reads. -/
  | overlong
  /-- Anything that is no unit of the dialect. -/
  | junk

/-- The value of four hexadecimal digits. -/
def hexValue? (first second third fourth : CodePoint) : Option Nat := do
  let a ← first.hexDigit?
  let b ← second.hexDigit?
  let c ← third.hexDigit?
  let d ← fourth.hexDigit?
  some (((a * 16 + b) * 16 + c) * 16 + d)

/-- The code point that a short escape stands for. -/
def shortEscape? (point : CodePoint) : Option CodePoint :=
  if point = .ofChar '"' then some point
  else if point = .ofChar '\\' then some point
  else if point = .ofChar '/' then some point
  else if point = .ofChar 'b' then some (.ofNat 8)
  else if point = .ofChar 'f' then some (.ofNat 12)
  else if point = .ofChar 'n' then some (.ofNat 10)
  else if point = .ofChar 'r' then some (.ofNat 13)
  else if point = .ofChar 't' then some (.ofNat 9)
  else none

/-- A code point of a text as it is written. -/
structure Written where
  point : CodePoint
  /-- It is written as an escape with four digits. -/
  escaped : Bool

/-- The text that is written.  Escaped surrogates that follow each other are joined, but not those
that stand in the text themselves. -/
def Written.text : List Written → Text
  | first :: second :: rest =>
      match if first.escaped && second.escaped then Text.joined? first.point second.point
        else none with
      | some point => point :: text rest
      | none => first.point :: text (second :: rest)
  | short => short.map (·.point)

/-- What is written up to the closing quotation mark, with the number of code points it takes, the
mark included. -/
def readText : Text → Option (List Written × Nat)
  | [] => none
  | point :: rest =>
      if point = .ofChar '"' then some ([], 1)
      else if point = .ofChar '\\' then
        match rest with
        | [] => none
        | selector :: rest =>
            if selector = .ofChar 'u' then
              match rest with
              | first :: second :: third :: fourth :: rest => do
                  let value ← hexValue? first second third fourth
                  let (content, width) ← readText rest
                  some (⟨.ofNat value, true⟩ :: content, width + 6)
              | _ => none
            else do
              let value ← shortEscape? selector
              let (content, width) ← readText rest
              some (⟨value, false⟩ :: content, width + 2)
      else if point.val < 0x20 then none
      else do
        let (content, width) ← readText rest
        some (⟨point, false⟩ :: content, width + 1)

/-- The decimal digits at the front of a text. -/
def leadingDigits : Text → List Nat
  | [] => []
  | point :: rest =>
      match point.digit? with
      | some digit => digit :: leadingDigits rest
      | none => []

/-- A number as written. -/
structure Numeral where
  /-- A minus sign stands in front. -/
  negative : Bool
  /-- The digits before the point. -/
  wholeDigits : List Nat
  /-- The digits after the point; empty if there is none. -/
  fractionDigits : List Nat
  /-- The exponent, if one is written. -/
  exponent : Option Int

namespace Numeral

/-- The number is written without a point and without an exponent. -/
def isWhole (numeral : Numeral) : Bool :=
  numeral.fractionDigits.isEmpty && numeral.exponent.isNone

/-- The whole number that the digits before the point stand for. -/
def toInt (numeral : Numeral) : Int :=
  let magnitude : Int := Text.digitsValue numeral.wholeDigits
  if numeral.negative then -magnitude else magnitude

/-- The binary64 value nearest to the number. -/
def toDouble (numeral : Numeral) : Double :=
  Double.ofDecimal numeral.negative
    (Text.digitsValue (numeral.wholeDigits ++ numeral.fractionDigits))
    (numeral.exponent.getD 0 - numeral.fractionDigits.length)

end Numeral

/-- The exponent at the front of a text and its width: a letter, an optional sign, digits. -/
def readExponent? (text : Text) : Option (Int × Nat) :=
  match text with
  | letter :: rest =>
      if letter.lower = .ofChar 'e' then
        match rest with
        | sign :: afterSign =>
            let signed := sign = .ofChar '-' || sign = .ofChar '+'
            let digits := leadingDigits (if signed then afterSign else rest)
            if digits.isEmpty then none
            else
              let value : Int := Text.digitsValue digits
              some (if sign = .ofChar '-' then -value else value,
                1 + (if signed then 1 else 0) + digits.length)
        | [] => none
      else none
  | [] => none

/-- The number at the front of a text and its width.  The digits before the point begin with a
zero only if that is the only one. -/
def readNumeral? (text : Text) : Option (Numeral × Nat) :=
  let negative := text.head? = some (.ofChar '-')
  let signWidth := if negative then 1 else 0
  let unsigned := text.drop signWidth
  match leadingDigits unsigned with
  | [] => none
  | first :: more =>
      let whole := if first = 0 then [0] else first :: more
      let afterWhole := unsigned.drop whole.length
      let fraction :=
        if afterWhole.head? = some (.ofChar '.') then leadingDigits (afterWhole.drop 1) else []
      let fractionWidth := if fraction.isEmpty then 0 else fraction.length + 1
      let numeral exponent : Numeral := ⟨negative, whole, fraction, exponent⟩
      let width := signWidth + whole.length + fractionWidth
      match readExponent? (afterWhole.drop fractionWidth) with
      | some (exponent, exponentWidth) => some (numeral (some exponent), width + exponentWidth)
      | none => some (numeral none, width)

/-- The token of a number in a dialect. -/
def Numeral.token (dialect : Dialect) (numeral : Numeral) : Token :=
  if dialect.boundsNumbers && !numeral.toDouble.isFinite then .junk
  else if numeral.isWhole then
    if dialect.digitLimit.any (· < numeral.wholeDigits.length) then .overlong
    else .scalar (.int numeral.toInt)
  else .scalar (.double numeral.toDouble)

/-- The fixed words of a dialect with their values. -/
def words (dialect : Dialect) : List (Text × Json) :=
  let common : List (Text × Json) :=
    [("null", .null), ("true", .bool true), ("false", .bool false)]
  let specials : List (Text × Json) :=
    [("NaN", .double .nan), ("Infinity", .double (.infinite false)),
      ("-Infinity", .double (.infinite true))]
  if dialect.allowsSpecials then common ++ specials else common

/-- The token at the front of a text, with its width; white space has none. -/
def readToken (dialect : Dialect) (text : Text) : Option Token × Nat :=
  match text with
  | [] => (none, 1)
  | point :: rest =>
      if [' ', '\t', '\n', '\r'].any fun blank => point = .ofChar blank then (none, 1)
      else if point = .ofChar '[' then (some .openArray, 1)
      else if point = .ofChar ']' then (some .closeArray, 1)
      else if point = .ofChar '\x7b' then (some .openObject, 1)
      else if point = .ofChar '\x7d' then (some .closeObject, 1)
      else if point = .ofChar ',' then (some .comma, 1)
      else if point = .ofChar ':' then (some .colon, 1)
      else if point = .ofChar '"' then
        match readText rest with
        | some (content, width) =>
            let text := Written.text content
            if !dialect.allowsSurrogates && text.any (·.isSurrogate) then (some .junk, 1)
            else (some (.text text), width + 1)
        | none => (some .junk, 1)
      else
        match (words dialect).find? fun word => word.1.isPrefixOf text with
        | some (word, value) => (some (.scalar value), word.length)
        | none =>
            match readNumeral? text with
            | some (numeral, width) => (some (numeral.token dialect), width)
            | none => (some .junk, 1)

/-- The tokens of a text in order. -/
def tokens (dialect : Dialect) (text : Text) : List Token :=
  go text 0
where
  /-- Reads on after `skip` code points that belong to the token read last. -/
  go : Text → Nat → List Token
  | [], _ => []
  | _ :: rest, skip + 1 => go rest skip
  | point :: rest, 0 =>
      match readToken dialect (point :: rest) with
      | (some token, width) => token :: go rest (width - 1)
      | (none, width) => go rest (width - 1)

end Json

end Rulebook
