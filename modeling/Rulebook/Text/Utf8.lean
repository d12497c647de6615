import Rulebook.Text.Quoted

/-!
# The byte form of text

Text travels as bytes in the eight-bit Unicode form.  Encoding refuses a lone surrogate and
decoding refuses every byte sequence that no text without surrogates produces; both halves of
this are partial functions, because neither kind of fault may be repaired silently.
-/

namespace Rulebook

namespace CodePoint

/-- The bytes of one code point, surrogates included. -/
def utf8 (point : CodePoint) : List UInt8 :=
  let value := point.val
  if value < 0x80 then [value.toUInt8]
  else if value < 0x800 then [(0xC0 + value / 0x40).toUInt8, (0x80 + value % 0x40).toUInt8]
  else if value < 0x10000 then
    [(0xE0 + value / 0x1000).toUInt8, (0x80 + value / 0x40 % 0x40).toUInt8,
      (0x80 + value % 0x40).toUInt8]
  else
    [(0xF0 + value / 0x40000).toUInt8, (0x80 + value / 0x1000 % 0x40).toUInt8,
      (0x80 + value / 0x40 % 0x40).toUInt8, (0x80 + value % 0x40).toUInt8]

end CodePoint

namespace Text

/-- The bytes of a text, surrogates included. -/
def utf8 (text : Text) : List UInt8 := text.flatMap CodePoint.utf8

/-- A maximal run of code points that have no byte form. -/
structure Unencodable where
  /-- Position of the first code point of the run. -/
  start : Nat
  /-- The code points of the run; at least one. -/
  run : Text
  deriving DecidableEq

/-- The first maximal run of lone surrogates. -/
def firstUnencodable? (text : Text) : Option Unencodable :=
  match text.dropWhile (!·.isSurrogate) with
  | [] => none
  | found@(_ :: _) =>
      some ⟨(text.takeWhile (!·.isSurrogate)).length, found.takeWhile (·.isSurrogate)⟩

/-- What is said of a run that has no byte form. -/
def Unencodable.message (fault : Unencodable) : Text :=
  match fault.run with
  | [point] =>
      ofString "'utf-8' codec can't encode character '\\u" ++ hex 4 point.val ++
        ofString "' in position " ++ ofNat fault.start ++ ofString ": surrogates not allowed"
  | run =>
      ofString "'utf-8' codec can't encode characters in position " ++ ofNat fault.start ++
        ofString "-" ++ ofNat (fault.start + run.length - 1) ++
        ofString ": surrogates not allowed"

/-- The value of a continuation byte. -/
def continuation? (byte : UInt8) : Option Nat :=
  if 0x80 ≤ byte && byte < 0xC0 then some (byte.toNat - 0x80) else none

/-- The code point at the front of a byte sequence and the number of bytes it takes. -/
def decodePoint? : List UInt8 → Option (CodePoint × Nat)
  | [] => none
  | lead :: rest =>
      if lead < 0x80 then some (.ofNat lead.toNat, 1)
      else if 0xC2 ≤ lead && lead < 0xE0 then
        match rest with
        | second :: _ => do
            let low ← continuation? second
            some (.ofNat ((lead.toNat - 0xC0) * 0x40 + low), 2)
        | _ => none
      else if 0xE0 ≤ lead && lead < 0xF0 then
        match rest with
        | second :: third :: _ => do
            let high ← continuation? second
            let low ← continuation? third
            let value := ((lead.toNat - 0xE0) * 0x40 + high) * 0x40 + low
            if value < 0x800 then none else some (.ofNat value, 3)
        | _ => none
      else if 0xF0 ≤ lead && lead < 0xF5 then
        match rest with
        | second :: third :: fourth :: _ => do
            let high ← continuation? second
            let middle ← continuation? third
            let low ← continuation? fourth
            let value := (((lead.toNat - 0xF0) * 0x40 + high) * 0x40 + middle) * 0x40 + low
            if value < 0x10000 || 0x10FFFF < value then none else some (.ofNat value, 4)
        | _ => none
      else none

/-- The text of a byte sequence in which surrogates, if any, are allowed to stand. -/
def ofUtf8? (bytes : List UInt8) : Option Text :=
  go bytes 0
where
  /-- Reads on after `skip` bytes that belong to the code point read last. -/
  go : List UInt8 → Nat → Option Text
  | [], 0 => some []
  | [], _ + 1 => none
  | _ :: rest, skip + 1 => go rest skip
  | lead :: rest, 0 => do
      let (point, width) ← decodePoint? (lead :: rest)
      let text ← go rest (width - 1)
      some (point :: text)

/-- The text of a byte sequence, which must hold no surrogate. -/
def ofStrictUtf8? (bytes : List UInt8) : Option Text := do
  let text ← ofUtf8? bytes
  if text.any (·.isSurrogate) then none else some text

end Text

end Rulebook
