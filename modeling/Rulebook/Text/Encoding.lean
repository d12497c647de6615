import Rulebook.Text.Utf8

/-!
# Recognizing the encoding of a document

A document that arrives as bytes may be encoded in units of eight, sixteen or thirty-two bits.  A
byte order mark settles which; without one, the positions of the zero bytes among the first four
do, because a document begins with two code points of the first 128.
-/

namespace Rulebook

/-- How a text is laid out in bytes. -/
inductive Encoding where
  /-- Units of eight bits. -/
  | units8
  /-- Units of sixteen bits, the high byte first or last. -/
  | units16 (highFirst : Bool)
  /-- Units of thirty-two bits, the high byte first or last. -/
  | units32 (highFirst : Bool)
  deriving DecidableEq, Repr

namespace Encoding

/-- The encoding that a byte order mark announces, with the length of the mark. -/
def ofMark? (bytes : List UInt8) : Option (Encoding × Nat) :=
  if [0x00, 0x00, 0xFE, 0xFF].isPrefixOf bytes then some (.units32 true, 4)
  else if [0xFF, 0xFE, 0x00, 0x00].isPrefixOf bytes then some (.units32 false, 4)
  else if [0xFE, 0xFF].isPrefixOf bytes then some (.units16 true, 2)
  else if [0xFF, 0xFE].isPrefixOf bytes then some (.units16 false, 2)
  else if [0xEF, 0xBB, 0xBF].isPrefixOf bytes then some (.units8, 3)
  else none

/-- The encoding that the positions of zero bytes suggest. -/
def ofZeros : List UInt8 → Encoding
  | first :: second :: third :: fourth :: _ =>
      if first = 0 then (if second = 0 then .units32 true else .units16 true)
      else if second = 0 then
        (if third = 0 && fourth = 0 then .units32 false else .units16 false)
      else .units8
  | [first, second] =>
      if first = 0 then .units16 true else if second = 0 then .units16 false else .units8
  | _ => .units8

/-- The code units of sixteen bits of a byte sequence. -/
def pairs? (highFirst : Bool) : List UInt8 → Option Text
  | [] => some []
  | [_] => none
  | first :: second :: rest => do
      let (high, low) := if highFirst then (first, second) else (second, first)
      let units ← pairs? highFirst rest
      some (.ofNat (high.toNat * 0x100 + low.toNat) :: units)

/-- The code points of a byte sequence in units of thirty-two bits. -/
def quadruples? (highFirst : Bool) : List UInt8 → Option Text
  | [] => some []
  | first :: second :: third :: fourth :: rest => do
      let bytes := [first, second, third, fourth]
      let ordered := if highFirst then bytes else bytes.reverse
      let value := ordered.foldl (fun value byte => value * 0x100 + byte.toNat) 0
      let points ← quadruples? highFirst rest
      if value < 0x110000 then some (.ofNat value :: points) else none
  | _ => none

/-- The text of a byte sequence in an encoding. -/
def decode? (bytes : List UInt8) : Encoding → Option Text
  | .units8 => Text.ofUtf8? bytes
  | .units16 highFirst => (pairs? highFirst bytes).map Text.joinSurrogates
  | .units32 highFirst => quadruples? highFirst bytes

end Encoding

/-- The text of a document that arrives as bytes. -/
def Text.ofBytes? (bytes : List UInt8) : Option Text :=
  match Encoding.ofMark? bytes with
  | some (encoding, width) => encoding.decode? (bytes.drop width)
  | none => (Encoding.ofZeros bytes).decode? bytes

end Rulebook
