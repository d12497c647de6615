import Rulebook.Json.Basic
import Rulebook.Number.Shortest

/-!
# Writing JSON documents

Documents are written on one line.  A style settles the separators and whether only the first 128
code points may appear, all others being escaped as code units of sixteen bits.
-/

namespace Rulebook

namespace Json

/-- How a document is laid out. -/
structure Style where
  /-- Between two items or two members. -/
  comma : Text
  /-- Between a name and its value. -/
  colon : Text
  /-- Code points beyond the first 128 are escaped. -/
  escapesWide : Bool

namespace Style

/-- No blanks, and every code point as itself: the style of answers. -/
def compact : Style := ⟨",", ":", false⟩

/-- A blank after each separator, and wide code points escaped: the style of sent documents. -/
def spaced : Style := ⟨", ", ": ", true⟩

/-- No blanks, and wide code points escaped. -/
def ascii : Style := ⟨",", ":", true⟩

end Style

/-- The escape of one code unit of sixteen bits. -/
def escapeUnit (value : Nat) : Text := Text.ofString "\\u" ++ Text.hex 4 value

/-- The written form of one code point inside quotation marks. -/
def writePoint (style : Style) (point : CodePoint) : Text :=
  let value := point.val
  if point = .ofChar '"' then "\\\""
  else if point = .ofChar '\\' then "\\\\"
  else if value = 8 then "\\b"
  else if value = 9 then "\\t"
  else if value = 10 then "\\n"
  else if value = 12 then "\\f"
  else if value = 13 then "\\r"
  else if value < 0x20 then escapeUnit value
  else if value < 0x7F || !style.escapesWide then [point]
  else if value < 0x10000 then escapeUnit value
  else
    escapeUnit (0xD800 + (value - 0x10000) / 0x400) ++
      escapeUnit (0xDC00 + (value - 0x10000) % 0x400)

/-- A text between quotation marks. -/
def writeText (style : Style) (text : Text) : Text :=
  Text.ofString "\"" ++ text.flatMap (writePoint style) ++ Text.ofString "\""

/-- A binary64 value; the three that are no numbers have names. -/
def writeDouble : Double → Text
  | .nan => "NaN"
  | .infinite negative => if negative then "-Infinity" else "Infinity"
  | finite => finite.toText

mutual

/-- The written form of a document. -/
def write (style : Style) : Json → Text
  | .null => "null"
  | .bool value => if value then "true" else "false"
  | .int value => Text.ofInt value
  | .double value => writeDouble value
  | .text value => writeText style value
  | .array items =>
      Text.ofString "[" ++ Text.join style.comma (writeItems style items) ++ Text.ofString "]"
  | .object members =>
      Text.ofString "\x7b" ++ Text.join style.comma (writeMembers style members) ++
        Text.ofString "\x7d"

/-- The written forms of the items of an array. -/
def writeItems (style : Style) : List Json → List Text
  | [] => []
  | item :: rest => write style item :: writeItems style rest

/-- The written forms of the members of an object. -/
def writeMembers (style : Style) : List (Text × Json) → List Text
  | [] => []
  | (name, value) :: rest =>
      (writeText style name ++ style.colon ++ write style value) :: writeMembers style rest

end

mutual

/-- Every number in the document is finite. -/
def isFinite : Json → Bool
  | .double value => value.isFinite
  | .array items => areFinite items
  | .object members => membersAreFinite members
  | _ => true

/-- Every number in the documents is finite. -/
def areFinite : List Json → Bool
  | [] => true
  | item :: rest => isFinite item && areFinite rest

/-- Every number in the members' documents is finite. -/
def membersAreFinite : List (Text × Json) → Bool
  | [] => true
  | (_, value) :: rest => isFinite value && membersAreFinite rest

end

example :
    write .spaced (.record [("a", .array [.int 1, .null]), ("é", .bool true)]) =
      Text.ofString "\x7b\"a\": [1, null], \"\\u00e9\": true\x7d" := by
  decide +kernel

end Json

end Rulebook
