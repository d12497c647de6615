import Rulebook.Json.Token

/-!
# Reading JSON documents

A document is read by running its tokens through a machine that remembers the arrays and objects
still open.  Each token is looked at once, so reading always ends, and the first token that does
not fit decides the failure.
-/

namespace Rulebook

namespace Json

/-- Why a text is no document. -/
inductive ReadFault where
  /-- The text does not follow the grammar of the dialect. -/
  | malformed
  /-- A whole number has more digits than the dialect reads. -/
  | overlongNumber
  deriving DecidableEq

/-- An array or object that is still open around the value being read. -/
inductive Frame where
  /-- An array with the items read so far, last first. -/
  | array (items : List Json)
  /-- An object with the members read so far and the name whose value is being read. -/
  | member (members : List (Text × Json)) (name : Text)

/-- What the reading machine expects next. -/
inductive Reading where
  /-- A value. -/
  | value (context : List Frame)
  /-- A value, or the end of the array that has just been opened. -/
  | firstItem (context : List Frame)
  /-- A comma or the end of the array. -/
  | afterItem (items : List Json) (context : List Frame)
  /-- A name, or the end of the object that has just been opened. -/
  | firstName (context : List Frame)
  /-- A name. -/
  | name (members : List (Text × Json)) (context : List Frame)
  /-- The colon after a name. -/
  | colon (members : List (Text × Json)) (name : Text) (context : List Frame)
  /-- A comma or the end of the object. -/
  | afterMember (members : List (Text × Json)) (context : List Frame)
  /-- Nothing more. -/
  | done (document : Json)

namespace Reading

/-- Hands a complete value to the array or object around it. -/
def complete (value : Json) : List Frame → Reading
  | [] => .done value
  | .array items :: context => .afterItem (value :: items) context
  | .member members key :: context => .afterMember (Assoc.put key value members) context

/-- Takes a token where a value is expected. -/
def takeValue (dialect : Dialect) (context : List Frame) : Token → Except ReadFault Reading
  | .scalar scalar => .ok (complete scalar context)
  | .text content => .ok (complete (.text content) context)
  | .openArray =>
      if dialect.depthLimit.any (· ≤ context.length) then .error .malformed
      else .ok (.firstItem context)
  | .openObject =>
      if dialect.depthLimit.any (· ≤ context.length) then .error .malformed
      else .ok (.firstName context)
  | _ => .error .malformed

/-- Takes the next token. -/
def take (dialect : Dialect) (reading : Reading) (token : Token) : Except ReadFault Reading :=
  match reading, token with
  | .value _, .overlong => .error .overlongNumber
  | .firstItem _, .overlong => .error .overlongNumber
  | .value context, token => takeValue dialect context token
  | .firstItem context, .closeArray => .ok (complete (.array []) context)
  | .firstItem context, token => takeValue dialect (.array [] :: context) token
  | .afterItem items context, .comma => .ok (.value (.array items :: context))
  | .afterItem items context, .closeArray => .ok (complete (.array items.reverse) context)
  | .firstName context, .closeObject => .ok (complete (.object []) context)
  | .firstName context, .text key => .ok (.colon [] key context)
  | .name members context, .text key => .ok (.colon members key context)
  | .colon members key context, .colon => .ok (.value (.member members key :: context))
  | .afterMember members context, .comma => .ok (.name members context)
  | .afterMember members context, .closeObject => .ok (complete (.object members) context)
  | _, _ => .error .malformed

end Reading

/-- The document that a text holds. -/
def read (dialect : Dialect) (text : Text) : Except ReadFault Json := do
  match ← (tokens dialect text).foldlM (Reading.take dialect) (.value []) with
  | .done document => .ok document
  | _ => .error .malformed

end Json

end Rulebook
