import Rulebook.Assoc
import Rulebook.Number.Double
import Rulebook.Text.Basic

/-!
# JSON documents

A document keeps whole numbers apart from binary64 values and its members in the order in which
they were written.  A name that is written twice keeps its first place and takes its last value.
-/

namespace Rulebook

/-- A JSON document. -/
inductive Json where
  | null
  | bool (value : Bool)
  /-- A whole number of any size. -/
  | int (value : Int)
  /-- A number with a fraction or an exponent. -/
  | double (value : Double)
  | text (value : Text)
  | array (items : List Json)
  /-- Named documents in the order of writing. -/
  | object (members : List (Text × Json))
  deriving Inhabited

namespace Json

/-- The member of that name, if the document is an object that has one. -/
def member? (name : Text) : Json → Option Json
  | .object members => Assoc.get? name members
  | _ => none

/-- A text given as a string. -/
def string (value : String) : Json := .text (Text.ofString value)

/-- A natural number. -/
def nat (value : Nat) : Json := .int value

/-- An array of texts. -/
def texts (values : List Text) : Json := .array (values.map .text)

/-- An object whose names are given as strings. -/
def record (members : List (String × Json)) : Json :=
  .object (members.map fun (name, value) => (Text.ofString name, value))

end Json

end Rulebook
