import Rulebook.Json.Basic
import Rulebook.Vocabulary

/-!
# Rule data

Rules arrive as data of any shape: decoded documents, tuples, and records that have already been
read into one of the typed models.  A typed record is a value too and may stand anywhere inside
other data; its raw form is the record with every field written out.
-/

namespace Rulebook

mutual

/-- Data of any shape. -/
inductive Value where
  | null
  | bool (value : Bool)
  /-- A whole number of any size. -/
  | int (value : Int)
  /-- A binary64 number. -/
  | double (value : Double)
  | text (value : Text)
  | list (elements : List Value)
  /-- A tuple, which is a sequence but no list. -/
  | tuple (elements : List Value)
  /-- A mapping from keys to values, in order of insertion. -/
  | mapping (entries : List (Value × Value))
  | condition (condition : Condition)
  /-- A typed action with its configuration, if it has one. -/
  | action (type : ActionType) (config : Option (List (Value × Value)))
  | payload (condition successActions failureActions : Value)

/-- A typed condition expression. -/
inductive Condition where
  /-- A comparison of a field with a value or with another field. -/
  | simple (field : Text) (operator : ComparisonOperator) (value : Value)
      (valueField : Option Text)
  /-- A combination of conditions. -/
  | group (operator : LogicalOperator) (rules : List Condition)

end

/-- The entries of a mapping, in order of insertion. -/
abbrev Entries := List (Value × Value)

instance : Inhabited Value := ⟨.null⟩

namespace Value

/-- The value is that text. -/
def isText (name : Text) : Value → Bool
  | .text content => content = name
  | _ => false

/-- The value is absent. -/
def isNull : Value → Bool
  | .null => true
  | _ => false

/-- The text, if the value is one. -/
def text? : Value → Option Text
  | .text content => some content
  | _ => none

/-- The elements, if the value is a list. -/
def list? : Value → Option (List Value)
  | .list elements => some elements
  | _ => none

/-- The entries, if the value is a mapping. -/
def mapping? : Value → Option Entries
  | .mapping entries => some entries
  | _ => none

/-- The number that the value counts as: truth values count as one and zero. -/
def number? : Value → Option Number
  | .bool value => some (.whole (if value then 1 else 0))
  | .int value => some (.whole value)
  | .double value => some (.double value)
  | _ => none

/-- An optional text as a value. -/
def ofText? : Option Text → Value
  | some content => .text content
  | none => .null

/-- Whether the value counts as true: zeros, empty texts and empty collections do not. -/
def truthy : Value → Bool
  | .null => false
  | .bool value => value
  | .int value => value ≠ 0
  | .double value => !value.isZero
  | .text content => !content.isEmpty
  | .list elements => !elements.isEmpty
  | .tuple elements => !elements.isEmpty
  | .mapping entries => !entries.isEmpty
  | .condition _ => true
  | .action .. => true
  | .payload .. => true

/-- The name of the kind of data. -/
def kind : Value → Text
  | .null => "NoneType"
  | .bool _ => "bool"
  | .int _ => "int"
  | .double _ => "float"
  | .text _ => "str"
  | .list _ => "list"
  | .tuple _ => "tuple"
  | .mapping _ => "dict"
  | .condition (.simple ..) => "SimpleCondition"
  | .condition (.group ..) => "GroupCondition"
  | .action .. => "Action"
  | .payload .. => "RulePayload"

end Value

namespace Entries

/-- The value under a key, if the mapping has the key. -/
def get? (name : Text) : Entries → Option Value
  | [] => none
  | (key, value) :: rest => if key.isText name then some value else get? name rest

/-- The mapping has the key. -/
def has (name : Text) (entries : Entries) : Bool := (get? name entries).isSome

/-- The value under a key, absent if the mapping lacks the key. -/
def getD (name : Text) (entries : Entries) : Value := (get? name entries).getD .null

/-- Two keys are the same key: equal texts, equal numbers, or both absent. -/
def sameKey (left right : Value) : Bool :=
  match left, right with
  | .null, .null => true
  | .text left, .text right => left = right
  | left, right =>
      match left.number?, right.number? with
      | some left, some right => left.same right
      | _, _ => false

/-- Gives a key its value: in place if the key is there, at the end if it is new. -/
def put (key value : Value) : Entries → Entries
  | [] => [(key, value)]
  | entry :: rest =>
      if sameKey entry.1 key then (entry.1, value) :: rest else entry :: put key value rest

/-- The mapping built from pairs, later ones overwriting earlier ones. -/
def ofPairs (pairs : List (Value × Value)) : Entries :=
  pairs.foldl (fun entries pair => put pair.1 pair.2 entries) []

/-- The entries with keys given as texts. -/
def ofNamed (named : List (Text × Value)) : Entries :=
  named.map fun (name, value) => (.text name, value)

@[simp]
theorem get?_nil (name : Text) : get? name [] = none := rfl

@[simp]
theorem get?_cons (name : Text) (key value : Value) (rest : Entries) :
    get? name ((key, value) :: rest) =
      if key.isText name then some value else get? name rest := rfl

theorem get?_append (name : Text) (left right : Entries) :
    get? name (left ++ right) = (get? name left).or (get? name right) := by
  induction left with
  | nil => rfl
  | cons entry rest ih =>
      obtain ⟨key, value⟩ := entry
      by_cases found : key.isText name
      · simp [found]
      · simp [found, ih]

end Entries

namespace Value

mutual

/-- The value of a document. -/
def ofJson : Json → Value
  | .null => .null
  | .bool value => .bool value
  | .int value => .int value
  | .double value => .double value
  | .text content => .text content
  | .array items => .list (ofItems items)
  | .object members => .mapping (ofMembers members)

/-- The values of the items of an array. -/
def ofItems : List Json → List Value
  | [] => []
  | item :: rest => ofJson item :: ofItems rest

/-- The entries of the members of an object. -/
def ofMembers : List (Text × Json) → Entries
  | [] => []
  | (name, value) :: rest => (.text name, ofJson value) :: ofMembers rest

end

end Value

mutual

/-- The raw form of a value: every typed record becomes the mapping of all its fields, also inside
lists, tuples and mappings. -/
def Value.raw : Value → Value
  | .list elements => .list (rawElements elements)
  | .tuple elements => .tuple (rawElements elements)
  | .mapping entries => .mapping (rawEntries entries)
  | .condition condition => .mapping condition.fields
  | .action type none =>
      .mapping [(.text "type", .text type.symbol), (.text "config", .null)]
  | .action type (some entries) =>
      .mapping [(.text "type", .text type.symbol), (.text "config", .mapping (rawEntries entries))]
  | .payload condition successActions failureActions =>
      .mapping [(.text "conditionExpression", condition.raw),
        (.text "successActions", successActions.raw),
        (.text "failureActions", failureActions.raw)]
  | .null => .null
  | .bool value => .bool value
  | .int value => .int value
  | .double value => .double value
  | .text content => .text content

/-- The raw forms of elements in order. -/
def rawElements : List Value → List Value
  | [] => []
  | element :: rest => element.raw :: rawElements rest

/-- The entries of a mapping with raw values. -/
def rawEntries : List (Value × Value) → List (Value × Value)
  | [] => []
  | (key, value) :: rest => (key, value.raw) :: rawEntries rest

/-- The fields of a typed condition, with raw values. -/
def Condition.fields : Condition → List (Value × Value)
  | .simple field operator value valueField =>
      [(.text "field", .text field), (.text "operator", .text operator.symbol),
        (.text "value", value.raw), (.text "valueField", Value.ofText? valueField)]
  | .group operator rules =>
      [(.text "operator", .text operator.symbol), (.text "rules", .list (rawRules rules))]

/-- The raw forms of typed conditions in order. -/
def rawRules : List Condition → List Value
  | [] => []
  | rule :: rest => .mapping rule.fields :: rawRules rest

end

/-- The raw form of a typed condition: the mapping of its fields. -/
def Condition.raw (condition : Condition) : Value := .mapping condition.fields

@[simp]
theorem Value.raw_condition (condition : Condition) :
    (Value.condition condition).raw = condition.raw := by
  rw [Value.raw, Condition.raw]

theorem rawRules_eq_map (rules : List Condition) : rawRules rules = rules.map (·.raw) := by
  induction rules with
  | nil => rfl
  | cons rule rest ih => simp [rawRules, ih, Condition.raw]

end Rulebook
