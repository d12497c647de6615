import Rulebook.Assoc
import Rulebook.Text.Basic

/-!
# The vocabulary of rules

The closed sets of words that rules are made of: operators that combine conditions, operators
that compare a field, and types of actions with the configuration keys each of them takes.  What is
said of the members of a set stands in a table of its own, and what is advertised is read off the
tables in their order.
-/

namespace Rulebook

/-- In a list without a repeated word, the first member with a word is the only one. -/
theorem find?_symbol_of_mem {α : Type} {symbol : α → Text} {listed : List α}
    (distinct : (listed.map symbol).Nodup) {known : α} (member : known ∈ listed) :
    listed.find? (symbol · = symbol known) = some known := by
  induction listed with
  | nil => cases member
  | cons first rest induction =>
      rw [List.map_cons, List.nodup_cons] at distinct
      rcases List.mem_cons.mp member with rfl | later
      · simp
      · have apart : symbol first ≠ symbol known := by
          intro same
          exact distinct.1 (same ▸ List.mem_map_of_mem later)
        rw [List.find?_cons_of_neg (by simpa using apart)]
        exact induction distinct.2 later

/-- A word stands for a member of a set exactly if it is the member's own, provided that all are
listed and no two have the same word. -/
theorem find?_symbol_eq_some_iff {α : Type} {all : List α} {symbol : α → Text}
    (mem_all : ∀ known, known ∈ all) (distinct : (all.map symbol).Nodup) (word : Text)
    (known : α) : all.find? (symbol · = word) = some known ↔ symbol known = word := by
  constructor
  · intro found
    simpa using List.find?_some found
  · rintro rfl
    exact find?_symbol_of_mem distinct (mem_all known)

/-- A choice offered to people: the word written in rules and its label. -/
structure Choice where
  /-- The word written in rules. -/
  value : Text
  label : Text
  deriving DecidableEq

/-- Operators that combine the children of a group. -/
inductive LogicalOperator where
  /-- Every child holds. -/
  | and
  /-- Some child holds. -/
  | or
  /-- No child holds. -/
  | not
  deriving DecidableEq, Repr

namespace LogicalOperator

/-- Every logical operator, in the order of advertising. -/
def all : List LogicalOperator := [.and, .or, .not]

/-- The word written in rules. -/
def symbol : LogicalOperator → Text
  | .and => "AND"
  | .or => "OR"
  | .not => "NOT"

/-- The labels shown to people. -/
def labels : Assoc LogicalOperator Text :=
  [(.and, "all of"), (.or, "any of"), (.not, "none of")]

/-- The words written in rules, in order. -/
def symbols : List Text := all.map symbol

/-- The operator written as a word. -/
def ofSymbol? (word : Text) : Option LogicalOperator := all.find? (·.symbol = word)

theorem mem_all (operator : LogicalOperator) : operator ∈ all := by
  cases operator <;> simp [all]

theorem ofSymbol?_eq_some_iff (word : Text) (operator : LogicalOperator) :
    ofSymbol? word = some operator ↔ operator.symbol = word :=
  find?_symbol_eq_some_iff mem_all (by decide) word operator

end LogicalOperator

/-- Operators that compare a field with a value or with another field. -/
inductive ComparisonOperator where
  /-- Equal after conversion. -/
  | equal
  /-- Equal without conversion. -/
  | strictEqual
  | notEqual
  | greater
  | greaterOrEqual
  | less
  | lessOrEqual
  | oneOf
  | noneOf
  | contains
  | containsNot
  | startsWith
  | endsWith
  | matchesPattern
  | isEmpty
  | isNotEmpty
  deriving DecidableEq, Repr

namespace ComparisonOperator

/-- Every comparison operator, in the order of advertising. -/
def all : List ComparisonOperator :=
  [.equal, .strictEqual, .notEqual, .greater, .greaterOrEqual, .less, .lessOrEqual, .oneOf,
    .noneOf, .contains, .containsNot, .startsWith, .endsWith, .matchesPattern, .isEmpty,
    .isNotEmpty]

/-- The word written in rules. -/
def symbol : ComparisonOperator → Text
  | .equal => "="
  | .strictEqual => "=="
  | .notEqual => "!="
  | .greater => ">"
  | .greaterOrEqual => ">="
  | .less => "<"
  | .lessOrEqual => "<="
  | .oneOf => "IN"
  | .noneOf => "NOT_IN"
  | .contains => "CONTAINS"
  | .containsNot => "NOT_CONTAINS"
  | .startsWith => "STARTS_WITH"
  | .endsWith => "ENDS_WITH"
  | .matchesPattern => "MATCHES"
  | .isEmpty => "IS_EMPTY"
  | .isNotEmpty => "IS_NOT_EMPTY"

/-- The labels shown to people. -/
def labels : Assoc ComparisonOperator Text :=
  [(.equal, "equals"), (.strictEqual, "equals (strict)"), (.notEqual, "not equals"),
    (.greater, "greater than"), (.greaterOrEqual, "greater than or equal"), (.less, "less than"),
    (.lessOrEqual, "less than or equal"), (.oneOf, "in"), (.noneOf, "not in"),
    (.contains, "contains"), (.containsNot, "does not contain"), (.startsWith, "starts with"),
    (.endsWith, "ends with"), (.matchesPattern, "matches pattern"), (.isEmpty, "is empty"),
    (.isNotEmpty, "is not empty")]

/-- The operator compares the field with nothing. -/
def needsNoValue : ComparisonOperator → Bool
  | .isEmpty | .isNotEmpty => true
  | _ => false

/-- The words written in rules, in order. -/
def symbols : List Text := all.map symbol

/-- The operator written as a word. -/
def ofSymbol? (word : Text) : Option ComparisonOperator := all.find? (·.symbol = word)

theorem mem_all (operator : ComparisonOperator) : operator ∈ all := by
  cases operator <;> simp [all]

theorem ofSymbol?_eq_some_iff (word : Text) (operator : ComparisonOperator) :
    ofSymbol? word = some operator ↔ operator.symbol = word :=
  find?_symbol_eq_some_iff mem_all (by decide) word operator

end ComparisonOperator

/-- Configuration keys of a type of action. -/
structure ActionSchema where
  /-- Keys that must have a value. -/
  required : List Text
  /-- Keys that may have a value. -/
  optional : List Text
  deriving DecidableEq

/-- Side effects that a rule can trigger. -/
inductive ActionType where
  | allowTransition
  | blockTransition
  | log
  | showError
  | showWarning
  | showInfo
  | notify
  | setField
  | callWebhook
  | emitEvent
  deriving DecidableEq, Repr

namespace ActionType

/-- Every type of action, in the order of advertising. -/
def all : List ActionType :=
  [.allowTransition, .blockTransition, .log, .showError, .showWarning, .showInfo, .notify,
    .setField, .callWebhook, .emitEvent]

/-- The word written in rules. -/
def symbol : ActionType → Text
  | .allowTransition => "ALLOW_TRANSITION"
  | .blockTransition => "BLOCK_TRANSITION"
  | .log => "LOG"
  | .showError => "SHOW_ERROR"
  | .showWarning => "SHOW_WARNING"
  | .showInfo => "SHOW_INFO"
  | .notify => "NOTIFY"
  | .setField => "SET_FIELD"
  | .callWebhook => "CALL_WEBHOOK"
  | .emitEvent => "EMIT_EVENT"

/-- The labels shown to people. -/
def labels : Assoc ActionType Text :=
  [(.allowTransition, "Allow transition"), (.blockTransition, "Block transition"),
    (.log, "Log message"), (.showError, "Show error"), (.showWarning, "Show warning"),
    (.showInfo, "Show info"), (.notify, "Send notification"), (.setField, "Set field value"),
    (.callWebhook, "Call webhook"), (.emitEvent, "Emit event")]

/-- The configuration keys of each type. -/
def schemas : Assoc ActionType ActionSchema :=
  [(.allowTransition, ⟨[], []⟩), (.blockTransition, ⟨[], []⟩), (.log, ⟨["message"], ["level"]⟩),
    (.showError, ⟨["message"], []⟩), (.showWarning, ⟨["message"], []⟩),
    (.showInfo, ⟨["message"], []⟩), (.notify, ⟨["message", "recipients"], ["template"]⟩),
    (.setField, ⟨["field", "value"], []⟩),
    (.callWebhook, ⟨["url"], ["method", "headers", "body"]⟩),
    (.emitEvent, ⟨["eventName"], ["payload"]⟩)]

/-- The configuration keys of a type; none if the table does not list it. -/
def schema (type : ActionType) : ActionSchema := Assoc.getD type ⟨[], []⟩ schemas

/-- The label of a type; none if the table does not list it. -/
def label (type : ActionType) : Text := Assoc.getD type [] labels

/-- The types that the table of configuration keys does not list. -/
def unschematized : List ActionType := all.filter fun type => !Assoc.has type schemas

/-- The words written in rules, in order. -/
def symbols : List Text := all.map symbol

/-- The type written as a word. -/
def ofSymbol? (word : Text) : Option ActionType := all.find? (·.symbol = word)

theorem mem_all (type : ActionType) : type ∈ all := by
  cases type <;> simp [all]

theorem ofSymbol?_eq_some_iff (word : Text) (type : ActionType) :
    ofSymbol? word = some type ↔ type.symbol = word :=
  find?_symbol_eq_some_iff mem_all (by decide) word type

end ActionType

/-- The logical operators on offer. -/
def LogicalOperator.choices : List Choice :=
  labels.map fun (operator, label) => ⟨operator.symbol, label⟩

/-- The comparison operators on offer. -/
def ComparisonOperator.choices : List Choice :=
  labels.map fun (operator, label) => ⟨operator.symbol, label⟩

/-- A type of action on offer, with its configuration keys. -/
structure ActionChoice extends Choice where
  schema : ActionSchema
  deriving DecidableEq

/-- The types of actions on offer. -/
def ActionType.choices : List ActionChoice :=
  schemas.map fun (type, schema) => ⟨⟨type.symbol, type.label⟩, schema⟩

/-! ## Complete tables -/

/-- Every logical operator has a label, in the order of advertising. -/
theorem LogicalOperator.map_fst_labels : labels.map Prod.fst = all := rfl

/-- Every comparison operator has a label, in the order of advertising. -/
theorem ComparisonOperator.map_fst_labels : labels.map Prod.fst = all := rfl

/-- Every type of action has a label, in the order of advertising. -/
theorem ActionType.map_fst_labels : labels.map Prod.fst = all := rfl

/-- Every type of action has its configuration keys, in the order of advertising. -/
theorem ActionType.schemas_eq : schemas = all.map fun type => (type, type.schema) := rfl

theorem ActionType.unschematized_eq : unschematized = [] := by decide

/-- The three sections of a rule payload. -/
inductive Section where
  | condition
  /-- The actions taken when the condition holds. -/
  | successActions
  /-- The actions taken when it does not. -/
  | failureActions
  deriving DecidableEq, Repr

namespace Section

/-- Every section, in the order of reporting. -/
def all : List Section := [.condition, .successActions, .failureActions]

/-- The word that labels the section in measurements. -/
def symbol : Section → Text
  | .condition => "condition"
  | .successActions => "success_actions"
  | .failureActions => "failure_actions"

/-- The title that leads the section's problems. -/
def title : Section → Text
  | .condition => "Condition"
  | .successActions => "Success actions"
  | .failureActions => "Failure actions"

/-- The section with that word. -/
def ofSymbol? (word : Text) : Option Section := all.find? (·.symbol = word)

theorem mem_all (part : Section) : part ∈ all := by
  cases part <;> simp [all]

end Section

end Rulebook
