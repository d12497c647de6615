import Rulebook.Fault
import Rulebook.Value.Display

/-!
# Problems and their messages

Every problem has a stable code, the values it refers to, and a message.  Messages come from
English templates whose holes are filled once, so that what a value holds is never read as a part
of the template, or from a wording of the caller's own.
-/

namespace Rulebook

/-- The stable code of a problem. -/
inductive Code where
  /-- An expression is neither a group nor a comparison. -/
  | structuralError
  | depthExceeded
  | invalidLogicalOperator
  | emptyGroup
  /-- A rule of a group has problems. -/
  | ruleError
  | fieldRequired
  | invalidFieldPath
  | operatorRequired
  | invalidComparisonOperator
  /-- A comparison has nothing to compare with. -/
  | valueRequired
  | valueFieldMustBeText
  | actionRequired
  | actionTypeRequired
  | unknownActionType
  /-- An action has no configuration although its type needs one. -/
  | configRequired
  /-- A configuration lacks a required value. -/
  | configFieldMissing
  /-- An action of a list has problems. -/
  | actionError
  | actionsNotList
  /-- Validation could not be carried through. -/
  | internalError
  deriving DecidableEq, Repr

namespace Code

/-- Every code, in the order of documentation. -/
def all : List Code :=
  [.structuralError, .depthExceeded, .invalidLogicalOperator, .emptyGroup, .ruleError,
    .fieldRequired, .invalidFieldPath, .operatorRequired, .invalidComparisonOperator,
    .valueRequired, .valueFieldMustBeText, .actionRequired, .actionTypeRequired,
    .unknownActionType, .configRequired, .configFieldMissing, .actionError, .actionsNotList,
    .internalError]

/-- The word that stands for the code in reports. -/
def symbol : Code → Text
  | .structuralError => "structural_error"
  | .depthExceeded => "depth_exceeded"
  | .invalidLogicalOperator => "invalid_logical_operator"
  | .emptyGroup => "empty_group"
  | .ruleError => "rule_error"
  | .fieldRequired => "field_required"
  | .invalidFieldPath => "invalid_field_path"
  | .operatorRequired => "operator_required"
  | .invalidComparisonOperator => "invalid_comparison_operator"
  | .valueRequired => "value_required"
  | .valueFieldMustBeText => "value_field_must_be_string"
  | .actionRequired => "action_required"
  | .actionTypeRequired => "action_type_required"
  | .unknownActionType => "unknown_action_type"
  | .configRequired => "config_required"
  | .configFieldMissing => "config_field_missing"
  | .actionError => "action_error"
  | .actionsNotList => "actions_not_list"
  | .internalError => "internal_error"

/-- The code that a word stands for. -/
def ofSymbol? (word : Text) : Option Code := all.find? (·.symbol = word)

/-- The code that a word stands for; a word that stands for none is a fault. -/
def named (word : Text) : Except Fault Code :=
  match ofSymbol? word with
  | some code => .ok code
  | none => .error (.unknownWord word "ErrorCode")

end Code

/-! ## Templates -/

/-- A piece of a template. -/
inductive Piece where
  /-- Words that stand as they are. -/
  | words (content : Text)
  /-- A hole for the parameter of that name. -/
  | hole (name : Text)
  deriving DecidableEq

/-- A message with holes. -/
abbrev Template := List Piece

namespace Template

/-- Words that stand as they are. -/
def words (content : String) : Piece := .words (Text.ofString content)

/-- A hole for the parameter of that name. -/
def hole (name : String) : Piece := .hole (Text.ofString name)

/-- The template with its holes marked by braces. -/
def source (template : Template) : Text :=
  template.flatMap fun
    | .words content => content
    | .hole name => Text.ofString "\x7b" ++ name ++ Text.ofString "\x7d"

/-- The message with every hole filled by the shown form of its parameter.  The first hole whose
parameter is not given is a fault. -/
def fill (values : List (Text × Value)) : Template → Except Fault Text
  | [] => .ok []
  | .words content :: rest => do
      let tail ← fill values rest
      .ok (content ++ tail)
  | .hole name :: rest =>
      match Assoc.get? name values with
      | none => .error (.missingParameter name)
      | some value => do
          let tail ← fill values rest
          .ok (value.display ++ tail)

end Template

open Template in
/-- The English template of each code. -/
def Code.template : Code → Template
  | .structuralError =>
      [words "Invalid condition structure: expected a group (operator + rules) or a condition (field + operator + value)"]
  | .depthExceeded => [words "Maximum nesting depth of ", hole "max_depth", words " exceeded"]
  | .invalidLogicalOperator =>
      [words "Invalid logical operator: ", hole "operator", words ". Valid operators: ",
        hole "valid_operators"]
  | .emptyGroup => [words "Group must contain at least one rule"]
  | .ruleError => [words "Rule ", hole "index", words ": ", hole "errors"]
  | .fieldRequired => [words "Field is required and must be a string"]
  | .invalidFieldPath => [words "Invalid field path: ", hole "field"]
  | .operatorRequired => [words "Operator is required"]
  | .invalidComparisonOperator =>
      [words "Invalid comparison operator: ", hole "operator", words ". Valid operators: ",
        hole "valid_operators"]
  | .valueRequired => [words "Value is required (or use valueField for field comparison)"]
  | .valueFieldMustBeText => [words "valueField must be a string"]
  | .actionRequired => [words "Action is required"]
  | .actionTypeRequired => [words "Action type is required and must be a string"]
  | .unknownActionType =>
      [words "Unknown action type: ", hole "type", words ". Valid types: ", hole "valid_types"]
  | .configRequired =>
      [words "Action type ", hole "type", words " requires config with fields: ", hole "fields"]
  | .configFieldMissing => [words "Required config field missing: ", hole "field"]
  | .actionError => [words "Action ", hole "index", words ": ", hole "errors"]
  | .actionsNotList => [hole "field_name", words " must be a list"]
  | .internalError => [words "Failed to validate ", hole "section", words ": ", hole "detail"]

/-! ## Issues -/

/-- A problem that was found: its code, its message, the values it refers to by name, and the
problems of the element it wraps, if it wraps one. -/
inductive Issue where
  | mk (code : Code) (message : Text) (values : List (Text × Value)) (nested : List Issue)

/-- What a message may refer to. -/
structure Params where
  /-- The values by name. -/
  values : List (Text × Value)
  /-- The problems of the wrapped element. -/
  nested : List Issue

namespace Issue

/-- The stable code. -/
def code : Issue → Code
  | .mk code _ _ _ => code

/-- The rendered message. -/
def message : Issue → Text
  | .mk _ message _ _ => message

/-- The values that the problem refers to. -/
def values : Issue → List (Text × Value)
  | .mk _ _ values _ => values

/-- The problems of the wrapped element. -/
def nested : Issue → List Issue
  | .mk _ _ _ nested => nested

/-- What the message may refer to. -/
def params (issue : Issue) : Params := ⟨issue.values, issue.nested⟩

@[simp]
theorem code_mk (code : Code) (message : Text) (values : List (Text × Value))
    (nested : List Issue) : (mk code message values nested).code = code := rfl

@[simp]
theorem message_mk (code : Code) (message : Text) (values : List (Text × Value))
    (nested : List Issue) : (mk code message values nested).message = message := rfl

@[simp]
theorem values_mk (code : Code) (message : Text) (values : List (Text × Value))
    (nested : List Issue) : (mk code message values nested).values = values := rfl

@[simp]
theorem nested_mk (code : Code) (message : Text) (values : List (Text × Value))
    (nested : List Issue) : (mk code message values nested).nested = nested := rfl

end Issue

/-- A way of putting problems into words: the message of a code with what it refers to.  It may
signal a fault. -/
abbrev Wording := Code → Params → Except Fault Text

/-- The wording of the English templates. -/
def Wording.english : Wording := fun code params => code.template.fill params.values

/-- The message of a code in the caller's wording, or in English if the caller gives none. -/
def Code.message (code : Code) (wording : Option Wording) (params : Params) : Except Fault Text :=
  match wording with
  | some own => own code params
  | none => Wording.english code params

/-- The issue of a code with its message rendered. -/
def Issue.make (wording : Option Wording) (code : Code)
    (values : List (Text × Value)) (nested : List Issue) : Except Fault Issue := do
  let message ← code.message wording ⟨values, nested⟩
  .ok (.mk code message values nested)

/-- The one issue of a code, with values named by strings. -/
def Issue.alone (wording : Option Wording) (code : Code) (values : List (String × Value)) :
    Except Fault (List Issue) := do
  let issue ← make wording code (values.map fun (name, value) => (Text.ofString name, value)) []
  .ok [issue]

/-- The values of the issue of an element, given the messages about the element. -/
def Issue.elementValues (position : Nat) (messages : List Text) : List (Text × Value) :=
  [("index", .int position), ("errors", .text (Text.join ", " messages))]

/-! ## Reports -/

/-- The outcome of validating one artefact: the messages and the problems behind them, in the same
order. -/
structure Report where
  valid : Bool
  /-- The rendered messages. -/
  errors : List Text
  issues : List Issue

namespace Report

/-- The report of an artefact without problems. -/
def clean : Report := ⟨true, [], []⟩

/-- The report of the given problems. -/
def ofIssues (issues : List Issue) : Report := ⟨issues.isEmpty, issues.map (·.message), issues⟩

@[simp]
theorem ofIssues_nil : ofIssues [] = clean := rfl

@[simp]
theorem ofIssues_issues (issues : List Issue) : (ofIssues issues).issues = issues := rfl

@[simp]
theorem ofIssues_errors (issues : List Issue) :
    (ofIssues issues).errors = issues.map (·.message) := rfl

theorem ofIssues_valid (issues : List Issue) : (ofIssues issues).valid = issues.isEmpty := rfl

/-- The issue of a list of which the element at a position has this report.  It wraps the issues of
the element; a valid element gives none. -/
def wrapped (wording : Option Wording) (code : Code) (position : Nat) (report : Report) :
    Except Fault (List Issue) :=
  if report.valid then .ok []
  else do
    let issue ← Issue.make wording code (Issue.elementValues position report.errors) report.issues
    .ok [issue]

end Report

end Rulebook
