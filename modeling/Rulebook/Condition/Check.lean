import Rulebook.Condition.Outline
import Rulebook.FieldPath
import Rulebook.Message

/-!
# Checking condition expressions

An expression is checked along its outline.  Depth is looked at before anything else, so an
expression below the limit has that one issue whatever it holds.  A group is asked for its
operator and its rules, a comparison for its field, its operator, and what to compare with.  Each
rule is checked in full, and its issues put into words, before the group goes on; a rule that
turns out invalid becomes an issue of the group under its position.
-/

namespace Rulebook

/-- The number as a value. -/
def Number.toValue : Number → Value
  | .whole value => .int value
  | .double value => .double value

/-- The depth lies below the limit.  Only numbers can be compared. -/
def Value.exceeds (depth limit : Value) : Except Fault Bool :=
  match depth.number?, limit.number? with
  | some depth, some limit => .ok (limit.lt depth)
  | _, _ => .error (.incomparable depth.kind limit.kind)

/-- The depth one level further down. -/
def Value.deeper (depth : Value) : Value :=
  match depth.number? with
  | some number => number.addOne.toValue
  | none => depth

@[simp]
theorem Value.exceeds_int (depth limit : Int) :
    (Value.int depth).exceeds (.int limit) = .ok (decide (limit < depth)) := by
  simp [Value.exceeds, Value.number?]

@[simp]
theorem Value.deeper_int (depth : Int) : (Value.int depth).deeper = .int (depth + 1) := rfl

/-- Words one after the other with commas between them. -/
def listed (words : List Text) : Value := .text (Text.join ", " words)

/-- The value is one of the words. -/
def Value.isOneOf (words : List Text) : Value → Bool
  | .text content => words.contains content
  | _ => false

/-- The value is a text that is not empty. -/
def Value.isFilledText : Value → Bool
  | .text content => !content.isEmpty
  | _ => false

/-- The issue about a group's operator, if there is one. -/
def logicalOperatorIssues (wording : Option Wording) (operator : Value) :
    Except Fault (List Issue) :=
  if operator.isOneOf LogicalOperator.symbols then .ok []
  else
    Issue.alone wording .invalidLogicalOperator
      [("operator", operator), ("valid_operators", listed LogicalOperator.symbols)]

namespace Comparison

/-- The issue about the field, if there is one. -/
def fieldIssues (wording : Option Wording) (comparison : Comparison) :
    Except Fault (List Issue) :=
  if !comparison.field.isFilledText then Issue.alone wording .fieldRequired []
  else if !comparison.field.isFieldPath then
    Issue.alone wording .invalidFieldPath [("field", comparison.field)]
  else .ok []

/-- The issue about the operator, if there is one. -/
def operatorIssues (wording : Option Wording) (comparison : Comparison) :
    Except Fault (List Issue) :=
  if !comparison.operator.truthy then Issue.alone wording .operatorRequired []
  else if !comparison.operator.isOneOf ComparisonOperator.symbols then
    Issue.alone wording .invalidComparisonOperator
      [("operator", comparison.operator),
        ("valid_operators", listed ComparisonOperator.symbols)]
  else .ok []

/-- The issue about the absence of anything to compare with, if there is one. -/
def valueIssues (wording : Option Wording) (comparison : Comparison) :
    Except Fault (List Issue) :=
  if comparison.value.isNone && !comparison.valueField.truthy &&
      !comparison.operator.needsNoValue then
    Issue.alone wording .valueRequired []
  else .ok []

/-- The issue about the field to compare with, if there is one. -/
def valueFieldIssues (wording : Option Wording) (comparison : Comparison) :
    Except Fault (List Issue) :=
  if comparison.valueField.truthy && comparison.valueField.text?.isNone then
    Issue.alone wording .valueFieldMustBeText []
  else .ok []

/-- The issues of a comparison, in the order of reporting. -/
def issues (wording : Option Wording) (comparison : Comparison) : Except Fault (List Issue) := do
  let field ← comparison.fieldIssues wording
  let operator ← comparison.operatorIssues wording
  let value ← comparison.valueIssues wording
  let valueField ← comparison.valueFieldIssues wording
  .ok (field ++ operator ++ value ++ valueField)

end Comparison

/-- The report on an expression at a depth: that of the issues it has there, unless the depth lies
below the limit or cannot be compared with it. -/
def Report.atDepth (wording : Option Wording) (limit depth : Value)
    (issues : Unit → Except Fault (List Issue)) : Except Fault Report := do
  let exceeded ← depth.exceeds limit
  let found ←
    (if exceeded then Issue.alone wording .depthExceeded [("max_depth", limit)]
    else issues ())
  .ok (.ofIssues found)

namespace Outline

mutual

/-- The report on an expression at a depth. -/
def check (wording : Option Wording) (limit depth : Value) : Outline → Except Fault Report
  | .absent => .ok .clean
  | .group operator rules =>
      Report.atDepth wording limit depth fun _ => do
        let own ← logicalOperatorIssues wording operator
        let inner ←
          (if rules.isEmpty then Issue.alone wording .emptyGroup []
          else rulesIssues wording limit depth.deeper 1 rules)
        .ok (own ++ inner)
  | .comparison found => Report.atDepth wording limit depth fun _ => found.issues wording
  | .unclassified =>
      Report.atDepth wording limit depth fun _ => Issue.alone wording .structuralError []

/-- The issues of rules at a depth, the first of which has the given position. -/
def rulesIssues (wording : Option Wording) (limit depth : Value) (position : Nat) :
    List Outline → Except Fault (List Issue)
  | [] => .ok []
  | rule :: rest => do
      let report ← check wording limit depth rule
      let first ← report.wrapped wording .ruleError position
      let others ← rulesIssues wording limit depth (position + 1) rest
      .ok (first ++ others)

end

end Outline

/-- The deepest level that is allowed if the caller sets no other limit. -/
def defaultMaxDepth : Int := 5

/-- The report on a condition expression at a depth. -/
def checkCondition (wording : Option Wording) (limit depth expression : Value) :
    Except Fault Report :=
  expression.outline.check wording limit depth

theorem checkCondition_null (wording : Option Wording) (limit depth : Value) :
    checkCondition wording limit depth .null = .ok .clean := by
  rw [checkCondition, Value.outline, Outline.check]

end Rulebook
