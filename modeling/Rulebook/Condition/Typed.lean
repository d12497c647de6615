import Rulebook.Condition.Check
import Rulebook.Value.Field

/-!
# Typed conditions

A condition expression is read into a typed tree by its shape: a mapping with a list of rules is
read as a group and everything else as a comparison.  A typed condition is taken as it is.
Parsing reads only what has been checked before.
-/

namespace Rulebook

/-- Reads the field to compare with, under either of its names. -/
def fitValueField (entries : Entries) : Fit (Option Text) :=
  match entries.either? "valueField" "value_field" with
  | some (name, value) => Fit.under (.name name) value.fitOptionalText
  | none => .ok none

/-- Reads the entries of a mapping as a comparison. -/
def fitComparison (entries : Entries) : Fit Condition :=
  let fields :=
    Fit.both (entries.fitRequired "field" Value.fitText)
      (Fit.both (entries.fitRequired "operator" (Value.fitWord ComparisonOperator.ofSymbol?))
        (fitValueField entries))
  match fields with
  | .ok (field, operator, valueField) =>
      .ok (.simple field operator (entries.getD "value") valueField)
  | .error mismatches => .error mismatches

/-- Reads the entries of a mapping as a group whose rules have been read. -/
def fitGroup (entries : Entries) (rules : Fit (List Condition)) : Fit Condition :=
  let operator := entries.fitRequired "operator" (Value.fitWord LogicalOperator.ofSymbol?)
  match Fit.both operator (Fit.under (.name "rules") rules) with
  | .ok (operator, rules) => .ok (.group operator rules)
  | .error mismatches => .error mismatches

mutual

/-- Reads an expression, reporting mismatches under the form that its shape calls for. -/
def Value.fitExpression : Value → Fit Condition
  | .condition typed => .ok typed
  | .mapping entries =>
      match fitListedRules entries with
      | some rules => Fit.under (.name "group") (fitGroup entries rules)
      | none => Fit.under (.name "simple") (fitComparison entries)
  | _ => Fit.under (.name "simple") (Fit.fail .recordType)

/-- Reads the elements of the list under `rules`, if there is such a list. -/
def fitListedRules : List (Value × Value) → Option (Fit (List Condition))
  | [] => none
  | (key, value) :: rest =>
      if key.isText "rules" then value.fitListed else fitListedRules rest

/-- Reads the elements, if the value is a list. -/
def Value.fitListed : Value → Option (Fit (List Condition))
  | .list elements => some (fitElements elements)
  | _ => none

/-- Reads expressions, of which there must be at least one. -/
def fitElements : List Value → Fit (List Condition)
  | [] => Fit.fail .tooShort
  | element :: rest => Fit.all (fitNumbered 0 (element :: rest))

/-- Reads expressions whose first has the given index. -/
def fitNumbered (index : Nat) : List Value → List (Fit Condition)
  | [] => []
  | element :: rest =>
      Fit.under (.index index) element.fitExpression :: fitNumbered (index + 1) rest

end

/-- Reads the rules of a group, which may also be a tuple. -/
def fitRules (entries : Entries) : Fit (List Condition) :=
  match entries.get? "rules" with
  | some (.list elements) => fitElements elements
  | some (.tuple elements) => fitElements elements
  | some _ => Fit.fail .listType
  | none => Fit.fail .missing

/-- Reads data as a comparison. -/
def Value.fitSimple : Value → Fit Condition
  | .condition (.simple field operator value valueField) =>
      .ok (.simple field operator value valueField)
  | .mapping entries => fitComparison entries
  | _ => Fit.fail .recordType

/-- Reads data as a group. -/
def Value.fitGroup : Value → Fit Condition
  | .condition (.group operator rules) => .ok (.group operator rules)
  | .mapping entries => Rulebook.fitGroup entries (fitRules entries)
  | _ => Fit.fail .recordType

/-- Why an expression is not parsed. -/
inductive ParseFailure where
  /-- The check could not be carried through. -/
  | fault (cause : Fault)
  /-- The expression has the reported problems. -/
  | refused (report : Report)

/-- Refuses an expression for the problem of a code. -/
def refuse {α : Type} (code : Code) : Except ParseFailure α :=
  match Issue.alone none code [] with
  | .ok issues => .error (.refused (.ofIssues issues))
  | .error cause => .error (.fault cause)

/-- Checks an expression and reads it into a typed tree; there is none if the expression is
absent.  An expression that has been checked but does not fit the typed tree is refused as one of
no known form. -/
def parseCondition (limit expression : Value) : Except ParseFailure (Option Condition) :=
  if expression.isNull then .ok none
  else
    match checkCondition none limit (.int 0) expression with
    | .error cause => .error (.fault cause)
    | .ok report =>
        if report.valid then
          match expression.fitExpression with
          | .ok condition => .ok (some condition)
          | .error _ => refuse .structuralError
        else .error (.refused report)

/-- The errors of a report on one line. -/
def Report.summary (report : Report) : Text := Text.join "; " report.errors

end Rulebook
