import Rulebook.Number.Shortest
import Rulebook.Text.Quoted
import Rulebook.Value.Basic

/-!
# Displaying values

Messages show the values they speak of.  A text on its own is shown as it is; inside any other
value it is quoted.  A typed record on its own is shown as its fields, and inside another value as
its name with the fields in parentheses.  A whole number is shown with all its digits, however many
they are; the limit of an interpreter on digits to be written out is left out.
-/

namespace Rulebook

namespace Text

/-- Texts between brackets, separated by commas. -/
def enclosed (opening closing : Text) (parts : List Text) : Text :=
  opening ++ join ", " parts ++ closing

/-- The parts of a tuple; a single part keeps its comma. -/
def tupled : List Text → Text
  | [only] => ofString "(" ++ only ++ ofString ",)"
  | parts => enclosed "(" ")" parts

/-- A name, an equals sign and a shown value. -/
def assigned (name : String) (value : Text) : Text := ofString name ++ ofString "=" ++ value

end Text

/-- The shown form of an optional text inside another value. -/
def showOptionalText : Option Text → Text
  | some content => content.quoted
  | none => "None"

mutual

/-- The shown form of a value inside another one. -/
def Value.inner : Value → Text
  | .null => "None"
  | .bool value => if value then "True" else "False"
  | .int value => Text.ofInt value
  | .double value => value.toText
  | .text content => content.quoted
  | .list elements => Text.enclosed "[" "]" (innerElements elements)
  | .tuple elements => Text.tupled (innerElements elements)
  | .mapping entries => Text.enclosed "\x7b" "\x7d" (innerEntries entries)
  | .condition condition => condition.inner
  | .action type config =>
      Text.enclosed "Action(" ")"
        [Text.assigned "type" type.symbol.quoted,
          Text.assigned "config"
            (match config with
            | none => "None"
            | some entries => Text.enclosed "\x7b" "\x7d" (innerEntries entries))]
  | .payload condition successActions failureActions =>
      Text.enclosed "RulePayload(" ")"
        [Text.assigned "condition_expression" condition.inner,
          Text.assigned "success_actions" successActions.inner,
          Text.assigned "failure_actions" failureActions.inner]

/-- The shown forms of elements in order. -/
def innerElements : List Value → List Text
  | [] => []
  | element :: rest => element.inner :: innerElements rest

/-- The shown forms of entries in order. -/
def innerEntries : List (Value × Value) → List Text
  | [] => []
  | (key, value) :: rest =>
      (key.inner ++ Text.ofString ": " ++ value.inner) :: innerEntries rest

/-- The shown form of a typed condition inside another value. -/
def Condition.inner : Condition → Text
  | .simple field operator value valueField =>
      Text.enclosed "SimpleCondition(" ")"
        [Text.assigned "field" field.quoted, Text.assigned "operator" operator.symbol.quoted,
          Text.assigned "value" value.inner,
          Text.assigned "value_field" (showOptionalText valueField)]
  | .group operator rules =>
      Text.enclosed "GroupCondition(" ")"
        [Text.assigned "operator" operator.symbol.quoted,
          Text.assigned "rules" (Text.enclosed "[" "]" (innerRules rules))]

/-- The shown forms of typed conditions in order. -/
def innerRules : List Condition → List Text
  | [] => []
  | rule :: rest => rule.inner :: innerRules rest

end

/-- The shown form of a value on its own. -/
def Value.display : Value → Text
  | .text content => content
  | .condition (.simple field operator value valueField) =>
      Text.join " "
        [Text.assigned "field" field.quoted, Text.assigned "operator" operator.symbol.quoted,
          Text.assigned "value" value.inner,
          Text.assigned "value_field" (showOptionalText valueField)]
  | .condition (.group operator rules) =>
      Text.join " "
        [Text.assigned "operator" operator.symbol.quoted,
          Text.assigned "rules" (Text.enclosed "[" "]" (innerRules rules))]
  | .action type config =>
      Text.join " "
        [Text.assigned "type" type.symbol.quoted,
          Text.assigned "config"
            (match config with
            | none => "None"
            | some entries => Value.inner (.mapping entries))]
  | .payload expression success failure =>
      Text.join " "
        [Text.assigned "condition_expression" expression.inner,
          Text.assigned "success_actions" success.inner,
          Text.assigned "failure_actions" failure.inner]
  | plain => plain.inner

@[simp]
theorem Value.display_text (content : Text) : (Value.text content).display = content := rfl

end Rulebook
