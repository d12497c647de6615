import Rulebook.Value.Basic

/-!
# Outlines of expressions

Validation sees of an expression only whether it is a group, a comparison or neither, and the few
entries that belong to that form.  A node is this view of the expression itself; an outline is the
view of the whole tree.  An expression with an operator and a list of rules is a group.  One with
a field and an operator is a comparison if it also has a value, even a null one, or names a field
to compare with, or uses an operator that needs no value.  Typed records are seen as their raw
form.
-/

namespace Rulebook

/-- An expression seen as a comparison. -/
structure Comparison where
  field : Value
  operator : Value
  /-- The value that the field is compared with, if the entry is there. -/
  value : Option Value
  /-- The field to compare with; absent if the entry is not there. -/
  valueField : Value

/-- The form of one expression. -/
inductive Node where
  /-- An operator over a list of rules. -/
  | group (operator : Value) (rules : List Value)
  | comparison (comparison : Comparison)

/-- The form of a whole expression tree. -/
inductive Outline where
  | absent
  /-- An operator over a list of rules. -/
  | group (operator : Value) (rules : List Outline)
  | comparison (comparison : Comparison)
  /-- Neither a group nor a comparison. -/
  | unclassified

/-- The value is an operator that needs no value. -/
def Value.needsNoValue (operator : Value) : Bool :=
  ((operator.text?.bind ComparisonOperator.ofSymbol?).map (·.needsNoValue)).getD false

namespace Entries

/-- The comparison that the entries of a mapping form, if they form one. -/
def comparison? (entries : Entries) : Option Comparison := do
  let field ← entries.get? "field"
  let operator ← entries.get? "operator"
  if entries.has "value" || entries.has "valueField" || operator.needsNoValue then
    some ⟨field, operator, entries.get? "value", entries.getD "valueField"⟩
  else none

/-- The group that the entries of a mapping form, if they form one. -/
def group? (entries : Entries) : Option (Value × List Value) := do
  let operator ← entries.get? "operator"
  let rules ← (entries.getD "rules").list?
  some (operator, rules)

/-- The form of the mapping with these entries. -/
def node? (entries : Entries) : Option Node :=
  match entries.group? with
  | some (operator, rules) => some (.group operator rules)
  | none => entries.comparison?.map .comparison

end Entries

/-- The form of an expression, if it has one. -/
def Value.node? : Value → Option Node
  | .mapping entries => Entries.node? entries
  | .condition typed => Entries.node? typed.fields
  | _ => none

/-- The outline of the mapping with these entries, given the outlines of its rules if it has a
list of them. -/
def Outline.ofEntries (entries : Entries) (rules : Option (List Outline)) : Outline :=
  match entries.get? "operator", rules with
  | some operator, some rules => .group operator rules
  | _, _ =>
      match entries.comparison? with
      | some found => .comparison found
      | none => .unclassified

mutual

/-- The outline of an expression. -/
def Value.outline : Value → Outline
  | .null => .absent
  | .mapping entries => Outline.ofEntries entries (rulesOutline entries)
  | .condition condition => condition.outline
  | _ => .unclassified

/-- The outlines of the elements of the list under `rules`, if there is such a list. -/
def rulesOutline : List (Value × Value) → Option (List Outline)
  | [] => none
  | (key, value) :: rest =>
      if key.isText "rules" then value.elementsOutline else rulesOutline rest

/-- The outlines of the elements, if the value is a list. -/
def Value.elementsOutline : Value → Option (List Outline)
  | .list elements => some (outlines elements)
  | _ => none

/-- The outlines of expressions in order. -/
def outlines : List Value → List Outline
  | [] => []
  | element :: rest => element.outline :: outlines rest

/-- The outline of a typed condition: that of its raw form. -/
def Condition.outline : Condition → Outline
  | .simple field operator value valueField =>
      .comparison
        ⟨.text field, .text operator.symbol, some value.raw, Value.ofText? valueField⟩
  | .group operator rules => .group (.text operator.symbol) (conditionOutlines rules)

/-- The outlines of typed conditions in order. -/
def conditionOutlines : List Condition → List Outline
  | [] => []
  | rule :: rest => rule.outline :: conditionOutlines rest

end

theorem outlines_eq_map (elements : List Value) :
    outlines elements = elements.map (·.outline) := by
  induction elements with
  | nil => rfl
  | cons element rest ih => simp [outlines, ih]

theorem conditionOutlines_eq_map (rules : List Condition) :
    conditionOutlines rules = rules.map (·.outline) := by
  induction rules with
  | nil => rfl
  | cons rule rest ih => simp [conditionOutlines, ih]

theorem rulesOutline_eq (entries : Entries) :
    rulesOutline entries = (entries.getD "rules").list?.map (·.map (·.outline)) := by
  induction entries with
  | nil => rfl
  | cons entry rest ih =>
      obtain ⟨key, value⟩ := entry
      by_cases found : key.isText "rules"
      · cases value <;>
          simp [rulesOutline, Entries.getD, found, Value.elementsOutline, Value.list?,
            outlines_eq_map]
      · simpa [rulesOutline, Entries.getD, found] using ih

/-- The outline of a mapping is that of its form, with the outlines of its rules. -/
theorem outline_mapping (entries : Entries) :
    (Value.mapping entries).outline =
      match entries.node? with
      | some (.group operator rules) => .group operator (rules.map (·.outline))
      | some (.comparison comparison) => .comparison comparison
      | none => .unclassified := by
  simp only [Value.outline, Entries.node?, Entries.group?, rulesOutline_eq]
  unfold Outline.ofEntries
  cases operator : entries.get? "operator" with
  | none => simp [Entries.comparison?, operator]
  | some value =>
      cases rules : (entries.getD "rules").list? with
      | none => cases entries.comparison? <;> simp
      | some elements => simp

end Rulebook
