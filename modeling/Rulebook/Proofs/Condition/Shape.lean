import Rulebook.Condition.Outline

/-!
# Shapes of expressions

The shape of an expression is told by its entries alone.  With an operator and a list under
`rules` it is a group; with a field, an operator and something to compare with it is a comparison,
unless it is a group.  Every other expression that is there has no shape.  Outlines follow the
shapes, and statements about expressions are proved by induction along them.
-/

namespace Rulebook

/-! ## Entries -/

namespace Entries

theorem mem_of_get? {name : Text} {value : Value} {entries : Entries}
    (found : entries.get? name = some value) : ∃ key, (key, value) ∈ entries := by
  induction entries with
  | nil => cases found
  | cons entry rest induction =>
      obtain ⟨key, content⟩ := entry
      rw [get?_cons] at found
      split at found
      · cases found
        exact ⟨key, List.mem_cons_self⟩
      · obtain ⟨other, member⟩ := induction found
        exact ⟨other, List.mem_cons_of_mem _ member⟩

theorem getD_eq_list_iff (name : Text) (elements : List Value) (entries : Entries) :
    (entries.getD name).list? = some elements ↔ entries.get? name = some (.list elements) := by
  rw [getD]
  cases entries.get? name with
  | none => simp [Value.list?]
  | some value => cases value <;> simp [Value.list?]

end Entries

namespace Value

/-- The entries that an expression is judged by: those of a mapping, and those of the raw form of a
typed condition. -/
def entries? : Value → Option Entries
  | .mapping entries => some entries
  | .condition typed => some typed.fields
  | _ => none

/-- The expression is a group of rules under an operator. -/
inductive IsGroup : Value → Value → List Value → Prop
  | mk {expression operator : Value} {rules : List Value} {entries : Entries}
      (judged : expression.entries? = some entries)
      (hasOperator : entries.get? "operator" = some operator)
      (hasRules : entries.get? "rules" = some (.list rules)) :
      IsGroup expression operator rules

/-- The expression is a comparison. -/
inductive IsComparison : Value → Comparison → Prop
  /-- There are a field and an operator, and a value, a field to compare with or an operator that
  needs neither; but there is no list under `rules`. -/
  | mk {expression : Value} {comparison : Comparison} {entries : Entries}
      (judged : expression.entries? = some entries)
      (noRules : ∀ rules, entries.get? "rules" ≠ some (.list rules))
      (hasField : entries.get? "field" = some comparison.field)
      (hasOperator : entries.get? "operator" = some comparison.operator)
      (value : entries.get? "value" = comparison.value)
      (valueField : entries.getD "valueField" = comparison.valueField)
      (marked : comparison.value.isSome = true ∨ entries.has "valueField" = true ∨
        comparison.operator.needsNoValue = true) :
      IsComparison expression comparison

/-- The expression is there and is neither a group nor a comparison. -/
structure IsShapeless (expression : Value) : Prop where
  present : expression ≠ .null
  noGroup : ∀ operator rules, ¬expression.IsGroup operator rules
  noComparison : ∀ comparison, ¬expression.IsComparison comparison

theorem IsGroup.unique {expression operator other : Value} {rules others : List Value}
    (shape : expression.IsGroup operator rules) (again : expression.IsGroup other others) :
    other = operator ∧ others = rules := by
  obtain ⟨judged, hasOperator, hasRules⟩ := shape
  obtain ⟨judged', hasOperator', hasRules'⟩ := again
  rw [judged] at judged'
  cases judged'
  rw [hasOperator] at hasOperator'
  rw [hasRules] at hasRules'
  cases hasOperator'
  cases hasRules'
  exact ⟨rfl, rfl⟩

theorem IsComparison.unique {expression : Value} {comparison other : Comparison}
    (shape : expression.IsComparison comparison) (again : expression.IsComparison other) :
    other = comparison := by
  obtain ⟨judged, -, field, operator, value, valueField, -⟩ := shape
  obtain ⟨judged', -, field', operator', value', valueField', -⟩ := again
  rw [judged] at judged'
  cases judged'
  rw [field] at field'
  rw [operator] at operator'
  rw [value] at value'
  rw [valueField] at valueField'
  cases comparison
  cases other
  simp_all

theorem IsComparison.not_isGroup {expression : Value} {comparison : Comparison}
    (shape : expression.IsComparison comparison) (operator : Value) (rules : List Value) :
    ¬expression.IsGroup operator rules := by
  rintro ⟨judged', -, hasRules⟩
  obtain ⟨judged, noRules, -, -, -, -, -⟩ := shape
  rw [judged] at judged'
  cases judged'
  exact noRules rules hasRules

theorem IsGroup.ne_null {expression operator : Value} {rules : List Value}
    (shape : expression.IsGroup operator rules) : expression ≠ .null := by
  rintro rfl
  obtain ⟨judged, -, -⟩ := shape
  cases judged

theorem IsComparison.ne_null {expression : Value} {comparison : Comparison}
    (shape : expression.IsComparison comparison) : expression ≠ .null := by
  rintro rfl
  obtain ⟨judged, -, -, -, -, -, -⟩ := shape
  cases judged

end Value

/-! ## Forms and shapes -/

theorem Entries.node?_eq_group_iff (entries : Entries) (operator : Value) (rules : List Value) :
    entries.node? = some (.group operator rules) ↔
      entries.get? "operator" = some operator ∧ entries.get? "rules" = some (.list rules) := by
  rw [← Entries.getD_eq_list_iff, node?, group?]
  cases entries.get? "operator" with
  | none => simp
  | some found => cases (entries.getD "rules").list? <;> simp

theorem Entries.comparison?_eq_some_iff (entries : Entries) (comparison : Comparison) :
    entries.comparison? = some comparison ↔
      entries.get? "field" = some comparison.field ∧
        entries.get? "operator" = some comparison.operator ∧
        entries.get? "value" = comparison.value ∧
        entries.getD "valueField" = comparison.valueField ∧
        (comparison.value.isSome = true ∨ entries.has "valueField" = true ∨
          comparison.operator.needsNoValue = true) := by
  rw [comparison?]
  obtain ⟨field, operator, value, valueField⟩ := comparison
  cases entries.get? "field" with
  | none => simp
  | some foundField =>
      cases entries.get? "operator" with
      | none => simp
      | some foundOperator =>
          simp only [Option.bind_eq_bind, Option.bind_some, Option.some.injEq]
          constructor
          · intro formed
            split at formed
            · rename_i marked
              cases formed
              simpa [has, or_assoc] using marked
            · cases formed
          · rintro ⟨rfl, rfl, rfl, rfl, marked⟩
            have marks : (entries.has "value" || entries.has "valueField" ||
                foundOperator.needsNoValue) = true := by
              simpa [has, or_assoc] using marked
            rw [if_pos marks]

namespace Value

theorem node?_eq_bind (expression : Value) :
    expression.node? = expression.entries?.bind Entries.node? := by
  cases expression <;> rfl

theorem node?_eq_group_iff (expression operator : Value) (rules : List Value) :
    expression.node? = some (.group operator rules) ↔ expression.IsGroup operator rules := by
  rw [node?_eq_bind, Option.bind_eq_some_iff]
  constructor
  · rintro ⟨entries, judged, formed⟩
    obtain ⟨hasOperator, hasRules⟩ := (Entries.node?_eq_group_iff entries operator rules).mp formed
    exact ⟨judged, hasOperator, hasRules⟩
  · rintro ⟨judged, hasOperator, hasRules⟩
    exact ⟨_, judged, (Entries.node?_eq_group_iff _ _ _).mpr ⟨hasOperator, hasRules⟩⟩

theorem node?_eq_comparison_iff (expression : Value) (comparison : Comparison) :
    expression.node? = some (.comparison comparison) ↔ expression.IsComparison comparison := by
  rw [node?_eq_bind, Option.bind_eq_some_iff]
  constructor
  · rintro ⟨entries, judged, formed⟩
    rw [Entries.node?] at formed
    split at formed
    · cases formed
    · rename_i noGroup
      have compared : entries.comparison? = some comparison := by
        cases found : entries.comparison? with
        | none => simp [found] at formed
        | some other => simpa [found] using formed
      obtain ⟨field, operator, value, valueField, marked⟩ :=
        (Entries.comparison?_eq_some_iff entries comparison).mp compared
      refine ⟨judged, ?_, field, operator, value, valueField, marked⟩
      intro rules hasRules
      have listed := (Entries.getD_eq_list_iff _ _ _).mpr hasRules
      simp [Entries.group?, operator, listed] at noGroup
  · rintro ⟨judged, noRules, field, operator, value, valueField, marked⟩
    rename_i entries
    refine ⟨entries, judged, ?_⟩
    have noGroup : entries.group? = none := by
      cases listed : (entries.getD "rules").list? with
      | none => simp [Entries.group?, listed]
      | some rules => exact absurd ((Entries.getD_eq_list_iff _ _ _).mp listed) (noRules rules)
    have compared : entries.comparison? = some comparison :=
      (Entries.comparison?_eq_some_iff entries comparison).mpr
        ⟨field, operator, value, valueField, marked⟩
    rw [Entries.node?, noGroup, compared]
    rfl

theorem IsShapeless.node?_eq_none {expression : Value} (shapeless : expression.IsShapeless) :
    expression.node? = none := by
  cases formed : expression.node? with
  | none => rfl
  | some node =>
      cases node with
      | group operator rules =>
          exact absurd ((expression.node?_eq_group_iff operator rules).mp formed)
            (shapeless.noGroup operator rules)
      | comparison comparison =>
          exact absurd ((expression.node?_eq_comparison_iff comparison).mp formed)
            (shapeless.noComparison comparison)

/-- Every expression that is there has exactly one shape or none. -/
theorem shape_cases (expression : Value) :
    expression = .null ∨ (∃ operator rules, expression.IsGroup operator rules) ∨
      (∃ comparison, expression.IsComparison comparison) ∨ expression.IsShapeless := by
  by_cases absent : expression = .null
  · exact .inl absent
  · right
    cases formed : expression.node? with
    | none =>
        right
        right
        refine ⟨absent, ?_, ?_⟩
        · intro operator rules shape
          rw [(expression.node?_eq_group_iff operator rules).mpr shape] at formed
          cases formed
        · intro comparison shape
          rw [(expression.node?_eq_comparison_iff comparison).mpr shape] at formed
          cases formed
    | some node =>
        cases node with
        | group operator rules =>
            exact .inl ⟨operator, rules, (expression.node?_eq_group_iff operator rules).mp formed⟩
        | comparison comparison =>
            have shape := (expression.node?_eq_comparison_iff comparison).mp formed
            exact .inr (.inl ⟨comparison, shape⟩)

end Value

/-! ## Outlines along shapes -/

private theorem outlines_rawRules (rules : List Condition)
    (each : ∀ rule ∈ rules, rule.raw.outline = rule.outline) :
    outlines (rawRules rules) = conditionOutlines rules := by
  rw [outlines_eq_map, rawRules_eq_map, conditionOutlines_eq_map, List.map_map]
  exact List.map_congr_left each

/-- A typed condition has the outline of its raw form. -/
theorem Condition.outline_raw : ∀ condition : Condition, condition.raw.outline = condition.outline
  | .simple _ _ _ _ => rfl
  | .group operator rules => by
      have each : ∀ rule ∈ rules, rule.raw.outline = rule.outline :=
        fun rule _ => Condition.outline_raw rule
      change Outline.group (.text operator.symbol) (outlines (rawRules rules)) = _
      rw [outlines_rawRules rules each, Condition.outline]

namespace Value

theorem outline_of_entries? {expression : Value} {entries : Entries}
    (judged : expression.entries? = some entries) :
    expression.outline = (Value.mapping entries).outline := by
  cases expression with
  | mapping own =>
      cases judged
      rfl
  | condition typed =>
      cases judged
      rw [Value.outline]
      exact typed.outline_raw.symm
  | _ => cases judged

theorem IsGroup.outline_eq {expression operator : Value} {rules : List Value}
    (shape : expression.IsGroup operator rules) :
    expression.outline = .group operator (rules.map (·.outline)) := by
  obtain ⟨judged, hasOperator, hasRules⟩ := shape
  rw [outline_of_entries? judged, outline_mapping,
    (Entries.node?_eq_group_iff _ _ _).mpr ⟨hasOperator, hasRules⟩]

theorem IsComparison.outline_eq {expression : Value} {comparison : Comparison}
    (shape : expression.IsComparison comparison) : expression.outline = .comparison comparison := by
  have formed := (expression.node?_eq_comparison_iff comparison).mpr shape
  obtain ⟨judged, -, -, -, -, -, -⟩ := shape
  rw [node?_eq_bind, judged, Option.bind_some] at formed
  rw [outline_of_entries? judged, outline_mapping, formed]

theorem IsShapeless.outline_eq {expression : Value} (shapeless : expression.IsShapeless) :
    expression.outline = .unclassified := by
  have formless := shapeless.node?_eq_none
  cases judged : expression.entries? with
  | some entries =>
      rw [node?_eq_bind, judged, Option.bind_some] at formless
      rw [outline_of_entries? judged, outline_mapping, formless]
  | none =>
      cases expression with
      | null => exact absurd rfl shapeless.present
      | mapping entries => cases judged
      | condition typed => cases judged
      | _ => rfl

/-! ## Induction along shapes -/

private theorem sizeOf_rule_lt {entries : Entries} {rules : List Value} {rule : Value}
    (hasRules : entries.get? "rules" = some (.list rules)) (member : rule ∈ rules) :
    sizeOf rule < sizeOf (Value.mapping entries) := by
  obtain ⟨key, entry⟩ := Entries.mem_of_get? hasRules
  have inRules : sizeOf rule < sizeOf rules := List.sizeOf_lt_of_mem member
  have inEntries := List.sizeOf_lt_of_mem entry
  rw [Prod.mk.sizeOf_spec, Value.list.sizeOf_spec] at inEntries
  rw [Value.mapping.sizeOf_spec]
  omega

private theorem rule_of_fields {condition : Condition} {rules : List Value} {rule : Value}
    (hasRules : Entries.get? "rules" condition.fields = some (.list rules))
    (member : rule ∈ rules) :
    ∃ typed : Condition, rule = typed.raw ∧ sizeOf typed < sizeOf condition := by
  cases condition with
  | simple field operator value valueField => cases hasRules
  | group operator typedRules =>
      have listed : Entries.get? "rules" (Condition.group operator typedRules).fields =
          some (.list (rawRules typedRules)) := rfl
      rw [listed] at hasRules
      cases hasRules
      rw [rawRules_eq_map] at member
      obtain ⟨typed, typedMember, rfl⟩ := List.mem_map.mp member
      have inRules : sizeOf typed < sizeOf typedRules := List.sizeOf_lt_of_mem typedMember
      refine ⟨typed, rfl, ?_⟩
      rw [Condition.group.sizeOf_spec]
      omega

private theorem induction_raw {motive : Value → Prop}
    (step : ∀ expression, (∀ operator rules, expression.IsGroup operator rules →
      ∀ rule ∈ rules, motive rule) → motive expression) (condition : Condition) :
    motive condition.raw := by
  apply step
  rintro operator rules ⟨judged, -, hasRules⟩ rule member
  cases judged
  obtain ⟨typed, rfl, smaller⟩ := rule_of_fields hasRules member
  exact induction_raw step typed
termination_by sizeOf condition
decreasing_by exact smaller

/-- What passes from the rules of every group to the group holds of every expression. -/
theorem induction_rules {motive : Value → Prop}
    (step : ∀ expression, (∀ operator rules, expression.IsGroup operator rules →
      ∀ rule ∈ rules, motive rule) → motive expression) (expression : Value) :
    motive expression := by
  apply step
  rintro operator rules ⟨judged, -, hasRules⟩ rule member
  cases expression with
  | mapping entries =>
      obtain rfl : entries = _ := Option.some.inj judged
      have smaller := sizeOf_rule_lt hasRules member
      exact induction_rules step rule
  | condition typed =>
      -- The rules of a typed group are raw forms, which need not be smaller than the group.
      cases judged
      obtain ⟨sub, rfl, -⟩ := rule_of_fields hasRules member
      exact induction_raw step sub
  | _ => cases judged
termination_by sizeOf expression
decreasing_by exact smaller

/-- Expressions are reached along their shapes. -/
@[elab_as_elim]
theorem shape_induction {motive : Value → Prop} (null : motive .null)
    (group : ∀ expression operator rules, expression.IsGroup operator rules →
      (∀ rule ∈ rules, motive rule) → motive expression)
    (comparison : ∀ expression comparison, expression.IsComparison comparison →
      motive expression)
    (shapeless : ∀ expression, expression.IsShapeless → motive expression)
    (expression : Value) : motive expression := by
  induction expression using induction_rules with
  | step expression induction =>
      rcases expression.shape_cases with rfl | ⟨operator, rules, shape⟩ | ⟨found, shape⟩ | formless
      · exact null
      · exact group expression operator rules shape (induction operator rules shape)
      · exact comparison expression found shape
      · exact shapeless expression formless

end Value

end Rulebook
