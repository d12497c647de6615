import Rulebook.Proofs.Condition.Findings
import Rulebook.Proofs.FieldPath

/-!
# The grammar of condition expressions

An expression is valid exactly if it is absent, or if it follows the grammar and its height fits
between its depth and the limit.  The grammar is stated on entries and knows nothing of depth; the
height counts the levels of rules that are there and knows nothing of the grammar.
-/

namespace Rulebook

/-! ## Words of the vocabulary -/

theorem LogicalOperator.isOneOf_symbols_iff (value : Value) :
    value.isOneOf symbols = true ↔ ∃ known : LogicalOperator, value = .text known.symbol := by
  cases value with
  | text content =>
      rw [Value.isOneOf, List.contains_iff_mem, symbols, List.mem_map]
      constructor
      · rintro ⟨known, -, rfl⟩
        exact ⟨known, rfl⟩
      · rintro ⟨known, same⟩
        cases same
        exact ⟨known, known.mem_all, rfl⟩
  | _ => simp [Value.isOneOf]

theorem ComparisonOperator.isOneOf_symbols_iff (value : Value) :
    value.isOneOf symbols = true ↔ ∃ known : ComparisonOperator, value = .text known.symbol := by
  cases value with
  | text content =>
      rw [Value.isOneOf, List.contains_iff_mem, symbols, List.mem_map]
      constructor
      · rintro ⟨known, -, rfl⟩
        exact ⟨known, rfl⟩
      · rintro ⟨known, same⟩
        cases same
        exact ⟨known, known.mem_all, rfl⟩
  | _ => simp [Value.isOneOf]

/-! ## The grammar -/

/-- What a comparison must be: a field path, a known operator, something to compare with unless the
operator needs nothing, and a text for the field to compare with if there is one. -/
structure Comparison.IsWellFormed (comparison : Comparison) : Prop where
  field : ∃ path, comparison.field = .text path ∧ path ∈ FieldPath.pattern.matches'
  operator : ∃ known : ComparisonOperator, comparison.operator = .text known.symbol
  compared : comparison.value.isSome = true ∨ comparison.valueField.truthy = true ∨
    comparison.operator.needsNoValue = true
  valueField : comparison.valueField.truthy = true → ∃ name, comparison.valueField = .text name

/-- The grammar of condition expressions: groups with a known operator and at least one rule, in
which every rule that is there follows the grammar, and comparisons. -/
inductive Value.WellFormed : Value → Prop
  | group {expression : Value} {known : LogicalOperator} {rules : List Value}
      (shape : expression.IsGroup (.text known.symbol) rules) (filled : rules ≠ [])
      (each : ∀ rule ∈ rules, rule ≠ .null → WellFormed rule) : WellFormed expression
  | comparison {expression : Value} {comparison : Comparison}
      (shape : expression.IsComparison comparison) (sound : comparison.IsWellFormed) :
      WellFormed expression

theorem Value.IsGroup.wellFormed_iff {expression operator : Value} {rules : List Value}
    (shape : expression.IsGroup operator rules) :
    expression.WellFormed ↔
      (∃ known : LogicalOperator, operator = .text known.symbol) ∧ rules ≠ [] ∧
        ∀ rule ∈ rules, rule ≠ .null → rule.WellFormed := by
  constructor
  · intro sound
    cases sound with
    | group again filled each =>
        obtain ⟨rfl, rfl⟩ := shape.unique again
        exact ⟨⟨_, rfl⟩, filled, each⟩
    | comparison again _ => exact absurd shape (again.not_isGroup _ _)
  · rintro ⟨⟨known, rfl⟩, filled, each⟩
    exact .group shape filled each

theorem Value.IsComparison.wellFormed_iff {expression : Value} {comparison : Comparison}
    (shape : expression.IsComparison comparison) :
    expression.WellFormed ↔ comparison.IsWellFormed := by
  constructor
  · intro sound
    cases sound with
    | group again _ _ => exact absurd again (shape.not_isGroup _ _)
    | comparison again sound =>
        obtain rfl := shape.unique again
        exact sound
  · exact .comparison shape

theorem Value.IsShapeless.not_wellFormed {expression : Value}
    (shapeless : expression.IsShapeless) : ¬expression.WellFormed := by
  intro sound
  cases sound with
  | group shape _ _ => exact shapeless.noGroup _ _ shape
  | comparison shape _ => exact shapeless.noComparison _ shape

/-! ## Height -/

mutual

/-- The number of levels of an outline: none if it is absent, and else its own and those below. -/
def Outline.levels : Outline → Nat
  | .absent => 0
  | .group _ rules => mostLevels rules + 1
  | .comparison _ => 1
  | .unclassified => 1

/-- The greatest number of levels among outlines. -/
def Outline.mostLevels : List Outline → Nat
  | [] => 0
  | rule :: rest => max rule.levels (mostLevels rest)

end

/-- The number of levels of an expression. -/
def Value.levels (expression : Value) : Nat := expression.outline.levels

/-- The height of an expression: the number of levels below its own. -/
def Value.height (expression : Value) : Nat := expression.levels - 1

theorem Outline.mostLevels_le_iff (outlines : List Outline) (bound : Nat) :
    mostLevels outlines ≤ bound ↔ ∀ rule ∈ outlines, rule.levels ≤ bound := by
  induction outlines with
  | nil => simp [mostLevels]
  | cons rule rest induction =>
      rw [mostLevels, Nat.max_le, induction, List.forall_mem_cons]

namespace Value

@[simp]
theorem levels_null : levels .null = 0 := by
  rw [levels, outline, Outline.levels]

theorem IsComparison.levels_eq {expression : Value} {comparison : Comparison}
    (shape : expression.IsComparison comparison) : expression.levels = 1 := by
  rw [levels, shape.outline_eq, Outline.levels]

theorem IsShapeless.levels_eq {expression : Value} (shapeless : expression.IsShapeless) :
    expression.levels = 1 := by
  rw [levels, shapeless.outline_eq, Outline.levels]

/-- A group has one level more than its rules have at most. -/
theorem IsGroup.levels_le_iff {expression operator : Value} {rules : List Value}
    (shape : expression.IsGroup operator rules) (bound : Nat) :
    expression.levels ≤ bound + 1 ↔ ∀ rule ∈ rules, rule.levels ≤ bound := by
  rw [levels, shape.outline_eq, Outline.levels, Nat.add_le_add_iff_right,
    Outline.mostLevels_le_iff, List.forall_mem_map]
  rfl

theorem levels_pos {expression : Value} (present : expression ≠ .null) :
    0 < expression.levels := by
  rcases expression.shape_cases with
    absent | ⟨operator, rules, shape⟩ | ⟨comparison, shape⟩ | shapeless
  · exact absurd absent present
  · rw [levels, shape.outline_eq, Outline.levels]
    omega
  · rw [shape.levels_eq]
    omega
  · rw [shapeless.levels_eq]
    omega

/-- A group is higher by one than every rule that is there. -/
theorem IsGroup.height_le_iff {expression operator : Value} {rules : List Value}
    (shape : expression.IsGroup operator rules) (bound : Nat) :
    expression.height ≤ bound ↔ ∀ rule ∈ rules, rule ≠ .null → rule.height < bound := by
  have levels : expression.height ≤ bound ↔ expression.levels ≤ bound + 1 := by
    rw [height]
    omega
  rw [levels, shape.levels_le_iff]
  refine forall_congr' fun rule => forall_congr' fun member => ?_
  by_cases absent : rule = .null
  · simp [absent]
  · have own := levels_pos absent
    simp only [ne_eq, absent, not_false_eq_true, true_implies, height]
    omega

end Value

/-! ## Findings and the grammar -/

theorem logicalOperatorFindings_eq_nil_iff (operator : Value) :
    logicalOperatorFindings operator = [] ↔
      ∃ known : LogicalOperator, operator = .text known.symbol := by
  rw [logicalOperatorFindings, ← LogicalOperator.isOneOf_symbols_iff]
  simp

namespace Comparison

theorem fieldFindings_eq_nil_iff (comparison : Comparison) :
    comparison.fieldFindings = [] ↔
      ∃ path, comparison.field = .text path ∧ path ∈ FieldPath.pattern.matches' := by
  simp only [← FieldPath.isValid_iff_mem_matches]
  rw [fieldFindings]
  cases comparison.field with
  | text path => cases path <;> simp [Value.isFilledText, Value.isFieldPath]
  | _ => simp [Value.isFilledText]

theorem operatorFindings_eq_nil_iff (comparison : Comparison) :
    comparison.operatorFindings = [] ↔
      ∃ known : ComparisonOperator, comparison.operator = .text known.symbol := by
  rw [operatorFindings, ← ComparisonOperator.isOneOf_symbols_iff]
  constructor
  · intro none
    split at none
    · cases none
    · split at none
      · cases none
      · rename_i known
        simpa using known
  · intro known
    have filled : comparison.operator.truthy = true := by
      obtain ⟨word, same⟩ := (ComparisonOperator.isOneOf_symbols_iff _).mp known
      rw [same]
      cases word <;> rfl
    simp [known, filled]

theorem valueFindings_eq_nil_iff (comparison : Comparison) :
    comparison.valueFindings = [] ↔
      comparison.value.isSome = true ∨ comparison.valueField.truthy = true ∨
        comparison.operator.needsNoValue = true := by
  rw [valueFindings]
  cases comparison.value <;> cases comparison.valueField.truthy <;>
    cases comparison.operator.needsNoValue <;> simp

theorem valueFieldFindings_eq_nil_iff (comparison : Comparison) :
    comparison.valueFieldFindings = [] ↔
      (comparison.valueField.truthy = true → ∃ name, comparison.valueField = .text name) := by
  rw [valueFieldFindings]
  cases comparison.valueField <;> simp [Value.text?]

theorem findings_eq_nil_iff (comparison : Comparison) :
    comparison.findings = [] ↔ comparison.IsWellFormed := by
  rw [findings, List.append_eq_nil_iff, List.append_eq_nil_iff, List.append_eq_nil_iff,
    fieldFindings_eq_nil_iff, operatorFindings_eq_nil_iff, valueFindings_eq_nil_iff,
    valueFieldFindings_eq_nil_iff]
  constructor
  · rintro ⟨⟨⟨field, operator⟩, compared⟩, valueField⟩
    exact ⟨field, operator, compared, valueField⟩
  · rintro ⟨field, operator, compared, valueField⟩
    exact ⟨⟨⟨field, operator⟩, compared⟩, valueField⟩

end Comparison

theorem rulesFindings_eq_nil_iff (limit depth : Int) (position : Nat) (rules : List Value) :
    rulesFindings limit depth position rules = [] ↔
      ∀ rule ∈ rules, conditionFindings (.int limit) (.int depth) rule = [] := by
  induction rules generalizing position with
  | nil => simp
  | cons rule rest induction =>
      rw [rulesFindings_cons, List.append_eq_nil_iff, induction, List.forall_mem_cons,
        Finding.ofElement]
      refine and_congr ?_ Iff.rfl
      cases conditionFindings (.int limit) (.int depth) rule <;> simp

namespace Value

/-- There is nothing to find about the expression at that depth. -/
def Passes (limit depth : Int) (expression : Value) : Prop :=
  conditionFindings (.int limit) (.int depth) expression = []

section Passing

variable {limit depth : Int} {expression : Value}

theorem IsGroup.passes_iff {operator : Value} {rules : List Value}
    (shape : expression.IsGroup operator rules) :
    expression.Passes limit depth ↔
      depth ≤ limit ∧ (∃ known : LogicalOperator, operator = .text known.symbol) ∧ rules ≠ [] ∧
        ∀ rule ∈ rules, rule.Passes limit (depth + 1) := by
  rw [Passes]
  by_cases within : depth ≤ limit
  · rw [conditionFindings_group within shape, List.append_eq_nil_iff,
      logicalOperatorFindings_eq_nil_iff]
    cases rules with
    | nil => simp
    | cons first rest =>
        rw [List.isEmpty_cons, if_neg Bool.false_ne_true, rulesFindings_eq_nil_iff]
        simp [within, Passes]
  · rw [conditionFindings_of_lt (by omega) shape.ne_null]
    simp [within]

theorem IsComparison.passes_iff {comparison : Comparison}
    (shape : expression.IsComparison comparison) :
    expression.Passes limit depth ↔ depth ≤ limit ∧ comparison.IsWellFormed := by
  rw [Passes]
  by_cases within : depth ≤ limit
  · rw [conditionFindings_comparison within shape, comparison.findings_eq_nil_iff]
    simp [within]
  · rw [conditionFindings_of_lt (by omega) shape.ne_null]
    simp [within]

theorem IsShapeless.not_passes (shapeless : expression.IsShapeless) :
    ¬expression.Passes limit depth := by
  rw [Passes]
  by_cases within : depth ≤ limit
  · rw [conditionFindings_shapeless within shapeless]
    simp
  · rw [conditionFindings_of_lt (by omega) shapeless.present]
    simp

theorem passes_raw_iff (tree : Condition) :
    tree.raw.Passes limit depth ↔ (condition tree).Passes limit depth := by
  rw [Passes, Passes, conditionFindings, conditionFindings, tree.outline_raw, outline]

end Passing

end Value

/-- There is nothing to find about an absent expression, and about one that follows the grammar
and is not too high. -/
theorem conditionFindings_eq_nil_iff (limit depth : Int) (expression : Value) :
    conditionFindings (.int limit) (.int depth) expression = [] ↔
      expression = .null ∨ (expression.WellFormed ∧ depth + expression.height ≤ limit) := by
  change expression.Passes limit depth ↔ _
  induction expression using Value.shape_induction generalizing depth with
  | null => simp [Value.Passes]
  | group expression operator rules shape induction =>
      have each : (∀ rule ∈ rules, rule.Passes limit (depth + 1)) ↔
          ∀ rule ∈ rules, rule ≠ .null →
            (rule.WellFormed ∧ depth + 1 + rule.height ≤ limit) := by
        refine forall_congr' fun rule => forall_congr' fun member => ?_
        rw [induction rule member]
        exact Classical.or_iff_not_imp_left
      have fits (within : depth ≤ limit) : depth + expression.height ≤ limit ↔
          ∀ rule ∈ rules, rule ≠ .null → depth + 1 + rule.height ≤ limit := by
        have bound : depth + expression.height ≤ limit ↔
            expression.height ≤ (limit - depth).toNat := by omega
        rw [bound, shape.height_le_iff]
        refine forall_congr' fun rule => forall_congr' fun _ => imp_congr_right fun _ => ?_
        omega
      simp only [shape.ne_null, false_or, shape.wellFormed_iff]
      rw [shape.passes_iff, each]
      constructor
      · intro passes
        obtain ⟨within, known, filled, sound⟩ := passes
        refine ⟨⟨known, filled, fun rule member present => (sound rule member present).1⟩, ?_⟩
        exact (fits within).mpr fun rule member present => (sound rule member present).2
      · intro parts
        obtain ⟨⟨known, filled, sound⟩, low⟩ := parts
        have within : depth ≤ limit := by omega
        refine ⟨within, known, filled, fun rule member present => ?_⟩
        exact ⟨sound rule member present, (fits within).mp low rule member present⟩
  | comparison expression comparison shape =>
      simp only [shape.ne_null, false_or, shape.wellFormed_iff, Value.height, shape.levels_eq]
      rw [shape.passes_iff]
      simp [and_comm]
  | shapeless expression shapeless =>
      simp [shapeless.not_passes, shapeless.present, shapeless.not_wellFormed]

/-- Checking a condition expression at whole-number depths always ends in a report.  The report is
valid exactly if the expression is absent, or follows the grammar and is not too high for its
depth. -/
theorem checkCondition_valid_iff (limit depth : Int) (expression : Value) :
    ∃ report, checkCondition none (.int limit) (.int depth) expression = .ok report ∧
      (report.valid = true ↔
        expression = .null ∨ (expression.WellFormed ∧ depth + expression.height ≤ limit)) := by
  refine ⟨_, checkCondition_eq_ok speaks_none limit depth expression, ?_⟩
  rw [ofIssues_conditionIssues_valid_iff]
  exact conditionFindings_eq_nil_iff limit depth expression

end Rulebook
