import Rulebook.Proofs.Condition.Run
import Rulebook.Proofs.Condition.Shape
import Rulebook.Proofs.Elements
import Rulebook.Proofs.Rendering

/-!
# Findings along shapes

At whole-number depths the findings about an expression are read off its shape: one finding if it
lies below the limit, and else those of a group, of a comparison, or of an expression without a
shape.  They are always complete, so that a report is made of them in every wording that has all
messages.
-/

namespace Rulebook

/-! ## Findings by shape -/

theorem Outline.rulesFindings_eq_ofElements (limit depth : Value) (position : Nat)
    (rules : List Outline) :
    rulesFindings limit depth position rules =
      Finding.ofElements .ruleError position (rules.map (findings limit depth)) := by
  induction rules generalizing position with
  | nil => rw [rulesFindings, List.map_nil, Finding.ofElements_nil]
  | cons rule rest induction =>
      rw [rulesFindings, induction, List.map_cons, Finding.ofElements_cons]

/-- The findings about rules at a depth, the first of which has the given position. -/
def rulesFindings (limit depth : Int) (position : Nat) (rules : List Value) : List Finding :=
  Outline.rulesFindings (.int limit) (.int depth) position (rules.map (·.outline))

@[simp]
theorem rulesFindings_nil (limit depth : Int) (position : Nat) :
    rulesFindings limit depth position [] = [] := by
  rw [rulesFindings, List.map_nil, Outline.rulesFindings]

theorem rulesFindings_cons (limit depth : Int) (position : Nat) (rule : Value)
    (rest : List Value) :
    rulesFindings limit depth position (rule :: rest) =
      Finding.ofElement .ruleError position (conditionFindings (.int limit) (.int depth) rule) ++
        rulesFindings limit depth (position + 1) rest := by
  rw [rulesFindings, List.map_cons, Outline.rulesFindings]
  rfl

theorem guardDepth_of_le {limit depth : Int} (within : depth ≤ limit) (findings : List Finding) :
    guardDepth (.int limit) (.int depth) findings = findings := by
  rw [guardDepth, Value.exceeds_int, decide_eq_false (by omega)]

theorem guardDepth_of_lt {limit depth : Int} (deep : limit < depth) (findings : List Finding) :
    guardDepth (.int limit) (.int depth) findings =
      [.of .depthExceeded [("max_depth", .int limit)]] := by
  rw [guardDepth, Value.exceeds_int, decide_eq_true deep]

@[simp]
theorem conditionFindings_null (limit depth : Value) :
    conditionFindings limit depth .null = [] := by
  rw [conditionFindings, Value.outline, Outline.findings]

/-- An expression below the limit has one finding, whatever its shape. -/
theorem conditionFindings_of_lt {limit depth : Int} (deep : limit < depth) {expression : Value}
    (present : expression ≠ .null) :
    conditionFindings (.int limit) (.int depth) expression =
      [.of .depthExceeded [("max_depth", .int limit)]] := by
  rw [conditionFindings]
  rcases expression.shape_cases with
    absent | ⟨operator, rules, shape⟩ | ⟨comparison, shape⟩ | shapeless
  · exact absurd absent present
  · rw [shape.outline_eq, Outline.findings, guardDepth_of_lt deep]
  · rw [shape.outline_eq, Outline.findings, guardDepth_of_lt deep]
  · rw [shapeless.outline_eq, Outline.findings, guardDepth_of_lt deep]

section Within

variable {limit depth : Int} (within : depth ≤ limit) {expression : Value}

include within

theorem conditionFindings_group {operator : Value} {rules : List Value}
    (shape : expression.IsGroup operator rules) :
    conditionFindings (.int limit) (.int depth) expression =
      logicalOperatorFindings operator ++
        (if rules.isEmpty then [.of .emptyGroup []]
        else rulesFindings limit (depth + 1) 1 rules) := by
  rw [conditionFindings, shape.outline_eq, Outline.findings, guardDepth_of_le within,
    Value.deeper_int, List.isEmpty_map]
  rfl

theorem conditionFindings_comparison {comparison : Comparison}
    (shape : expression.IsComparison comparison) :
    conditionFindings (.int limit) (.int depth) expression = comparison.findings := by
  rw [conditionFindings, shape.outline_eq, Outline.findings, guardDepth_of_le within]

theorem conditionFindings_shapeless (shapeless : expression.IsShapeless) :
    conditionFindings (.int limit) (.int depth) expression = [.of .structuralError []] := by
  rw [conditionFindings, shapeless.outline_eq, Outline.findings, guardDepth_of_le within]

end Within

/-- An expression is absent, or lies below the limit, or has a shape within it or none. -/
theorem Value.reach_cases (limit depth : Int) (expression : Value) :
    expression = .null ∨ (expression ≠ .null ∧ limit < depth) ∨
      (depth ≤ limit ∧ ((∃ operator rules, expression.IsGroup operator rules) ∨
        (∃ comparison, expression.IsComparison comparison) ∨ expression.IsShapeless)) := by
  rcases expression.shape_cases with absent | shape
  · exact .inl absent
  · right
    by_cases within : depth ≤ limit
    · exact .inr ⟨within, shape⟩
    · left
      refine ⟨?_, by omega⟩
      rcases shape with ⟨operator, rules, shape⟩ | ⟨comparison, shape⟩ | shapeless
      · exact shape.ne_null
      · exact shape.ne_null
      · exact shapeless.present

/-! ## What findings there are -/

/-- A finding that wraps no others and gives every parameter that its English message names. -/
inductive Finding.IsPlain : Finding → Prop
  | of {code : Code} {values : List (String × Value)} (own : code ≠ .ruleError)
      (given : ∀ name ∈ code.template.holes, name ∈ values.map fun entry => Text.ofString entry.1) :
      IsPlain (.of code values)

/-- The names of the parameters decide whether a finding is plain. -/
theorem Finding.isPlain_of {code : Code} {values : List (String × Value)} (names : List String)
    (own : code ≠ .ruleError) (named : values.map (·.1) = names)
    (given : ∀ name ∈ code.template.holes, name ∈ names.map Text.ofString) :
    (Finding.of code values).IsPlain := by
  refine .of own fun name member => ?_
  have listed := given name member
  rw [← named, List.map_map] at listed
  exact listed

theorem Finding.IsPlain.complete {finding : Finding} (plain : finding.IsPlain) :
    finding.Complete := by
  obtain ⟨-, given⟩ := plain
  rename_i code values
  refine .problem fun name member => ?_
  obtain ⟨entry, entryMember, rfl⟩ := List.mem_map.mp (given name member)
  clear given member
  induction values with
  | nil => cases entryMember
  | cons first rest induction =>
      rw [Assoc.has, List.map_cons, Assoc.get?_cons]
      split
      · rfl
      · rename_i differs
        rcases List.mem_cons.mp entryMember with rfl | later
        · exact absurd rfl differs
        · exact induction later

theorem logicalOperatorFindings_plain (operator : Value) :
    ∀ finding ∈ logicalOperatorFindings operator, finding.IsPlain := by
  intro finding member
  rw [logicalOperatorFindings] at member
  split at member
  · cases member
  · obtain rfl := List.mem_singleton.mp member
    exact Finding.isPlain_of ["operator", "valid_operators"] (by decide) rfl (by decide)

theorem Comparison.findings_plain (comparison : Comparison) :
    ∀ finding ∈ comparison.findings, finding.IsPlain := by
  intro finding member
  simp only [findings, List.mem_append] at member
  rcases member with ((field | operator) | value) | valueField
  · rw [fieldFindings] at field
    split at field
    · obtain rfl := List.mem_singleton.mp field
      exact Finding.isPlain_of [] (by decide) rfl (by decide)
    · split at field
      · obtain rfl := List.mem_singleton.mp field
        exact Finding.isPlain_of ["field"] (by decide) rfl (by decide)
      · cases field
  · rw [operatorFindings] at operator
    split at operator
    · obtain rfl := List.mem_singleton.mp operator
      exact Finding.isPlain_of [] (by decide) rfl (by decide)
    · split at operator
      · obtain rfl := List.mem_singleton.mp operator
        exact Finding.isPlain_of ["operator", "valid_operators"] (by decide) rfl (by decide)
      · cases operator
  · rw [valueFindings] at value
    split at value
    · obtain rfl := List.mem_singleton.mp value
      exact Finding.isPlain_of [] (by decide) rfl (by decide)
    · cases value
  · rw [valueFieldFindings] at valueField
    split at valueField
    · obtain rfl := List.mem_singleton.mp valueField
      exact Finding.isPlain_of [] (by decide) rfl (by decide)
    · cases valueField

theorem rulesFindings_eq_ofElements (limit depth : Int) (position : Nat) (rules : List Value) :
    rulesFindings limit depth position rules =
      Finding.ofElements .ruleError position
        (rules.map fun rule => conditionFindings (.int limit) (.int depth) rule) := by
  rw [rulesFindings, Outline.rulesFindings_eq_ofElements, List.map_map]
  rfl

/-- The findings about rules wrap the findings about each rule that has any. -/
theorem mem_rulesFindings_iff (limit depth : Int) (position : Nat) (rules : List Value)
    (finding : Finding) :
    finding ∈ rulesFindings limit depth position rules ↔
      ∃ index rule, rules[index]? = some rule ∧
        conditionFindings (.int limit) (.int depth) rule ≠ [] ∧
        finding = .element .ruleError (position + index)
          (conditionFindings (.int limit) (.int depth) rule) := by
  rw [rulesFindings_eq_ofElements, Finding.mem_ofElements_iff]
  simp only [List.getElem?_map, Option.map_eq_some_iff]
  constructor
  · rintro ⟨index, own, ⟨rule, found, rfl⟩, faulty, same⟩
    exact ⟨index, rule, found, faulty, same⟩
  · rintro ⟨index, rule, found, faulty, same⟩
    exact ⟨index, _, ⟨rule, found, rfl⟩, faulty, same⟩

/-- A finding about an expression is plain, or wraps the findings about a rule of a group within
the limit. -/
theorem conditionFindings_cases {limit depth : Int} {expression : Value} {finding : Finding}
    (member : finding ∈ conditionFindings (.int limit) (.int depth) expression) :
    finding.IsPlain ∨
      depth ≤ limit ∧ ∃ operator rules index rule, expression.IsGroup operator rules ∧
        rules[index]? = some rule ∧
        conditionFindings (.int limit) (.int (depth + 1)) rule ≠ [] ∧
        finding = .element .ruleError (index + 1)
          (conditionFindings (.int limit) (.int (depth + 1)) rule) := by
  rcases expression.reach_cases limit depth with
    rfl | ⟨present, deep⟩ |
    ⟨within, ⟨operator, rules, shape⟩ | ⟨comparison, shape⟩ | shapeless⟩
  · rw [conditionFindings_null] at member
    cases member
  · rw [conditionFindings_of_lt deep present] at member
    obtain rfl := List.mem_singleton.mp member
    exact .inl (Finding.isPlain_of ["max_depth"] (by decide) rfl (by decide))
  · rw [conditionFindings_group within shape] at member
    rcases List.mem_append.mp member with own | below
    · exact .inl (logicalOperatorFindings_plain operator finding own)
    · split at below
      · obtain rfl := List.mem_singleton.mp below
        exact .inl (Finding.isPlain_of [] (by decide) rfl (by decide))
      · obtain ⟨index, rule, found, faulty, rfl⟩ :=
          (mem_rulesFindings_iff limit (depth + 1) 1 rules finding).mp below
        rw [Nat.add_comm 1 index]
        exact .inr ⟨within, operator, rules, index, rule, shape, found, faulty, rfl⟩
  · rw [conditionFindings_comparison within shape] at member
    exact .inl (comparison.findings_plain finding member)
  · rw [conditionFindings_shapeless within shapeless] at member
    obtain rfl := List.mem_singleton.mp member
    exact .inl (Finding.isPlain_of [] (by decide) rfl (by decide))

/-- The findings about a condition expression are complete. -/
theorem conditionFindings_complete (limit depth : Int) (expression : Value) :
    ∀ finding ∈ conditionFindings (.int limit) (.int depth) expression, finding.Complete := by
  induction expression using Value.induction_rules generalizing depth with
  | step expression induction =>
      intro finding member
      rcases conditionFindings_cases member with
        plain | ⟨-, operator, rules, index, rule, shape, found, -, rfl⟩
      · exact plain.complete
      · exact .element (Finding.elementValues_given rfl _)
          (induction operator rules shape rule (List.mem_of_getElem? found) (depth + 1))

/-! ## Reports -/

/-- The issues about an expression at a depth. -/
def conditionIssues (wording : Option Wording) (limit depth : Int) (expression : Value) :
    List Issue :=
  Finding.issues wording (conditionFindings (.int limit) (.int depth) expression)

/-- A check at whole-number depths always ends in the report of its issues. -/
theorem checkCondition_eq_ok {wording : Option Wording} (spoken : Speaks wording)
    (limit depth : Int) (expression : Value) :
    checkCondition wording (.int limit) (.int depth) expression =
      .ok (.ofIssues (conditionIssues wording limit depth expression)) := by
  rw [checkCondition_eq_ofFindings]
  exact Report.ofFindings_of_complete spoken (conditionFindings_complete limit depth expression)

/-- The report is valid exactly if there was nothing to find. -/
theorem ofIssues_conditionIssues_valid_iff (wording : Option Wording) (limit depth : Int)
    (expression : Value) :
    (Report.ofIssues (conditionIssues wording limit depth expression)).valid = true ↔
      conditionFindings (.int limit) (.int depth) expression = [] := by
  rw [Report.ofIssues_valid, List.isEmpty_iff, conditionIssues,
    Finding.issues_eq_nil_iff wording (conditionFindings_complete limit depth expression)]

end Rulebook
