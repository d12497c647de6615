import Rulebook.Proofs.Condition.Defect

/-!
# Findings as defects

The findings about an expression itself are its defects.  The findings about the rules of a group
become rule errors, and under the position of a rule the issues about that rule are found again.
-/

namespace Rulebook

/-! ## Findings and defects of one expression -/

theorem has_logicalOperatorFindings_iff (operator : Value) (code : Code) :
    Finding.Has code (logicalOperatorFindings operator) ↔
      code = .invalidLogicalOperator ∧
        ∀ known : LogicalOperator, operator ≠ .text known.symbol := by
  have unknown : (∀ known : LogicalOperator, operator ≠ .text known.symbol) ↔
      ¬operator.isOneOf LogicalOperator.symbols = true := by
    rw [LogicalOperator.isOneOf_symbols_iff, not_exists]
  rw [unknown, logicalOperatorFindings]
  split
  · rename_i known
    simp [known]
  · rename_i strange
    simp [strange]

namespace Comparison

theorem has_fieldFindings_iff (comparison : Comparison) (code : Code) :
    Finding.Has code comparison.fieldFindings ↔
      (code = .fieldRequired ∧ ∀ path, comparison.field = .text path → path = []) ∨
        (code = .invalidFieldPath ∧ ∃ path, comparison.field = .text path ∧ path ≠ [] ∧
          path ∉ FieldPath.pattern.matches') := by
  simp only [← FieldPath.isValid_iff_mem_matches]
  rw [fieldFindings]
  cases comparison.field with
  | text path =>
      cases path with
      | nil => simp [Value.isFilledText]
      | cons head tail =>
          cases valid : FieldPath.isValid (head :: tail) <;>
            simp [Value.isFilledText, Value.isFieldPath, valid]
  | _ => simp [Value.isFilledText]

theorem has_operatorFindings_iff (comparison : Comparison) (code : Code) :
    Finding.Has code comparison.operatorFindings ↔
      (code = .operatorRequired ∧ comparison.operator.truthy = false) ∨
        (code = .invalidComparisonOperator ∧ comparison.operator.truthy = true ∧
          ∀ known : ComparisonOperator, comparison.operator ≠ .text known.symbol) := by
  have unknown : (∀ known : ComparisonOperator, comparison.operator ≠ .text known.symbol) ↔
      ¬comparison.operator.isOneOf ComparisonOperator.symbols = true := by
    rw [ComparisonOperator.isOneOf_symbols_iff, not_exists]
  rw [unknown, operatorFindings]
  cases comparison.operator.truthy <;>
    cases comparison.operator.isOneOf ComparisonOperator.symbols <;> simp

theorem has_valueFindings_iff (comparison : Comparison) (code : Code) :
    Finding.Has code comparison.valueFindings ↔
      code = .valueRequired ∧ comparison.value = none ∧
        comparison.valueField.truthy = false ∧ comparison.operator.needsNoValue = false := by
  rw [valueFindings]
  cases comparison.value <;> cases comparison.valueField.truthy <;>
    cases comparison.operator.needsNoValue <;> simp

theorem has_valueFieldFindings_iff (comparison : Comparison) (code : Code) :
    Finding.Has code comparison.valueFieldFindings ↔
      code = .valueFieldMustBeText ∧ comparison.valueField.truthy = true ∧
        ∀ name, comparison.valueField ≠ .text name := by
  rw [valueFieldFindings]
  cases given : comparison.valueField.truthy with
  | false => simp
  | true => cases comparison.valueField <;> simp [Value.text?]

/-- The findings about a comparison are its defects. -/
theorem has_findings_iff (comparison : Comparison) (code : Code) :
    Finding.Has code comparison.findings ↔ comparison.HasDefect code := by
  rw [findings, Finding.has_append_iff, Finding.has_append_iff, Finding.has_append_iff,
    has_fieldFindings_iff, has_operatorFindings_iff, has_valueFindings_iff,
    has_valueFieldFindings_iff]
  constructor
  · rintro ((((⟨rfl, missing⟩ | ⟨rfl, path, given, filled, malformed⟩) |
      (⟨rfl, missing⟩ | ⟨rfl, given, unknown⟩)) | ⟨rfl, noValue, noField, needed⟩) |
      ⟨rfl, given, noText⟩)
    · exact .fieldRequired missing
    · exact .invalidFieldPath given filled malformed
    · exact .operatorRequired missing
    · exact .invalidComparisonOperator given unknown
    · exact .valueRequired noValue noField needed
    · exact .valueFieldMustBeText given noText
  · intro defect
    cases defect with
    | fieldRequired missing => exact .inl (.inl (.inl (.inl ⟨rfl, missing⟩)))
    | invalidFieldPath given filled malformed =>
        exact .inl (.inl (.inl (.inr ⟨rfl, _, given, filled, malformed⟩)))
    | operatorRequired missing => exact .inl (.inl (.inr (.inl ⟨rfl, missing⟩)))
    | invalidComparisonOperator given unknown =>
        exact .inl (.inl (.inr (.inr ⟨rfl, given, unknown⟩)))
    | valueRequired noValue noField needed => exact .inl (.inr ⟨rfl, noValue, noField, needed⟩)
    | valueFieldMustBeText given noText => exact .inr ⟨rfl, given, noText⟩

end Comparison

theorem not_has_rulesFindings {code : Code} (other : code ≠ .ruleError) (limit depth : Int)
    (position : Nat) (rules : List Value) :
    ¬Finding.Has code (rulesFindings limit depth position rules) := by
  rintro ⟨finding, member, coded⟩
  obtain ⟨index, rule, -, -, rfl⟩ :=
    (mem_rulesFindings_iff limit depth position rules finding).mp member
  exact other (Option.some.inj coded).symm

/-- The findings about an expression that are no rule errors are its own defects. -/
theorem has_conditionFindings_iff {limit depth : Int} (reached : depth ≤ limit + 1)
    {code : Code} (other : code ≠ .ruleError) (expression : Value) :
    Finding.Has code (conditionFindings (.int limit) (.int depth) expression) ↔
      expression.HasDefect limit depth code := by
  rcases expression.reach_cases limit depth with
    rfl | ⟨present, deep⟩ |
    ⟨within, ⟨operator, rules, shape⟩ | ⟨comparison, shape⟩ | shapeless⟩
  · rw [conditionFindings_null]
    simp [Value.not_hasDefect_null]
  · rw [conditionFindings_of_lt deep present, Finding.has_of_iff,
      Value.hasDefect_deep_iff (by omega) present]
  · rw [conditionFindings_group within shape, Finding.has_append_iff,
      has_logicalOperatorFindings_iff, shape.hasDefect_iff within]
    cases rules with
    | nil => simp
    | cons rule rest => simp [not_has_rulesFindings other]
  · rw [conditionFindings_comparison within shape, comparison.has_findings_iff,
      shape.hasDefect_iff within]
  · rw [conditionFindings_shapeless within shapeless, Finding.has_of_iff,
      shapeless.hasDefect_iff within]

/-! ## Rule errors -/

section Rules

variable (wording : Option Wording) (limit depth : Int)

theorem mem_issues_rulesFindings_iff (position : Nat) (rules : List Value) (issue : Issue) :
    issue ∈ Finding.issues wording (rulesFindings limit depth position rules) ↔
      ∃ index rule, rules[index]? = some rule ∧
        conditionFindings (.int limit) (.int depth) rule ≠ [] ∧
        issue = Finding.elementIssue wording .ruleError (position + index)
          (conditionFindings (.int limit) (.int depth) rule) := by
  rw [Finding.mem_issues_iff]
  constructor
  · rintro ⟨finding, member, stands⟩
    obtain ⟨index, rule, found, faulty, rfl⟩ :=
      (mem_rulesFindings_iff limit depth position rules finding).mp member
    rw [Finding.issue?_element] at stands
    exact ⟨index, rule, found, faulty, (Option.some.inj stands).symm⟩
  · rintro ⟨index, rule, found, faulty, rfl⟩
    refine ⟨_, (mem_rulesFindings_iff limit depth position rules _).mpr
      ⟨index, rule, found, faulty, rfl⟩, ?_⟩
    rw [Finding.issue?_element]

/-- Before the position of the first rule stands nothing. -/
theorem wrapped_rulesFindings_of_lt {position other : Nat} (before : other < position)
    (rules : List Value) :
    Issue.wrapped other (Finding.issues wording (rulesFindings limit depth position rules)) =
      [] := by
  induction rules generalizing position with
  | nil => simp
  | cons rule rest induction =>
      rw [rulesFindings_cons, Finding.issues_append, Issue.wrapped_append,
        Finding.wrapped_ofElement, if_neg (by omega), induction (by omega), List.nil_append]

/-- Under the position of a rule stand the issues of that rule. -/
theorem wrapped_rulesFindings (position : Nat) {index : Nat} {rules : List Value} {rule : Value}
    (found : rules[index]? = some rule) :
    Issue.wrapped (position + index)
        (Finding.issues wording (rulesFindings limit depth position rules)) =
      conditionIssues wording limit depth rule := by
  induction rules generalizing position index with
  | nil => cases found
  | cons first rest induction =>
      rw [rulesFindings_cons, Finding.issues_append, Issue.wrapped_append,
        Finding.wrapped_ofElement]
      cases index with
      | zero =>
          cases found
          rw [wrapped_rulesFindings_of_lt wording limit depth (by omega), List.append_nil,
            Nat.add_zero, if_pos rfl]
          rfl
      | succ index =>
          have further := induction (position + 1) found
          rw [show position + (index + 1) = position + 1 + index by omega, further,
            if_neg (by omega), List.nil_append]

end Rules

/-! ## Rules of an expression -/

/-- An issue about an expression is no rule error and wraps nothing, or it wraps the issues about a
rule of the expression, which lies within the limit. -/
theorem conditionIssues_cases {wording : Option Wording} {limit depth : Int} {expression : Value}
    {issue : Issue} (member : issue ∈ conditionIssues wording limit depth expression) :
    (issue.code ≠ .ruleError ∧ issue.nested = []) ∨
      depth ≤ limit ∧ ∃ position rule, expression.At [position] rule ∧
        conditionFindings (.int limit) (.int (depth + 1)) rule ≠ [] ∧
        issue = Finding.elementIssue wording .ruleError position
          (conditionFindings (.int limit) (.int (depth + 1)) rule) := by
  obtain ⟨finding, findingMember, stands⟩ := (Finding.mem_issues_iff _ _ _).mp member
  rcases conditionFindings_cases findingMember with
    plain | ⟨within, operator, rules, index, rule, shape, found, faulty, rfl⟩
  · left
    obtain ⟨own, -⟩ := plain
    rw [Finding.of, Finding.issue?] at stands
    cases stands
    exact ⟨own, rfl⟩
  · right
    rw [Finding.issue?_element] at stands
    cases stands
    exact ⟨within, index + 1, rule, .rule shape found (.here rule), faulty, rfl⟩

/-- Every rule error about an expression gives the position of a rule. -/
theorem exists_position_of_ruleError {wording : Option Wording} {limit depth : Int}
    {expression : Value} {issue : Issue}
    (member : issue ∈ conditionIssues wording limit depth expression)
    (coded : issue.code = .ruleError) : ∃ position, issue.isRuleError position = true := by
  rcases conditionIssues_cases member with ⟨own, -⟩ | ⟨-, position, rule, -, -, rfl⟩
  · exact absurd coded own
  · exact ⟨position, (Finding.elementIssue_isRuleError_iff _ _ _ _).mpr rfl⟩

/-- The rule errors about an expression stand for the rules about which there are findings. -/
theorem exists_isRuleError_iff (wording : Option Wording) (limit depth : Int)
    (expression : Value) (position : Nat) :
    (∃ issue ∈ conditionIssues wording limit depth expression,
        issue.isRuleError position = true) ↔
      depth ≤ limit ∧ ∃ rule, expression.At [position] rule ∧
        conditionFindings (.int limit) (.int (depth + 1)) rule ≠ [] := by
  constructor
  · rintro ⟨issue, member, wraps⟩
    rcases conditionIssues_cases member with ⟨own, -⟩ | ⟨within, other, rule, place, faulty, rfl⟩
    · exact absurd (Issue.code_of_isRuleError wraps) own
    · obtain rfl := (Finding.elementIssue_isRuleError_iff _ _ _ _).mp wraps
      exact ⟨within, rule, place, faulty⟩
  · rintro ⟨within, rule, place, faulty⟩
    cases place with
    | rule shape found here =>
        obtain rfl := (Value.at_nil_iff _ _).mp here
        rename_i operator rules index
        refine ⟨Finding.elementIssue wording .ruleError (1 + index)
          (conditionFindings (.int limit) (.int (depth + 1)) rule), ?_, ?_⟩
        · have filled : rules.isEmpty = false := by
            cases rules with
            | nil => cases found
            | cons first rest => rfl
          rw [conditionIssues, conditionFindings_group within shape, filled,
            Finding.issues_append]
          apply List.mem_append_right
          rw [if_neg Bool.false_ne_true, mem_issues_rulesFindings_iff]
          exact ⟨index, rule, found, faulty, rfl⟩
        · rw [Finding.elementIssue_isRuleError_iff]
          omega

/-- Under a position where there is no rule, or below the limit, stands nothing. -/
theorem wrapped_conditionIssues_eq_nil (wording : Option Wording) {limit depth : Int}
    {expression : Value} {position : Nat}
    (nowhere : depth ≤ limit → ∀ rule, ¬expression.At [position] rule) :
    Issue.wrapped position (conditionIssues wording limit depth expression) = [] := by
  apply Issue.wrapped_eq_nil
  intro issue member wraps
  obtain ⟨within, rule, place, -⟩ :=
    (exists_isRuleError_iff wording limit depth expression position).mp ⟨issue, member, wraps⟩
  exact nowhere within rule place

/-- Under the position of a rule of an expression within the limit stand the issues of the rule. -/
theorem wrapped_conditionIssues_at (wording : Option Wording) {limit depth : Int}
    (within : depth ≤ limit) {expression rule : Value} {position : Nat}
    (place : expression.At [position] rule) :
    Issue.wrapped position (conditionIssues wording limit depth expression) =
      conditionIssues wording limit (depth + 1) rule := by
  cases place with
  | rule shape found here =>
      obtain rfl := (Value.at_nil_iff _ _).mp here
      rename_i operator rules index
      have own : Issue.wrapped (index + 1)
          (Finding.issues wording (logicalOperatorFindings operator)) = [] := by
        apply Issue.wrapped_eq_nil
        intro issue member wraps
        have has := (Finding.has_issues_iff wording .ruleError _).mp
          ⟨issue, member, Issue.code_of_isRuleError wraps⟩
        obtain ⟨coded, -⟩ := (has_logicalOperatorFindings_iff operator .ruleError).mp has
        cases coded
      have filled : rules.isEmpty = false := by
        cases rules with
        | nil => cases found
        | cons first rest => rfl
      rw [conditionIssues, conditionFindings_group within shape, filled, Finding.issues_append,
        Issue.wrapped_append, own, List.nil_append, if_neg Bool.false_ne_true, Nat.add_comm,
        wrapped_rulesFindings wording limit (depth + 1) 1 found]

end Rulebook
