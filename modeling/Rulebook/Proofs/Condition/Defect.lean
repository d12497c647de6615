import Rulebook.Proofs.Condition.Path
import Rulebook.Proofs.IssueTree

/-!
# Defects and the issues that tell them

What is wrong with one expression is said without regard to the tree it stands in, but for its
depth.  The issues of a report tell exactly these defects, each once, under the breadcrumb of the
place where it is, and those of one place in a fixed order.
-/

namespace Rulebook

/-! ## Defects -/

/-- A defect of a comparison, by the code that reports it. -/
inductive Comparison.HasDefect (comparison : Comparison) : Code → Prop
  | fieldRequired (missing : ∀ path, comparison.field = .text path → path = []) :
      HasDefect comparison .fieldRequired
  | invalidFieldPath {path : Text} (given : comparison.field = .text path) (filled : path ≠ [])
      (malformed : path ∉ FieldPath.pattern.matches') : HasDefect comparison .invalidFieldPath
  | operatorRequired (missing : comparison.operator.truthy = false) :
      HasDefect comparison .operatorRequired
  | invalidComparisonOperator (given : comparison.operator.truthy = true)
      (unknown : ∀ known : ComparisonOperator, comparison.operator ≠ .text known.symbol) :
      HasDefect comparison .invalidComparisonOperator
  | valueRequired (noValue : comparison.value = none)
      (noField : comparison.valueField.truthy = false)
      (needed : comparison.operator.needsNoValue = false) : HasDefect comparison .valueRequired
  | valueFieldMustBeText (given : comparison.valueField.truthy = true)
      (noText : ∀ name, comparison.valueField ≠ .text name) :
      HasDefect comparison .valueFieldMustBeText

/-- A defect of an expression itself at a depth, by the code that reports it.  Below the limit
there is but one, and so there is for an expression without a shape. -/
inductive Value.HasDefect (limit depth : Int) (expression : Value) : Code → Prop
  | depthExceeded (present : expression ≠ .null) (deep : depth = limit + 1) :
      HasDefect limit depth expression .depthExceeded
  | structuralError (within : depth ≤ limit) (shapeless : expression.IsShapeless) :
      HasDefect limit depth expression .structuralError
  | invalidLogicalOperator {operator : Value} {rules : List Value} (within : depth ≤ limit)
      (shape : expression.IsGroup operator rules)
      (unknown : ∀ known : LogicalOperator, operator ≠ .text known.symbol) :
      HasDefect limit depth expression .invalidLogicalOperator
  | emptyGroup {operator : Value} (within : depth ≤ limit)
      (shape : expression.IsGroup operator []) : HasDefect limit depth expression .emptyGroup
  | comparison {comparison : Comparison} {code : Code} (within : depth ≤ limit)
      (shape : expression.IsComparison comparison) (defect : comparison.HasDefect code) :
      HasDefect limit depth expression code

/-- A defect of the expression at a path, all groups above which lie within the limit. -/
structure Value.DefectAt (limit depth : Int) (expression : Value) (path : List Nat)
    (code : Code) : Prop where
  found : ∃ node, expression.At path node ∧
    node.HasDefect limit (depth + (path.length : Int)) code
  within : ∀ level < path.length, depth + (level : Int) ≤ limit

/-! ## Order of reporting -/

/-- The rank of a code among those of the issues of one expression. -/
def Code.rank : Code → Nat
  | .invalidLogicalOperator | .fieldRequired | .invalidFieldPath => 0
  | .emptyGroup | .ruleError | .operatorRequired | .invalidComparisonOperator => 1
  | .valueRequired => 2
  | .valueFieldMustBeText => 3
  | _ => 0

/-- One issue comes before another: it is of a lower rank, or wraps the issues of an earlier
rule. -/
inductive Issue.Precedes (first second : Issue) : Prop
  | rank (lower : first.code.rank < second.code.rank) : Precedes first second
  | position {earlier later : Nat} (left : first.isRuleError earlier = true)
      (right : second.isRuleError later = true) (order : earlier < later) :
      Precedes first second

/-- The issues under a breadcrumb tell the defects of the expression at that path. -/
structure Value.TellsDefects (limit depth : Int) (expression : Value) (path : List Nat)
    (issues : List Issue) : Prop where
  /-- A code is reported exactly for a defect that is there. -/
  located : ∀ code, code ≠ .ruleError →
    ((∃ issue ∈ issues, issue.code = code) ↔ expression.DefectAt limit depth path code)
  /-- No code is reported twice. -/
  once : ∀ code, code ≠ .ruleError → (issues.filter (·.code = code)).length ≤ 1
  /-- A rule is reported exactly if there is a defect at or below it. -/
  marked : ∀ position, (∃ issue ∈ issues, issue.isRuleError position = true) ↔
    ∃ further code, expression.DefectAt limit depth (path ++ position :: further) code
  /-- No rule is reported twice. -/
  markedOnce : ∀ position, (issues.filter (·.isRuleError position)).length ≤ 1
  /-- Every rule error gives the position of a rule. -/
  numbered : ∀ issue ∈ issues, issue.code = .ruleError →
    ∃ position, issue.isRuleError position = true
  /-- An expression below the limit or without a shape has no other issue. -/
  alone : ∀ issue ∈ issues, issue.code = .depthExceeded ∨ issue.code = .structuralError →
    issues = [issue]
  /-- The issues stand in the order of reporting. -/
  ordered : issues.Pairwise Issue.Precedes

/-! ## Defects along shapes -/

namespace Value

theorem not_hasDefect_null (limit depth : Int) (code : Code) :
    ¬HasDefect limit depth .null code := by
  intro defect
  cases defect with
  | depthExceeded present _ => exact present rfl
  | structuralError _ shapeless => exact shapeless.present rfl
  | invalidLogicalOperator _ shape _ => exact shape.ne_null rfl
  | emptyGroup _ shape => exact shape.ne_null rfl
  | comparison _ shape _ => exact shape.ne_null rfl

theorem hasDefect_deep_iff {limit depth : Int} (deep : depth = limit + 1) {expression : Value}
    (present : expression ≠ .null) (code : Code) :
    expression.HasDefect limit depth code ↔ code = .depthExceeded := by
  constructor
  · intro defect
    cases defect with
    | depthExceeded => rfl
    | structuralError within _ => omega
    | invalidLogicalOperator within _ _ => omega
    | emptyGroup within _ => omega
    | comparison within _ _ => omega
  · rintro rfl
    exact .depthExceeded present deep

section Within

variable {limit depth : Int} (within : depth ≤ limit) {expression : Value}

include within

theorem IsGroup.hasDefect_iff {operator : Value} {rules : List Value}
    (shape : expression.IsGroup operator rules) (code : Code) :
    expression.HasDefect limit depth code ↔
      (code = .invalidLogicalOperator ∧
          ∀ known : LogicalOperator, operator ≠ .text known.symbol) ∨
        (code = .emptyGroup ∧ rules = []) := by
  constructor
  · intro defect
    cases defect with
    | depthExceeded _ deep => omega
    | structuralError _ shapeless => exact absurd shape (shapeless.noGroup operator rules)
    | invalidLogicalOperator _ again unknown =>
        obtain ⟨rfl, rfl⟩ := shape.unique again
        exact .inl ⟨rfl, unknown⟩
    | emptyGroup _ again =>
        obtain ⟨rfl, rfl⟩ := shape.unique again
        exact .inr ⟨rfl, rfl⟩
    | comparison _ again _ => exact absurd shape (again.not_isGroup operator rules)
  · rintro (⟨rfl, unknown⟩ | ⟨rfl, rfl⟩)
    · exact .invalidLogicalOperator within shape unknown
    · exact .emptyGroup within shape

theorem IsComparison.hasDefect_iff {comparison : Comparison}
    (shape : expression.IsComparison comparison) (code : Code) :
    expression.HasDefect limit depth code ↔ comparison.HasDefect code := by
  constructor
  · intro defect
    cases defect with
    | depthExceeded _ deep => omega
    | structuralError _ shapeless => exact absurd shape (shapeless.noComparison comparison)
    | invalidLogicalOperator _ again _ => exact absurd again (shape.not_isGroup _ _)
    | emptyGroup _ again => exact absurd again (shape.not_isGroup _ _)
    | comparison _ again defect =>
        obtain rfl := shape.unique again
        exact defect
  · exact .comparison within shape

theorem IsShapeless.hasDefect_iff (shapeless : expression.IsShapeless) (code : Code) :
    expression.HasDefect limit depth code ↔ code = .structuralError := by
  constructor
  · intro defect
    cases defect with
    | depthExceeded _ deep => omega
    | structuralError => rfl
    | invalidLogicalOperator _ shape _ => exact absurd shape (shapeless.noGroup _ _)
    | emptyGroup _ shape => exact absurd shape (shapeless.noGroup _ _)
    | comparison _ shape _ => exact absurd shape (shapeless.noComparison _)
  · rintro rfl
    exact .structuralError within shapeless

end Within

theorem HasDefect.ne_ruleError {limit depth : Int} {expression : Value} {code : Code}
    (defect : expression.HasDefect limit depth code) : code ≠ .ruleError := by
  rintro rfl
  cases defect with
  | comparison _ _ defect => cases defect

end Value

end Rulebook
