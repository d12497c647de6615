import Rulebook.Condition.Guard
import Rulebook.Proofs.Condition.Located
import Rulebook.Proofs.Raw

/-!
# Checking what the guard admits

The guard descends every list of rules of a mapping and counts absent rules too, so it sees at
least the levels that the check sees.  An expression of few enough levels is checked alike under
every limit that leaves room for them.
-/

namespace Rulebook

/-! ## Levels -/

/-- A raw expression that fits into levels has no more of them. -/
theorem Value.levels_le_of_fitsLevels {levels : Nat} {expression : Value}
    (raw : expression.IsRaw) (fits : expression.fitsLevels levels = true) :
    expression.levels ≤ levels := by
  induction levels generalizing expression with
  | zero =>
      rw [fitsLevels] at fits
      cases fits
  | succ levels induction =>
      rcases expression.shape_cases with
        rfl | ⟨operator, rules, shape⟩ | ⟨comparison, shape⟩ | shapeless
      · rw [levels_null]
        exact Nat.zero_le _
      · rw [shape.levels_le_iff]
        intro rule member
        -- The guard asks for a list of rules only, so it descends every group.
        have listed : expression.rules? = some rules := by
          obtain ⟨judged, -, hasRules⟩ := shape
          obtain rfl := raw.eq_mapping judged
          rw [rules?]
          exact (Entries.getD_eq_list_iff _ _ _).mpr hasRules
        rw [fitsLevels, listed] at fits
        have each := (Bool.and_eq_true_iff.mp fits).2
        rw [List.all_eq_true] at each
        exact induction (raw.rules shape rule member) (each rule member)
      · rw [shape.levels_eq]
        exact Nat.succ_pos levels
      · rw [shapeless.levels_eq]
        exact Nat.succ_pos levels

/-- A rule has fewer levels than the expression that holds it. -/
theorem Value.At.levels_lt {expression rule : Value} {position : Nat}
    (place : expression.At [position] rule) : rule.levels < expression.levels := by
  cases place with
  | rule shape found here =>
      obtain rfl := (at_nil_iff _ _).mp here
      have own := levels_pos shape.ne_null
      have all := (shape.levels_le_iff (expression.levels - 1)).mp (by omega)
      have low := all rule (List.mem_of_getElem? found)
      omega

/-! ## Room for all levels -/

theorem rulesFindings_congr {limit other depth : Int} {rules : List Value}
    (same : ∀ rule ∈ rules, conditionFindings (.int limit) (.int depth) rule =
      conditionFindings (.int other) (.int depth) rule) (position : Nat) :
    rulesFindings limit depth position rules = rulesFindings other depth position rules := by
  induction rules generalizing position with
  | nil => rw [rulesFindings_nil, rulesFindings_nil]
  | cons rule rest induction =>
      rw [List.forall_mem_cons] at same
      rw [rulesFindings_cons, rulesFindings_cons, same.1, induction same.2]

/-- Limits that leave room for all levels of an expression lead to the same findings. -/
theorem conditionFindings_congr {limit other depth : Int} {expression : Value}
    (room : depth + expression.levels ≤ limit + 1)
    (otherRoom : depth + expression.levels ≤ other + 1) :
    conditionFindings (.int limit) (.int depth) expression =
      conditionFindings (.int other) (.int depth) expression := by
  induction expression using Value.shape_induction generalizing depth with
  | null => rw [conditionFindings_null, conditionFindings_null]
  | group expression operator rules shape induction =>
      have own := Value.levels_pos shape.ne_null
      have rulesLevels := (shape.levels_le_iff (expression.levels - 1)).mp (by omega)
      rw [conditionFindings_group (by omega) shape, conditionFindings_group (by omega) shape]
      have same : ∀ rule ∈ rules, conditionFindings (.int limit) (.int (depth + 1)) rule =
          conditionFindings (.int other) (.int (depth + 1)) rule := by
        intro rule member
        have low := rulesLevels rule member
        exact induction rule member (by omega) (by omega)
      rw [rulesFindings_congr same]
  | comparison expression comparison shape =>
      rw [shape.levels_eq] at room otherRoom
      rw [conditionFindings_comparison (by omega) shape,
        conditionFindings_comparison (by omega) shape]
  | shapeless expression shapeless =>
      rw [shapeless.levels_eq] at room otherRoom
      rw [conditionFindings_shapeless (by omega) shapeless,
        conditionFindings_shapeless (by omega) shapeless]

/-- Where there is room for all levels, no issue at any level says that the limit is exceeded. -/
theorem code_ne_depthExceeded_of_within {wording : Option Wording} {limit depth : Int}
    {expression : Value} (room : depth + expression.levels ≤ limit + 1) {issue : Issue}
    (inside : Issue.Within issue (conditionIssues wording limit depth expression)) :
    issue.code ≠ .depthExceeded := by
  induction expression using Value.induction_at generalizing depth with
  | step expression induction =>
      cases inside with
      | here member =>
          intro coded
          have has := (Finding.has_issues_iff wording .depthExceeded _).mp ⟨issue, member, coded⟩
          rw [has_conditionFindings_iff (by omega) (by decide)] at has
          cases has with
          | depthExceeded present deep =>
              -- What is there has a level of its own, which lies within the limit.
              have own := Value.levels_pos present
              omega
          | comparison _ _ defect => cases defect
      | nested member inner =>
          rcases conditionIssues_cases member with ⟨-, empty⟩ | ⟨-, position, rule, place, -, rfl⟩
          · rw [empty] at inner
            exact absurd inner (Issue.not_within_nil issue)
          · have lower := place.levels_lt
            exact induction position rule place (by omega) inner

/-! ## Safe expressions -/

section Safe

variable {expression : Value} (raw : expression.IsRaw) (safe : isSafe expression = true)
  {limit : Int} (high : (maxSafeDepth : Int) ≤ limit)

include raw safe high

theorem room_of_isSafe : 0 + (expression.levels : Int) ≤ limit + 1 := by
  have levels := Value.levels_le_of_fitsLevels raw safe
  omega

/-- A safe expression is checked alike under every limit from the ceiling of the guard on. -/
theorem checkCondition_of_isSafe {other : Int} (otherHigh : (maxSafeDepth : Int) ≤ other) :
    checkCondition none (.int limit) (.int 0) expression =
      checkCondition none (.int other) (.int 0) expression := by
  rw [checkCondition_eq_ok speaks_none, checkCondition_eq_ok speaks_none, conditionIssues,
    conditionIssues,
    conditionFindings_congr (room_of_isSafe raw safe high) (room_of_isSafe raw safe otherHigh)]

end Safe

end Rulebook
