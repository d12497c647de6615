import Rulebook.Proofs.Condition.Located

/-!
# The order of issues

The findings about an expression come in parts, each of one rank: there is at most one finding in
a part, but for the part of the rules, in which the rule errors follow the order of the rules.
-/

namespace Rulebook

/-- There is at most one of the findings, and it is reported under a code of the rank. -/
structure Finding.AtMostOne (rank : Nat) (findings : List Finding) : Prop where
  single : findings.length ≤ 1
  ranked : ∀ code, Finding.Has code findings → code.rank = rank

namespace Finding.AtMostOne

variable {rank : Nat} {findings : List Finding} (one : AtMostOne rank findings)

include one

theorem pairwise (wording : Option Wording) :
    (issues wording findings).Pairwise Issue.Precedes := by
  have single := one.single
  rw [issues_eq_filterMap]
  match findings, single with
  | [], _ => exact .nil
  | [finding], _ =>
      cases stands : issue? wording finding with
      | none => rw [List.filterMap_cons_none stands]; exact .nil
      | some issue => rw [List.filterMap_cons_some stands]; exact List.pairwise_singleton _ _

theorem rank_eq {wording : Option Wording} {issue : Issue}
    (member : issue ∈ issues wording findings) : issue.code.rank = rank :=
  one.ranked issue.code ((has_issues_iff wording issue.code findings).mp ⟨issue, member, rfl⟩)

end Finding.AtMostOne

/-- Issues of lower ranks may stand before others. -/
theorem Issue.pairwise_append {earlier later : List Issue}
    (left : earlier.Pairwise Issue.Precedes) (right : later.Pairwise Issue.Precedes)
    (lower : ∀ first ∈ earlier, ∀ second ∈ later, first.code.rank < second.code.rank) :
    (earlier ++ later).Pairwise Issue.Precedes := by
  rw [List.pairwise_append]
  exact ⟨left, right, fun first member second other => .rank (lower first member second other)⟩

theorem logicalOperatorFindings_atMostOne (operator : Value) :
    Finding.AtMostOne 0 (logicalOperatorFindings operator) where
  single := by
    rw [logicalOperatorFindings]
    split <;> simp
  ranked code has := by
    obtain ⟨rfl, -⟩ := (has_logicalOperatorFindings_iff operator code).mp has
    rfl

namespace Comparison

variable (comparison : Comparison)

theorem fieldFindings_atMostOne : Finding.AtMostOne 0 comparison.fieldFindings where
  single := by
    rw [fieldFindings]
    split
    · simp
    · split <;> simp
  ranked code has := by
    rcases (comparison.has_fieldFindings_iff code).mp has with ⟨rfl, -⟩ | ⟨rfl, -⟩
    · rfl
    · rfl

theorem operatorFindings_atMostOne : Finding.AtMostOne 1 comparison.operatorFindings where
  single := by
    rw [operatorFindings]
    split
    · simp
    · split <;> simp
  ranked code has := by
    rcases (comparison.has_operatorFindings_iff code).mp has with ⟨rfl, -⟩ | ⟨rfl, -⟩
    · rfl
    · rfl

theorem valueFindings_atMostOne : Finding.AtMostOne 2 comparison.valueFindings where
  single := by
    rw [valueFindings]
    split <;> simp
  ranked code has := by
    obtain ⟨rfl, -⟩ := (comparison.has_valueFindings_iff code).mp has
    rfl

theorem valueFieldFindings_atMostOne : Finding.AtMostOne 3 comparison.valueFieldFindings where
  single := by
    rw [valueFieldFindings]
    split <;> simp
  ranked code has := by
    obtain ⟨rfl, -⟩ := (comparison.has_valueFieldFindings_iff code).mp has
    rfl

/-- The issues about a comparison stand in the order field, operator, value, field to compare
with. -/
theorem issues_pairwise (wording : Option Wording) :
    (Finding.issues wording comparison.findings).Pairwise Issue.Precedes := by
  have field := comparison.fieldFindings_atMostOne
  have operator := comparison.operatorFindings_atMostOne
  have value := comparison.valueFindings_atMostOne
  have valueField := comparison.valueFieldFindings_atMostOne
  rw [findings, Finding.issues_append, Finding.issues_append, Finding.issues_append]
  apply Issue.pairwise_append
  · apply Issue.pairwise_append
    · apply Issue.pairwise_append (field.pairwise wording) (operator.pairwise wording)
      intro first firstMember second secondMember
      rw [field.rank_eq firstMember, operator.rank_eq secondMember]
      exact Nat.lt_succ_self 0
    · exact value.pairwise wording
    · intro first firstMember second secondMember
      rw [value.rank_eq secondMember]
      rcases List.mem_append.mp firstMember with member | member
      · rw [field.rank_eq member]
        exact Nat.succ_pos 1
      · rw [operator.rank_eq member]
        exact Nat.lt_succ_self 1
  · exact valueField.pairwise wording
  · intro first firstMember second secondMember
    rw [valueField.rank_eq secondMember]
    rcases List.mem_append.mp firstMember with earlier | member
    · rcases List.mem_append.mp earlier with member | member
      · rw [field.rank_eq member]
        exact Nat.succ_pos 2
      · rw [operator.rank_eq member]
        exact Nat.succ_lt_succ (Nat.succ_pos 1)
    · rw [value.rank_eq member]
      exact Nat.lt_succ_self 2

end Comparison

/-- The rule errors of a group stand in the order of its rules. -/
theorem rulesFindings_pairwise (wording : Option Wording) (limit depth : Int) (position : Nat)
    (rules : List Value) :
    (Finding.issues wording (rulesFindings limit depth position rules)).Pairwise
      Issue.Precedes := by
  induction rules generalizing position with
  | nil => simp
  | cons rule rest induction =>
      rw [rulesFindings_cons, Finding.issues_append, Finding.issues_ofElement]
      split
      · rw [List.nil_append]
        exact induction (position + 1)
      · rw [List.singleton_append, List.pairwise_cons]
        refine ⟨?_, induction (position + 1)⟩
        intro later member
        obtain ⟨index, other, -, -, rfl⟩ :=
          (mem_issues_rulesFindings_iff wording limit depth (position + 1) rest later).mp member
        have first := (Finding.elementIssue_isRuleError_iff wording position position
          (conditionFindings (.int limit) (.int depth) rule)).mpr rfl
        have second := (Finding.elementIssue_isRuleError_iff wording (position + 1 + index) _
          (conditionFindings (.int limit) (.int depth) other)).mpr rfl
        exact .position first second (by omega)

/-- The issues about an expression stand in the order of reporting. -/
theorem conditionIssues_pairwise (wording : Option Wording) (limit depth : Int)
    (expression : Value) :
    (conditionIssues wording limit depth expression).Pairwise Issue.Precedes := by
  have alone (code : Code) (values : List (String × Value)) :
      (Finding.issues wording [.of code values]).Pairwise Issue.Precedes := by
    have one : Finding.AtMostOne code.rank [.of code values] :=
      ⟨Nat.le_refl 1, fun other has => by rw [(Finding.has_of_iff other code values).mp has]⟩
    exact one.pairwise wording
  rw [conditionIssues]
  rcases expression.reach_cases limit depth with
    rfl | ⟨present, deep⟩ |
    ⟨within, ⟨operator, rules, shape⟩ | ⟨comparison, shape⟩ | shapeless⟩
  · simp
  · rw [conditionFindings_of_lt deep present]
    exact alone .depthExceeded _
  · have operatorPart := logicalOperatorFindings_atMostOne operator
    rw [conditionFindings_group within shape, Finding.issues_append]
    refine Issue.pairwise_append (operatorPart.pairwise wording) ?_ ?_
    · split
      · exact alone .emptyGroup []
      · exact rulesFindings_pairwise wording limit (depth + 1) 1 rules
    · intro first firstMember second secondMember
      rw [operatorPart.rank_eq firstMember]
      split at secondMember
      · have coded := (Finding.has_of_iff second.code .emptyGroup []).mp
          ((Finding.has_issues_iff wording _ _).mp ⟨second, secondMember, rfl⟩)
        rw [coded]
        exact Nat.one_pos
      · obtain ⟨index, rule, -, -, rfl⟩ :=
          (mem_issues_rulesFindings_iff wording limit (depth + 1) 1 rules second).mp
            secondMember
        exact Nat.one_pos
  · rw [conditionFindings_comparison within shape]
    exact comparison.issues_pairwise wording
  · rw [conditionFindings_shapeless within shapeless]
    exact alone .structuralError []

/-! ## Nothing twice -/

/-- Of issues among which none may precede another there is at most one. -/
theorem Issue.length_filter_le_one {issues : List Issue}
    (ordered : issues.Pairwise Issue.Precedes) (chosen : Issue → Bool)
    (apart : ∀ first second, chosen first = true → chosen second = true →
      ¬Issue.Precedes first second) : (issues.filter chosen).length ≤ 1 := by
  have kept := ordered.filter chosen
  match found : issues.filter chosen with
  | [] => exact Nat.zero_le 1
  | [issue] => exact Nat.le_refl 1
  | first :: second :: rest =>
      rw [found, List.pairwise_cons] at kept
      have firstMember : first ∈ issues.filter chosen := by
        rw [found]
        exact List.mem_cons_self
      have secondMember : second ∈ issues.filter chosen := by
        rw [found]
        exact List.mem_cons_of_mem first List.mem_cons_self
      have precedes := kept.1 second List.mem_cons_self
      exact absurd precedes (apart first second (List.mem_filter.mp firstMember).2
        (List.mem_filter.mp secondMember).2)

theorem Issue.once_of_pairwise {issues : List Issue} (ordered : issues.Pairwise Issue.Precedes)
    {code : Code} (other : code ≠ .ruleError) :
    (issues.filter (·.code = code)).length ≤ 1 := by
  apply Issue.length_filter_le_one ordered
  intro first second firstCoded secondCoded precedes
  obtain rfl := of_decide_eq_true firstCoded
  have same := of_decide_eq_true secondCoded
  cases precedes with
  | rank lower =>
      rw [same] at lower
      exact Nat.lt_irrefl _ lower
  | position left _ _ => exact other (Issue.code_of_isRuleError left)

theorem Issue.markedOnce_of_pairwise {issues : List Issue}
    (ordered : issues.Pairwise Issue.Precedes) (position : Nat) :
    (issues.filter (·.isRuleError position)).length ≤ 1 := by
  apply Issue.length_filter_le_one ordered
  intro first second firstWraps secondWraps precedes
  cases precedes with
  | rank lower =>
      rw [Issue.code_of_isRuleError firstWraps, Issue.code_of_isRuleError secondWraps] at lower
      exact Nat.lt_irrefl _ lower
  | position left right order =>
      rw [Issue.isRuleError_unique firstWraps left, Issue.isRuleError_unique secondWraps right]
        at order
      exact Nat.lt_irrefl _ order

end Rulebook
