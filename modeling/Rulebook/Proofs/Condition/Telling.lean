import Rulebook.Proofs.Condition.Order

/-!
# Reports tell every defect

What a report holds about the expression itself is known from its findings; what it holds about a
rule is found under the position of the rule.  The induction on the breadcrumb carries both to
every place of the expression.
-/

namespace Rulebook

/-! ## Defects along paths -/

namespace Value

variable {limit depth : Int} {expression : Value} {code : Code}

theorem defectAt_nil_iff :
    expression.DefectAt limit depth [] code ↔ expression.HasDefect limit depth code := by
  constructor
  · rintro ⟨⟨node, place, defect⟩, -⟩
    obtain rfl := (at_nil_iff _ _).mp place
    rw [List.length_nil, Int.ofNat_zero, Int.add_zero] at defect
    exact defect
  · intro defect
    refine ⟨⟨expression, .here expression, ?_⟩, ?_⟩
    · rw [List.length_nil, Int.ofNat_zero, Int.add_zero]
      exact defect
    · intro level below
      exact absurd below (Nat.not_lt_zero level)

/-- A defect below an expression is a defect at or below the rule that the path leads through. -/
theorem defectAt_cons_iff {position : Nat} {path : List Nat} :
    expression.DefectAt limit depth (position :: path) code ↔
      depth ≤ limit ∧ ∃ rule, expression.At [position] rule ∧
        rule.DefectAt limit (depth + 1) path code := by
  have deeper : depth + ((position :: path).length : Int) = depth + 1 + (path.length : Int) := by
    rw [List.length_cons]
    omega
  constructor
  · rintro ⟨⟨node, place, defect⟩, within⟩
    obtain ⟨rule, first, further⟩ := (at_cons_iff _ _ _ _).mp place
    rw [deeper] at defect
    have own := within 0 (Nat.succ_pos _)
    refine ⟨by omega, rule, first, ⟨node, further, defect⟩, ?_⟩
    intro level below
    have lower := within (level + 1) (Nat.succ_lt_succ below)
    omega
  · rintro ⟨own, rule, first, ⟨node, further, defect⟩, within⟩
    refine ⟨⟨node, (at_cons_iff _ _ _ _).mpr ⟨rule, first, further⟩, ?_⟩, ?_⟩
    · rw [deeper]
      exact defect
    · intro level below
      cases level with
      | zero => omega
      | succ level =>
          have lower := within level (Nat.lt_of_succ_lt_succ below)
          omega

end Value

/-! ## Findings and defects below -/

/-- There are findings about an expression exactly if there is a defect at or below it. -/
theorem conditionFindings_ne_nil_iff {limit depth : Int} (reached : depth ≤ limit + 1)
    (expression : Value) :
    conditionFindings (.int limit) (.int depth) expression ≠ [] ↔
      ∃ path code, expression.DefectAt limit depth path code := by
  induction expression using Value.induction_at generalizing depth with
  | step expression induction =>
      have complete := conditionFindings_complete limit depth expression
      rw [ne_eq, ← Finding.issues_eq_nil_iff none complete]
      change conditionIssues none limit depth expression ≠ [] ↔ _
      constructor
      · intro faulty
        obtain ⟨issue, member⟩ := List.exists_mem_of_ne_nil _ faulty
        -- A rule error points further down; every other issue tells a defect right here.
        by_cases coded : issue.code = .ruleError
        · obtain ⟨position, wraps⟩ := exists_position_of_ruleError member coded
          obtain ⟨within, rule, place, below⟩ :=
            (exists_isRuleError_iff none limit depth expression position).mp ⟨issue, member, wraps⟩
          obtain ⟨path, code, defect⟩ :=
            (induction position rule place (by omega)).mp below
          exact ⟨position :: path, code, Value.defectAt_cons_iff.mpr ⟨within, rule, place, defect⟩⟩
        · have has := (Finding.has_issues_iff none issue.code _).mp ⟨issue, member, rfl⟩
          have defect := (has_conditionFindings_iff reached coded expression).mp has
          exact ⟨[], issue.code, Value.defectAt_nil_iff.mpr defect⟩
      · rintro ⟨path, code, defect⟩
        cases path with
        | nil =>
            have own := Value.defectAt_nil_iff.mp defect
            have has := (has_conditionFindings_iff reached own.ne_ruleError expression).mpr own
            obtain ⟨issue, member, -⟩ := (Finding.has_issues_iff none code _).mpr has
            exact List.ne_nil_of_mem member
        | cons position path =>
            obtain ⟨within, rule, place, below⟩ := Value.defectAt_cons_iff.mp defect
            have faulty := (induction position rule place (by omega)).mpr ⟨path, code, below⟩
            obtain ⟨issue, member, -⟩ :=
              (exists_isRuleError_iff none limit depth expression position).mpr
                ⟨within, rule, place, faulty⟩
            exact List.ne_nil_of_mem member

/-! ## One expression -/

/-- An issue about an expression below the limit or without a shape is the only one. -/
theorem conditionIssues_alone (wording : Option Wording) {limit depth : Int}
    (reached : depth ≤ limit + 1) {expression : Value} {issue : Issue}
    (member : issue ∈ conditionIssues wording limit depth expression)
    (coded : issue.code = .depthExceeded ∨ issue.code = .structuralError) :
    conditionIssues wording limit depth expression = [issue] := by
  have other : issue.code ≠ .ruleError := by
    intro wraps
    rw [wraps] at coded
    rcases coded with coded | coded
    · cases coded
    · cases coded
  have single : ∃ only, conditionIssues wording limit depth expression = [only] := by
    have has := (Finding.has_issues_iff wording issue.code _).mp ⟨issue, member, rfl⟩
    have defect := (has_conditionFindings_iff reached other expression).mp has
    rw [conditionIssues]
    rcases coded with exceeded | formless
    · rw [exceeded] at defect
      cases defect with
      | depthExceeded present deep =>
          rw [conditionFindings_of_lt (by omega) present]
          exact ⟨_, rfl⟩
      | comparison _ _ defect => cases defect
    · rw [formless] at defect
      cases defect with
      | structuralError within shapeless =>
          rw [conditionFindings_shapeless within shapeless]
          exact ⟨_, rfl⟩
      | comparison _ _ defect => cases defect
  obtain ⟨only, all⟩ := single
  rw [all] at member
  obtain rfl := List.mem_singleton.mp member
  exact all

/-- The issues about an expression tell its own defects. -/
theorem conditionIssues_tells (wording : Option Wording) {limit depth : Int}
    (reached : depth ≤ limit + 1) (expression : Value) :
    expression.TellsDefects limit depth [] (conditionIssues wording limit depth expression) := by
  have ordered := conditionIssues_pairwise wording limit depth expression
  refine ⟨?located, ?once, ?marked, ?markedOnce, ?numbered, ?alone, ordered⟩
  case located =>
    intro code other
    rw [Value.defectAt_nil_iff, ← has_conditionFindings_iff reached other]
    exact Finding.has_issues_iff wording code _
  case once =>
    intro code other
    exact Issue.once_of_pairwise ordered other
  case marked =>
    intro position
    rw [exists_isRuleError_iff]
    simp only [List.nil_append, Value.defectAt_cons_iff]
    constructor
    · rintro ⟨within, rule, place, faulty⟩
      obtain ⟨further, code, defect⟩ := (conditionFindings_ne_nil_iff (by omega) rule).mp faulty
      exact ⟨further, code, within, rule, place, defect⟩
    · rintro ⟨further, code, within, rule, place, defect⟩
      refine ⟨within, rule, place, ?_⟩
      exact (conditionFindings_ne_nil_iff (by omega) rule).mpr ⟨further, code, defect⟩
  case markedOnce => exact Issue.markedOnce_of_pairwise ordered
  case numbered =>
    intro issue member coded
    exact exists_position_of_ruleError member coded
  case alone =>
    intro issue member coded
    exact conditionIssues_alone wording reached member coded

/-! ## All expressions -/

namespace Value.TellsDefects

variable {limit depth : Int} {expression : Value} {path : List Nat}

/-- What tells the defects of a rule tells those of the expression under the rule. -/
theorem of_rule {rule : Value} {position : Nat} {issues : List Issue} (within : depth ≤ limit)
    (place : expression.At [position] rule)
    (tells : rule.TellsDefects limit (depth + 1) path issues) :
    expression.TellsDefects limit depth (position :: path) issues := by
  have same (further : List Nat) (code : Code) :
      rule.DefectAt limit (depth + 1) further code ↔
        expression.DefectAt limit depth (position :: further) code := by
    rw [defectAt_cons_iff]
    constructor
    · intro defect
      exact ⟨within, rule, place, defect⟩
    · rintro ⟨-, other, again, defect⟩
      obtain rfl := place.unique again
      exact defect
  refine ⟨?located, tells.once, ?marked, tells.markedOnce, tells.numbered, tells.alone,
    tells.ordered⟩
  case located =>
    intro code other
    rw [tells.located code other]
    exact same path code
  case marked =>
    intro number
    rw [tells.marked number]
    simp only [same, List.cons_append]

/-- Where no rule is reached no issue is needed. -/
theorem of_nowhere {position : Nat}
    (nowhere : depth ≤ limit → ∀ rule, ¬expression.At [position] rule) :
    expression.TellsDefects limit depth (position :: path) [] := by
  have sound (further : List Nat) (code : Code) :
      ¬expression.DefectAt limit depth (position :: further) code := by
    intro defect
    obtain ⟨within, rule, place, -⟩ := defectAt_cons_iff.mp defect
    exact nowhere within rule place
  refine ⟨?located, ?once, ?marked, ?markedOnce, ?numbered, ?alone, .nil⟩
  case located =>
    intro code _
    simp [sound path code]
  case once =>
    intro code _
    exact Nat.zero_le 1
  case marked =>
    intro number
    simp [sound]
  case markedOnce =>
    intro number
    exact Nat.zero_le 1
  case numbered =>
    intro issue member
    cases member
  case alone =>
    intro issue member
    cases member

end Value.TellsDefects

/-- Under every breadcrumb stand the issues that tell the defects of the expression there. -/
theorem under_conditionIssues_tells (wording : Option Wording) {limit depth : Int}
    (reached : depth ≤ limit + 1) (expression : Value) (path : List Nat) :
    expression.TellsDefects limit depth path
      (Issue.under path (conditionIssues wording limit depth expression)) := by
  -- Below a group at the limit the induction still needs the first depth beyond it.
  induction path generalizing depth expression with
  | nil => exact conditionIssues_tells wording reached expression
  | cons position path induction =>
      rw [Issue.under]
      by_cases found : depth ≤ limit ∧ ∃ rule, expression.At [position] rule
      · obtain ⟨within, rule, place⟩ := found
        rw [wrapped_conditionIssues_at wording within place]
        exact .of_rule within place (induction (by omega) rule)
      · have nowhere : depth ≤ limit → ∀ rule, ¬expression.At [position] rule :=
          fun within rule place => found ⟨within, rule, place⟩
        rw [wrapped_conditionIssues_eq_nil wording nowhere, Issue.under_nil]
        exact .of_nowhere nowhere

/-- Checking a condition expression ends in a report that tells every defect, at every path, and
nothing else. -/
theorem checkCondition_tells_defects {wording : Option Wording} (spoken : Speaks wording)
    {limit depth : Int} (within : depth ≤ limit) (expression : Value) :
    ∃ report, checkCondition wording (.int limit) (.int depth) expression = .ok report ∧
      ∀ path, expression.TellsDefects limit depth path (Issue.under path report.issues) := by
  refine ⟨_, checkCondition_eq_ok spoken limit depth expression, ?_⟩
  intro path
  exact under_conditionIssues_tells wording (by omega) expression path

/-- A group under an unknown operator, whose second rule is a group of a text. -/
def Value.towering : Value :=
  .mapping [(.text "operator", .text "XOR"), (.text "rules", .list [.null,
    .mapping [(.text "operator", .text "AND"), (.text "rules", .list [.text "x"])]])]

theorem checkCondition_towering_tells :
    Speaks none ∧ (0 : Int) ≤ 1 ∧
      ∃ report, checkCondition none (.int 1) (.int 0) Value.towering = .ok report ∧
        (∃ issue ∈ Issue.under [] report.issues, issue.code = .invalidLogicalOperator) ∧
        ∃ issue ∈ Issue.under [2, 1] report.issues, issue.code = .depthExceeded := by
  have within : (0 : Int) ≤ 1 := by decide
  obtain ⟨report, checked, tells⟩ :=
    checkCondition_tells_defects speaks_none within Value.towering
  have unknown : Value.towering.DefectAt 1 0 [] .invalidLogicalOperator := by
    rw [Value.defectAt_nil_iff]
    refine .invalidLogicalOperator within ⟨rfl, rfl, rfl⟩ ?_
    intro known same
    have word : Text.ofString "XOR" = known.symbol := Value.text.inj same
    revert word
    cases known <;> decide
  have deep : Value.towering.DefectAt 1 0 [2, 1] .depthExceeded := by
    refine ⟨⟨.text "x", .rule ⟨rfl, rfl, rfl⟩ rfl (.rule ⟨rfl, rfl, rfl⟩ rfl (.here _)), ?_⟩, ?_⟩
    · exact .depthExceeded (fun absent => by cases absent) rfl
    · decide
  refine ⟨speaks_none, within, report, checked, ?_, ?_⟩
  · exact ((tells []).located .invalidLogicalOperator (by decide)).mpr unknown
  · exact ((tells [2, 1]).located .depthExceeded (by decide)).mpr deep

end Rulebook
