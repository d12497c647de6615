import Mathlib.Data.List.Forall2
import Rulebook.Proofs.Condition.Located

/-!
# Checking under a shifted limit

The check counts levels but never says at which depth it found something; only an expression below
the limit is told the limit itself.  If the depth and the limit are shifted together, the reports
differ in that number alone and in the messages that pass it on.  So the issues wrapped at any place
of a tree are those of the expression there, checked by itself under a limit of its own.
-/

namespace Rulebook

/-! ## Issues that name the limit -/

namespace Issue

/-- The issue of an expression below the limit. -/
def depthExceeded (limit : Int) : Issue :=
  .mk .depthExceeded
    (Text.ofString "Maximum nesting depth of " ++ (Value.int limit).display ++
      Text.ofString " exceeded")
    [(Text.ofString "max_depth", .int limit)] []

/-- The issue of the rule at a position, which passes on the messages of the issues that it
wraps. -/
def ruleError (position : Nat) (nested : List Issue) : Issue :=
  let errors := Text.join ", " (nested.map (·.message))
  .mk .ruleError
    (Text.ofString "Rule " ++ (Value.int position).display ++ Text.ofString ": " ++ errors)
    [(Text.ofString "index", .int position), (Text.ofString "errors", .text errors)] nested

/-- The issues of the rule at a position, given the issues about it. -/
def ofRule (position : Nat) (nested : List Issue) : List Issue :=
  if nested.isEmpty then [] else [ruleError position nested]

/-- The issues differ only where they name the limit, one naming each limit. -/
inductive DiffersByLimit (limit other : Int) : Issue → Issue → Prop
  /-- An issue that wraps nothing and is about anything else is the same. -/
  | same {issue : Issue} (own : issue.code ≠ .depthExceeded) (alone : issue.nested = []) :
      DiffersByLimit limit other issue issue
  | depthExceeded : DiffersByLimit limit other (depthExceeded limit) (depthExceeded other)
  | ruleError {position : Nat} {left right : List Issue}
      (nested : List.Forall₂ (DiffersByLimit limit other) left right) :
      DiffersByLimit limit other (ruleError position left) (ruleError position right)

end Issue

namespace Finding

theorem issues_depthExceeded (limit : Int) :
    issues none [.of .depthExceeded [("max_depth", .int limit)]] = [.depthExceeded limit] := by
  have message : Code.text none .depthExceeded ⟨[(Text.ofString "max_depth", .int limit)], []⟩ =
      Text.ofString "Maximum nesting depth of " ++ (Value.int limit).display ++
        Text.ofString " exceeded" := by
    rw [List.append_assoc]
    rfl
  rw [issues, issues_nil, Finding.of, issue?, List.map_singleton, message]
  rfl

theorem elementIssue_eq_ruleError (position : Nat) (findings : List Finding) :
    elementIssue none .ruleError position findings =
      .ruleError position (issues none findings) := by
  have message (errors : Text) (nested : List Issue) : Code.text none .ruleError
      ⟨[(Text.ofString "index", .int position), (Text.ofString "errors", .text errors)], nested⟩ =
        Text.ofString "Rule " ++ (Value.int position).display ++ Text.ofString ": " ++ errors := by
    have filled : Code.text none .ruleError
        ⟨[(Text.ofString "index", .int position), (Text.ofString "errors", .text errors)], nested⟩ =
          Text.ofString "Rule " ++ ((Value.int position).display ++
            (Text.ofString ": " ++ ((Value.text errors).display ++ []))) := rfl
    rw [filled, Value.display_text, List.append_nil, List.append_assoc, List.append_assoc]
  rw [Issue.ruleError, ← message]
  rfl

theorem issues_ofElement_eq_ofRule {findings : List Finding}
    (complete : ∀ finding ∈ findings, finding.Complete) (position : Nat) :
    issues none (ofElement .ruleError position findings) =
      Issue.ofRule position (issues none findings) := by
  rw [issues_ofElement, Issue.ofRule, elementIssue_eq_ruleError]
  simp only [List.isEmpty_iff, issues_eq_nil_iff none complete]

end Finding

/-! ## Reports under a shifted limit -/

/-- Two lists of issues differ only where they name the limit. -/
abbrev Issue.EachDiffersByLimit (limit other : Int) : List Issue → List Issue → Prop :=
  List.Forall₂ (DiffersByLimit limit other)

section Shift

variable {limit other : Int}

theorem Issue.EachDiffersByLimit.append {left right before after : List Issue}
    (first : EachDiffersByLimit limit other left before)
    (second : EachDiffersByLimit limit other right after) :
    EachDiffersByLimit limit other (left ++ right) (before ++ after) :=
  List.rel_append first second

theorem Issue.EachDiffersByLimit.ofRule {left right : List Issue}
    (nested : EachDiffersByLimit limit other left right) (position : Nat) :
    EachDiffersByLimit limit other (Issue.ofRule position left) (Issue.ofRule position right) := by
  cases nested with
  | nil => exact .nil
  | cons first rest => exact .cons (.ruleError (.cons first rest)) .nil

/-- Plain findings that are not about the limit stand for the same issues under every limit. -/
theorem Finding.issues_limitless {findings : List Finding}
    (plain : ∀ finding ∈ findings, finding.IsPlain) (own : ¬Has .depthExceeded findings) :
    Issue.EachDiffersByLimit limit other (issues none findings) (issues none findings) := by
  rw [Issue.EachDiffersByLimit, List.forall₂_same]
  intro issue member
  refine .same ?_ ?_
  · intro coded
    exact own ((has_issues_iff none _ _).mp ⟨issue, member, coded⟩)
  · obtain ⟨finding, findingMember, stands⟩ := (mem_issues_iff none findings issue).mp member
    obtain ⟨-, -⟩ := plain finding findingMember
    rw [Finding.of, issue?] at stands
    cases stands
    rfl

theorem Finding.issues_limitless_single {finding : Finding} (plain : finding.IsPlain)
    (own : finding.code? ≠ some .depthExceeded) :
    Issue.EachDiffersByLimit limit other (issues none [finding]) (issues none [finding]) := by
  apply issues_limitless
  · rwa [List.forall_mem_singleton]
  · rintro ⟨_, member, coded⟩
    obtain rfl := List.mem_singleton.mp member
    exact own coded

theorem rulesIssues_shift {depth k : Int} {rules : List Value}
    (each : ∀ rule ∈ rules, Issue.EachDiffersByLimit limit (limit + k)
      (conditionIssues none limit depth rule) (conditionIssues none (limit + k) (depth + k) rule))
    (position : Nat) :
    Issue.EachDiffersByLimit limit (limit + k)
      (Finding.issues none (rulesFindings limit depth position rules))
      (Finding.issues none (rulesFindings (limit + k) (depth + k) position rules)) := by
  induction rules generalizing position with
  | nil =>
      rw [rulesFindings_nil, rulesFindings_nil, Finding.issues_nil]
      exact .nil
  | cons rule rest induction =>
      rw [List.forall_mem_cons] at each
      obtain ⟨first, others⟩ := each
      rw [rulesFindings_cons, rulesFindings_cons, Finding.issues_append, Finding.issues_append,
        Finding.issues_ofElement_eq_ofRule (conditionFindings_complete _ _ _),
        Finding.issues_ofElement_eq_ofRule (conditionFindings_complete _ _ _)]
      exact (first.ofRule position).append (induction others (position + 1))

end Shift

/-- Shifting the depth and the limit together changes nothing but the number of the limit. -/
theorem conditionIssues_shift (limit depth k : Int) (expression : Value) :
    Issue.EachDiffersByLimit limit (limit + k) (conditionIssues none limit depth expression)
      (conditionIssues none (limit + k) (depth + k) expression) := by
  induction expression using Value.induction_rules generalizing depth with
  | step expression induction =>
      rw [conditionIssues, conditionIssues]
      rcases expression.reach_cases limit depth with
        rfl | ⟨present, deep⟩ |
        ⟨within, ⟨operator, rules, shape⟩ | ⟨comparison, shape⟩ | shapeless⟩
      · rw [conditionFindings_null, conditionFindings_null, Finding.issues_nil]
        exact .nil
      · -- Here alone the two checks do not say the same.
        rw [conditionFindings_of_lt deep present, conditionFindings_of_lt (by omega) present,
          Finding.issues_depthExceeded, Finding.issues_depthExceeded]
        exact .cons .depthExceeded .nil
      · rw [conditionFindings_group within shape, conditionFindings_group (by omega) shape,
          Finding.issues_append, Finding.issues_append]
        refine .append (Finding.issues_limitless (logicalOperatorFindings_plain operator) ?_) ?_
        · rw [has_logicalOperatorFindings_iff]
          simp
        · split
          · have plain : (Finding.of .emptyGroup []).IsPlain :=
              Finding.isPlain_of [] (by decide) rfl (by decide)
            exact Finding.issues_limitless_single plain (by decide)
          · have each := fun rule member => induction operator rules shape rule member (depth + 1)
            rw [Int.add_right_comm depth k 1]
            exact rulesIssues_shift each 1
      · rw [conditionFindings_comparison within shape,
          conditionFindings_comparison (by omega) shape]
        refine Finding.issues_limitless comparison.findings_plain ?_
        rw [comparison.has_findings_iff]
        intro defect
        cases defect
      · rw [conditionFindings_shapeless within shapeless,
          conditionFindings_shapeless (by omega) shapeless]
        have plain : (Finding.of .structuralError []).IsPlain :=
          Finding.isPlain_of [] (by decide) rfl (by decide)
        exact Finding.issues_limitless_single plain (by decide)

/-! ## Places by themselves -/

/-- Every group above the end of a path lies within the limit. -/
def ReachesEnd (limit depth : Int) (path : List Nat) : Prop :=
  ∀ level < path.length, depth + (level : Int) ≤ limit

/-- The limit that is left to the end of a path, counted from there. -/
def limitLeft (limit depth : Int) (path : List Nat) : Int := limit - (depth + (path.length : Int))

theorem reachesEnd_nil (limit depth : Int) : ReachesEnd limit depth [] := by
  intro level below
  cases below

theorem reachesEnd_cons_iff (limit depth : Int) (position : Nat) (path : List Nat) :
    ReachesEnd limit depth (position :: path) ↔
      depth ≤ limit ∧ ReachesEnd limit (depth + 1) path := by
  constructor
  · intro reached
    refine ⟨by simpa using reached 0 (Nat.zero_lt_succ _), fun level below => ?_⟩
    have own := reached (level + 1) (Nat.succ_lt_succ below)
    omega
  · rintro ⟨within, further⟩ level below
    cases level with
    | zero => simpa using within
    | succ level =>
        have own := further level (Nat.lt_of_succ_lt_succ below)
        omega

/-- Under the path to an expression that is reached stand the issues about it at its depth. -/
theorem Value.At.under_conditionIssues {wording : Option Wording} {limit depth : Int}
    {expression node : Value} {path : List Nat} (place : expression.At path node)
    (reached : ReachesEnd limit depth path) :
    Issue.under path (conditionIssues wording limit depth expression) =
      conditionIssues wording limit (depth + (path.length : Int)) node := by
  induction place generalizing depth with
  | here => simp [Issue.under]
  | rule shape found further induction =>
      rename_i path
      obtain ⟨within, inside⟩ := (reachesEnd_cons_iff _ _ _ _).mp reached
      have level : depth + 1 + (path.length : Int) = depth + ((path.length + 1 : Nat) : Int) := by
        omega
      rw [Issue.under, wrapped_conditionIssues_at wording within (.rule shape found (.here _)),
        induction inside, List.length_cons, level]

/-- Something stands only under the path to an expression that is reached. -/
theorem exists_at_of_under {wording : Option Wording} {limit depth : Int} {expression : Value}
    {path : List Nat}
    (some : Issue.under path (conditionIssues wording limit depth expression) ≠ []) :
    ∃ node, expression.At path node ∧ ReachesEnd limit depth path := by
  induction path generalizing depth expression with
  | nil => exact ⟨expression, .here expression, reachesEnd_nil limit depth⟩
  | cons position path induction =>
      rw [Issue.under] at some
      by_cases found : depth ≤ limit ∧ ∃ rule, expression.At [position] rule
      · obtain ⟨within, rule, place⟩ := found
        rw [wrapped_conditionIssues_at wording within place] at some
        obtain ⟨node, further, inside⟩ := induction some
        exact ⟨node, (Value.at_cons_iff _ _ _ _).mpr ⟨rule, place, further⟩,
          (reachesEnd_cons_iff _ _ _ _).mpr ⟨within, inside⟩⟩
      · have nowhere : depth ≤ limit → ∀ rule, ¬expression.At [position] rule :=
          fun within rule place => found ⟨within, rule, place⟩
        rw [wrapped_conditionIssues_eq_nil wording nowhere, Issue.under_nil] at some
        exact absurd rfl some

/-! ## Reports -/

/-- The reports differ only where they name the limit. -/
structure Report.DiffersByLimit (limit other : Int) (report shifted : Report) : Prop where
  valid : report.valid = shifted.valid
  issues : Issue.EachDiffersByLimit limit other report.issues shifted.issues
  /-- Both give the messages of their issues. -/
  errors : report.errors = report.issues.map (·.message) ∧
    shifted.errors = shifted.issues.map (·.message)

theorem Issue.EachDiffersByLimit.report {limit other : Int} {left right : List Issue}
    (differ : EachDiffersByLimit limit other left right) :
    Report.DiffersByLimit limit other (.ofIssues left) (.ofIssues right) := by
  refine ⟨?_, differ, rfl, rfl⟩
  cases differ with
  | nil => rfl
  | cons first rest => rfl

/-- Shifting the depth and the limit together changes nothing about a report but the number of the
limit.  So the issues under any breadcrumb are those of the expression there, checked by itself
under the limit that is left to it. -/
theorem checkCondition_shift (limit depth : Int) (expression : Value) :
    ∃ report, checkCondition none (.int limit) (.int depth) expression = .ok report ∧
      (∀ k : Int, ∃ shifted,
        checkCondition none (.int (limit + k)) (.int (depth + k)) expression = .ok shifted ∧
        report.DiffersByLimit limit (limit + k) shifted) ∧
      (∀ path node, expression.At path node → ReachesEnd limit depth path →
        ∃ alone, checkCondition none (.int (limitLeft limit depth path)) (.int 0) node = .ok alone ∧
          Issue.EachDiffersByLimit limit (limitLeft limit depth path)
            (Issue.under path report.issues) alone.issues) ∧
      ∀ path, Issue.under path report.issues ≠ [] →
        ∃ node, expression.At path node ∧ ReachesEnd limit depth path := by
  refine ⟨_, checkCondition_eq_ok speaks_none limit depth expression, ?shifted, ?alone, ?reached⟩
  case shifted =>
    intro k
    exact ⟨_, checkCondition_eq_ok speaks_none _ _ expression,
      (conditionIssues_shift limit depth k expression).report⟩
  case alone =>
    intro path node place reached
    refine ⟨_, checkCondition_eq_ok speaks_none _ 0 node, ?_⟩
    rw [Report.ofIssues_issues, Report.ofIssues_issues, place.under_conditionIssues reached]
    have shifted := conditionIssues_shift limit (depth + (path.length : Int))
      (-(depth + (path.length : Int))) node
    rwa [Int.add_right_neg, ← Int.sub_eq_add_neg, ← limitLeft] at shifted
  case reached =>
    intro path some
    exact exists_at_of_under some

/-- A group within a group, around a text. -/
def Value.enclosing : Value :=
  .mapping [(.text "operator", .text "AND"), (.text "rules", .list [
    .mapping [(.text "operator", .text "OR"), (.text "rules", .list [.text "x"])]])]

/-- The text lies below a limit of one; by itself it lies below the limit that is left to it. -/
theorem checkCondition_enclosing_shift :
    ∃ report, checkCondition none (.int 1) (.int 0) Value.enclosing = .ok report ∧
      (∃ shifted, checkCondition none (.int 8) (.int 7) Value.enclosing = .ok shifted ∧
        report.DiffersByLimit 1 8 shifted) ∧
      ∃ alone, checkCondition none (.int (-1)) (.int 0) (.text "x") = .ok alone ∧
        alone.valid = false ∧
        Issue.EachDiffersByLimit 1 (-1) (Issue.under [1, 1] report.issues) alone.issues := by
  obtain ⟨report, checked, shifts, places, -⟩ := checkCondition_shift 1 0 Value.enclosing
  have place : Value.enclosing.At [1, 1] (.text "x") :=
    .rule ⟨rfl, rfl, rfl⟩ rfl (.rule ⟨rfl, rfl, rfl⟩ rfl (.here _))
  have reached : ReachesEnd 1 0 [1, 1] := by
    rw [reachesEnd_cons_iff, reachesEnd_cons_iff]
    exact ⟨by decide, by decide, reachesEnd_nil _ _⟩
  have deep : conditionFindings (.int (-1)) (.int 0) (.text "x") =
      [.of .depthExceeded [("max_depth", .int (-1))]] :=
    conditionFindings_of_lt (by decide) nofun
  have below : checkCondition none (.int (-1)) (.int 0) (.text "x") =
      .ok (.ofIssues [.depthExceeded (-1)]) := by
    rw [checkCondition_eq_ok speaks_none, conditionIssues, deep, Finding.issues_depthExceeded]
  obtain ⟨alone, checkedAlone, differ⟩ := places _ _ place reached
  cases below.symm.trans checkedAlone
  exact ⟨report, checked, shifts 7, _, below, rfl, differ⟩

end Rulebook
