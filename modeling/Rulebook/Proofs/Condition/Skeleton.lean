import Rulebook.Proofs.Condition.Ceilings
import Rulebook.Proofs.Condition.Horizon

/-!
# What an expression is judged by

Of a mapping only five entries count, whatever else it holds and in whatever order they stand, and
of one of them, the value that a field is compared with, only that it is there.  The skeleton of an
expression keeps just that, along every list of rules.  The check and the guard find in a skeleton
what they find in the expression, so they tell no two expressions of one skeleton apart.
-/

namespace Rulebook

/-! ## Skeletons -/

namespace Entries

/-- The keys of the entries that count, in the order in which a skeleton has them. -/
def structuralKeys : List Text := ["operator", "rules", "field", "value", "valueField"]

/-- What a skeleton keeps under a key, given what it has under `rules`: of a value to compare with
only that it is there, and otherwise the entry itself. -/
def kept (entries : Entries) (rules : Option Value) (key : Text) : Option Value :=
  if key = "rules" then rules
  else if key = "value" then (entries.get? key).map fun _ => .null
  else entries.get? key

/-- The entry under a key, if there is a value for it. -/
def single (key : Text) : Option Value → Entries
  | some value => [(.text key, value)]
  | none => []

/-- The entries of a mapping that count, given what stands under `rules`. -/
def structural (entries : Entries) (rules : Option Value) : Entries :=
  structuralKeys.flatMap fun key => single key (entries.kept rules key)

end Entries

mutual

/-- The expression with nothing but the structural entries in every mapping that the descent along
lists of rules reaches. -/
def Value.skeleton : Value → Value
  | .mapping entries => .mapping (Entries.structural entries (rulesSkeleton entries))
  | other => other

/-- What stands under `rules`, if anything does, with the skeletons of the rules. -/
def rulesSkeleton : List (Value × Value) → Option Value
  | [] => none
  | (key, value) :: rest =>
      if key.isText "rules" then some value.listSkeleton else rulesSkeleton rest

/-- The value with the skeletons of its elements, if it is a list. -/
def Value.listSkeleton : Value → Value
  | .list elements => .list (skeletons elements)
  | other => other

/-- The skeletons of expressions in order. -/
def skeletons : List Value → List Value
  | [] => []
  | element :: rest => element.skeleton :: skeletons rest

end

theorem skeletons_eq_map (elements : List Value) :
    skeletons elements = elements.map (·.skeleton) := by
  induction elements with
  | nil => rw [skeletons, List.map_nil]
  | cons element rest induction => rw [skeletons, induction, List.map_cons]

theorem rulesSkeleton_eq (entries : Entries) :
    rulesSkeleton entries = (entries.get? "rules").map Value.listSkeleton := by
  induction entries with
  | nil => rw [rulesSkeleton, Entries.get?_nil, Option.map_none]
  | cons entry rest induction =>
      obtain ⟨key, value⟩ := entry
      rw [rulesSkeleton, Entries.get?_cons]
      split
      · rfl
      · exact induction

/-- Only mappings differ from their skeletons. -/
theorem Value.skeleton_cases (expression : Value) :
    (∃ entries, expression = .mapping entries) ∨
      (expression.skeleton = expression ∧ expression.rules? = none) := by
  cases expression with
  | mapping entries => exact .inl ⟨entries, rfl⟩
  | _ => exact .inr ⟨by rw [skeleton]; simp, rfl⟩

/-! ## Entries of a skeleton -/

namespace Entries

theorem get?_single (key name : Text) (value : Option Value) :
    get? name (single key value) = if key = name then value else none := by
  cases value with
  | none => simp [single]
  | some value => simp [single, Value.isText]

theorem get?_flatMap_single (name : Text) (keys : List Text) (values : Text → Option Value) :
    get? name (keys.flatMap fun key => single key (values key)) =
      if keys.contains name then values name else none := by
  induction keys with
  | nil => rfl
  | cons key rest induction =>
      rw [List.flatMap_cons, get?_append, get?_single, induction, List.contains_cons]
      by_cases same : key = name
      · subst same
        cases values key <;> simp
      · simp [same, Ne.symm same]

theorem get?_structural {key : Text} (counts : key ∈ structuralKeys) (entries : Entries)
    (rules : Option Value) : get? key (structural entries rules) = entries.kept rules key := by
  rw [structural, get?_flatMap_single, if_pos (List.contains_iff_mem.mpr counts)]

end Entries

/-- The comparison without the content of its value. -/
def Comparison.blank (comparison : Comparison) : Comparison :=
  { comparison with value := comparison.value.map fun _ => .null }

/-- The form with the skeletons of its rules, or without the content of its value. -/
def Node.skeleton : Node → Node
  | .group operator rules => .group operator (rules.map (·.skeleton))
  | .comparison found => .comparison found.blank

namespace Entries

variable (entries : Entries)

theorem list?_rules_structural :
    (getD "rules" (structural entries (rulesSkeleton entries))).list? =
      (entries.getD "rules").list?.map (·.map (·.skeleton)) := by
  have rules : get? "rules" (structural entries (rulesSkeleton entries)) =
      rulesSkeleton entries := get?_structural (by decide) _ _
  rw [getD, getD, rules, rulesSkeleton_eq]
  cases entries.get? "rules" with
  | none => rfl
  | some value => cases value <;> simp [Value.listSkeleton, Value.list?, skeletons_eq_map]

theorem comparison?_structural (rules : Option Value) :
    (structural entries rules).comparison? = entries.comparison?.map Comparison.blank := by
  have field : get? "field" (structural entries rules) = entries.get? "field" :=
    get?_structural (by decide) _ _
  have operator : get? "operator" (structural entries rules) = entries.get? "operator" :=
    get?_structural (by decide) _ _
  have value : get? "value" (structural entries rules) =
      (entries.get? "value").map fun _ => .null := get?_structural (by decide) _ _
  have valueField : get? "valueField" (structural entries rules) = entries.get? "valueField" :=
    get?_structural (by decide) _ _
  have hasValue : has "value" (structural entries rules) = entries.has "value" := by
    rw [has, has, value, Option.isSome_map]
  have hasValueField : has "valueField" (structural entries rules) = entries.has "valueField" := by
    rw [has, has, valueField]
  rw [comparison?, comparison?, field, operator, value, hasValue, hasValueField, getD, valueField,
    ← getD]
  cases entries.get? "field" with
  | none => rfl
  | some field =>
      cases entries.get? "operator" with
      | none => rfl
      | some operator =>
          simp only [Option.bind_eq_bind, Option.bind_some]
          rw [apply_ite (Option.map Comparison.blank)]
          rfl

theorem node?_structural :
    (structural entries (rulesSkeleton entries)).node? = entries.node?.map Node.skeleton := by
  have operator : get? "operator" (structural entries (rulesSkeleton entries)) =
      entries.get? "operator" := get?_structural (by decide) _ _
  rw [node?, node?, group?, group?, operator, list?_rules_structural, comparison?_structural]
  cases entries.get? "operator" with
  | none => cases entries.comparison? <;> simp [Node.skeleton]
  | some operator =>
      cases (entries.getD "rules").list? with
      | none => cases entries.comparison? <;> simp [Node.skeleton]
      | some rules => simp [Node.skeleton]

end Entries

/-! ## The check -/

/-- Of a value to compare with it is asked only whether it is there. -/
theorem Comparison.findings_blank (comparison : Comparison) :
    comparison.blank.findings = comparison.findings := by
  have value : comparison.blank.valueFindings = comparison.valueFindings := by
    rw [valueFindings, valueFindings, blank, Option.isNone_map]
  rw [findings, findings, value]
  rfl

/-- The check finds in the skeleton of an expression what it finds in the expression. -/
theorem conditionFindings_skeleton (limit depth expression : Value) :
    conditionFindings limit depth expression.skeleton =
      conditionFindings limit depth expression := by
  induction expression using Value.induction_rules generalizing depth with
  | step expression induction =>
      obtain ⟨entries, rfl⟩ | ⟨same, -⟩ := expression.skeleton_cases
      · rw [Value.skeleton, conditionFindings, conditionFindings, outline_mapping, outline_mapping,
          Entries.node?_structural]
        cases formed : Entries.node? entries with
        | none => rfl
        | some form =>
            cases form with
            | group operator rules =>
                have shape : Value.IsGroup (.mapping entries) operator rules :=
                  (Value.node?_eq_group_iff _ _ _).mp formed
                apply Outline.findings_group_congr
                rw [List.map_map, List.map_map, List.map_map]
                apply List.map_congr_left
                intro rule member
                exact induction operator rules shape rule member depth.deeper
            | comparison comparison =>
                simp only [Option.map_some, Node.skeleton, Outline.findings,
                  comparison.findings_blank]
      · rw [same]

/-! ## The guard -/

namespace Value

theorem rules?_skeleton (expression : Value) :
    expression.skeleton.rules? = expression.rules?.map (·.map (·.skeleton)) := by
  obtain ⟨entries, rfl⟩ | ⟨same, leaf⟩ := expression.skeleton_cases
  · rw [skeleton, rules?, rules?, Entries.list?_rules_structural]
  · rw [same, leaf]
    rfl

theorem hasShortField_skeleton (expression : Value) :
    expression.skeleton.hasShortField = expression.hasShortField := by
  obtain ⟨entries, rfl⟩ | ⟨same, -⟩ := expression.skeleton_cases
  · have field : Entries.get? "field" (Entries.structural entries (rulesSkeleton entries)) =
        Entries.get? "field" entries := Entries.get?_structural (by decide) _ _
    rw [skeleton, hasShortField, hasShortField, field]
  · rw [same]

/-- The guard admits the skeleton of an expression exactly if it admits the expression. -/
theorem fitsLevels_skeleton (levels : Nat) (expression : Value) :
    expression.skeleton.fitsLevels levels = expression.fitsLevels levels := by
  induction levels generalizing expression with
  | zero => rw [fitsLevels, fitsLevels]
  | succ levels induction =>
      rw [fitsLevels, fitsLevels, rules?_skeleton, hasShortField_skeleton]
      cases expression.rules? with
      | none => rfl
      | some rules =>
          have each : (rules.map (·.skeleton)).all (fitsLevels levels) =
              rules.all (fitsLevels levels) := by
            rw [List.all_map]
            exact congrArg rules.all (funext induction)
          simp only [Option.map_some, List.length_map, each]

end Value

/-! ## Expressions of one skeleton -/

/-- Expressions of one skeleton have the same report in every wording, at every depth and under
every limit, and the guard answers alike for both. -/
theorem checks_see_skeleton_alone {left right : Value} (same : left.skeleton = right.skeleton) :
    (∀ (wording : Option Wording) (limit depth : Value),
      checkCondition wording limit depth left = checkCondition wording limit depth right) ∧
    (∀ (wording : Option Wording), Speaks wording → ∀ limit depth : Int, ∃ report,
      checkCondition wording (.int limit) (.int depth) left = .ok report ∧
        checkCondition wording (.int limit) (.int depth) right = .ok report) ∧
    isSafe left = isSafe right := by
  have alike (wording : Option Wording) (limit depth : Value) :
      checkCondition wording limit depth left = checkCondition wording limit depth right := by
    rw [checkCondition_eq_ofFindings, checkCondition_eq_ofFindings, ← conditionFindings_skeleton,
      same, conditionFindings_skeleton]
  refine ⟨alike, ?_, ?_⟩
  · intro wording spoken limit depth
    have checked := checkCondition_eq_ok spoken limit depth right
    exact ⟨_, (alike wording _ _).trans checked, checked⟩
  · rw [isSafe, isSafe, ← Value.fitsLevels_skeleton, same, Value.fitsLevels_skeleton]

/-- A group of a comparison and of rules without an operator. -/
def Value.drafted : Value :=
  .mapping [(.text "operator", .text "AND"), (.text "rules", .list [
    .mapping [(.text "field", .text "age"), (.text "operator", .text "="), (.text "value", .int 1)],
    .mapping [(.text "rules", .list [.null, .mapping [(.text "field", .text "sum")]])]])]

/-- The same with remarks, another value, and the entries in another order. -/
def Value.revised : Value :=
  .mapping [(.text "rules", .list [
    .mapping [(.text "value", .list [.double .nan]), (.text "unit", .text "years"),
      (.text "operator", .text "="), (.text "field", .text "age")],
    .mapping [(.int 7, .null),
      (.text "rules", .list [.null,
        .mapping [(.text "Field", .null), (.text "field", .text "sum")]])]]),
    (.text "note", .text "revised"), (.text "operator", .text "AND")]

/-- Both are told that their second rule has no known form, and both are safe. -/
theorem checks_drafted_revised :
    Value.drafted.skeleton = Value.revised.skeleton ∧
      (∃ report, checkCondition none (.int 5) (.int 0) Value.drafted = .ok report ∧
        checkCondition none (.int 5) (.int 0) Value.revised = .ok report ∧
        report.valid = false) ∧
      isSafe Value.drafted = true ∧ isSafe Value.revised = true := by
  have same : Value.drafted.skeleton = Value.revised.skeleton := by
    simp +decide [Value.drafted, Value.revised, Value.skeleton, rulesSkeleton, Value.listSkeleton,
      skeletons, Entries.structural, Entries.structuralKeys, Entries.kept, Entries.single,
      Value.isText]
  obtain ⟨-, returned, safe⟩ := checks_see_skeleton_alone same
  obtain ⟨report, drafted, revised⟩ := returned none speaks_none 5 0
  have invalid : report.valid = false := by
    cases drafted
    rfl
  have given : isSafe Value.drafted = true := rfl
  exact ⟨same, ⟨report, drafted, revised, invalid⟩, given, safe.symm.trans given⟩

end Rulebook
