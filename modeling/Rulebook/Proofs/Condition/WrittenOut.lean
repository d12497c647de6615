import Rulebook.Proofs.Condition.Ceilings

/-!
# Typed conditions before the guard

The check sees a typed condition as its raw form, at whatever level it stands.  The guard descends
mappings only and ends at a typed condition without a look at it, so it admits more than it would
admit if the same expression were written out: exactly the ceilings that lie beyond typed
conditions are not asked for.
-/

namespace Rulebook

/-! ## Expressions written out -/

mutual

/-- The expression with every typed condition that stands for it, or for a rule at any level, in its
raw form. -/
def Value.writtenOut : Value → Value
  | .condition typed => typed.raw
  | .mapping entries => .mapping (writtenOutEntries entries)
  | other => other

/-- The entries of a mapping with the rules in their list written out. -/
def writtenOutEntries : List (Value × Value) → List (Value × Value)
  | [] => []
  | (key, value) :: rest =>
      (key, if key.isText "rules" then value.writtenOutListed else value) ::
        writtenOutEntries rest

/-- The value with its elements written out, if it is a list. -/
def Value.writtenOutListed : Value → Value
  | .list elements => .list (writtenOutElements elements)
  | other => other

/-- The elements written out in order. -/
def writtenOutElements : List Value → List Value
  | [] => []
  | element :: rest => element.writtenOut :: writtenOutElements rest

end

theorem writtenOutElements_eq_map (elements : List Value) :
    writtenOutElements elements = elements.map (·.writtenOut) := by
  induction elements with
  | nil => rw [writtenOutElements, List.map_nil]
  | cons element rest induction => rw [writtenOutElements, induction, List.map_cons]

namespace Entries

theorem get?_rules_writtenOut (entries : Entries) :
    Entries.get? "rules" (writtenOutEntries entries) =
      (entries.get? "rules").map Value.writtenOutListed := by
  induction entries with
  | nil => rw [writtenOutEntries, get?_nil, Option.map_none]
  | cons entry rest induction =>
      obtain ⟨key, value⟩ := entry
      rw [writtenOutEntries, get?_cons, get?_cons]
      by_cases found : key.isText "rules"
      · simp [found]
      · simpa [found] using induction

theorem get?_writtenOut {name : Text} (other : name ≠ "rules") (entries : Entries) :
    Entries.get? name (writtenOutEntries entries) = entries.get? name := by
  induction entries with
  | nil => rw [writtenOutEntries]
  | cons entry rest induction =>
      obtain ⟨key, value⟩ := entry
      have foreign : key.isText name = true → key.isText "rules" = false := by
        intro found
        cases key with
        | text content =>
            have same : content = name := of_decide_eq_true found
            rw [same]
            exact decide_eq_false other
        | _ => cases found
      rw [writtenOutEntries, get?_cons, get?_cons, induction]
      by_cases found : key.isText name
      · simp [found, foreign found]
      · simp [found]

theorem list?_rules_writtenOut (entries : Entries) :
    (Entries.getD "rules" (writtenOutEntries entries)).list? =
      (entries.getD "rules").list?.map (·.map (·.writtenOut)) := by
  rw [getD, getD, get?_rules_writtenOut]
  cases entries.get? "rules" with
  | none => rfl
  | some value =>
      cases value <;> simp [Value.writtenOutListed, Value.list?, writtenOutElements_eq_map]

theorem comparison?_writtenOut (entries : Entries) :
    Entries.comparison? (writtenOutEntries entries) = entries.comparison? := by
  have same (name : Text) (other : name ≠ "rules") := get?_writtenOut other entries
  simp only [comparison?, has, getD, same "field" (by decide), same "operator" (by decide),
    same "value" (by decide), same "valueField" (by decide)]
  rfl

end Entries

namespace Value

/-- An expression is a typed condition or a mapping, or has no rules and stays as it is. -/
theorem writtenOut_cases (expression : Value) :
    (∃ typed, expression = .condition typed) ∨ (∃ entries, expression = .mapping entries) ∨
      (expression.writtenOut = expression ∧ expression.rules? = none ∧
        ∀ depth typed, ¬expression.Reaches depth (.condition typed)) := by
  cases expression with
  | condition typed => exact .inl ⟨typed, rfl⟩
  | mapping entries => exact .inr (.inl ⟨entries, rfl⟩)
  | _ =>
      refine .inr (.inr ⟨by rw [writtenOut] <;> simp, rfl, ?_⟩)
      intro depth typed reached
      cases reached

/-! ## The check -/

/-- What is written out has the same outline, so that the check finds the same. -/
theorem outline_writtenOut (expression : Value) :
    expression.writtenOut.outline = expression.outline := by
  induction expression using induction_rules with
  | step expression induction =>
      obtain ⟨typed, rfl⟩ | ⟨entries, rfl⟩ | ⟨same, -, -⟩ := expression.writtenOut_cases
      · rw [writtenOut, typed.outline_raw, outline]
      · have operatorSame : Entries.get? "operator" (writtenOutEntries entries) =
            Entries.get? "operator" entries := Entries.get?_writtenOut (by decide) entries
        rw [writtenOut, outline, outline, rulesOutline_eq, rulesOutline_eq,
          Entries.list?_rules_writtenOut]
        unfold Outline.ofEntries
        rw [operatorSame, Entries.comparison?_writtenOut]
        cases operator : Entries.get? "operator" entries with
        | none => rfl
        | some value =>
            cases listed : (Entries.getD "rules" entries).list? with
            | none => rfl
            | some rules =>
                have shape : IsGroup (.mapping entries) value rules :=
                  ⟨rfl, operator, (Entries.getD_eq_list_iff _ _ _).mp listed⟩
                have each := List.map_congr_left (induction value rules shape)
                simp only [Option.map_some, List.map_map]
                exact congrArg (Outline.group value) each
      · rw [same]

/-! ## Nothing typed is left -/

/-- The rules of what is written out are written out themselves. -/
theorem exists_rules_of_writtenOut {expression : Value} {rules : List Value}
    (listed : expression.writtenOut.rules? = some rules) :
    ∃ own : List Value, rules = own.map (·.writtenOut) := by
  obtain ⟨typed, rfl⟩ | ⟨entries, rfl⟩ | ⟨same, unlisted, -⟩ := expression.writtenOut_cases
  · cases typed with
    | simple field operator value valueField => cases listed
    | group operator trees =>
        have raw : (Condition.group operator trees).raw.rules? = some (rawRules trees) := rfl
        rw [writtenOut, raw] at listed
        refine ⟨trees.map .condition, ?_⟩
        rw [← Option.some.inj listed, rawRules_eq_map, List.map_map]
        apply List.map_congr_left
        intro tree _
        rw [Function.comp_apply, writtenOut]
  · rw [writtenOut, rules?, Entries.list?_rules_writtenOut, Option.map_eq_some_iff] at listed
    obtain ⟨own, -, same⟩ := listed
    exact ⟨own, same.symm⟩
  · rw [same, unlisted] at listed
    cases listed

/-- The guard meets no typed condition in what is written out. -/
theorem not_reaches_typed_of_writtenOut (expression : Value) (depth : Nat) (typed : Condition) :
    ¬expression.writtenOut.Reaches depth (.condition typed) := by
  induction depth generalizing expression with
  | zero =>
      obtain ⟨own, rfl⟩ | ⟨entries, rfl⟩ | ⟨same, -, alone⟩ := expression.writtenOut_cases
      · rw [writtenOut]
        intro reached
        cases reached
      · rw [writtenOut]
        intro reached
        cases reached
      · rw [same]
        exact alone 0 typed
  | succ depth induction =>
      intro reached
      generalize written : expression.writtenOut = given at reached
      cases reached with
      | rule listed member further =>
          have descended := (rules?_eq_some_iff _ _).mpr ⟨_, rfl, listed⟩
          rw [← written] at descended
          obtain ⟨own, rfl⟩ := exists_rules_of_writtenOut descended
          obtain ⟨rule, -, rfl⟩ := List.mem_map.mp member
          exact induction rule further

/-! ## The guard -/

theorem forall_reaches_typed_iff {motive : Nat → Condition → Prop} (entries : Entries) :
    (∀ depth typed, (mapping entries).Reaches depth (.condition typed) → motive depth typed) ↔
      ∀ rules, (mapping entries).rules? = some rules → ∀ rule ∈ rules,
        ∀ depth typed, rule.Reaches depth (.condition typed) → motive (depth + 1) typed := by
  constructor
  · intro each rules descended rule member depth typed further
    obtain ⟨_, same, listed⟩ := (rules?_eq_some_iff _ _).mp descended
    cases same
    exact each (depth + 1) typed (.rule listed member further)
  · intro below depth typed reached
    cases reached with
    | rule listed member further =>
        exact below _ ((rules?_eq_some_iff _ _).mpr ⟨_, rfl, listed⟩) _ member _ typed further

/-- What is written out fits into levels if the expression does, and the raw form of every typed
condition that the guard meets fits into the levels that are left for it. -/
theorem fitsLevels_writtenOut_iff (levels : Nat) (expression : Value) :
    expression.writtenOut.fitsLevels levels = true ↔
      expression.fitsLevels levels = true ∧
        ∀ depth typed, expression.Reaches depth (.condition typed) →
          typed.raw.fitsLevels (levels - depth) = true := by
  induction levels generalizing expression with
  | zero => simp [fitsLevels]
  | succ levels induction =>
      obtain ⟨own, rfl⟩ | ⟨entries, rfl⟩ | ⟨same, -, alone⟩ := expression.writtenOut_cases
      · have admitted : (condition own).fitsLevels (levels + 1) = true := rfl
        rw [writtenOut]
        constructor
        · intro fits
          refine ⟨admitted, ?_⟩
          intro depth typed reached
          cases reached
          exact fits
        · intro parts
          exact parts.2 0 own (.self _)
      · have field : (mapping (writtenOutEntries entries)).hasShortField =
            (mapping entries).hasShortField := by
          have same : Entries.get? "field" (writtenOutEntries entries) =
              Entries.get? "field" entries := Entries.get?_writtenOut (by decide) entries
          rw [hasShortField, hasShortField, same]
        rw [forall_reaches_typed_iff, writtenOut, fitsLevels, fitsLevels, rules?, rules?,
          Entries.list?_rules_writtenOut]
        cases descended : (Entries.getD "rules" entries).list? with
        | none => simp [field]
        | some rules =>
            simp only [Option.map_some, Option.some.injEq, List.length_map, Bool.and_eq_true,
              List.all_eq_true, List.forall_mem_map, induction, forall_eq', and_assoc,
              Nat.add_sub_add_right, imp_and, forall_and]
      · rw [same]
        simp [alone]

end Value

/-- Written out, an expression shows the guard no typed condition any more, and the check finds the
same in it.  But the guard then admits it only if it admits the expression as it is, and all nodes
of the typed conditions that it meets there respect the ceilings, too. -/
theorem isSafe_writtenOut_iff (expression : Value) :
    (∀ depth typed, ¬expression.writtenOut.Reaches depth (.condition typed)) ∧
    (∀ (wording : Option Wording) (limit depth : Value),
      checkCondition wording limit depth expression.writtenOut =
        checkCondition wording limit depth expression) ∧
    (isSafe expression.writtenOut = true ↔
      isSafe expression = true ∧
        ∀ depth typed, expression.Reaches depth (.condition typed) →
          ∀ further node, typed.raw.Reaches further node →
            depth + further ≤ 10 ∧ node.RespectsCeilings) := by
  refine ⟨expression.not_reaches_typed_of_writtenOut, ?_, ?_⟩
  · intro wording limit depth
    rw [checkCondition, checkCondition, Value.outline_writtenOut]
  · have room (depth further : Nat) :
        further < maxSafeDepth + 1 - depth ↔ depth + further ≤ 10 := by
      rw [maxSafeDepth]
      omega
    rw [isSafe, isSafe, Value.fitsLevels_writtenOut_iff]
    simp only [Value.fitsLevels_eq_true_iff _ (Condition.raw _), room]

/-- A comparison of a field with a long name. -/
def Condition.longwinded : Condition :=
  .simple (List.replicate 201 (CodePoint.ofChar 'a')) .equal (.int 1) none

theorem not_respectsCeilings_longwinded : ¬Condition.longwinded.raw.RespectsCeilings := by
  intro respects
  have short := respects.field _ _ rfl (fun _ listed => by cases listed) rfl
  rw [Value.display_text, List.length_replicate] at short
  omega

/-- A group that holds it as it is. -/
def Value.sealing : Value :=
  .mapping [(.text "operator", .text "AND"), (.text "rules", .list [.condition .longwinded])]

theorem isSafe_sealing_not_writtenOut :
    isSafe Value.sealing = true ∧ isSafe Value.sealing.writtenOut = false := by
  refine ⟨rfl, ?_⟩
  rw [Bool.eq_false_iff]
  intro safe
  obtain ⟨-, each⟩ := (isSafe_writtenOut_iff Value.sealing).2.2.mp safe
  have reached : Value.sealing.Reaches 1 (.condition .longwinded) :=
    .rule rfl List.mem_cons_self (.self _)
  obtain ⟨-, respects⟩ := each 1 .longwinded reached 0 _ (.self _)
  exact not_respectsCeilings_longwinded respects

theorem isSafe_longwinded_differs :
    isSafe (.condition .longwinded) = true ∧ isSafe Condition.longwinded.raw = false := by
  refine ⟨rfl, ?_⟩
  rw [Bool.eq_false_iff]
  intro safe
  have each := (Value.fitsLevels_eq_true_iff _ _).mp safe
  exact not_respectsCeilings_longwinded (each 0 _ (.self _)).2

end Rulebook
