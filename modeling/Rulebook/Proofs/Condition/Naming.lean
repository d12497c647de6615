import Rulebook.Proofs.Condition.Ceilings
import Rulebook.Proofs.Condition.Stability

/-!
# Fields that a tree names

A comparison in a typed tree names the field that it compares and may name another to compare it
with.  The check and the guard hold the former to the syntax and to the length of field paths.  Of
the latter neither sees more than that it is a text, so what a safe expression is parsed to may
name anything there.
-/

namespace Rulebook

namespace Value

/-- Whatever fits takes up a level. -/
theorem exists_level_of_fitsLevels {levels : Nat} {expression : Value}
    (fits : expression.fitsLevels levels = true) : ∃ below, levels = below + 1 := by
  cases levels with
  | zero =>
      rw [fitsLevels] at fits
      cases fits
  | succ below => exact ⟨below, rfl⟩

theorem rules?_eq_none_of_unlisted {entries : Entries}
    (unlisted : ∀ rules, entries.get? "rules" ≠ some (.list rules)) :
    (mapping entries).rules? = none := by
  rw [Option.eq_none_iff_forall_ne_some]
  intro rules descended
  obtain ⟨_, same, listed⟩ := (rules?_eq_some_iff _ _).mp descended
  cases same
  exact unlisted rules listed

end Value

namespace Condition

/-! ## Comparisons of a tree -/

/-- Somewhere in the tree a field is compared, and a field to compare it with may be given. -/
inductive Compares : Condition → Text → Option Text → Prop
  | simple {field : Text} {operator : ComparisonOperator} {value : Value}
      {valueField : Option Text} :
      Compares (.simple field operator value valueField) field valueField
  | group {operator : LogicalOperator} {rules : List Condition} {rule : Condition} {field : Text}
      {valueField : Option Text} (member : rule ∈ rules) (inner : Compares rule field valueField) :
      Compares (.group operator rules) field valueField

/-- The tree names a path as a field that is compared, or as one to compare with; an empty text
names none. -/
def Names (tree : Condition) (path : Text) : Prop :=
  ∃ field valueField, tree.Compares field valueField ∧
    (path = field ∨ valueField = some path ∧ path ≠ [])

mutual

/-- The tree with every field to compare with replaced by another text. -/
def retargeted (target : Text → Text) : Condition → Condition
  | .simple field operator value valueField =>
      .simple field operator value (valueField.map target)
  | .group operator rules => .group operator (retargetedRules target rules)

/-- Typed rules with every field to compare with replaced. -/
def retargetedRules (target : Text → Text) : List Condition → List Condition
  | [] => []
  | rule :: rest => rule.retargeted target :: retargetedRules target rest

end

theorem retargetedRules_eq_map (target : Text → Text) (rules : List Condition) :
    retargetedRules target rules = rules.map (retargeted target) := by
  induction rules with
  | nil => rw [retargetedRules, List.map_nil]
  | cons rule rest induction => rw [retargetedRules, induction, List.map_cons]

/-- Trees are reached from comparisons by grouping. -/
@[elab_as_elim]
theorem tree_induction {motive : Condition → Prop}
    (simple : ∀ field operator value valueField, motive (.simple field operator value valueField))
    (group : ∀ operator rules, (∀ rule ∈ rules, motive rule) → motive (.group operator rules)) :
    ∀ tree, motive tree
  | .simple field operator value valueField => simple field operator value valueField
  | .group operator rules =>
      group operator rules fun rule _ => tree_induction simple group rule

/-! ## What is seen of a tree -/

/-- The check sees nothing of the fields to compare with. -/
theorem passes_retargeted_iff (target : Text → Text) (limit depth : Int) (tree : Condition) :
    (Value.condition (tree.retargeted target)).Passes limit depth ↔
      (Value.condition tree).Passes limit depth := by
  induction tree using tree_induction generalizing depth with
  | simple field operator value valueField =>
      rw [retargeted, Value.passes_simple_iff, Value.passes_simple_iff]
  | group operator rules induction =>
      rw [retargeted, retargetedRules_eq_map, Value.passes_group_iff, Value.passes_group_iff,
        List.forall_mem_map, ne_eq, List.map_eq_nil_iff]
      have each : (∀ rule ∈ rules,
            (Value.condition (rule.retargeted target)).Passes limit (depth + 1)) ↔
          ∀ rule ∈ rules, (Value.condition rule).Passes limit (depth + 1) :=
        forall₂_congr fun rule member => induction rule member (depth + 1)
      rw [each]

theorem fitsLevels_raw_simple (levels : Nat) (field : Text) (operator : ComparisonOperator)
    (value : Value) (valueField : Option Text) :
    (simple field operator value valueField).raw.fitsLevels (levels + 1) = true ↔
      field.length ≤ maxFieldLength := by
  change decide (field.length ≤ maxFieldLength) = true ↔ _
  exact decide_eq_true_iff

theorem fitsLevels_raw_group (levels : Nat) (operator : LogicalOperator)
    (rules : List Condition) :
    (group operator rules).raw.fitsLevels (levels + 1) = true ↔
      rules.length ≤ maxRulesPerGroup ∧ ∀ rule ∈ rules, rule.raw.fitsLevels levels = true := by
  have listed : (group operator rules).raw.rules? = some (rules.map raw) := by
    rw [← rawRules_eq_map]
    rfl
  rw [Value.fitsLevels, listed]
  simp

/-- The guard sees nothing of the fields to compare with. -/
theorem fitsLevels_retargeted (target : Text → Text) (levels : Nat) (tree : Condition) :
    (tree.retargeted target).raw.fitsLevels levels = true ↔
      tree.raw.fitsLevels levels = true := by
  induction levels generalizing tree with
  | zero => rw [Value.fitsLevels, Value.fitsLevels]
  | succ levels induction =>
      cases tree with
      | simple field operator value valueField =>
          rw [retargeted, fitsLevels_raw_simple, fitsLevels_raw_simple]
      | group operator rules =>
          rw [retargeted, retargetedRules_eq_map, fitsLevels_raw_group, fitsLevels_raw_group,
            List.length_map, List.forall_mem_map]
          simp only [induction]

theorem IsPlain.retargeted {tree : Condition} (plain : tree.IsPlain) (target : Text → Text) :
    (tree.retargeted target).IsPlain := by
  induction plain with
  | simple raw =>
      rw [Condition.retargeted]
      exact .simple raw
  | group filled each induction =>
      rw [Condition.retargeted, retargetedRules_eq_map]
      refine .group (by simpa using filled) ?_
      rw [List.forall_mem_map]
      exact induction

end Condition

/-! ## Parsing -/

/-- The tree that is read from a raw expression fits into the levels that the expression fits
into. -/
theorem Value.fitsLevels_of_fitExpression {levels : Nat} {expression : Value}
    (raw : expression.IsRaw) (fits : expression.fitsLevels levels = true) {tree : Condition}
    (read : expression.fitExpression = .ok tree) : tree.raw.fitsLevels levels = true := by
  induction levels generalizing expression tree with
  | zero =>
      obtain ⟨_, impossible⟩ := exists_level_of_fitsLevels fits
      cases impossible
  | succ levels induction =>
      cases expression with
      | condition typed => exact absurd raw (not_isRaw_condition typed)
      | mapping entries =>
          rw [fitsLevels] at fits
          obtain ⟨rules, listed, group⟩ | ⟨unlisted, comparison⟩ :=
            (fitExpression_mapping_eq_ok_iff entries tree).mp read
          · obtain ⟨operator, trees, rfl, -, rulesRead⟩ := (fitGroup_eq_ok_iff _ _ _).mp group
            obtain ⟨-, number, each⟩ := fitElements_reads rulesRead
            rw [(rules?_eq_some_iff _ _).mpr ⟨entries, rfl, listed⟩, Bool.and_eq_true,
              decide_eq_true_iff, List.all_eq_true] at fits
            obtain ⟨few, low⟩ := fits
            rw [Condition.fitsLevels_raw_group, number]
            refine ⟨few, fun sub member => ?_⟩
            obtain ⟨rule, ruleMember, ruleRead⟩ := each sub member
            exact induction (raw.of_listed listed rule ruleMember) (low rule ruleMember) ruleRead
          · obtain ⟨field, known, valueField, rfl, hasField, -, -⟩ :=
              (fitComparison_eq_ok_iff entries tree).mp comparison
            rw [rules?_eq_none_of_unlisted unlisted] at fits
            simp only [hasShortField, hasField] at fits
            rw [Condition.fitsLevels_raw_simple]
            exact of_decide_eq_true fits
      | _ => simp [fitExpression, Fit.fail, Fit.under] at read

/-- What a safe raw expression is parsed to passes the check, is safe in its raw form and is
plain. -/
theorem parsed_tree_sound {expression : Value} (raw : expression.IsRaw)
    (safe : isSafe expression = true) {limit : Int} {tree : Condition}
    (parsed : parseCondition (.int limit) expression = .ok (some tree)) :
    (Value.condition tree).Passes limit 0 ∧ isSafe tree.raw = true ∧ tree.IsPlain := by
  obtain ⟨-, passes, read⟩ := (parseCondition_eq_some_iff limit expression tree).mp parsed
  exact ⟨((Value.passes_iff_of_fitExpression read).mp passes).1,
    Value.fitsLevels_of_fitExpression raw safe read, Value.isPlain_of_fitExpression raw read⟩

/-- The field of every comparison in a tree that passes and is safe is a field path of bounded
length. -/
theorem Condition.Compares.checked {tree : Condition} {field : Text} {valueField : Option Text}
    (compared : tree.Compares field valueField) {limit depth : Int}
    (passes : (Value.condition tree).Passes limit depth) {levels : Nat}
    (fits : tree.raw.fitsLevels levels = true) :
    FieldPath.isValid field = true ∧ field.length ≤ maxFieldLength := by
  -- Each step down the tree takes up one level of the guard and adds one to the depth.
  induction compared generalizing depth levels with
  | simple =>
      obtain ⟨below, rfl⟩ := Value.exists_level_of_fitsLevels fits
      obtain ⟨-, path⟩ := (Value.passes_simple_iff _ _ _ _).mp passes
      exact ⟨(FieldPath.isValid_iff_mem_matches _).mpr path,
        (fitsLevels_raw_simple below _ _ _ _).mp fits⟩
  | group member inner induction =>
      obtain ⟨below, rfl⟩ := Value.exists_level_of_fitsLevels fits
      obtain ⟨-, -, each⟩ := (Value.passes_group_iff _ _).mp passes
      obtain ⟨-, low⟩ := (fitsLevels_raw_group below _ _).mp fits
      exact induction (each _ member) (low _ member)

/-- Of the fields that a tree parsed from a safe raw expression names, those that are compared are
field paths of at most two hundred code points.  Those to compare with may be any texts: put others
in their place, and the tree is still safe and parsed from its raw form. -/
theorem parsed_fields_checked {expression : Value} (raw : expression.IsRaw)
    (safe : isSafe expression = true) {limit : Int} {tree : Condition}
    (parsed : parseCondition (.int limit) expression = .ok (some tree)) :
    (∀ field valueField, tree.Compares field valueField →
      FieldPath.isValid field = true ∧ field.length ≤ 200) ∧
    ∀ target : Text → Text, isSafe (tree.retargeted target).raw = true ∧
      parseCondition (.int limit) (tree.retargeted target).raw =
        .ok (some (tree.retargeted target)) := by
  obtain ⟨passes, treeSafe, plain⟩ := parsed_tree_sound raw safe parsed
  refine ⟨?_, fun target => ⟨?_, ?_⟩⟩
  · intro field valueField compared
    exact compared.checked passes treeSafe
  · exact (Condition.fitsLevels_retargeted target _ tree).mpr treeSafe
  · refine (parseCondition_eq_some_iff limit _ _).mpr
      ⟨nofun, ?_, (plain.retargeted target).fitExpression_raw⟩
    rw [Value.passes_raw_iff, Condition.passes_retargeted_iff]
    exact passes

/-- A comparison with a field whose name is no field path. -/
def Json.spacedZip : Json :=
  .object [("field", .text "shipping.zip"), ("operator", .text "="),
    ("valueField", .text "billing zip")]

/-- A comparison with the field of that name. -/
def Condition.matchingZip (name : Text) : Condition :=
  .simple "shipping.zip" .equal .null (some name)

theorem parseCondition_spacedZip :
    parseCondition (.int 5) (.ofJson .spacedZip) = .ok (some (.matchingZip "billing zip")) := by
  refine (parseCondition_eq_some_iff _ _ _).mpr ⟨nofun, rfl, ?_⟩
  refine (Value.fitExpression_mapping_eq_ok_iff _ _).mpr (.inr ⟨?_, rfl⟩)
  intro rules listed
  cases listed

/-- A name that is no path and too long besides would be parsed too. -/
theorem parsed_fields_checked_spacedZip :
    (Value.ofJson .spacedZip).IsRaw ∧ isSafe (.ofJson .spacedZip) = true ∧
      FieldPath.isValid "shipping.zip" = true ∧
      parseCondition (.int 5)
          (Condition.matchingZip (List.replicate 201 (CodePoint.ofChar '!'))).raw =
        .ok (some (.matchingZip (List.replicate 201 (CodePoint.ofChar '!')))) := by
  have raw := Value.isRaw_ofJson .spacedZip
  have safe : isSafe (.ofJson .spacedZip) = true := rfl
  obtain ⟨checked, unseen⟩ := parsed_fields_checked raw safe parseCondition_spacedZip
  refine ⟨raw, safe, (checked _ _ .simple).1, ?_⟩
  exact (unseen fun _ => List.replicate 201 (CodePoint.ofChar '!')).2

/-- A safe document may be parsed to a tree that names what is no field path. -/
theorem parsed_paths_unchecked :
    ¬∀ (document : Json) (tree : Condition), isSafe (.ofJson document) = true →
      parseCondition (.int 5) (.ofJson document) = .ok (some tree) →
      ∀ path, tree.Names path → FieldPath.isValid path = true ∧ path.length ≤ 200 := by
  intro checked
  have named : (Condition.matchingZip "billing zip").Names "billing zip" :=
    ⟨_, _, .simple, .inr ⟨rfl, nofun⟩⟩
  have path := (checked .spacedZip _ rfl parseCondition_spacedZip _ named).1
  revert path
  decide

end Rulebook
