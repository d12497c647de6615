import Rulebook.Proofs.Condition.Reading
import Rulebook.Proofs.Condition.Spelling

/-!
# Parsing again what has been parsed

The raw form of a tree has entries that the expression need not have had: every comparison is
given its value and the field to compare with, even where both are absent, and the latter always
under its first name.  None of them changes what is read, nor makes the check find anything, so a
parsed tree is parsed from itself and from its raw form alike.
-/

namespace Rulebook

/-! ## Trees read from raw expressions -/

/-- Every value in the tree is raw, and every group has a rule. -/
inductive Condition.IsPlain : Condition → Prop
  | simple {field : Text} {operator : ComparisonOperator} {value : Value}
      {valueField : Option Text} (raw : value.IsRaw) :
      IsPlain (.simple field operator value valueField)
  | group {operator : LogicalOperator} {rules : List Condition} (filled : rules ≠ [])
      (each : ∀ rule ∈ rules, rule.IsPlain) : IsPlain (.group operator rules)

theorem Value.IsRaw.getD {entries : Entries} (raw : Value.IsRaw (.mapping entries))
    (name : Text) : (entries.getD name).IsRaw := by
  rw [Entries.getD]
  cases found : entries.get? name with
  | none => rfl
  | some value => exact raw.of_get? found

theorem Value.IsRaw.of_listed {entries : Entries} {rules : List Value}
    (raw : Value.IsRaw (.mapping entries)) (listed : entries.get? "rules" = some (.list rules)) :
    ∀ rule ∈ rules, rule.IsRaw :=
  (Value.isRaw_list_iff rules).mp (raw.of_get? listed)

/-- What is read from a raw expression is plain. -/
theorem Value.isPlain_of_fitExpression {expression : Value} {tree : Condition}
    (raw : expression.IsRaw) (read : expression.fitExpression = .ok tree) : tree.IsPlain := by
  induction expression using induction_rules generalizing tree with
  | step expression induction =>
      cases expression with
      | condition typed => exact absurd raw (not_isRaw_condition typed)
      | mapping entries =>
          obtain ⟨rules, listed, group⟩ | ⟨-, comparison⟩ :=
            (fitExpression_mapping_eq_ok_iff entries tree).mp read
          · obtain ⟨operator, trees, rfl, hasOperator, rulesRead⟩ :=
              (fitGroup_eq_ok_iff _ _ _).mp group
            obtain ⟨filled, -, each⟩ := fitElements_reads rulesRead
            have below := induction _ rules ⟨rfl, hasOperator, listed⟩
            have rulesRaw := raw.of_listed listed
            refine .group filled ?_
            intro sub member
            obtain ⟨rule, own, ruleRead⟩ := each sub member
            exact below rule own (rulesRaw rule own) ruleRead
          · obtain ⟨field, known, valueField, rfl, -, -, -⟩ :=
              (fitComparison_eq_ok_iff entries tree).mp comparison
            exact .simple (raw.getD "value")
      | _ => simp [fitExpression, Fit.fail, Fit.under] at read

/-- A plain tree is read from its raw form. -/
theorem Condition.IsPlain.fitExpression_raw {tree : Condition} (plain : tree.IsPlain) :
    tree.raw.fitExpression = .ok tree := by
  induction plain with
  | @simple field operator value valueField raw =>
      refine (Value.fitExpression_mapping_eq_ok_iff _ _).mpr (.inr ⟨?unlisted, ?read⟩)
      case unlisted =>
        intro rules listed
        cases listed
      case read =>
        have value :
            Entries.getD "value" (Condition.simple field operator value valueField).fields =
              value := raw
        refine (fitComparison_eq_ok_iff _ _).mpr ⟨field, operator, valueField, ?_, rfl, rfl, rfl⟩
        rw [value]
  | @group operator rules filled each induction =>
      refine (Value.fitExpression_mapping_eq_ok_iff _ _).mpr (.inl ⟨rawRules rules, rfl, ?_⟩)
      refine (fitGroup_eq_ok_iff _ _ _).mpr ⟨operator, rules, rfl, rfl, ?_⟩
      rw [rawRules_eq_map, fitElements_eq_ok_iff, List.forall₂_map_left_iff, List.forall₂_same]
      refine ⟨?_, induction⟩
      intro empty
      exact filled (List.map_eq_nil_iff.mp empty)

/-! ## Parsing -/

/-- A tree is parsed from what is there, passes the check, and is read as that tree. -/
theorem parseCondition_eq_some_iff (limit : Int) (expression : Value) (tree : Condition) :
    parseCondition (.int limit) expression = .ok (some tree) ↔
      expression ≠ .null ∧ expression.Passes limit 0 ∧ expression.fitExpression = .ok tree := by
  by_cases present : expression = .null
  · rw [present, parseCondition]
    simp [Value.isNull]
  · have passes : (Report.ofIssues (conditionIssues none limit 0 expression)).valid = true ↔
        expression.Passes limit 0 := by
      rw [ofIssues_conditionIssues_valid_iff, Value.Passes]
    cases valid : (Report.ofIssues (conditionIssues none limit 0 expression)).valid with
    | false =>
        rw [valid] at passes
        rw [parseCondition_of_invalid present valid, ← passes]
        simp
    | true =>
        rw [valid] at passes
        rw [← passes]
        cases read : expression.fitExpression with
        | ok found =>
            rw [parseCondition_of_read present valid read]
            simp [present]
        | error mismatches =>
            obtain ⟨message, -, refused⟩ := refuse_structuralError (Option Condition)
            rw [parseCondition_of_mismatches present valid read, refused]
            simp

/-- The tree that is parsed from a raw expression passes the check under the same limit, and it is
parsed again from itself and from its raw form. -/
theorem parseCondition_stable {expression : Value} (raw : expression.IsRaw) {limit : Int}
    {tree : Condition} (parsed : parseCondition (.int limit) expression = .ok (some tree)) :
    (∃ report, checkCondition none (.int limit) (.int 0) (.condition tree) = .ok report ∧
      report.valid = true) ∧
    parseCondition (.int limit) (.condition tree) = .ok (some tree) ∧
    parseCondition (.int limit) tree.raw = .ok (some tree) := by
  obtain ⟨-, passes, read⟩ := (parseCondition_eq_some_iff limit expression tree).mp parsed
  have typed : (Value.condition tree).Passes limit 0 :=
    ((Value.passes_iff_of_fitExpression read).mp passes).1
  have plain := Value.isPlain_of_fitExpression raw read
  refine ⟨⟨_, checkCondition_eq_ok speaks_none limit 0 _, ?valid⟩, ?itself, ?written⟩
  case valid => exact (ofIssues_conditionIssues_valid_iff _ _ _ _).mpr typed
  case itself =>
    refine (parseCondition_eq_some_iff limit _ tree).mpr ⟨?_, typed, ?_⟩
    · intro absent
      cases absent
    · rw [Value.fitExpression]
  case written =>
    refine (parseCondition_eq_some_iff limit _ tree).mpr ⟨?_, ?_, plain.fitExpression_raw⟩
    · intro absent
      cases absent
    · exact (Value.passes_raw_iff tree).mpr typed

/-- A comparison that needs no value and has none. -/
def Entries.blankNote : Entries :=
  [(.text "field", .text "note"), (.text "operator", .text "IS_EMPTY")]

/-- A comparison that names the field to compare with by its second name, which is empty. -/
def Entries.youngAge : Entries :=
  [(.text "value_field", .text ""), (.text "value", .int 1), (.text "operator", .text "<"),
    (.text "field", .text "age")]

/-- A group of both. -/
def Value.terse : Value :=
  .mapping
    [(.text "rules", .list [.mapping Entries.blankNote, .mapping Entries.youngAge]),
      (.text "operator", .text "NOT")]

/-- The tree of that group. -/
def Condition.terse : Condition :=
  .group .not [.simple "note" .isEmpty .null none, .simple "age" .less (.int 1) (some "")]

theorem parseCondition_terse_stable :
    Value.terse.IsRaw ∧ parseCondition (.int 1) Value.terse = .ok (some .terse) ∧
      parseCondition (.int 1) Condition.terse.raw = .ok (some .terse) := by
  have raw : Value.terse.IsRaw := rfl
  have noteRead : (Value.mapping Entries.blankNote).fitExpression =
      .ok (.simple "note" .isEmpty .null none) :=
    (Value.fitExpression_mapping_eq_ok_iff _ _).mpr (.inr ⟨(fun _ listed => by cases listed), rfl⟩)
  have ageRead : (Value.mapping Entries.youngAge).fitExpression =
      .ok (.simple "age" .less (.int 1) (some "")) :=
    (Value.fitExpression_mapping_eq_ok_iff _ _).mpr (.inr ⟨(fun _ listed => by cases listed), rfl⟩)
  have rulesRead : fitElements [.mapping Entries.blankNote, .mapping Entries.youngAge] =
      .ok [.simple "note" .isEmpty .null none, .simple "age" .less (.int 1) (some "")] :=
    (fitElements_eq_ok_iff _ _).mpr
      ⟨List.cons_ne_nil _ _, .cons noteRead (.cons ageRead .nil)⟩
  have read : Value.terse.fitExpression = .ok .terse :=
    (Value.fitExpression_mapping_eq_ok_iff _ _).mpr
      (.inl ⟨_, rfl, (fitGroup_eq_ok_iff _ _ _).mpr ⟨.not, _, rfl, rfl, rulesRead⟩⟩)
  have parsed : parseCondition (.int 1) Value.terse = .ok (some .terse) := by
    refine (parseCondition_eq_some_iff _ _ _).mpr ⟨?_, rfl, read⟩
    intro absent
    cases absent
  exact ⟨raw, parsed, (parseCondition_stable raw parsed).2.2⟩

end Rulebook
