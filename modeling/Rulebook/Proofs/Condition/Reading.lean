import Rulebook.Proofs.Condition.Fitting
import Rulebook.Proofs.Condition.Path

/-!
# Reading expressions into trees

Reading tells groups from comparisons by a list under `rules` alone, looks for the field to
compare with under two names, and takes no absent rule.  On raw expressions that follow the
grammar it differs from the check in these points and in no other, and what it returns mirrors
the expression node by node.
-/

namespace Rulebook

/-! ## Trees of expressions -/

namespace Value

/-- The typed tree repeats the expression node by node. -/
inductive Mirrors : Value → Condition → Prop
  | group {expression : Value} {operator : LogicalOperator} {rules : List Value}
      {trees : List Condition} (shape : expression.IsGroup (.text operator.symbol) rules)
      (number : trees.length = rules.length)
      (each : ∀ pair ∈ rules.zip trees, Mirrors pair.1 pair.2) :
      Mirrors expression (.group operator trees)
  | simple {expression : Value} {comparison : Comparison} {field : Text}
      {operator : ComparisonOperator} {valueField : Option Text}
      (shape : expression.IsComparison comparison) (sameField : comparison.field = .text field)
      (sameOperator : comparison.operator = .text operator.symbol)
      (sameEntry : expression.comparedField?.getD .null = .ofText? valueField) :
      Mirrors expression (.simple field operator (comparison.value.getD .null) valueField)

/-- No list of rules that is reached holds an absent rule, and the entry that names the field to
compare with is missing, absent or a text in every comparison that is reached. -/
structure IsReadable (expression : Value) : Prop where
  rules : ∀ path node operator rules, expression.At path node → node.IsGroup operator rules →
    .null ∉ rules
  comparedField : ∀ path node comparison value, expression.At path node →
    node.IsComparison comparison → node.comparedField? = some value →
    value = .null ∨ ∃ name, value = .text name

theorem IsGroup.isReadable_iff {expression operator : Value} {rules : List Value}
    (shape : expression.IsGroup operator rules) :
    expression.IsReadable ↔ .null ∉ rules ∧ ∀ rule ∈ rules, rule.IsReadable := by
  constructor
  · intro readable
    refine ⟨readable.rules [] expression operator rules (.here expression) shape, ?_⟩
    intro rule member
    obtain ⟨index, found⟩ := List.mem_iff_getElem?.mp member
    refine ⟨?_, ?_⟩
    · intro path node other others place
      exact readable.rules _ node other others (.rule shape found place)
    · intro path node comparison value place
      exact readable.comparedField _ node comparison value (.rule shape found place)
  · rintro ⟨own, each⟩
    refine ⟨?_, ?_⟩
    · intro path node other others place again
      cases place with
      | here =>
          obtain ⟨rfl, rfl⟩ := shape.unique again
          exact own
      | rule first found further =>
          obtain ⟨rfl, rfl⟩ := shape.unique first
          exact (each _ (List.mem_of_getElem? found)).rules _ node other others further again
    · intro path node comparison value place compared
      cases place with
      | here => exact absurd shape (compared.not_isGroup operator rules)
      | rule first found further =>
          obtain ⟨rfl, rfl⟩ := shape.unique first
          have below := each _ (List.mem_of_getElem? found)
          exact below.comparedField _ node comparison value further compared

theorem IsComparison.isReadable_iff {expression : Value} {comparison : Comparison}
    (shape : expression.IsComparison comparison) :
    expression.IsReadable ↔
      ∃ valueField, expression.comparedField?.getD .null = .ofText? valueField := by
  constructor
  · intro readable
    cases found : expression.comparedField? with
    | none => exact ⟨none, rfl⟩
    | some value =>
        obtain rfl | ⟨name, rfl⟩ :=
          readable.comparedField [] expression comparison value (.here expression) shape found
        · exact ⟨none, rfl⟩
        · exact ⟨some name, rfl⟩
  · rintro ⟨valueField, same⟩
    refine ⟨?_, ?_⟩
    · intro path node operator rules place again
      cases place with
      | here => exact absurd again (shape.not_isGroup operator rules)
      | rule first _ _ => exact absurd first (shape.not_isGroup _ _)
    · intro path node other value place again found
      cases place with
      | here =>
          rw [found, Option.getD_some] at same
          subst same
          cases valueField with
          | none => exact .inl rfl
          | some name => exact .inr ⟨name, rfl⟩
      | rule first _ _ => exact absurd first (shape.not_isGroup _ _)

end Value

/-! ## Reading what follows the grammar -/

namespace Value

/-- A raw expression that follows the grammar is read exactly if it is readable. -/
theorem WellFormed.exists_fitExpression_iff {expression : Value} (sound : expression.WellFormed)
    (raw : expression.IsRaw) :
    (∃ tree, expression.fitExpression = .ok tree) ↔ expression.IsReadable := by
  induction expression using shape_induction with
  | null =>
      cases sound with
      | group shape _ _ => exact absurd rfl shape.ne_null
      | comparison shape _ => exact absurd rfl shape.ne_null
  | group expression operator rules shape induction =>
      obtain ⟨⟨known, rfl⟩, filled, each⟩ := shape.wellFormed_iff.mp sound
      have rulesRaw := raw.rules shape
      have all : (∃ tree, expression.fitExpression = .ok tree) ↔
          ∀ rule ∈ rules, ∃ tree, rule.fitExpression = .ok tree := by
        rw [← exists_forall₂_iff]
        constructor
        · rintro ⟨tree, read⟩
          obtain ⟨-, trees, -, -, -, rulesRead⟩ := (shape.fitExpression_eq_ok_iff raw tree).mp read
          exact ⟨trees, rulesRead⟩
        · rintro ⟨trees, rulesRead⟩
          exact ⟨.group known trees, (shape.fitExpression_eq_ok_iff raw _).mpr
            ⟨known, trees, rfl, rfl, filled, rulesRead⟩⟩
      -- An absent rule follows the grammar but is never read.
      have present (rule : Value) (read : ∃ tree, rule.fitExpression = .ok tree) :
          rule ≠ .null := by
        rintro rfl
        obtain ⟨tree, readNull⟩ := read
        exact not_fitExpression_null tree readNull
      rw [all, shape.isReadable_iff]
      constructor
      · intro readEach
        refine ⟨fun member => present .null (readEach .null member) rfl, ?_⟩
        intro rule member
        have sound := each rule member (present rule (readEach rule member))
        exact (induction rule member sound (rulesRaw rule member)).mp (readEach rule member)
      · rintro ⟨noNull, readable⟩ rule member
        have sound := each rule member (fun absent => noNull (absent ▸ member))
        exact (induction rule member sound (rulesRaw rule member)).mpr (readable rule member)
  | comparison expression comparison shape =>
      obtain ⟨⟨path, sameField, -⟩, ⟨known, sameOperator⟩, -, -⟩ := shape.wellFormed_iff.mp sound
      rw [shape.isReadable_iff]
      constructor
      · rintro ⟨tree, read⟩
        obtain ⟨-, -, valueField, -, -, -, named⟩ :=
          (shape.fitExpression_eq_ok_iff raw tree).mp read
        exact ⟨valueField, named⟩
      · rintro ⟨valueField, named⟩
        exact ⟨_, (shape.fitExpression_eq_ok_iff raw _).mpr
          ⟨path, known, valueField, rfl, sameField, sameOperator, named⟩⟩
  | shapeless expression shapeless => exact absurd sound shapeless.not_wellFormed

/-- What is read of a raw expression that follows the grammar mirrors it. -/
theorem WellFormed.mirrors {expression : Value} (sound : expression.WellFormed)
    (raw : expression.IsRaw) {tree : Condition} (read : expression.fitExpression = .ok tree) :
    expression.Mirrors tree := by
  induction expression using shape_induction generalizing tree with
  | null => exact absurd read (not_fitExpression_null tree)
  | group expression operator rules shape induction =>
      obtain ⟨-, -, each⟩ := shape.wellFormed_iff.mp sound
      obtain ⟨known, trees, rfl, rfl, -, rulesRead⟩ :=
        (shape.fitExpression_eq_ok_iff raw tree).mp read
      obtain ⟨number, paired⟩ := List.forall₂_iff_zip.mp rulesRead
      refine .group shape number.symm ?_
      rintro ⟨rule, sub⟩ member
      have ruleMember : rule ∈ rules := (List.of_mem_zip member).1
      have ruleRead : rule.fitExpression = .ok sub := paired member
      have present : rule ≠ .null := by
        rintro rfl
        exact not_fitExpression_null sub ruleRead
      exact induction rule ruleMember (each rule ruleMember present)
        (raw.rules shape rule ruleMember) ruleRead
  | comparison expression comparison shape =>
      obtain ⟨field, known, valueField, rfl, sameField, sameOperator, named⟩ :=
        (shape.fitExpression_eq_ok_iff raw tree).mp read
      exact .simple shape sameField sameOperator named
  | shapeless expression shapeless => exact absurd sound shapeless.not_wellFormed

end Value

/-! ## Parsing -/

theorem Value.isNull_eq_false {expression : Value} (present : expression ≠ .null) :
    expression.isNull = false := by
  cases expression with
  | null => exact absurd rfl present
  | _ => rfl

section Parsing

variable {expression : Value} (present : expression ≠ .null) {limit : Int}

include present

theorem parseCondition_of_invalid
    (invalid : (Report.ofIssues (conditionIssues none limit 0 expression)).valid = false) :
    parseCondition (.int limit) expression =
      .error (.refused (.ofIssues (conditionIssues none limit 0 expression))) := by
  rw [parseCondition, expression.isNull_eq_false present, checkCondition_eq_ok speaks_none]
  simp [invalid]

variable (valid : (Report.ofIssues (conditionIssues none limit 0 expression)).valid = true)

include valid

theorem parseCondition_of_read {tree : Condition} (read : expression.fitExpression = .ok tree) :
    parseCondition (.int limit) expression = .ok (some tree) := by
  rw [parseCondition, expression.isNull_eq_false present, checkCondition_eq_ok speaks_none]
  simp [valid, read]

theorem parseCondition_of_mismatches {mismatches : List Mismatch}
    (read : expression.fitExpression = .error mismatches) :
    parseCondition (.int limit) expression = refuse .structuralError := by
  rw [parseCondition, expression.isNull_eq_false present, checkCondition_eq_ok speaks_none]
  simp [valid, read]

end Parsing

/-- The refusal of an expression that cannot be read has one issue, in English. -/
theorem refuse_structuralError (α : Type) :
    ∃ message, Code.message .structuralError none ⟨[], []⟩ = .ok message ∧
      (refuse .structuralError : Except ParseFailure α) =
        .error (.refused (.ofIssues [.mk .structuralError message [] []])) :=
  ⟨Code.text none .structuralError ⟨[], []⟩, rfl, rfl⟩

/-- A raw expression that is there is parsed exactly if its check is valid and it is readable, and
the tree mirrors it.  It is refused with the report of its check if that is invalid, and else with
a report of one structural error. -/
theorem parseCondition_agrees {expression : Value} (raw : expression.IsRaw)
    (present : expression ≠ .null) (limit : Int) :
    ∃ report, checkCondition none (.int limit) (.int 0) expression = .ok report ∧
      ((∃ tree, parseCondition (.int limit) expression = .ok (some tree)) ↔
        report.valid = true ∧ expression.IsReadable) ∧
      (∀ tree, parseCondition (.int limit) expression = .ok (some tree) →
        expression.Mirrors tree) ∧
      (report.valid = false →
        parseCondition (.int limit) expression = .error (.refused report)) ∧
      (report.valid = true → ¬expression.IsReadable →
        ∃ message, Code.message .structuralError none ⟨[], []⟩ = .ok message ∧
          parseCondition (.int limit) expression =
            .error (.refused (.ofIssues [.mk .structuralError message [] []]))) := by
  refine ⟨_, checkCondition_eq_ok speaks_none limit 0 expression, ?_⟩
  cases valid : (Report.ofIssues (conditionIssues none limit 0 expression)).valid with
  | false =>
      rw [parseCondition_of_invalid present valid]
      simp
  | true =>
      have sound : expression.WellFormed := by
        rw [ofIssues_conditionIssues_valid_iff, conditionFindings_eq_nil_iff] at valid
        rcases valid with absent | ⟨sound, -⟩
        · exact absurd absent present
        · exact sound
      have readable := sound.exists_fitExpression_iff raw
      cases read : expression.fitExpression with
      | ok tree =>
          have holds := readable.mp ⟨tree, read⟩
          rw [parseCondition_of_read present valid read]
          refine ⟨?_, ?_, ?_, ?_⟩
          · exact ⟨fun _ => ⟨rfl, holds⟩, fun _ => ⟨tree, rfl⟩⟩
          · intro other same
            cases same
            exact sound.mirrors raw read
          · intro invalid
            cases invalid
          · intro _ unreadable
            exact absurd holds unreadable
      | error mismatches =>
          have fails : ¬expression.IsReadable := by
            intro holds
            obtain ⟨tree, again⟩ := readable.mpr holds
            rw [read] at again
            cases again
          obtain ⟨message, worded, refused⟩ := refuse_structuralError (Option Condition)
          rw [parseCondition_of_mismatches present valid read, refused]
          refine ⟨?_, ?_, ?_, ?_⟩
          · constructor
            · rintro ⟨tree, same⟩
              cases same
            · rintro ⟨-, holds⟩
              exact absurd holds fails
          · intro tree same
            cases same
          · intro invalid
            cases invalid
          · intro _ _
            exact ⟨message, worded, rfl⟩

/-- A comparison of two fields. -/
def Value.sameZip : Value :=
  .mapping [(.text "field", .text "billing.zip"), (.text "operator", .text "="),
    (.text "value", .null), (.text "value_field", .text "shipping.zip")]

/-- A group of one comparison. -/
def Value.sameZipOnly : Value :=
  .mapping [(.text "operator", .text "AND"), (.text "rules", .list [sameZip])]

theorem parseCondition_sameZipOnly_agrees :
    Value.sameZipOnly.IsRaw ∧ Value.sameZipOnly ≠ .null ∧
      ∃ tree, parseCondition (.int 1) Value.sameZipOnly = .ok (some tree) ∧
        Value.sameZipOnly.Mirrors tree := by
  have raw : Value.sameZipOnly.IsRaw := by
    simp [Value.sameZipOnly, Value.sameZip, Value.IsRaw, Value.raw, rawEntries, rawElements]
  have present : Value.sameZipOnly ≠ .null := by
    intro absent
    cases absent
  have group : Value.sameZipOnly.IsGroup (.text LogicalOperator.and.symbol) [.sameZip] :=
    ⟨rfl, rfl, rfl⟩
  have comparison : Value.sameZip.IsComparison
      ⟨.text "billing.zip", .text ComparisonOperator.equal.symbol, some .null, .null⟩ :=
    ⟨rfl, (fun _ listed => by cases listed), rfl, rfl, rfl, rfl, .inl rfl⟩
  have sound : Value.sameZipOnly.WellFormed := by
    refine .group group (List.cons_ne_nil _ _) ?_
    intro rule member _
    obtain rfl := List.mem_singleton.mp member
    exact .comparison comparison ⟨⟨_, rfl, by decide⟩, ⟨.equal, rfl⟩, .inl rfl,
      (fun named => by cases named)⟩
  have low : Value.sameZipOnly.height ≤ 1 := by
    rw [group.height_le_iff]
    intro rule member _
    obtain rfl := List.mem_singleton.mp member
    rw [Value.height, comparison.levels_eq]
    exact Nat.one_pos
  have readable : Value.sameZipOnly.IsReadable := by
    rw [group.isReadable_iff]
    refine ⟨by simp [Value.sameZip], ?_⟩
    intro rule member
    obtain rfl := List.mem_singleton.mp member
    exact comparison.isReadable_iff.mpr ⟨some "shipping.zip", rfl⟩
  obtain ⟨report, checked, parsed, mirrored, -, -⟩ := parseCondition_agrees raw present 1
  have valid : report.valid = true := by
    rw [checkCondition_eq_ok speaks_none] at checked
    cases checked
    rw [ofIssues_conditionIssues_valid_iff, conditionFindings_eq_nil_iff]
    exact .inr ⟨sound, by omega⟩
  obtain ⟨tree, read⟩ := parsed.mpr ⟨valid, readable⟩
  exact ⟨raw, present, tree, read, mirrored tree read⟩

end Rulebook
