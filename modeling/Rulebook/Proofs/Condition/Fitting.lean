import Mathlib.Data.List.Forall2
import Rulebook.Condition.Typed
import Rulebook.Proofs.Raw

/-!
# Fitting expressions

An expression fits a typed tree exactly if its entries do: a group by its operator and its rules, a
comparison by its field, its operator and the entry that names the field to compare with.
-/

namespace Rulebook

/-! ## Parts of an expression -/

theorem fitListedRules_eq_bind (entries : Entries) :
    fitListedRules entries = (entries.get? "rules").bind Value.fitListed := by
  induction entries with
  | nil => rw [fitListedRules, Entries.get?_nil, Option.bind_none]
  | cons entry rest induction =>
      obtain ⟨key, value⟩ := entry
      rw [fitListedRules, Entries.get?_cons]
      split
      · rfl
      · exact induction

theorem Fit.all_eq_ok_iff {α : Type} (fits : List (Fit α)) (results : List α) :
    Fit.all fits = .ok results ↔
      List.Forall₂ (fun fit result => fit = .ok result) fits results := by
  induction fits generalizing results with
  | nil =>
      rw [Fit.all, List.forall₂_nil_left_iff]
      constructor
      · intro same
        exact (Except.ok.inj same).symm
      · rintro rfl
        rfl
  | cons first rest induction =>
      rw [Fit.all, List.forall₂_cons_left_iff]
      constructor
      · intro read
        split at read
        · rename_i head tail both
          obtain ⟨firstRead, restRead⟩ := (Fit.both_eq_ok_iff _ _ _).mp both
          cases read
          exact ⟨head, tail, firstRead, (induction tail).mp restRead, rfl⟩
        · cases read
      · rintro ⟨head, tail, firstRead, restRead, rfl⟩
        have both := (Fit.both_eq_ok_iff first (Fit.all rest) (head, tail)).mpr
          ⟨firstRead, (induction tail).mpr restRead⟩
        rw [both]

theorem exists_forall₂_iff {α β : Type} (relation : α → β → Prop) (left : List α) :
    (∃ right, List.Forall₂ relation left right) ↔ ∀ a ∈ left, ∃ b, relation a b := by
  induction left with
  | nil =>
      constructor
      · intro _ a member
        cases member
      · intro _
        exact ⟨[], .nil⟩
  | cons first rest induction =>
      rw [List.forall_mem_cons, ← induction]
      constructor
      · rintro ⟨right, all⟩
        cases all with
        | cons head tail => exact ⟨⟨_, head⟩, ⟨_, tail⟩⟩
      · rintro ⟨⟨b, head⟩, ⟨right, tail⟩⟩
        exact ⟨b :: right, .cons head tail⟩

/-- Elements are read as soon as there is one and each of them is read. -/
theorem fitElements_eq_ok_iff (elements : List Value) (trees : List Condition) :
    fitElements elements = .ok trees ↔
      elements ≠ [] ∧
        List.Forall₂ (fun element tree => element.fitExpression = .ok tree) elements trees := by
  have numbered (index : Nat) (rest : List Value) (results : List Condition) :
      Fit.all (fitNumbered index rest) = .ok results ↔
        List.Forall₂ (fun element tree => element.fitExpression = .ok tree) rest results := by
    rw [Fit.all_eq_ok_iff]
    induction rest generalizing index results with
    | nil => rw [fitNumbered, List.forall₂_nil_left_iff, List.forall₂_nil_left_iff]
    | cons element rest induction =>
        rw [fitNumbered, List.forall₂_cons_left_iff, List.forall₂_cons_left_iff]
        simp only [Fit.under_eq_ok_iff, induction]
  cases elements with
  | nil =>
      rw [fitElements]
      constructor
      · intro read
        cases read
      · rintro ⟨filled, -⟩
        exact absurd rfl filled
  | cons element rest =>
      rw [fitElements, numbered]
      constructor
      · intro each
        exact ⟨List.cons_ne_nil _ _, each⟩
      · rintro ⟨-, each⟩
        exact each

/-- The trees that elements are read as are as many, at least one, and each is read from one of
the elements. -/
theorem fitElements_reads {elements : List Value} {trees : List Condition}
    (read : fitElements elements = .ok trees) :
    trees ≠ [] ∧ trees.length = elements.length ∧
      ∀ tree ∈ trees, ∃ element ∈ elements, element.fitExpression = .ok tree := by
  obtain ⟨filled, each⟩ := (fitElements_eq_ok_iff elements trees).mp read
  refine ⟨?_, each.length_eq.symm, ?_⟩
  · intro empty
    rw [empty, List.forall₂_nil_right_iff] at each
    exact filled each
  · intro tree member
    obtain ⟨index, inTrees, rfl⟩ := List.mem_iff_getElem.mp member
    have inElements : index < elements.length := by
      rw [each.length_eq]
      exact inTrees
    exact ⟨_, List.getElem_mem inElements, each.get inElements inTrees⟩

theorem Entries.fitRequired_eq_ok_iff {α : Type} (name : Text) (fit : Value → Fit α)
    (entries : Entries) (result : α) :
    entries.fitRequired name fit = .ok result ↔
      ∃ value, entries.get? name = some value ∧ fit value = .ok result := by
  rw [fitRequired, Fit.under_eq_ok_iff]
  cases entries.get? name with
  | none => simp [Fit.fail]
  | some value => simp

theorem Value.fitText_eq_ok_iff (value : Value) (content : Text) :
    value.fitText = .ok content ↔ value = .text content := by
  cases value <;> simp [Value.fitText, Fit.fail]

theorem Value.fitOptionalText_eq_ok_iff (value : Value) (content : Option Text) :
    value.fitOptionalText = .ok content ↔ value = .ofText? content := by
  cases content <;> cases value <;> simp [Value.fitOptionalText, Value.ofText?, Fit.fail]

theorem Value.fitWord_eq_ok_iff {α : Type} {ofSymbol? : Text → Option α} {symbol : α → Text}
    (spelled : ∀ word meaning, ofSymbol? word = some meaning ↔ symbol meaning = word)
    (value : Value) (meaning : α) :
    value.fitWord ofSymbol? = .ok meaning ↔ value = .text (symbol meaning) := by
  cases value with
  | text content =>
      rw [Value.fitWord, Value.text.injEq]
      cases found : ofSymbol? content with
      | none =>
          constructor
          · intro read
            cases read
          · intro same
            rw [(spelled content meaning).mpr same.symm] at found
            cases found
      | some other =>
          constructor
          · intro read
            cases read
            exact ((spelled content meaning).mp found).symm
          · intro same
            rw [(spelled content meaning).mpr same.symm] at found
            cases found
            rfl
  | _ => simp [Value.fitWord, Fit.fail]

/-- The entry that names the field to compare with: the one under `valueField`, or else the one
under `value_field`. -/
def Entries.comparedField? (entries : Entries) : Option Value :=
  (entries.get? "valueField").or (entries.get? "value_field")

theorem fitValueField_eq_ok_iff (entries : Entries) (valueField : Option Text) :
    fitValueField entries = .ok valueField ↔
      entries.comparedField?.getD .null = .ofText? valueField := by
  rw [fitValueField, Entries.either?, Entries.comparedField?]
  cases entries.get? "valueField" with
  | some value => simp [Value.fitOptionalText_eq_ok_iff]
  | none =>
      cases entries.get? "value_field" with
      | some value => simp [Value.fitOptionalText_eq_ok_iff]
      | none => cases valueField <;> simp [Value.ofText?]

/-- A group is read from its operator and its rules. -/
theorem fitGroup_eq_ok_iff (entries : Entries) (rules : Fit (List Condition)) (tree : Condition) :
    fitGroup entries rules = .ok tree ↔
      ∃ (known : LogicalOperator) (trees : List Condition), tree = .group known trees ∧
        entries.get? "operator" = some (.text known.symbol) ∧ rules = .ok trees := by
  have word (value : Value) (known : LogicalOperator) :=
    Value.fitWord_eq_ok_iff LogicalOperator.ofSymbol?_eq_some_iff value known
  rw [fitGroup]
  constructor
  · intro read
    split at read
    · rename_i known trees both
      obtain ⟨operatorRead, rulesRead⟩ := (Fit.both_eq_ok_iff _ _ _).mp both
      obtain ⟨value, found, spelled⟩ := (Entries.fitRequired_eq_ok_iff _ _ _ _).mp operatorRead
      obtain rfl := (word value known).mp spelled
      cases read
      exact ⟨known, trees, rfl, found, (Fit.under_eq_ok_iff _ _ _).mp rulesRead⟩
    · cases read
  · rintro ⟨known, trees, rfl, found, rfl⟩
    have operatorRead := (Entries.fitRequired_eq_ok_iff "operator"
      (Value.fitWord LogicalOperator.ofSymbol?) entries known).mpr
      ⟨_, found, (word _ known).mpr rfl⟩
    rw [operatorRead]
    rfl

/-- A comparison is read from its field, its operator and the entry that names the field to compare
with; its value may be missing. -/
theorem fitComparison_eq_ok_iff (entries : Entries) (tree : Condition) :
    fitComparison entries = .ok tree ↔
      ∃ (field : Text) (known : ComparisonOperator) (valueField : Option Text),
        tree = .simple field known (entries.getD "value") valueField ∧
        entries.get? "field" = some (.text field) ∧
        entries.get? "operator" = some (.text known.symbol) ∧
        entries.comparedField?.getD .null = .ofText? valueField := by
  have word (value : Value) (known : ComparisonOperator) :=
    Value.fitWord_eq_ok_iff ComparisonOperator.ofSymbol?_eq_some_iff value known
  rw [fitComparison]
  constructor
  · intro read
    split at read
    · rename_i field known valueField both
      obtain ⟨fieldRead, rest⟩ := (Fit.both_eq_ok_iff _ _ _).mp both
      obtain ⟨operatorRead, valueFieldRead⟩ := (Fit.both_eq_ok_iff _ _ _).mp rest
      obtain ⟨value, hasField, content⟩ := (Entries.fitRequired_eq_ok_iff _ _ _ _).mp fieldRead
      obtain rfl := (Value.fitText_eq_ok_iff value field).mp content
      obtain ⟨value, hasOperator, spelled⟩ :=
        (Entries.fitRequired_eq_ok_iff _ _ _ _).mp operatorRead
      obtain rfl := (word value known).mp spelled
      cases read
      exact ⟨field, known, valueField, rfl, hasField, hasOperator,
        (fitValueField_eq_ok_iff entries valueField).mp valueFieldRead⟩
    · cases read
  · rintro ⟨field, known, valueField, rfl, hasField, hasOperator, named⟩
    have fieldRead := (Entries.fitRequired_eq_ok_iff "field" Value.fitText entries field).mpr
      ⟨_, hasField, rfl⟩
    have operatorRead := (Entries.fitRequired_eq_ok_iff "operator"
      (Value.fitWord ComparisonOperator.ofSymbol?) entries known).mpr
      ⟨_, hasOperator, (word _ known).mpr rfl⟩
    have valueFieldRead := (fitValueField_eq_ok_iff entries valueField).mpr named
    rw [fieldRead, operatorRead, valueFieldRead]
    rfl

/-! ## Reading along shapes -/

namespace Value

/-- The entry of an expression that names the field to compare with. -/
def comparedField? (expression : Value) : Option Value :=
  expression.entries?.bind Entries.comparedField?

section Raw

variable {expression : Value} (raw : expression.IsRaw)

include raw

theorem IsGroup.fitExpression_eq_ok_iff {operator : Value} {rules : List Value}
    (shape : expression.IsGroup operator rules) (tree : Condition) :
    expression.fitExpression = .ok tree ↔
      ∃ (known : LogicalOperator) (trees : List Condition), tree = .group known trees ∧
        operator = .text known.symbol ∧ rules ≠ [] ∧
        List.Forall₂ (fun rule tree => rule.fitExpression = .ok tree) rules trees := by
  obtain ⟨judged, hasOperator, hasRules⟩ := shape
  obtain rfl := raw.eq_mapping judged
  rename_i entries
  have listed : fitListedRules entries = some (fitElements rules) := by
    rw [fitListedRules_eq_bind, hasRules, Option.bind_some, Value.fitListed]
  have read : (Value.mapping entries).fitExpression =
      Fit.under (.name "group") (Rulebook.fitGroup entries (fitElements rules)) := by
    rw [Value.fitExpression, listed]
  rw [read, Fit.under_eq_ok_iff, fitGroup_eq_ok_iff, hasOperator]
  simp only [fitElements_eq_ok_iff, Option.some.injEq]

theorem IsComparison.fitExpression_eq_ok_iff {comparison : Comparison}
    (shape : expression.IsComparison comparison) (tree : Condition) :
    expression.fitExpression = .ok tree ↔
      ∃ (field : Text) (known : ComparisonOperator) (valueField : Option Text),
        tree = .simple field known (comparison.value.getD .null) valueField ∧
        comparison.field = .text field ∧ comparison.operator = .text known.symbol ∧
        expression.comparedField?.getD .null = .ofText? valueField := by
  obtain ⟨judged, noRules, hasField, hasOperator, value, -, -⟩ := shape
  obtain rfl := raw.eq_mapping judged
  rename_i entries
  have unlisted : fitListedRules entries = none := by
    rw [fitListedRules_eq_bind]
    cases found : entries.get? "rules" with
    | none => rfl
    | some other =>
        rw [Option.bind_some]
        cases other with
        | list rules => exact absurd found (noRules rules)
        | _ => rw [Value.fitListed]; simp
  have read : (Value.mapping entries).fitExpression =
      Fit.under (.name "simple") (fitComparison entries) := by
    rw [Value.fitExpression, unlisted]
  have compared : entries.getD "value" = comparison.value.getD .null := by
    rw [Entries.getD, value]
  rw [read, Fit.under_eq_ok_iff, fitComparison_eq_ok_iff, hasField, hasOperator, compared]
  simp only [Option.some.injEq]
  rfl

end Raw

theorem not_fitExpression_null (tree : Condition) : (Value.null).fitExpression ≠ .ok tree := by
  simp [fitExpression, Fit.fail, Fit.under]

end Value

end Rulebook
