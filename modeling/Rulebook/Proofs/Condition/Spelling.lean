import Rulebook.Proofs.Condition.Fitting
import Rulebook.Proofs.Condition.Grammar

/-!
# Typed trees and the mappings they are read from

Reading is more generous than the check.  It fills in an absent value where a comparison says
nothing to compare with, finds the field to compare with under either of its names, takes a tuple
of rules for a list, and passes over rules in a mapping that it reads as a comparison.  The check
of the tree then sees what was filled in, and the check of the mapping what was written.  So a
mapping passes the check exactly if its tree does and the mapping spells the tree out.
-/

namespace Rulebook

theorem LogicalOperator.symbol_ne (known : LogicalOperator) (other : ComparisonOperator) :
    known.symbol ≠ other.symbol := by
  cases known <;> cases other <;> decide

theorem forall₂_iff_and {α β : Type} {first : α → Prop} {second : β → Prop}
    {both : α → β → Prop} {left : List α} {right : List β}
    (each : List.Forall₂ (fun a b => first a ↔ second b ∧ both a b) left right) :
    (∀ a ∈ left, first a) ↔ (∀ b ∈ right, second b) ∧ List.Forall₂ both left right := by
  induction each with
  | nil => simp
  | cons head tail induction =>
      rw [List.forall_mem_cons, List.forall_mem_cons, List.forall₂_cons, head, induction]
      exact and_and_and_comm

theorem ComparisonOperator.needsNoValue_symbol (known : ComparisonOperator) :
    (Value.text known.symbol).needsNoValue = known.needsNoValue := by
  rw [Value.needsNoValue, Value.text?, Option.bind_some, (ofSymbol?_eq_some_iff _ known).mpr rfl]
  rfl

/-- A comparison whose parts are of the right kind needs a field path and something to compare
with. -/
theorem Comparison.isWellFormed_iff (field : Text) (known : ComparisonOperator)
    (value : Option Value) {valueField : Value} (named : ∃ name, valueField = .ofText? name) :
    (Comparison.mk (.text field) (.text known.symbol) value valueField).IsWellFormed ↔
      field ∈ FieldPath.pattern.matches' ∧
        (value.isSome = true ∨ valueField.truthy = true ∨ known.needsNoValue = true) := by
  constructor
  · intro sound
    obtain ⟨⟨path, same, valid⟩, -, compared, -⟩ := sound
    cases same
    rw [known.needsNoValue_symbol] at compared
    exact ⟨valid, compared⟩
  · intro parts
    obtain ⟨valid, compared⟩ := parts
    obtain ⟨name, rfl⟩ := named
    rw [← known.needsNoValue_symbol] at compared
    refine ⟨⟨field, rfl, valid⟩, ⟨known, rfl⟩, compared, ?_⟩
    intro truthy
    cases name with
    | none => cases truthy
    | some content => exact ⟨content, rfl⟩

namespace Value

/-! ## Spelling a tree out -/

/-- The expression says by itself what the tree says that was read from it: the rules of every
group stand in a list, and every comparison, which has no such list, gives a value or a field to
compare with unless its operator needs neither. -/
inductive SpellsOut : Value → Condition → Prop
  | typed (tree : Condition) : SpellsOut (.condition tree) tree
  | group {entries : Entries} {operator : LogicalOperator} {rules : List Value}
      {trees : List Condition} (listed : entries.get? "rules" = some (.list rules))
      (number : rules.length = trees.length)
      (each : ∀ pair ∈ rules.zip trees, SpellsOut pair.1 pair.2) :
      SpellsOut (.mapping entries) (.group operator trees)
  | simple {entries : Entries} {field : Text} {operator : ComparisonOperator} {value : Value}
      {valueField : Option Text}
      (unlisted : ∀ rules, entries.get? "rules" ≠ some (.list rules))
      (compared : entries.has "value" = true ∨ (entries.getD "valueField").truthy = true ∨
        operator.needsNoValue = true) :
      SpellsOut (.mapping entries) (.simple field operator value valueField)

theorem spellsOut_group_iff (entries : Entries) (operator : LogicalOperator)
    (trees : List Condition) :
    SpellsOut (.mapping entries) (.group operator trees) ↔
      ∃ rules, entries.get? "rules" = some (.list rules) ∧ List.Forall₂ SpellsOut rules trees := by
  simp only [List.forall₂_iff_zip]
  constructor
  · intro spelled
    cases spelled with
    | group listed number each => exact ⟨_, listed, number, fun member => each _ member⟩
  · intro parts
    obtain ⟨rules, listed, number, each⟩ := parts
    exact .group listed number fun _ member => each member

/-! ## Trees and mappings -/

section Reading

variable {limit depth : Int} {entries : Entries}

theorem exists_valueField_of_comparedField {valueField : Option Text}
    (named : entries.comparedField?.getD .null = .ofText? valueField) :
    ∃ name, entries.getD "valueField" = .ofText? name := by
  rw [Entries.getD]
  rw [Entries.comparedField?] at named
  cases found : entries.get? "valueField" with
  | none => exact ⟨none, rfl⟩
  | some value =>
      rw [found, Option.some_or, Option.getD_some] at named
      exact ⟨valueField, named⟩

/-- A typed comparison has all entries. -/
theorem passes_simple_iff (field : Text) (known : ComparisonOperator) (value : Value)
    (valueField : Option Text) :
    (condition (.simple field known value valueField)).Passes limit depth ↔
      depth ≤ limit ∧ field ∈ FieldPath.pattern.matches' := by
  have shape : IsComparison (.condition (.simple field known value valueField))
      ⟨.text field, .text known.symbol, some value.raw, .ofText? valueField⟩ :=
    ⟨rfl, (fun _ listed => by cases listed), rfl, rfl, rfl, rfl, .inl rfl⟩
  rw [shape.passes_iff, Comparison.isWellFormed_iff field known _ ⟨valueField, rfl⟩]
  simp

theorem passes_group_iff (operator : LogicalOperator) (trees : List Condition) :
    (condition (.group operator trees)).Passes limit depth ↔
      depth ≤ limit ∧ trees ≠ [] ∧ ∀ tree ∈ trees, (condition tree).Passes limit (depth + 1) := by
  have shape : IsGroup (.condition (.group operator trees)) (.text operator.symbol)
      (rawRules trees) := ⟨rfl, rfl, rfl⟩
  rw [shape.passes_iff, rawRules_eq_map, List.forall_mem_map, ne_eq, List.map_eq_nil_iff]
  simp [passes_raw_iff]

/-- A comparison is spelled out by entries that form one and give something to compare with. -/
theorem isComparison_of_compared {field : Text} {known : ComparisonOperator}
    (hasField : entries.get? "field" = some (.text field))
    (hasOperator : entries.get? "operator" = some (.text known.symbol))
    (unlisted : ∀ rules, entries.get? "rules" ≠ some (.list rules))
    (compared : entries.has "value" = true ∨ (entries.getD "valueField").truthy = true ∨
      known.needsNoValue = true) :
    IsComparison (.mapping entries)
      ⟨.text field, .text known.symbol, entries.get? "value", entries.getD "valueField"⟩ := by
  refine ⟨rfl, unlisted, hasField, hasOperator, rfl, rfl, ?_⟩
  obtain value | named | spared := compared
  · exact .inl value
  · right
    left
    cases found : entries.get? "valueField" with
    | none => simp [Entries.getD, found, truthy] at named
    | some value => simp [Entries.has, found]
  · exact .inr (.inr (known.needsNoValue_symbol.trans spared))

/-- A mapping that is read as a comparison passes if its tree does and it spells the tree out. -/
theorem passes_iff_of_fitComparison {tree : Condition} (read : fitComparison entries = .ok tree) :
    (mapping entries).Passes limit depth ↔
      (condition tree).Passes limit depth ∧ (mapping entries).SpellsOut tree := by
  obtain ⟨field, known, valueField, rfl, hasField, hasOperator, named⟩ :=
    (fitComparison_eq_ok_iff entries tree).mp read
  have own := exists_valueField_of_comparedField named
  rw [passes_simple_iff]
  constructor
  · intro passes
    obtain absent | ⟨operator, rules, shape⟩ | ⟨comparison, shape⟩ | shapeless :=
      (mapping entries).shape_cases
    · cases absent
    · -- With a list of rules it is a group, for which no word of a comparison will do.
      obtain ⟨-, ⟨other, same⟩, -, -⟩ := shape.passes_iff.mp passes
      obtain ⟨judged, spelled, -⟩ := shape
      cases judged
      rw [hasOperator, same] at spelled
      exact absurd (Value.text.inj (Option.some.inj spelled)).symm (other.symbol_ne known)
    · obtain ⟨within, sound⟩ := shape.passes_iff.mp passes
      obtain ⟨path, word, value, compared⟩ := comparison
      obtain ⟨judged, unlisted, fieldFound, operatorFound, rfl, rfl, -⟩ := shape
      cases judged
      rw [hasField] at fieldFound
      rw [hasOperator] at operatorFound
      cases fieldFound
      cases operatorFound
      obtain ⟨valid, marked⟩ := (Comparison.isWellFormed_iff field known _ own).mp sound
      exact ⟨⟨within, valid⟩, .simple unlisted marked⟩
    · exact absurd passes shapeless.not_passes
  · intro parts
    obtain ⟨⟨within, valid⟩, spelled⟩ := parts
    cases spelled with
    | simple unlisted compared =>
        have shape := isComparison_of_compared hasField hasOperator unlisted compared
        rw [shape.passes_iff, Comparison.isWellFormed_iff field known _ own]
        exact ⟨within, valid, compared⟩

/-- A mapping with a list of rules passes with its tree as soon as its rules do with theirs. -/
theorem passes_iff_of_rules {operator : LogicalOperator} {rules : List Value}
    {trees : List Condition} (hasOperator : entries.get? "operator" = some (.text operator.symbol))
    (listed : entries.get? "rules" = some (.list rules)) (filled : rules ≠ [])
    (each : List.Forall₂ (fun rule tree => rule.Passes limit (depth + 1) ↔
      (condition tree).Passes limit (depth + 1) ∧ rule.SpellsOut tree) rules trees) :
    (mapping entries).Passes limit depth ↔
      (condition (.group operator trees)).Passes limit depth ∧
        (mapping entries).SpellsOut (.group operator trees) := by
  have shape : IsGroup (.mapping entries) (.text operator.symbol) rules :=
    ⟨rfl, hasOperator, listed⟩
  have spelled : (mapping entries).SpellsOut (.group operator trees) ↔
      List.Forall₂ SpellsOut rules trees := by
    rw [spellsOut_group_iff]
    simp [listed]
  have treesFilled : trees ≠ [] := by
    intro empty
    rw [empty, List.forall₂_nil_right_iff] at each
    exact filled each
  rw [shape.passes_iff, passes_group_iff, spelled, forall₂_iff_and each]
  simp [filled, treesFilled, and_assoc]

theorem fitExpression_mapping_eq_ok_iff (entries : Entries) (tree : Condition) :
    (mapping entries).fitExpression = .ok tree ↔
      (∃ rules, entries.get? "rules" = some (.list rules) ∧
        Rulebook.fitGroup entries (fitElements rules) = .ok tree) ∨
      ((∀ rules, entries.get? "rules" ≠ some (.list rules)) ∧
        fitComparison entries = .ok tree) := by
  rw [fitExpression, fitListedRules_eq_bind]
  cases found : entries.get? "rules" with
  | none => simp [Fit.under_eq_ok_iff]
  | some value => cases value <;> simp [fitListed, Fit.under_eq_ok_iff]

/-- An expression that is read passes if its tree does and it spells the tree out. -/
theorem passes_iff_of_fitExpression {expression : Value} {tree : Condition}
    (read : expression.fitExpression = .ok tree) :
    expression.Passes limit depth ↔
      (condition tree).Passes limit depth ∧ expression.SpellsOut tree := by
  induction expression using induction_rules generalizing depth tree with
  | step expression induction =>
      cases expression with
      | condition typed =>
          rw [fitExpression] at read
          cases read
          simp [SpellsOut.typed]
      | mapping entries =>
          obtain ⟨rules, listed, group⟩ | ⟨-, comparison⟩ :=
            (fitExpression_mapping_eq_ok_iff entries tree).mp read
          · obtain ⟨operator, trees, rfl, hasOperator, rulesRead⟩ :=
              (fitGroup_eq_ok_iff _ _ _).mp group
            obtain ⟨filled, each⟩ := (fitElements_eq_ok_iff rules trees).mp rulesRead
            have below := induction _ rules ⟨rfl, hasOperator, listed⟩
            apply passes_iff_of_rules hasOperator listed filled
            rw [List.forall₂_iff_zip] at each ⊢
            refine ⟨each.1, fun member => ?_⟩
            exact below _ (List.of_mem_zip member).1 (each.2 member)
          · exact passes_iff_of_fitComparison comparison
      | _ => simp [fitExpression, Fit.fail, Fit.under] at read

/-- With the operator of a group and no list of rules nothing passes. -/
theorem not_passes_of_unlisted {operator : LogicalOperator}
    (hasOperator : entries.get? "operator" = some (.text operator.symbol))
    (unlisted : ∀ rules, entries.get? "rules" ≠ some (.list rules)) :
    ¬(mapping entries).Passes limit depth := by
  intro passes
  obtain absent | ⟨_, rules, shape⟩ | ⟨comparison, shape⟩ | shapeless :=
    (mapping entries).shape_cases
  · cases absent
  · obtain ⟨judged, -, listed⟩ := shape
    cases judged
    exact unlisted rules listed
  · obtain ⟨-, -, ⟨other, same⟩, -, -⟩ := shape.passes_iff.mp passes
    obtain ⟨judged, -, -, spelled, -, -, -⟩ := shape
    cases judged
    rw [hasOperator, same] at spelled
    exact operator.symbol_ne other (Value.text.inj (Option.some.inj spelled))
  · exact shapeless.not_passes passes

/-- A mapping that is read as a group, from a list or a tuple of rules, passes if its tree does and
it spells the tree out. -/
theorem passes_iff_of_fitGroup {tree : Condition}
    (read : Rulebook.fitGroup entries (fitRules entries) = .ok tree) :
    (mapping entries).Passes limit depth ↔
      (condition tree).Passes limit depth ∧ (mapping entries).SpellsOut tree := by
  obtain ⟨operator, trees, rfl, hasOperator, rulesRead⟩ := (fitGroup_eq_ok_iff _ _ _).mp read
  by_cases listed : ∃ rules, entries.get? "rules" = some (.list rules)
  · obtain ⟨rules, listed⟩ := listed
    rw [fitRules, listed] at rulesRead
    obtain ⟨filled, each⟩ := (fitElements_eq_ok_iff rules trees).mp rulesRead
    apply passes_iff_of_rules hasOperator listed filled
    exact each.imp fun _ _ ruleRead => passes_iff_of_fitExpression ruleRead
  · have unlisted := not_exists.mp listed
    have fails : ¬(mapping entries).Passes limit depth :=
      not_passes_of_unlisted hasOperator unlisted
    rw [spellsOut_group_iff]
    simp [fails, unlisted]

end Reading

end Value

/-- A mapping that is read as a typed tree passes the check, at whatever depth and limit, exactly if
the tree passes it and the mapping spells the tree out. -/
theorem checkCondition_typed_iff (limit depth : Int) {entries : Entries} {tree : Condition}
    (read : (Value.mapping entries).fitSimple = .ok tree ∨
      (Value.mapping entries).fitGroup = .ok tree) :
    ∃ own typed,
      checkCondition none (.int limit) (.int depth) (.mapping entries) = .ok own ∧
      checkCondition none (.int limit) (.int depth) (.condition tree) = .ok typed ∧
      (own.valid = true ↔ typed.valid = true ∧ (Value.mapping entries).SpellsOut tree) := by
  refine ⟨_, _, checkCondition_eq_ok speaks_none limit depth _,
    checkCondition_eq_ok speaks_none limit depth _, ?_⟩
  rw [ofIssues_conditionIssues_valid_iff, ofIssues_conditionIssues_valid_iff]
  obtain comparison | group := read
  · exact Value.passes_iff_of_fitComparison comparison
  · exact Value.passes_iff_of_fitGroup group

/-- A comparison that does not say what to compare with. -/
def Entries.unsaid : Entries := [(.text "field", .text "total"), (.text "operator", .text "=")]

/-- A group of one comparison that does. -/
def Entries.said : Entries :=
  [(.text "operator", .text "NOT"),
    (.text "rules", .list [.mapping (unsaid ++ [(.text "value", .int 1)])])]

theorem checkCondition_said_valid :
    ∃ tree, (Value.mapping Entries.said).fitGroup = .ok tree ∧
      ∃ own, checkCondition none (.int 1) (.int 0) (.mapping Entries.said) = .ok own ∧
        own.valid = true := by
  let inner : Condition := .simple "total" .equal (.int 1) none
  have innerRead : (Value.mapping (Entries.unsaid ++ [(.text "value", .int 1)])).fitExpression =
      .ok inner := by
    refine (Value.fitExpression_mapping_eq_ok_iff _ _).mpr (.inr ⟨?_, rfl⟩)
    intro rules listed
    cases listed
  have read : (Value.mapping Entries.said).fitGroup = .ok (.group .not [inner]) := by
    refine (fitGroup_eq_ok_iff _ _ _).mpr ⟨.not, [inner], rfl, rfl, ?_⟩
    exact (fitElements_eq_ok_iff _ _).mpr ⟨List.cons_ne_nil _ _, .cons innerRead .nil⟩
  have spelled : (Value.mapping Entries.said).SpellsOut (.group .not [inner]) := by
    refine .group rfl rfl ?_
    intro pair member
    obtain rfl := List.mem_singleton.mp member
    exact .simple (fun _ listed => by cases listed) (.inl rfl)
  obtain ⟨own, typed, checked, typedChecked, same⟩ := checkCondition_typed_iff 1 0 (.inr read)
  have valid : typed.valid = true := by
    cases typedChecked
    rfl
  exact ⟨_, read, own, checked, same.mpr ⟨valid, spelled⟩⟩

theorem checkCondition_unsaid_differs :
    ∃ tree, (Value.mapping Entries.unsaid).fitSimple = .ok tree ∧
      ∃ own typed,
        checkCondition none (.int 5) (.int 0) (.mapping Entries.unsaid) = .ok own ∧
        checkCondition none (.int 5) (.int 0) (.condition tree) = .ok typed ∧
        own.valid = false ∧ typed.valid = true :=
  ⟨.simple "total" .equal .null none, rfl, _, _, rfl, rfl, rfl, rfl⟩

end Rulebook
