import Rulebook.Proofs.Condition.Guarded

/-!
# The ceilings of the guard

The guard is a recursion that stops at the first ceiling exceeded and asks of each node only what
its form calls for.  Here the ceilings are stated for all nodes that the descent along lists of
rules reaches, and the guard is shown to admit exactly the expressions whose nodes respect them.
The check of a condition reaches no more than that, so the ceilings hold of all groups and
comparisons that it looks at.
-/

namespace Rulebook

namespace Value

/-! ## Nodes below an expression -/

/-- The descent along lists under `rules` of mappings reaches a node at that depth.  Whatever else
a mapping holds is passed over, and every element of a list counts, the absent ones too. -/
inductive Reaches : Value → Nat → Value → Prop
  | self (expression : Value) : Reaches expression 0 expression
  | rule {entries : Entries} {rules : List Value} {rule node : Value} {depth : Nat}
      (listed : entries.get? "rules" = some (.list rules)) (member : rule ∈ rules)
      (further : Reaches rule depth node) : Reaches (.mapping entries) (depth + 1) node

/-- What the ceilings ask of a node by itself. -/
structure RespectsCeilings (node : Value) : Prop where
  rules : ∀ (entries : Entries) (rules : List Value), node = .mapping entries →
    entries.get? "rules" = some (.list rules) → rules.length ≤ 50
  /-- The field counts as it is shown, and only where there is no list of rules. -/
  field : ∀ (entries : Entries) (field : Value), node = .mapping entries →
    (∀ rules, entries.get? "rules" ≠ some (.list rules)) → entries.get? "field" = some field →
    field.display.length ≤ 200

theorem rules?_eq_some_iff (node : Value) (rules : List Value) :
    node.rules? = some rules ↔
      ∃ entries : Entries, node = .mapping entries ∧ entries.get? "rules" = some (.list rules) := by
  cases node with
  | mapping entries => simp [rules?, Entries.getD_eq_list_iff]
  | _ => simp [rules?]

/-- What is reached is the expression itself, or is reached from one of its rules. -/
theorem forall_reaches_iff {motive : Nat → Value → Prop} (expression : Value) :
    (∀ depth node, expression.Reaches depth node → motive depth node) ↔
      motive 0 expression ∧
        ∀ rules, expression.rules? = some rules →
          ∀ rule ∈ rules, ∀ depth node, rule.Reaches depth node → motive (depth + 1) node := by
  constructor
  · intro each
    refine ⟨each 0 expression (.self expression), ?_⟩
    intro rules descended rule member depth node further
    obtain ⟨entries, same, listed⟩ := (rules?_eq_some_iff _ _).mp descended
    have reached : expression.Reaches (depth + 1) node := by
      rw [same]
      exact .rule listed member further
    exact each (depth + 1) node reached
  · intro parts depth node reached
    obtain ⟨own, below⟩ := parts
    cases reached with
    | self => exact own
    | rule listed member further =>
        have descended := (rules?_eq_some_iff _ _).mpr ⟨_, rfl, listed⟩
        exact below _ descended _ member _ node further

/-! ## What the guard asks of one node -/

theorem respectsCeilings_of_rules {node : Value} {rules : List Value}
    (descended : node.rules? = some rules) :
    node.RespectsCeilings ↔ rules.length ≤ maxRulesPerGroup := by
  obtain ⟨entries, same, listed⟩ := (rules?_eq_some_iff _ _).mp descended
  constructor
  · intro respects
    exact respects.rules entries rules same listed
  · intro few
    refine ⟨?_, ?_⟩
    · intro others elements again found
      have own : others = entries := mapping.inj (again.symm.trans same)
      rw [own, listed] at found
      cases found
      exact few
    · intro others field again unlisted
      have own : others = entries := mapping.inj (again.symm.trans same)
      rw [own] at unlisted
      exact absurd listed (unlisted rules)

theorem respectsCeilings_of_no_rules {node : Value} (leaf : node.rules? = none) :
    node.RespectsCeilings ↔ node.hasShortField = true := by
  have unlisted : ∀ (entries : Entries) (rules : List Value), node = .mapping entries →
      entries.get? "rules" ≠ some (.list rules) := by
    intro entries rules same listed
    have descended := (rules?_eq_some_iff node rules).mpr ⟨entries, same, listed⟩
    rw [leaf] at descended
    cases descended
  constructor
  · intro respects
    cases node with
    | mapping entries =>
        rw [hasShortField]
        cases found : Entries.get? "field" entries with
        | none => rfl
        | some field =>
            have short := respects.field entries field rfl
              (fun rules => unlisted entries rules rfl) found
            exact decide_eq_true short
    | _ => rfl
  · intro short
    refine ⟨?_, ?_⟩
    · intro entries rules same listed
      exact absurd listed (unlisted entries rules same)
    · intro entries field same _ found
      rw [same, hasShortField, found] at short
      exact of_decide_eq_true short

/-! ## The guard as a whole -/

/-- An expression fits into levels exactly if all nodes below it lie within them and respect the
ceilings. -/
theorem fitsLevels_eq_true_iff (levels : Nat) (expression : Value) :
    expression.fitsLevels levels = true ↔
      ∀ depth node, expression.Reaches depth node → depth < levels ∧ node.RespectsCeilings := by
  induction levels generalizing expression with
  -- Without a level left the expression itself is too deep, whatever it holds.
  | zero => simp [forall_reaches_iff expression, fitsLevels]
  | succ levels induction =>
      rw [forall_reaches_iff, fitsLevels]
      cases descended : expression.rules? with
      | none => simp [respectsCeilings_of_no_rules descended]
      | some rules =>
          have below : rules.all (fitsLevels levels) = true ↔
              ∀ rule ∈ rules, ∀ depth node, rule.Reaches depth node →
                depth < levels ∧ node.RespectsCeilings := by
            rw [List.all_eq_true]
            exact forall_congr' fun rule => imp_congr_right fun _ => induction rule
          simp [respectsCeilings_of_rules descended, ← below]

/-! ## What the check looks at -/

/-- The check of an expression at a depth looks at the form of the node at a path, which is no
deeper than the limit. -/
inductive Visits (limit depth : Int) (expression : Value) (path : List Nat) : Node → Prop
  | mk {place : Value} {form : Node} (found : expression.At path place)
      (formed : place.node? = some form) (within : depth + (path.length : Int) ≤ limit) :
      Visits limit depth expression path form

/-- The guard descends to every place that the check can reach. -/
theorem At.reaches {expression node : Value} {path : List Nat} (raw : expression.IsRaw)
    (place : expression.At path node) : expression.Reaches path.length node := by
  induction place with
  | here expression => exact .self expression
  | rule shape found further induction =>
      have member := List.mem_of_getElem? found
      have below := induction (raw.rules shape _ member)
      obtain ⟨judged, -, hasRules⟩ := shape
      rw [raw.eq_mapping judged]
      exact .rule hasRules member below

theorem At.isRaw {expression node : Value} {path : List Nat} (raw : expression.IsRaw)
    (place : expression.At path node) : node.IsRaw := by
  induction place with
  | here expression => exact raw
  | rule shape found further induction =>
      exact induction (raw.rules shape _ (List.mem_of_getElem? found))

end Value

/-- What the ceilings come to for the form of a node that many levels down. -/
def Node.RespectsCeilings (depth : Nat) : Node → Prop
  | .group _ rules => rules.length ≤ 50 ∧ depth ≤ 10
  | .comparison found => found.field.display.length ≤ 200

theorem Value.RespectsCeilings.node {node : Value} {form : Node} (respects : node.RespectsCeilings)
    (raw : node.IsRaw) (formed : node.node? = some form) {depth : Nat} (shallow : depth ≤ 10) :
    form.RespectsCeilings depth := by
  cases form with
  | group operator rules =>
      have shape := (node.node?_eq_group_iff operator rules).mp formed
      obtain ⟨judged, -, hasRules⟩ := shape
      exact ⟨respects.rules _ _ (raw.eq_mapping judged) hasRules, shallow⟩
  | comparison comparison =>
      have shape := (node.node?_eq_comparison_iff comparison).mp formed
      obtain ⟨judged, noRules, hasField, -, -, -, -⟩ := shape
      exact respects.field _ _ (raw.eq_mapping judged) noRules hasField

/-- An expression is safe exactly if it is absent, or if every node that the descent along lists of
rules reaches is at depth ten at most and respects the ceilings.  So whatever group or comparison
the check looks at in a safe expression respects them. -/
theorem isSafe_iff_ceilings (expression : Value) :
    (isSafe expression = true ↔
      expression = .null ∨
        ∀ depth node, expression.Reaches depth node → depth ≤ 10 ∧ node.RespectsCeilings) ∧
    (expression.IsRaw → isSafe expression = true →
      ∀ limit depth path form, expression.Visits limit depth path form →
        form.RespectsCeilings path.length) := by
  have ceilings : isSafe expression = true ↔
      ∀ depth node, expression.Reaches depth node → depth ≤ 10 ∧ node.RespectsCeilings := by
    rw [isSafe, Value.fitsLevels_eq_true_iff]
    simp only [Nat.lt_succ_iff, maxSafeDepth]
  refine ⟨?_, ?_⟩
  · constructor
    · intro safe
      exact .inr (ceilings.mp safe)
    · intro admitted
      rcases admitted with absent | each
      · rw [absent, isSafe_null]
      · exact ceilings.mpr each
  · intro raw safe limit depth path form visited
    obtain ⟨found, formed, -⟩ := visited
    obtain ⟨shallow, respects⟩ := ceilings.mp safe _ _ (found.reaches raw)
    exact respects.node (found.isRaw raw) formed shallow

/-- A group whose own field is too long for a comparison, over an absent rule, a number and a
comparison of a field that is no text. -/
def Value.sprawling : Value :=
  .mapping [(.text "operator", .text "AND"),
    (.text "field", .text (List.replicate 201 (CodePoint.ofChar 'a'))),
    (.text "rules", .list [.null, .int 7,
      .mapping [(.text "field", .bool true), (.text "operator", .text "IS_EMPTY")]])]

theorem isSafe_sprawling_ceilings :
    isSafe Value.sprawling = true ∧ Value.sprawling.IsRaw ∧
      (∀ depth node, Value.sprawling.Reaches depth node → depth ≤ 10 ∧ node.RespectsCeilings) ∧
      Value.sprawling.Visits 5 0 [3] (.comparison ⟨.bool true, .text "IS_EMPTY", none, .null⟩) ∧
      (Value.bool true).display.length ≤ 200 := by
  have safe : isSafe Value.sprawling = true := by rfl
  have raw : Value.sprawling.IsRaw := by
    simp [Value.sprawling, Value.IsRaw, Value.raw, rawEntries, rawElements]
  have visited : Value.sprawling.Visits 5 0 [3]
      (.comparison ⟨.bool true, .text "IS_EMPTY", none, .null⟩) :=
    .mk (.rule ⟨rfl, rfl, rfl⟩ rfl (.here _)) rfl (by decide)
  obtain ⟨admitted, bounded⟩ := isSafe_iff_ceilings Value.sprawling
  refine ⟨safe, raw, ?_, visited, bounded raw safe 5 0 [3] _ visited⟩
  rcases admitted.mp safe with absent | each
  · cases absent
  · exact each

end Rulebook
