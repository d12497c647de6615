import Rulebook.Proofs.Condition.Grammar

/-!
# Places in expressions

A place in an expression is named by the positions, counted from one, of the rules that lead to
it from group to group.  The height of an expression is the length of its longest path to a rule
that is there.
-/

namespace Rulebook

namespace Value

/-- The expression at a path of positions through groups. -/
inductive At : Value → List Nat → Value → Prop
  | here (expression : Value) : At expression [] expression
  | rule {expression operator rule node : Value} {rules : List Value} {index : Nat}
      {path : List Nat} (shape : expression.IsGroup operator rules)
      (found : rules[index]? = some rule) (further : At rule path node) :
      At expression ((index + 1) :: path) node

theorem at_nil_iff (expression node : Value) : expression.At [] node ↔ node = expression := by
  constructor
  · intro place
    cases place
    rfl
  · rintro rfl
    exact .here node

theorem IsGroup.at_cons_iff {expression operator : Value} {rules : List Value}
    (shape : expression.IsGroup operator rules) (position : Nat) (path : List Nat)
    (node : Value) :
    expression.At (position :: path) node ↔
      ∃ index rule, position = index + 1 ∧ rules[index]? = some rule ∧ rule.At path node := by
  constructor
  · intro place
    cases place with
    | rule again found further =>
        obtain ⟨rfl, rfl⟩ := shape.unique again
        exact ⟨_, _, rfl, found, further⟩
  · rintro ⟨index, rule, rfl, found, further⟩
    exact .rule shape found further

/-- A path leads through the rule at its first position. -/
theorem at_cons_iff (expression : Value) (position : Nat) (path : List Nat) (node : Value) :
    expression.At (position :: path) node ↔
      ∃ rule, expression.At [position] rule ∧ rule.At path node := by
  constructor
  · intro place
    cases place with
    | rule shape found further => exact ⟨_, .rule shape found (.here _), further⟩
  · rintro ⟨rule, place, further⟩
    cases place with
    | rule shape found here =>
        obtain rfl := (at_nil_iff _ _).mp here
        exact .rule shape found further

/-- There is at most one expression at a path. -/
theorem At.unique {expression node other : Value} {path : List Nat}
    (place : expression.At path node) (again : expression.At path other) : other = node := by
  induction place with
  | here expression => exact (at_nil_iff expression other).mp again
  | rule shape found further induction =>
      obtain ⟨index, rule, same, foundAgain, furtherAgain⟩ := (shape.at_cons_iff _ _ _).mp again
      obtain rfl := Nat.succ.inj same
      rw [found] at foundAgain
      cases foundAgain
      exact induction furtherAgain

/-- Only groups have anything below them. -/
theorem not_at_cons {expression : Value}
    (noGroup : ∀ operator rules, ¬expression.IsGroup operator rules) (position : Nat)
    (path : List Nat) (node : Value) : ¬expression.At (position :: path) node := by
  intro place
  cases place with
  | rule shape _ _ => exact noGroup _ _ shape

/-- What passes from the rules of an expression to the expression holds of every expression. -/
theorem induction_at {motive : Value → Prop}
    (step : ∀ expression, (∀ position rule, expression.At [position] rule → motive rule) →
      motive expression) (expression : Value) : motive expression := by
  induction expression using induction_rules with
  | step expression induction =>
      apply step
      intro position rule place
      cases place with
      | rule shape found here =>
          obtain rfl := (at_nil_iff _ _).mp here
          exact induction _ _ shape rule (List.mem_of_getElem? found)

/-- The height bounds the paths to all that is there, and no smaller number does. -/
theorem height_le_iff {expression : Value} (present : expression ≠ .null) (bound : Nat) :
    expression.height ≤ bound ↔
      ∀ path node, expression.At path node → node ≠ .null → path.length ≤ bound := by
  induction expression using shape_induction generalizing bound with
  | null => exact absurd rfl present
  | group expression operator rules shape induction =>
      rw [shape.height_le_iff]
      constructor
      · intro low path node place there
        cases path with
        | nil => exact Nat.zero_le bound
        | cons position path =>
            obtain ⟨index, rule, rfl, found, further⟩ :=
              (shape.at_cons_iff position path node).mp place
            have member : rule ∈ rules := List.mem_of_getElem? found
            have ruleThere : rule ≠ .null := by
              rintro rfl
              cases further with
              | here => exact there rfl
              | rule again _ _ => exact again.ne_null rfl
            have below := low rule member ruleThere
            have further := (induction rule member ruleThere (bound - 1)).mp (by omega) path node
              further there
            rw [List.length_cons]
            omega
      · intro short rule member ruleThere
        obtain ⟨index, found⟩ := List.mem_iff_getElem?.mp member
        have own := short [index + 1] rule (.rule shape found (.here rule)) ruleThere
        rw [List.length_singleton] at own
        have low : rule.height ≤ bound - 1 := by
          rw [induction rule member ruleThere]
          intro path node place there
          have longer := short ((index + 1) :: path) node (.rule shape found place) there
          rw [List.length_cons] at longer
          omega
        omega
  | comparison expression comparison shape =>
      rw [height, shape.levels_eq]
      constructor
      · intro _ path node place _
        cases path with
        | nil => exact Nat.zero_le bound
        | cons position path => exact absurd place (not_at_cons shape.not_isGroup _ _ _)
      · exact fun _ => Nat.zero_le bound
  | shapeless expression shapeless =>
      rw [height, shapeless.levels_eq]
      constructor
      · intro _ path node place _
        cases path with
        | nil => exact Nat.zero_le bound
        | cons position path => exact absurd place (not_at_cons shapeless.noGroup _ _ _)
      · exact fun _ => Nat.zero_le bound

end Value

end Rulebook
