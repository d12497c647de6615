import Mathlib.Data.List.Forall2
import Rulebook.Proofs.Condition.Findings

/-!
# What lies beyond the limit

The check of an expression stops one level below the limit.  There it asks of a rule only whether
it is there, so expressions that differ further down are reported on alike, in every wording.
-/

namespace Rulebook

/-! ## Rules of a mapping -/

/-- Of the entries of a mapping only `rules` itself depends on the rules. -/
theorem Entries.get?_with_rules (name : Text) (other : name ≠ "rules") (before after : Entries)
    (rules : Value) :
    Entries.get? name (before ++ (.text "rules", rules) :: after) =
      Entries.get? name (before ++ after) := by
  have foreign : (Value.text "rules").isText name = false := by
    simpa [Value.isText] using Ne.symm other
  rw [get?_append, get?_append, get?_cons, foreign]
  rfl

/-- A list of rules is the one that counts, unless an earlier entry has its name. -/
theorem rulesOutline_with_rules (before after : Entries) (rules : List Value) :
    rulesOutline (before ++ (.text "rules", .list rules) :: after) =
      match Entries.get? "rules" before with
      | some _ => rulesOutline before
      | none => some (rules.map (·.outline)) := by
  have own : (Value.text "rules").isText "rules" = true := rfl
  rw [rulesOutline_eq, rulesOutline_eq, Entries.getD, Entries.getD, Entries.get?_append,
    Entries.get?_cons, own]
  cases Entries.get? "rules" before <;> rfl

theorem Entries.comparison?_with_rules (before after : Entries) (rules : Value) :
    Entries.comparison? (before ++ (.text "rules", rules) :: after) =
      Entries.comparison? (before ++ after) := by
  have field := get?_with_rules "field" (by decide) before after rules
  have operator := get?_with_rules "operator" (by decide) before after rules
  have value := get?_with_rules "value" (by decide) before after rules
  have valueField := get?_with_rules "valueField" (by decide) before after rules
  apply Option.ext
  intro comparison
  rw [comparison?_eq_some_iff, comparison?_eq_some_iff, has, has, getD, getD, field, operator,
    value, valueField]

theorem Outline.ofEntries_with_rules (before after : Entries) (rules : Value)
    (outlines : Option (List Outline)) :
    Outline.ofEntries (before ++ (.text "rules", rules) :: after) outlines =
      Outline.ofEntries (before ++ after) outlines := by
  have operator := Entries.get?_with_rules "operator" (by decide) before after rules
  simp only [ofEntries, operator, Entries.comparison?_with_rules]

/-! ## Findings about rules -/

section Rules

variable {limit depth : Value}

/-- Groups whose rules are found wanting alike are found wanting alike. -/
theorem Outline.findings_group_congr {left right : List Outline}
    (same : left.map (findings limit depth.deeper) = right.map (findings limit depth.deeper))
    (operator : Value) :
    (group operator left).findings limit depth = (group operator right).findings limit depth := by
  have empty : left.isEmpty = right.isEmpty := by
    rw [← List.isEmpty_map (f := findings limit depth.deeper), same, List.isEmpty_map]
  rw [findings, findings, rulesFindings_eq_ofElements, rulesFindings_eq_ofElements, same, empty]

theorem Outline.findings_ofEntries_congr {left right : List Outline}
    (same : left.map (findings limit depth.deeper) = right.map (findings limit depth.deeper))
    (entries : Entries) :
    (ofEntries entries (some left)).findings limit depth =
      (ofEntries entries (some right)).findings limit depth := by
  cases operator : entries.get? "operator" with
  | none => simp only [ofEntries, operator]
  | some operator => simpa only [ofEntries, operator] using findings_group_congr same _

/-- A mapping is found wanting as it would be with other rules that are found wanting alike. -/
theorem conditionFindings_rules_congr {left right : List Value}
    (same : left.map (conditionFindings limit depth.deeper) =
      right.map (conditionFindings limit depth.deeper)) (before after : Entries) :
    conditionFindings limit depth
        (.mapping (before ++ (.text "rules", .list left) :: after)) =
      conditionFindings limit depth
        (.mapping (before ++ (.text "rules", .list right) :: after)) := by
  rw [conditionFindings, conditionFindings, Value.outline, Value.outline,
    Outline.ofEntries_with_rules, Outline.ofEntries_with_rules, rulesOutline_with_rules,
    rulesOutline_with_rules]
  cases Entries.get? "rules" before with
  | some _ => rfl
  | none =>
      apply Outline.findings_ofEntries_congr
      rw [List.map_map, List.map_map]
      exact same

end Rules

/-! ## Expressions that are alike -/

/-- The expressions are the same but for what lies below the limit: in place of a rule there that
is not absent, and in place of the whole expression if that lies there itself, may stand any
other. -/
inductive Value.AlikeAbove (limit : Int) : Int → Value → Value → Prop
  | same (depth : Int) (expression : Value) : AlikeAbove limit depth expression expression
  | beyond {depth : Int} {left right : Value} (deep : limit < depth) (leftPresent : left ≠ .null)
      (rightPresent : right ≠ .null) : AlikeAbove limit depth left right
  | rules {depth : Int} {left right : List Value} (before after : Entries)
      (number : left.length = right.length)
      (each : ∀ pair ∈ left.zip right, AlikeAbove limit (depth + 1) pair.1 pair.2) :
      AlikeAbove limit depth (.mapping (before ++ (.text "rules", .list left) :: after))
        (.mapping (before ++ (.text "rules", .list right) :: after))

theorem Value.AlikeAbove.findings_eq {limit depth : Int} {left right : Value}
    (alike : AlikeAbove limit depth left right) :
    conditionFindings (.int limit) (.int depth) left =
      conditionFindings (.int limit) (.int depth) right := by
  induction alike with
  | same => rfl
  | beyond deep leftPresent rightPresent =>
      rw [conditionFindings_of_lt deep leftPresent, conditionFindings_of_lt deep rightPresent]
  | rules before after number each induction =>
      -- Where the mapping stands is of no account, only that its rules are alike one level down.
      apply conditionFindings_rules_congr
      rw [Value.deeper_int]
      rw [← List.forall₂_eq_eq_eq, List.forall₂_map_left_iff, List.forall₂_map_right_iff,
        List.forall₂_iff_zip]
      exact ⟨number, fun member => induction _ member⟩

/-- No wording is asked for anything that tells the expressions apart. -/
theorem Value.AlikeAbove.checkCondition_eq {limit depth : Int} {left right : Value}
    (alike : AlikeAbove limit depth left right) (wording : Option Wording) :
    checkCondition wording (.int limit) (.int depth) left =
      checkCondition wording (.int limit) (.int depth) right := by
  rw [checkCondition_eq_ofFindings, checkCondition_eq_ofFindings, alike.findings_eq]

/-- Expressions that are the same but for what lies below the limit have the same report. -/
theorem checkCondition_alikeAbove {wording : Option Wording} (spoken : Speaks wording)
    {limit depth : Int} {left right : Value} (alike : left.AlikeAbove limit depth right) :
    ∃ report, checkCondition wording (.int limit) (.int depth) left = .ok report ∧
      checkCondition wording (.int limit) (.int depth) right = .ok report := by
  have checked := checkCondition_eq_ok spoken limit depth right
  exact ⟨_, (alike.checkCondition_eq wording).trans checked, checked⟩

/-- A group within a group, the second of whose rules is given. -/
def Value.stacked (innermost : Value) : Value :=
  .mapping [(.text "operator", .text "AND"), (.text "rules", .list [
    .mapping [(.text "rules", .list [.null, innermost]), (.text "operator", .text "OR")]])]

theorem Value.stacked_alikeAbove {left right : Value} (leftPresent : left ≠ .null)
    (rightPresent : right ≠ .null) : (stacked left).AlikeAbove 1 0 (stacked right) := by
  refine .rules [(.text "operator", .text "AND")] [] (by rfl) fun _ member => ?_
  obtain rfl := List.mem_singleton.mp member
  refine .rules [] [(.text "operator", .text "OR")] (by rfl) fun pair inner => ?_
  rcases List.mem_cons.mp inner with rfl | later
  · exact .same _ _
  · obtain rfl := List.mem_singleton.mp later
    exact .beyond (by decide) leftPresent rightPresent

/-- Below the limit a number has the report of a list. -/
theorem checkCondition_stacked_alike :
    Speaks none ∧ (Value.stacked (.int 7)).AlikeAbove 1 0 (.stacked (.list [])) ∧
      ∃ report, checkCondition none (.int 1) (.int 0) (.stacked (.int 7)) = .ok report ∧
        checkCondition none (.int 1) (.int 0) (.stacked (.list [])) = .ok report := by
  have alike : (Value.stacked (.int 7)).AlikeAbove 1 0 (.stacked (.list [])) :=
    Value.stacked_alikeAbove nofun nofun
  exact ⟨speaks_none, alike, checkCondition_alikeAbove speaks_none alike⟩

end Rulebook
