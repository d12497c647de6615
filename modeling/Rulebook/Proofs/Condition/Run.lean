import Rulebook.Condition.Check
import Rulebook.Proofs.Finding

/-!
# What a check of conditions finds

The findings about an expression follow its outline.  The check puts the issues of a rule into
words before the group that holds it decides what to make of them; still it renders exactly these
findings, in every wording.
-/

namespace Rulebook

/-- The finding about a group's operator, if there is one. -/
def logicalOperatorFindings (operator : Value) : List Finding :=
  if operator.isOneOf LogicalOperator.symbols then []
  else
    [.of .invalidLogicalOperator
      [("operator", operator), ("valid_operators", listed LogicalOperator.symbols)]]

namespace Comparison

/-- The finding about the field, if there is one. -/
def fieldFindings (comparison : Comparison) : List Finding :=
  if !comparison.field.isFilledText then [.of .fieldRequired []]
  else if !comparison.field.isFieldPath then
    [.of .invalidFieldPath [("field", comparison.field)]]
  else []

/-- The finding about the operator, if there is one. -/
def operatorFindings (comparison : Comparison) : List Finding :=
  if !comparison.operator.truthy then [.of .operatorRequired []]
  else if !comparison.operator.isOneOf ComparisonOperator.symbols then
    [.of .invalidComparisonOperator
      [("operator", comparison.operator),
        ("valid_operators", listed ComparisonOperator.symbols)]]
  else []

/-- The finding about the absence of anything to compare with, if there is one. -/
def valueFindings (comparison : Comparison) : List Finding :=
  if comparison.value.isNone && !comparison.valueField.truthy &&
      !comparison.operator.needsNoValue then
    [.of .valueRequired []]
  else []

/-- The finding about the field to compare with, if there is one. -/
def valueFieldFindings (comparison : Comparison) : List Finding :=
  if comparison.valueField.truthy && comparison.valueField.text?.isNone then
    [.of .valueFieldMustBeText []]
  else []

/-- The findings about a comparison, in the order of reporting. -/
def findings (comparison : Comparison) : List Finding :=
  comparison.fieldFindings ++ comparison.operatorFindings ++ comparison.valueFindings ++
    comparison.valueFieldFindings

end Comparison

/-- The findings at a depth: those given, unless the depth lies below the limit or cannot be
compared with it. -/
def guardDepth (limit depth : Value) (findings : List Finding) : List Finding :=
  match depth.exceeds limit with
  | .error fault => [.fault fault]
  | .ok true => [.of .depthExceeded [("max_depth", limit)]]
  | .ok false => findings

namespace Outline

/-- Outlines are reached by what passes from the rules of a group to the group. -/
@[elab_as_elim, induction_eliminator]
theorem induction {motive : Outline → Prop} (absent : motive .absent)
    (group : ∀ operator rules, (∀ rule ∈ rules, motive rule) → motive (.group operator rules))
    (comparison : ∀ found, motive (.comparison found))
    (unclassified : motive .unclassified) : ∀ outline, motive outline
  | .absent => absent
  | .group operator rules =>
      group operator rules fun rule _ => induction absent group comparison unclassified rule
  | .comparison found => comparison found
  | .unclassified => unclassified

mutual

/-- The findings about an expression at a depth. -/
def findings (limit depth : Value) : Outline → List Finding
  | .absent => []
  | .group operator rules =>
      guardDepth limit depth
        (logicalOperatorFindings operator ++
          (if rules.isEmpty then [.of .emptyGroup []]
          else rulesFindings limit depth.deeper 1 rules))
  | .comparison found => guardDepth limit depth found.findings
  | .unclassified => guardDepth limit depth [.of .structuralError []]

/-- The findings about rules whose first has the given position. -/
def rulesFindings (limit depth : Value) (position : Nat) : List Outline → List Finding
  | [] => []
  | rule :: rest =>
      Finding.ofElement .ruleError position (findings limit depth rule) ++
        rulesFindings limit depth (position + 1) rest

end

end Outline

/-- The findings about a condition expression at a depth. -/
def conditionFindings (limit depth expression : Value) : List Finding :=
  expression.outline.findings limit depth

/-! ## The check renders its findings -/

section Run

variable (wording : Option Wording)

theorem logicalOperatorIssues_eq (operator : Value) :
    logicalOperatorIssues wording operator =
      Finding.renderAll wording (logicalOperatorFindings operator) := by
  rw [logicalOperatorIssues, logicalOperatorFindings]
  split
  · rw [Finding.renderAll_nil]
  · rw [Finding.renderAll_of]

namespace Comparison

theorem fieldIssues_eq (comparison : Comparison) :
    comparison.fieldIssues wording = Finding.renderAll wording comparison.fieldFindings := by
  rw [fieldIssues, fieldFindings]
  split
  · rw [Finding.renderAll_of]
  · split
    · rw [Finding.renderAll_of]
    · rw [Finding.renderAll_nil]

theorem operatorIssues_eq (comparison : Comparison) :
    comparison.operatorIssues wording =
      Finding.renderAll wording comparison.operatorFindings := by
  rw [operatorIssues, operatorFindings]
  split
  · rw [Finding.renderAll_of]
  · split
    · rw [Finding.renderAll_of]
    · rw [Finding.renderAll_nil]

theorem valueIssues_eq (comparison : Comparison) :
    comparison.valueIssues wording = Finding.renderAll wording comparison.valueFindings := by
  rw [valueIssues, valueFindings]
  split
  · rw [Finding.renderAll_of]
  · rw [Finding.renderAll_nil]

theorem valueFieldIssues_eq (comparison : Comparison) :
    comparison.valueFieldIssues wording =
      Finding.renderAll wording comparison.valueFieldFindings := by
  rw [valueFieldIssues, valueFieldFindings]
  split
  · rw [Finding.renderAll_of]
  · rw [Finding.renderAll_nil]

theorem issues_eq (comparison : Comparison) :
    comparison.issues wording = Finding.renderAll wording comparison.findings := by
  rw [issues, fieldIssues_eq, operatorIssues_eq, valueIssues_eq, valueFieldIssues_eq, findings]
  simp only [Finding.renderAll_append, bind_assoc, ok_bind]

end Comparison

theorem Report.atDepth_eq (limit depth : Value) {findings : List Finding}
    {issues : Unit → Except Fault (List Issue)}
    (renders : issues () = Finding.renderAll wording findings) :
    Report.atDepth wording limit depth issues =
      Report.ofFindings wording (guardDepth limit depth findings) := by
  rw [atDepth, ofFindings, guardDepth]
  cases depth.exceeds limit with
  | error cause =>
      rw [Finding.renderAll_fault]
      rfl
  | ok exceeded =>
      cases exceeded with
      | true =>
          rw [Finding.renderAll_of]
          rfl
      | false =>
          rw [← renders]
          rfl

namespace Outline

theorem rulesIssues_eq (limit depth : Value) {rules : List Outline}
    (each : ∀ rule ∈ rules, rule.check wording limit depth =
      Report.ofFindings wording (rule.findings limit depth)) (position : Nat) :
    rulesIssues wording limit depth position rules =
      Finding.renderAll wording (rulesFindings limit depth position rules) := by
  induction rules generalizing position with
  | nil => rw [rulesIssues, rulesFindings, Finding.renderAll_nil]
  | cons rule rest induction =>
      obtain ⟨first, others⟩ := List.forall_mem_cons.mp each
      rw [rulesIssues, rulesFindings, Finding.renderAll_append, Finding.renderAll_ofElement,
        first, induction others, bind_assoc]

/-- The check of an expression renders the findings about it. -/
theorem check_eq (limit depth : Value) (outline : Outline) :
    outline.check wording limit depth =
      Report.ofFindings wording (outline.findings limit depth) := by
  induction outline generalizing depth with
  | absent => rw [check, findings, Report.ofFindings_nil]
  | group operator rules induction =>
      rw [check, findings]
      apply Report.atDepth_eq
      have inner : (if rules.isEmpty then Issue.alone wording .emptyGroup []
          else rulesIssues wording limit depth.deeper 1 rules) =
          Finding.renderAll wording (if rules.isEmpty then [.of .emptyGroup []]
            else rulesFindings limit depth.deeper 1 rules) := by
        rw [apply_ite (Finding.renderAll wording), Finding.renderAll_of,
          rulesIssues_eq wording limit depth.deeper
            (fun rule member => induction rule member depth.deeper)]
      rw [logicalOperatorIssues_eq, inner, Finding.renderAll_append]
  | comparison found =>
      rw [check, findings]
      exact Report.atDepth_eq wording limit depth (found.issues_eq wording)
  | unclassified =>
      rw [check, findings]
      apply Report.atDepth_eq
      rw [Finding.renderAll_of]

end Outline

theorem checkCondition_eq_ofFindings (limit depth expression : Value) :
    checkCondition wording limit depth expression =
      Report.ofFindings wording (conditionFindings limit depth expression) :=
  expression.outline.check_eq wording limit depth

end Run

end Rulebook
