import Rulebook.Message
import Rulebook.Proofs.Outcome

/-!
# Findings

A check puts its issues into words while it goes on, so that what it reports hangs on the wording.
Findings are what is left of it without words: a tree that holds for every problem its code and
the values it refers to, and for every element of a list its position and its own findings.  Where
the check cannot be carried through there is a fault among them.  Rendering asks the wording for
one message per finding, those of an element before the one that wraps them, and ends with the
first fault met in that order.  Rendered piece by piece, findings take the same steps as a check
does, in the same order; by these laws each check is found to render its findings.
-/

namespace Rulebook

/-- What a check found at one place. -/
inductive Finding where
  /-- A problem and the values it refers to. -/
  | problem (code : Code) (values : List (Text × Value))
  /-- The findings of the element at a position, counted from one. -/
  | element (code : Code) (position : Nat) (findings : List Finding)
  /-- The check could not be carried through. -/
  | fault (cause : Fault)

namespace Finding

/-- A problem whose values are named by strings. -/
def of (code : Code) (values : List (String × Value)) : Finding :=
  .problem code (values.map fun (name, value) => (Text.ofString name, value))

/-- The finding of an element, if it has any findings itself. -/
def ofElement (code : Code) (position : Nat) (findings : List Finding) : List Finding :=
  if findings.isEmpty then [] else [.element code position findings]

mutual

/-- The issue of a finding. -/
def render (wording : Option Wording) : Finding → Except Fault Issue
  | .problem code values => Issue.make wording code values []
  | .element code position findings => do
      let issues ← renderAll wording findings
      Issue.make wording code (Issue.elementValues position (issues.map (·.message))) issues
  | .fault cause => .error cause

/-- The issues of findings in order. -/
def renderAll (wording : Option Wording) : List Finding → Except Fault (List Issue)
  | [] => .ok []
  | finding :: rest => do
      let issue ← render wording finding
      let issues ← renderAll wording rest
      .ok (issue :: issues)

end

@[simp]
theorem renderAll_nil (wording : Option Wording) : renderAll wording [] = .ok [] := by
  rw [renderAll]

theorem renderAll_cons_eq_ok {wording : Option Wording} {finding : Finding}
    {rest : List Finding} {issues : List Issue}
    (rendered : renderAll wording (finding :: rest) = .ok issues) :
    ∃ issue others, render wording finding = .ok issue ∧ renderAll wording rest = .ok others ∧
      issues = issue :: others := by
  simp only [renderAll, bind_eq_ok_iff] at rendered
  obtain ⟨issue, first, others, tail, finished⟩ := rendered
  cases finished
  exact ⟨issue, others, first, tail, rfl⟩

/-- There are issues exactly if there are findings. -/
theorem isEmpty_of_renderAll {wording : Option Wording} {findings : List Finding}
    {issues : List Issue} (rendered : renderAll wording findings = .ok issues) :
    issues.isEmpty = findings.isEmpty := by
  cases findings with
  | nil =>
      rw [renderAll_nil] at rendered
      cases rendered
      rfl
  | cons finding rest =>
      obtain ⟨issue, others, -, -, rfl⟩ := renderAll_cons_eq_ok rendered
      rfl

/-! ## Rendering piece by piece -/

theorem renderAll_append (wording : Option Wording) (left right : List Finding) :
    renderAll wording (left ++ right) = (do
      let first ← renderAll wording left
      let others ← renderAll wording right
      .ok (first ++ others)) := by
  induction left with
  | nil =>
      rw [List.nil_append, renderAll_nil, ok_bind]
      cases renderAll wording right <;> rfl
  | cons finding rest induction =>
      rw [List.cons_append, renderAll, renderAll, induction]
      cases render wording finding with
      | error cause => rfl
      | ok issue =>
          cases renderAll wording rest with
          | error cause => rfl
          | ok issues => cases renderAll wording right <;> rfl

theorem renderAll_of (wording : Option Wording) (code : Code) (values : List (String × Value)) :
    renderAll wording [.of code values] = Issue.alone wording code values := by
  rw [renderAll, renderAll_nil, of, render, Issue.alone]
  rfl

theorem renderAll_fault (wording : Option Wording) (cause : Fault) :
    renderAll wording [.fault cause] = .error cause := by
  rw [renderAll, render]
  rfl

end Finding

/-- The report on an artefact with these findings. -/
def Report.ofFindings (wording : Option Wording) (findings : List Finding) :
    Except Fault Report := do
  let issues ← Finding.renderAll wording findings
  .ok (.ofIssues issues)

@[simp]
theorem Report.ofFindings_nil (wording : Option Wording) :
    Report.ofFindings wording [] = .ok .clean := by
  rw [ofFindings, Finding.renderAll_nil, ok_bind, ofIssues_nil]

/-- An element is wrapped after it has been rendered in full, and only if it has findings. -/
theorem Finding.renderAll_ofElement (wording : Option Wording) (code : Code) (position : Nat)
    (findings : List Finding) :
    renderAll wording (ofElement code position findings) = (do
      let report ← Report.ofFindings wording findings
      report.wrapped wording code position) := by
  rw [Report.ofFindings, ofElement]
  cases rendered : renderAll wording findings with
  | error cause =>
      have some : findings.isEmpty = false := by
        rw [← Bool.not_eq_true, List.isEmpty_iff]
        rintro rfl
        rw [renderAll_nil] at rendered
        cases rendered
      rw [some, if_neg Bool.false_ne_true, renderAll, render, rendered]
      rfl
  | ok issues =>
      rw [ok_bind, ok_bind, Report.wrapped, Report.ofIssues_valid, isEmpty_of_renderAll rendered]
      split
      · rw [renderAll_nil]
      · rw [renderAll, render, rendered, renderAll_nil]
        rfl

end Rulebook
