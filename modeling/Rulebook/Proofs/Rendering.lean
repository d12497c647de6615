import Rulebook.Proofs.Finding

/-!
# Rendering findings

Rendering can end in a fault for two reasons only: a fault lies among the findings, or a message
cannot be put into words.  Findings that hold no fault and give every parameter that their English
templates name are complete.  Complete findings are rendered by English and by every wording that
has a message for everything, and the report then holds the issues that they stand for.
-/

namespace Rulebook

/-! ## Messages -/

namespace Template

/-- The names of the holes of a template, in order. -/
def holes : Template → List Text
  | [] => []
  | .words _ :: rest => holes rest
  | .hole name :: rest => name :: holes rest

/-- A template can be filled as soon as every hole is given a value. -/
theorem fill_of_given (values : List (Text × Value)) (template : Template)
    (given : ∀ name ∈ template.holes, Assoc.has name values = true) :
    ∃ text, template.fill values = .ok text := by
  induction template with
  | nil => exact ⟨[], rfl⟩
  | cons piece rest induction =>
      cases piece with
      | words content =>
          obtain ⟨tail, filled⟩ := induction given
          refine ⟨content ++ tail, ?_⟩
          rw [fill, filled]
          rfl
      | hole name =>
          have named : Assoc.has name values = true := given name List.mem_cons_self
          obtain ⟨value, found⟩ := Option.isSome_iff_exists.mp named
          obtain ⟨tail, filled⟩ :=
            induction fun other member => given other (List.mem_cons_of_mem name member)
          refine ⟨value.display ++ tail, ?_⟩
          rw [fill, found, filled]
          rfl

end Template

/-- The wording has a message for every code, whatever the message may refer to. -/
def Wording.IsTotal (own : Wording) : Prop :=
  ∀ code params, ∃ text, own code params = .ok text

/-- Messages are in English, or in a wording of the caller that has them all. -/
def Speaks (wording : Option Wording) : Prop := ∀ own, wording = some own → own.IsTotal

theorem speaks_none : Speaks none := by
  intro own given
  cases given

/-- The message of a code; it is empty if the wording signals a fault. -/
def Code.text (wording : Option Wording) (code : Code) (params : Params) : Text :=
  match code.message wording params with
  | .ok text => text
  | .error _ => []

/-- A message whose English parameters are all given can be put into words. -/
theorem Code.message_eq_text {wording : Option Wording} (spoken : Speaks wording) (code : Code)
    (params : Params)
    (given : ∀ name ∈ code.template.holes, Assoc.has name params.values = true) :
    code.message wording params = .ok (code.text wording params) := by
  have worded : ∃ text, code.message wording params = .ok text := by
    cases wording with
    | none => exact Template.fill_of_given params.values code.template given
    | some own => exact spoken own rfl code params
  obtain ⟨text, message⟩ := worded
  rw [Code.text, message]

/-! ## Issues -/

namespace Finding

/-- Findings are reached by what is true of problems and faults, and passes from the findings of an
element to the finding that wraps them. -/
@[elab_as_elim, induction_eliminator]
theorem induction {motive : Finding → Prop}
    (problem : ∀ code values, motive (.problem code values))
    (element : ∀ code position findings, (∀ finding ∈ findings, motive finding) →
      motive (.element code position findings))
    (fault : ∀ cause, motive (.fault cause)) : ∀ finding, motive finding
  | .problem code values => problem code values
  | .element code position findings =>
      element code position findings fun finding _ => induction problem element fault finding
  | .fault cause => fault cause

mutual

/-- The issue that a finding stands for; a fault stands for none. -/
def issue? (wording : Option Wording) : Finding → Option Issue
  | .problem code values => some (.mk code (code.text wording ⟨values, []⟩) values [])
  | .element code position findings =>
      let nested := issues wording findings
      let values := Issue.elementValues position (nested.map (·.message))
      some (.mk code (code.text wording ⟨values, nested⟩) values nested)
  | .fault _ => none

/-- The issues that findings stand for, in order. -/
def issues (wording : Option Wording) : List Finding → List Issue
  | [] => []
  | finding :: rest => (issue? wording finding).toList ++ issues wording rest

end

@[simp]
theorem issues_nil (wording : Option Wording) : issues wording [] = [] := by
  rw [issues]

theorem issues_eq_filterMap (wording : Option Wording) (findings : List Finding) :
    issues wording findings = findings.filterMap (issue? wording) := by
  induction findings with
  | nil => rw [issues, List.filterMap_nil]
  | cons finding rest induction =>
      rw [issues, induction]
      cases stands : issue? wording finding with
      | none => rw [List.filterMap_cons_none stands, Option.toList_none, List.nil_append]
      | some issue =>
          rw [List.filterMap_cons_some stands, Option.toList_some, List.singleton_append]

theorem issues_append (wording : Option Wording) (left right : List Finding) :
    issues wording (left ++ right) = issues wording left ++ issues wording right := by
  rw [issues_eq_filterMap, issues_eq_filterMap, issues_eq_filterMap, List.filterMap_append]

/-! ## Complete findings -/

/-- No fault lies in the finding, and every parameter that its English message names is given. -/
inductive Complete : Finding → Prop
  | problem {code : Code} {values : List (Text × Value)}
      (given : ∀ name ∈ code.template.holes, Assoc.has name values = true) :
      Complete (.problem code values)
  /-- The message of an element speaks of its position and of its own messages only. -/
  | element {code : Code} {position : Nat} {findings : List Finding}
      (given : ∀ messages, ∀ name ∈ code.template.holes,
        Assoc.has name (Issue.elementValues position messages) = true)
      (each : ∀ finding ∈ findings, Complete finding) :
      Complete (.element code position findings)

/-- A template that speaks of a position and of messages only is filled for every element. -/
theorem elementValues_given {code : Code}
    (named : code.template.holes = [Text.ofString "index", Text.ofString "errors"])
    (position : Nat) (messages : List Text) :
    ∀ name ∈ code.template.holes,
      Assoc.has name (Issue.elementValues position messages) = true := by
  intro name member
  have names : name = Text.ofString "index" ∨ name = Text.ofString "errors" := by
    simpa [named] using member
  obtain rfl | rfl := names
  · rfl
  · rfl

private theorem renderAll_of_each {wording : Option Wording} {findings : List Finding}
    (each : ∀ finding ∈ findings, ∃ issue,
      render wording finding = .ok issue ∧ issue? wording finding = some issue) :
    renderAll wording findings = .ok (issues wording findings) := by
  induction findings with
  | nil => rw [renderAll, issues]
  | cons finding rest induction =>
      obtain ⟨issue, rendered, stands⟩ := each finding List.mem_cons_self
      have tail : renderAll wording rest = .ok (issues wording rest) :=
        induction fun other member => each other (List.mem_cons_of_mem finding member)
      rw [renderAll, issues, rendered, tail, stands]
      rfl

theorem render_of_complete {wording : Option Wording} (spoken : Speaks wording)
    {finding : Finding} (complete : finding.Complete) :
    ∃ issue, render wording finding = .ok issue ∧ issue? wording finding = some issue := by
  induction finding with
  | problem code values =>
      cases complete with
      | problem given =>
          have message := Code.message_eq_text spoken code ⟨values, []⟩ given
          refine ⟨.mk code (code.text wording ⟨values, []⟩) values [], ?_, ?_⟩
          · rw [render, Issue.make, message]
            rfl
          · rw [issue?]
  | element code position findings induction =>
      cases complete with
      | element given each =>
          have nested : renderAll wording findings = .ok (issues wording findings) :=
            renderAll_of_each fun finding member => induction finding member (each finding member)
          let values := Issue.elementValues position ((issues wording findings).map (·.message))
          have message :=
            Code.message_eq_text spoken code ⟨values, issues wording findings⟩ (given _)
          refine ⟨.mk code (code.text wording ⟨values, issues wording findings⟩) values
            (issues wording findings), ?_, ?_⟩
          · rw [render, nested]
            change Issue.make wording code values (issues wording findings) = _
            rw [Issue.make, message]
            rfl
          · rw [issue?]
  | fault cause => cases complete

/-- Complete findings are rendered as the issues that they stand for. -/
theorem renderAll_of_complete {wording : Option Wording} (spoken : Speaks wording)
    {findings : List Finding} (complete : ∀ finding ∈ findings, finding.Complete) :
    renderAll wording findings = .ok (issues wording findings) :=
  renderAll_of_each fun finding member => render_of_complete spoken (complete finding member)

/-- Complete findings stand for no issue only if there are none. -/
theorem issues_eq_nil_iff (wording : Option Wording) {findings : List Finding}
    (complete : ∀ finding ∈ findings, finding.Complete) :
    issues wording findings = [] ↔ findings = [] := by
  cases findings with
  | nil => simp
  | cons finding rest =>
      cases complete finding List.mem_cons_self with
      | problem => simp [issues, issue?]
      | element => simp [issues, issue?]

end Finding

theorem Report.ofFindings_of_complete {wording : Option Wording} (spoken : Speaks wording)
    {findings : List Finding} (complete : ∀ finding ∈ findings, finding.Complete) :
    Report.ofFindings wording findings = .ok (.ofIssues (Finding.issues wording findings)) := by
  rw [Report.ofFindings, Finding.renderAll_of_complete spoken complete]
  rfl

end Rulebook
