import Rulebook.Proofs.Elements
import Rulebook.Proofs.Outcome
import Rulebook.Proofs.Rendering

/-!
# Faults among findings

A check that cannot be carried through at some place leaves a fault there and goes on.  If all
faults among the findings are alike and the findings are complete otherwise, then rendering them
ends with that fault exactly if there is one, at whatever level it lies.
-/

namespace Rulebook

namespace Finding

/-- A finding lies in itself and in what wraps a finding that it lies in. -/
inductive LiesIn (leaf : Finding) : Finding → Prop
  | self : LiesIn leaf leaf
  | element {code : Code} {position : Nat} {findings : List Finding} {finding : Finding}
      (member : finding ∈ findings) (inner : LiesIn leaf finding) :
      LiesIn leaf (.element code position findings)

/-- The finding wraps no others. -/
def IsLeaf (finding : Finding) : Prop :=
  ∀ code position findings, finding ≠ .element code position findings

/-- The finding is complete but for that one fault, which may lie in it. -/
inductive CompleteBut (cause : Fault) : Finding → Prop
  | fault : CompleteBut cause (.fault cause)
  | problem {code : Code} {values : List (Text × Value)}
      (given : ∀ name ∈ code.template.holes, Assoc.has name values = true) :
      CompleteBut cause (.problem code values)
  | element {code : Code} {position : Nat} {findings : List Finding}
      (given : ∀ messages, ∀ name ∈ code.template.holes,
        Assoc.has name (Issue.elementValues position messages) = true)
      (each : ∀ finding ∈ findings, CompleteBut cause finding) :
      CompleteBut cause (.element code position findings)

theorem isLeaf_fault (cause : Fault) : IsLeaf (.fault cause) := by
  simp [IsLeaf]

theorem isLeaf_problem (code : Code) (values : List (Text × Value)) :
    IsLeaf (.problem code values) := by
  simp [IsLeaf]

theorem IsLeaf.liesIn_iff {finding : Finding} (single : finding.IsLeaf) (leaf : Finding) :
    LiesIn leaf finding ↔ leaf = finding := by
  constructor
  · intro lies
    cases lies with
    | self => rfl
    | element member inner => exact absurd rfl (single _ _ _)
  · intro same
    rw [same]
    exact .self

theorem exists_liesIn_iff_mem {findings : List Finding}
    (each : ∀ finding ∈ findings, finding.IsLeaf) (leaf : Finding) :
    (∃ finding ∈ findings, LiesIn leaf finding) ↔ leaf ∈ findings := by
  constructor
  · intro inside
    obtain ⟨finding, member, lies⟩ := inside
    rw [((each finding member).liesIn_iff leaf).mp lies]
    exact member
  · intro member
    exact ⟨leaf, member, .self⟩

theorem liesIn_element_iff {leaf : Finding} (single : leaf.IsLeaf) (code : Code) (position : Nat)
    (findings : List Finding) :
    LiesIn leaf (.element code position findings) ↔ ∃ finding ∈ findings, LiesIn leaf finding := by
  constructor
  · intro lies
    cases lies with
    | self => exact absurd rfl (single code position findings)
    | element member inner => exact ⟨_, member, inner⟩
  · intro inner
    obtain ⟨finding, member, lies⟩ := inner
    exact .element member lies

/-- A leaf lies in the findings about elements if it lies in those about one of them. -/
theorem liesIn_ofElements_iff {leaf : Finding} (single : leaf.IsLeaf) (code : Code)
    (position : Nat) (lists : List (List Finding)) :
    (∃ finding ∈ ofElements code position lists, LiesIn leaf finding) ↔
      ∃ own ∈ lists, ∃ finding ∈ own, LiesIn leaf finding := by
  constructor
  · intro outer
    obtain ⟨finding, member, lies⟩ := outer
    obtain ⟨index, own, found, -, rfl⟩ := (mem_ofElements_iff _ _ _ _).mp member
    exact ⟨own, List.mem_of_getElem? found, (liesIn_element_iff single _ _ _).mp lies⟩
  · intro inner
    obtain ⟨own, member, lies⟩ := inner
    obtain ⟨index, found⟩ := List.mem_iff_getElem?.mp member
    have some : own ≠ [] := by
      obtain ⟨finding, inside, -⟩ := lies
      exact List.ne_nil_of_mem inside
    refine ⟨.element code (position + index) own, ?_, (liesIn_element_iff single _ _ _).mpr lies⟩
    exact (mem_ofElements_iff _ _ _ _).mpr ⟨index, own, found, some, rfl⟩

theorem ofElements_completeBut {cause : Fault} {code : Code} {position : Nat}
    {lists : List (List Finding)}
    (given : ∀ position messages, ∀ name ∈ code.template.holes,
      Assoc.has name (Issue.elementValues position messages) = true)
    (each : ∀ own ∈ lists, ∀ finding ∈ own, finding.CompleteBut cause) :
    ∀ finding ∈ ofElements code position lists, finding.CompleteBut cause := by
  intro finding member
  obtain ⟨index, own, found, -, rfl⟩ := (mem_ofElements_iff _ _ _ _).mp member
  exact .element (given _) (each own (List.mem_of_getElem? found))

private theorem make_returns {wording : Option Wording} (spoken : Speaks wording) {code : Code}
    {values : List (Text × Value)}
    (given : ∀ name ∈ code.template.holes, Assoc.has name values = true) (nested : List Issue) :
    ∃ issue, Issue.make wording code values nested = .ok issue := by
  have message := Code.message_eq_text spoken code ⟨values, nested⟩ given
  exact ⟨_, by rw [Issue.make, message]; rfl⟩

private theorem renderAll_failsIff_of_each {wording : Option Wording} {cause : Fault}
    {findings : List Finding}
    (each : ∀ finding ∈ findings,
      FailsIff cause (LiesIn (.fault cause) finding) (render wording finding)) :
    FailsIff cause (∃ finding ∈ findings, LiesIn (.fault cause) finding)
      (renderAll wording findings) := by
  induction findings with
  | nil =>
      rw [renderAll]
      exact .ok (by simp) []
  | cons finding rest induction =>
      rw [List.forall_mem_cons] at each
      obtain ⟨head, tail⟩ := each
      rw [renderAll]
      have split : (LiesIn (.fault cause) finding ∨ ∃ other ∈ rest, LiesIn (.fault cause) other) ↔
          ∃ other ∈ finding :: rest, LiesIn (.fault cause) other := by simp
      exact (head.both List.cons (induction tail)).congr split

/-- Rendering a finding that is complete but for one fault ends with it if it lies there. -/
theorem render_failsIff {wording : Option Wording} (spoken : Speaks wording) {cause : Fault}
    {finding : Finding} (complete : CompleteBut cause finding) :
    FailsIff cause (LiesIn (.fault cause) finding) (render wording finding) := by
  induction finding with
  | problem code values =>
      cases complete with
      | problem given =>
          obtain ⟨issue, made⟩ := make_returns spoken given []
          have clear : ¬LiesIn (.fault cause) (.problem code values) := by
            simp [(isLeaf_problem code values).liesIn_iff]
          rw [render, made]
          exact .ok clear issue
  | element code position findings induction =>
      cases complete with
      | element given each =>
          have inner := renderAll_failsIff_of_each fun finding member =>
            induction finding member (each finding member)
          rw [render]
          apply FailsIff.congr (liesIn_element_iff (isLeaf_fault cause) code position findings).symm
          apply inner.bind
          intro issues
          exact make_returns spoken (given _) issues
  | fault other =>
      cases complete with
      | fault =>
          rw [render]
          exact .error .self

end Finding

/-- A report is made of findings that are complete but for one fault, unless it lies in one. -/
theorem Report.ofFindings_failsIff {wording : Option Wording} (spoken : Speaks wording)
    {cause : Fault} {findings : List Finding}
    (complete : ∀ finding ∈ findings, finding.CompleteBut cause) :
    FailsIff cause (∃ finding ∈ findings, (Finding.fault cause).LiesIn finding)
      (Report.ofFindings wording findings) := by
  have rendered := Finding.renderAll_failsIff_of_each fun finding member =>
    Finding.render_failsIff spoken (complete finding member)
  rw [Report.ofFindings]
  exact rendered.bind fun issues => ⟨_, rfl⟩

end Rulebook
