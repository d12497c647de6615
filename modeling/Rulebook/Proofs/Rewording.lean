import Rulebook.Proofs.Action.Run
import Rulebook.Proofs.Condition.Run
import Rulebook.Proofs.Outcome
import Rulebook.Proofs.Rendering

/-!
# Other words for the same issues

A wording decides what the messages of a report say and nothing else.  Where the messages are put
into other words, the issues keep their codes, their positions and all values but the messages that
they repeat.  Rendering asks for one message per issue, those of an element before the one that
wraps them, and ends with the first message that the wording does not give.
-/

namespace Rulebook

theorem Assoc.filter_put {κ ν : Type} [DecidableEq κ] (key : κ) (value : ν) (entries : Assoc κ ν) :
    (put key value entries).filter (fun entry => entry.1 ≠ key) =
      entries.filter (fun entry => entry.1 ≠ key) := by
  rw [put]
  induction entries with
  | nil => simp [update]
  | cons entry rest induction =>
      obtain ⟨name, own⟩ := entry
      by_cases same : name = key
      · simp [update, same]
      · simpa [update, same] using induction

namespace Issue

/-! ## Traversals of issues -/

/-- Issues are reached by what passes from the issues that an issue wraps to itself. -/
@[elab_as_elim, induction_eliminator]
theorem induction {motive : Issue → Prop}
    (mk : ∀ code message values nested, (∀ issue ∈ nested, motive issue) →
      motive (.mk code message values nested)) : ∀ issue, motive issue
  | .mk code message values nested =>
      mk code message values nested fun issue _ => induction mk issue

mutual

/-- The issue and those it wraps at any level, in the order in which they are put into words. -/
def postorder : Issue → List Issue
  | .mk code message values nested => postorders nested ++ [.mk code message values nested]

/-- The issues and those they wrap at any level, in that order. -/
def postorders : List Issue → List Issue
  | [] => []
  | issue :: rest => issue.postorder ++ postorders rest

end

mutual

/-- The issue without words: neither its own message nor those that it repeats. -/
def bare : Issue → Issue
  | .mk code _ values nested =>
      .mk code [] (values.filter fun entry => entry.1 ≠ Text.ofString "errors") (bares nested)

/-- The issues without words. -/
def bares : List Issue → List Issue
  | [] => []
  | issue :: rest => issue.bare :: bares rest

end

mutual

/-- The issue in another wording.  An issue that wraps others repeats their new messages. -/
def reworded (wording : Option Wording) : Issue → Issue
  | .mk code _ values nested =>
      let inner := rewordeds wording nested
      let repeated := Text.join ", " (inner.map (·.message))
      let values := if inner.isEmpty then values else Assoc.put "errors" (.text repeated) values
      .mk code (code.text wording ⟨values, inner⟩) values inner

/-- The issues in another wording. -/
def rewordeds (wording : Option Wording) : List Issue → List Issue
  | [] => []
  | issue :: rest => issue.reworded wording :: rewordeds wording rest

end

@[simp]
theorem postorders_nil : postorders [] = [] := by
  rw [postorders]

theorem postorders_eq_flatMap (issues : List Issue) :
    postorders issues = issues.flatMap postorder := by
  induction issues with
  | nil => rw [postorders, List.flatMap_nil]
  | cons issue rest induction => rw [postorders, induction, List.flatMap_cons]

theorem bares_eq_map (issues : List Issue) : bares issues = issues.map bare := by
  induction issues with
  | nil => rw [bares, List.map_nil]
  | cons issue rest induction => rw [bares, induction, List.map_cons]

theorem rewordeds_eq_map (wording : Option Wording) (issues : List Issue) :
    rewordeds wording issues = issues.map (reworded wording) := by
  induction issues with
  | nil => rw [rewordeds, List.map_nil]
  | cons issue rest induction => rw [rewordeds, induction, List.map_cons]

/-! ## What rewording leaves as it is -/

@[simp]
theorem code_reworded (wording : Option Wording) (issue : Issue) :
    (issue.reworded wording).code = issue.code := by
  cases issue
  rw [reworded]
  rfl

theorem bare_reworded (wording : Option Wording) (issue : Issue) :
    (issue.reworded wording).bare = issue.bare := by
  induction issue with
  | mk code message values nested induction =>
      have inner : bares (rewordeds wording nested) = bares nested := by
        rw [bares_eq_map, bares_eq_map, rewordeds_eq_map, List.map_map]
        exact List.map_congr_left induction
      rw [reworded, bare, bare, inner]
      split
      · rfl
      · rw [Assoc.filter_put]

theorem postorder_reworded (wording : Option Wording) (issue : Issue) :
    (issue.reworded wording).postorder = issue.postorder.map (reworded wording) := by
  induction issue with
  | mk code message values nested induction =>
      have inner : postorders (rewordeds wording nested) =
          (postorders nested).map (reworded wording) := by
        rw [rewordeds_eq_map, postorders_eq_flatMap, postorders_eq_flatMap, List.flatMap_map,
          List.map_flatMap, List.flatMap_def, List.flatMap_def, List.map_congr_left induction]
      rw [postorder, List.map_append, ← inner, List.map_singleton, reworded, postorder]

theorem postorders_rewordeds (wording : Option Wording) (issues : List Issue) :
    postorders (rewordeds wording issues) = (postorders issues).map (reworded wording) := by
  rw [rewordeds_eq_map, postorders_eq_flatMap, postorders_eq_flatMap, List.flatMap_map,
    List.map_flatMap]
  simp only [postorder_reworded]

end Issue

/-! ## The first message that is not given -/

namespace Issue

/-- The fault that the wording signals for the message of the issue, if it signals one. -/
def fault? (wording : Option Wording) (issue : Issue) : Option Fault :=
  match issue.code.message wording issue.params with
  | .ok _ => none
  | .error cause => some cause

theorem make_eq_unlessFault (wording : Option Wording) (code : Code)
    (values : List (Text × Value)) (nested : List Issue) :
    make wording code values nested =
      unlessFault (fault? wording (.mk code (code.text wording ⟨values, nested⟩) values nested))
        (.mk code (code.text wording ⟨values, nested⟩) values nested) := by
  rw [make, fault?, Code.text]
  simp only [code_mk, params, values_mk, nested_mk]
  cases code.message wording ⟨values, nested⟩ with
  | error cause => rfl
  | ok text => rfl

theorem reworded_element (wording : Option Wording) (code : Code) (message : Text)
    (position : Nat) (nested : List Issue) :
    reworded wording
        (.mk code message (Issue.elementValues position (nested.map (·.message))) nested) =
      let inner := rewordeds wording nested
      let values := Issue.elementValues position (inner.map (·.message))
      .mk code (code.text wording ⟨values, inner⟩) values inner := by
  rw [reworded]
  cases nested with
  | nil => rw [rewordeds]; rfl
  | cons issue rest => rw [rewordeds]; rfl

end Issue

theorem Issue.make_eq_ok_iff {wording : Option Wording} {code : Code}
    {values : List (Text × Value)} {nested : List Issue} {issue : Issue} :
    make wording code values nested = .ok issue ↔
      ∃ message, code.message wording ⟨values, nested⟩ = .ok message ∧
        issue = .mk code message values nested := by
  rw [make, bind_eq_ok_iff]
  simp [eq_comm]

theorem Issue.eq_mk_of_make {wording : Option Wording} {code : Code} {values : List (Text × Value)}
    {nested : List Issue} {issue : Issue} (made : make wording code values nested = .ok issue) :
    ∃ message, issue = .mk code message values nested := by
  obtain ⟨message, -, same⟩ := make_eq_ok_iff.mp made
  exact ⟨message, same⟩

namespace Finding

/-- The issues of findings that were rendered are those of each finding. -/
theorem mem_of_renderAll {wording : Option Wording} {findings : List Finding}
    {issues : List Issue} (rendered : renderAll wording findings = .ok issues) (issue : Issue) :
    issue ∈ issues ↔ ∃ finding ∈ findings, render wording finding = .ok issue := by
  induction findings generalizing issues with
  | nil =>
      rw [renderAll] at rendered
      cases rendered
      simp
  | cons finding rest induction =>
      obtain ⟨first, others, head, tail, rfl⟩ := renderAll_cons_eq_ok rendered
      rw [List.mem_cons, induction tail]
      simp [head, @eq_comm _ issue]

theorem render_returns {wording : Option Wording} {findings : List Finding}
    {issues : List Issue} (rendered : renderAll wording findings = .ok issues)
    {finding : Finding} (member : finding ∈ findings) :
    ∃ issue, render wording finding = .ok issue := by
  induction findings generalizing issues with
  | nil => cases member
  | cons head rest induction =>
      obtain ⟨first, others, headRendered, tail, -⟩ := renderAll_cons_eq_ok rendered
      obtain rfl | later := List.mem_cons.mp member
      · exact ⟨first, headRendered⟩
      · exact induction tail later

theorem render_element_eq_ok {wording : Option Wording} {code : Code} {position : Nat}
    {findings : List Finding} {issue : Issue}
    (rendered : render wording (.element code position findings) = .ok issue) :
    ∃ message nested, renderAll wording findings = .ok nested ∧
      issue = .mk code message (Issue.elementValues position (nested.map (·.message))) nested := by
  rw [render, bind_eq_ok_iff] at rendered
  obtain ⟨nested, inner, finished⟩ := rendered
  obtain ⟨message, made⟩ := Issue.eq_mk_of_make finished
  exact ⟨message, nested, inner, made⟩

/-- In that wording the finding is rendered as the issue in other words, unless the wording fails
for a message; the first such failure in the order of rendering ends it. -/
def Rerenders (wording : Option Wording) (finding : Finding) (issue : Issue) : Prop :=
  render wording finding =
    unlessFault ((issue.reworded wording).postorder.findSome? (Issue.fault? wording))
      (issue.reworded wording)

theorem renderAll_of_rerenders {other wording : Option Wording} {findings : List Finding}
    (each : ∀ finding ∈ findings, ∀ issue, render other finding = .ok issue →
      Rerenders wording finding issue)
    {issues : List Issue} (rendered : renderAll other findings = .ok issues) :
    renderAll wording findings =
      unlessFault
        ((Issue.postorders (Issue.rewordeds wording issues)).findSome? (Issue.fault? wording))
        (Issue.rewordeds wording issues) := by
  induction findings generalizing issues with
  | nil =>
      rw [renderAll] at rendered
      cases rendered
      rw [renderAll, Issue.rewordeds, Issue.postorders]
      rfl
  | cons finding rest induction =>
      obtain ⟨issue, others, first, tail, rfl⟩ := renderAll_cons_eq_ok rendered
      have head : Rerenders wording finding issue := each finding List.mem_cons_self issue first
      have below := induction
        (fun other member => each other (List.mem_cons_of_mem finding member)) tail
      rw [renderAll, head, below, Issue.rewordeds, Issue.postorders, List.findSome?_append]
      exact unlessFault_both _ _ _ _ _

theorem rerenders_of_rendered {other : Option Wording} (wording : Option Wording)
    {finding : Finding} {issue : Issue} (rendered : render other finding = .ok issue) :
    Rerenders wording finding issue := by
  induction finding generalizing issue with
  | problem code values =>
      rw [render] at rendered
      obtain ⟨message, rfl⟩ := Issue.eq_mk_of_make rendered
      rw [Rerenders, render, Issue.make_eq_unlessFault]
      simp [Issue.reworded, Issue.rewordeds, Issue.postorder]
  | element code position findings induction =>
      obtain ⟨message, nested, inner, rfl⟩ := render_element_eq_ok rendered
      -- The element's messages are asked for before its own, which is why its own comes last.
      have below := renderAll_of_rerenders induction inner
      rw [Rerenders, render, below, Issue.reworded_element]
      simp only [Issue.make_eq_unlessFault, Issue.postorder, List.findSome?_append]
      rw [unlessFault_bind, List.findSome?_singleton]
  | fault cause =>
      rw [render] at rendered
      cases rendered

end Finding

/-! ## Reports in other words -/

/-- The wording signals a fault for the codes of a set, whatever the message may refer to, and has
a message for every other code. -/
def Wording.FailsFor (own : Wording) (failing : Code → Prop) : Prop :=
  ∀ code params, (∃ cause, own code params = .error cause) ↔ failing code

theorem Wording.IsTotal.failsFor {own : Wording} (total : own.IsTotal) :
    own.FailsFor fun _ => False := by
  intro code params
  obtain ⟨text, said⟩ := total code params
  simp [said]

namespace Issue

theorem fault?_eq_some_iff (wording : Option Wording) (issue : Issue) (cause : Fault) :
    issue.fault? wording = some cause ↔ issue.code.message wording issue.params = .error cause := by
  rw [fault?]
  cases issue.code.message wording issue.params <;> simp

theorem isSome_fault?_iff {own : Wording} {failing : Code → Prop} (fails : own.FailsFor failing)
    (issue : Issue) : (issue.fault? (some own)).isSome = true ↔ failing issue.code := by
  rw [Option.isSome_iff_exists, ← fails issue.code issue.params]
  exact exists_congr fun cause => fault?_eq_some_iff (some own) issue cause

/-- The fault of the first of the issues, in the order in which they are put into words, for whose
message the wording signals one. -/
def firstFault? (wording : Option Wording) (issues : List Issue) : Option Fault :=
  (postorders issues).findSome? fun issue => (issue.reworded wording).fault? wording

theorem firstFault?_isSome_iff {own : Wording} {failing : Code → Prop}
    (fails : own.FailsFor failing) (issues : List Issue) :
    (firstFault? (some own) issues).isSome = true ↔
      ∃ issue ∈ postorders issues, failing issue.code := by
  simp only [firstFault?, List.findSome?_isSome_iff, isSome_fault?_iff fails, code_reworded]

end Issue

namespace Report

theorem eq_ofIssues_of_ofFindings {wording : Option Wording} {findings : List Finding}
    {report : Report} (made : ofFindings wording findings = .ok report) :
    Finding.renderAll wording findings = .ok report.issues ∧ report = .ofIssues report.issues := by
  rw [ofFindings, bind_eq_ok_iff] at made
  obtain ⟨issues, rendered, finished⟩ := made
  cases finished
  exact ⟨rendered, rfl⟩

/-- A report that was made in one wording is made in any other of the same issues in other words,
unless that wording fails for one of their messages. -/
theorem ofFindings_of_made {other : Option Wording} (wording : Option Wording)
    {findings : List Finding} {report : Report} (made : ofFindings other findings = .ok report) :
    ofFindings wording findings =
      unlessFault (Issue.firstFault? wording report.issues)
        (.ofIssues (report.issues.map (Issue.reworded wording))) := by
  have rendered := (eq_ofIssues_of_ofFindings made).1
  have again := Finding.renderAll_of_rerenders
    (fun _ _ _ given => Finding.rerenders_of_rendered wording given) rendered
  rw [Issue.postorders_rewordeds, List.findSome?_map, Issue.rewordeds_eq_map] at again
  change _ = unlessFault (Issue.firstFault? wording report.issues) _ at again
  rw [ofFindings, again]
  cases Issue.firstFault? wording report.issues <;> rfl

end Report

/-- The outcome of a check does not hang on the words in which its issues are told. -/
structure IndependentOfWording (check : Option Wording → Except Fault Report) : Prop where
  /-- A wording that has all messages leaves everything but the words as it is. -/
  told : ∀ report, check none = .ok report → ∀ own : Wording, own.IsTotal →
    ∃ other, check (some own) = .ok other ∧ other.valid = report.valid ∧
      Issue.bares other.issues = Issue.bares report.issues
  /-- A wording that fails for some codes ends the check exactly if one of them is told. -/
  failed : ∀ report, check none = .ok report → ∀ own : Wording, ∀ failing, own.FailsFor failing →
    ((∃ cause, check (some own) = .error cause) ↔
      ∃ issue ∈ Issue.postorders report.issues, failing issue.code)
  /-- The fault is that of the first issue of such a code, told up to there in the wording. -/
  first : ∀ report, check none = .ok report → ∀ own : Wording, ∀ failing, own.FailsFor failing →
    ∀ cause, check (some own) = .error cause →
      ∃ before issue after, Issue.postorders report.issues = before ++ issue :: after ∧
        (∀ earlier ∈ before, ¬failing earlier.code) ∧ failing issue.code ∧
        own issue.code (issue.reworded (some own)).params = .error cause
  /-- Where there is nothing to tell, no wording is asked. -/
  silent : ∀ report, check none = .ok report → report.valid = true →
    ∀ wording, check wording = .ok report

theorem Report.ofFindings_independent (findings : List Finding) :
    IndependentOfWording fun wording => Report.ofFindings wording findings := by
  refine ⟨?told, ?failed, ?first, ?silent⟩
  case told =>
    intro report made own total
    have spared : Issue.firstFault? (some own) report.issues = none := by
      rw [← Option.not_isSome_iff_eq_none, Issue.firstFault?_isSome_iff total.failsFor]
      simp
    refine ⟨.ofIssues (report.issues.map (Issue.reworded (some own))), ?_, ?_, ?_⟩
    · rw [Report.ofFindings_of_made (some own) made, spared, unlessFault_none]
    · rw [(eq_ofIssues_of_ofFindings made).2]
      simp [ofIssues_valid]
    · simp [Issue.bares_eq_map, Issue.bare_reworded]
  case failed =>
    intro report made own failing fails
    rw [← Issue.firstFault?_isSome_iff fails, Report.ofFindings_of_made (some own) made]
    cases Issue.firstFault? (some own) report.issues <;> simp
  case first =>
    intro report made own failing fails cause ended
    rw [Report.ofFindings_of_made (some own) made] at ended
    cases found : Issue.firstFault? (some own) report.issues with
    | none =>
        rw [found] at ended
        cases ended
    | some other =>
        rw [found] at ended
        cases ended
        obtain ⟨before, issue, after, split, signalled, earlier⟩ :=
          List.findSome?_eq_some_iff.mp found
        refine ⟨before, issue, after, split, ?_, ?_, ?_⟩
        · intro other member failing
          have given := earlier other member
          rw [← Issue.code_reworded (some own), ← Issue.isSome_fault?_iff fails, given] at failing
          cases failing
        · rw [← Issue.code_reworded (some own), ← Issue.isSome_fault?_iff fails, signalled]
          rfl
        · have said := (Issue.fault?_eq_some_iff _ _ _).mp signalled
          rw [Issue.code_reworded] at said
          exact said
  case silent =>
    intro report made valid wording
    have own := (eq_ofIssues_of_ofFindings made).2
    have empty : report.issues = [] := by
      rw [own, ofIssues_valid, List.isEmpty_iff] at valid
      exact valid
    have clear : report = .clean := by
      rw [own, empty, ofIssues_nil]
    rw [Report.ofFindings_of_made wording made, Issue.firstFault?, empty, clear]
    simp

/-- Neither a condition, at whatever depth and limit, nor a list of actions is judged by the words
in which its issues are told.  A wording changes the words alone; one that fails for some codes
ends the check exactly if one of them is told, with the fault of the first such issue; and where
there is no issue none is asked for. -/
theorem checks_independent_of_wording :
    (∀ (limit depth : Int) (expression : Value),
      IndependentOfWording fun wording =>
        checkCondition wording (.int limit) (.int depth) expression) ∧
    ∀ actions : Value, IndependentOfWording fun wording => checkActions wording actions := by
  refine ⟨?_, ?_⟩
  · intro limit depth expression
    simp only [checkCondition_eq_ofFindings]
    exact Report.ofFindings_independent (conditionFindings (.int limit) (.int depth) expression)
  · intro actions
    simp only [checkActions_eq_ofFindings]
    exact Report.ofFindings_independent (actionListFindings actions)

/-- Three groups one inside the other, of which the last has no rules. -/
def Value.hollow : Value :=
  group "AND" [group "OR" [group "NOT" []]]
where
  group (operator : Text) (rules : List Value) : Value :=
    .mapping [(.text "operator", .text operator), (.text "rules", .list rules)]

/-- A wording of bare codes, which fails for rules with the words that English has for them. -/
def Wording.terse : Wording := fun code params =>
  if code = .ruleError then
    .error (.signalled .runtime (code.template.fill params.values).toOption)
  else .ok code.symbol

theorem checkCondition_hollow_first_fault :
    Wording.terse.FailsFor (· = .ruleError) ∧
      ∃ report, checkCondition none (.int 5) (.int 0) Value.hollow = .ok report ∧
        (∃ issue ∈ Issue.postorders report.issues, issue.code = .ruleError) ∧
        ∃ before issue after, Issue.postorders report.issues = before ++ issue :: after ∧
          (∀ earlier ∈ before, ¬earlier.code = .ruleError) ∧ issue.code = .ruleError ∧
          Wording.terse issue.code (issue.reworded (some .terse)).params =
            .error (.signalled .runtime (some "Rule 1: empty_group")) := by
  have fails : Wording.terse.FailsFor (· = .ruleError) := by
    intro code params
    by_cases rule : code = .ruleError
    · simp [Wording.terse, rule]
    · simp [Wording.terse, rule]
  have independent := checks_independent_of_wording.1 5 0 Value.hollow
  obtain ⟨report, made⟩ : ∃ report, checkCondition none (.int 5) (.int 0) Value.hollow =
      .ok report := ⟨_, rfl⟩
  have ended : checkCondition (some .terse) (.int 5) (.int 0) Value.hollow =
      .error (.signalled .runtime (some "Rule 1: empty_group")) := by rfl
  have told := (independent.failed report made .terse _ fails).mp ⟨_, ended⟩
  exact ⟨fails, report, made, told, independent.first report made .terse _ fails _ ended⟩

end Rulebook
