import Mathlib.Tactic.Choose
import Rulebook.Proofs.Payload.Unguarded
import Rulebook.Proofs.Rewording

/-!
# Sections apart from each other

What is told about a section of a payload is a function of what the section's own key holds.  The
check of another section, though it be given anything and end in whatever fault, changes nothing
about it.  All that is asked of the wording for this are the two messages that stand in for a
report.
-/

namespace Rulebook

/-! ## What a section holds and how it is checked -/

namespace Section

/-- The key of a payload under which the section stands. -/
def key : Section → Text
  | .condition => "conditionExpression"
  | .successActions => "successActions"
  | .failureActions => "failureActions"

/-- What messages call the section. -/
def label : Section → Text
  | .condition => "condition expression"
  | .successActions => "successActions"
  | .failureActions => "failureActions"

/-- The check of what the section holds. -/
def check (wording : Option Wording) (limit : Value) : Section → Value → Except Fault Report
  | .condition => checkCondition wording limit (.int 0)
  | .successActions | .failureActions => checkActions wording

/-- What the section holds is checked: a condition always, and actions if they are a list. -/
def IsChecked (part : Section) (given : Value) : Prop :=
  part = .condition ∨ ∃ elements, given = .list elements

/-- The verdict on the section alone. -/
def verdict (wording : Option Wording) (limit : Value) (part : Section) (given : Value) :
    Except Fault Verdict :=
  match part with
  | .condition => conditionVerdict wording limit given
  | .successActions | .failureActions => actionsVerdict wording part.label given

end Section

theorem Payload.sectionVerdict_eq (wording : Option Wording) (limit : Value) (entries : Entries)
    (part : Section) {payload : Payload}
    (read : (Value.mapping entries).payload? = some payload) :
    payload.sectionVerdict wording limit part =
      part.verdict wording limit (entries.getD part.key) := by
  cases read
  cases part <;> rfl

/-! ## What is told -/

/-- The wording has the messages that stand in for the report on a section. -/
structure SpeaksOfFailures (wording : Option Wording) : Prop where
  internalError : ∀ title cause, ∃ text,
    Code.internalError.message wording (.ofFailure title cause) = .ok text
  actionsNotList : ∀ field, ∃ text,
    Code.actionsNotList.message wording (.ofField field) = .ok text

/-- What the verdict on something of that name tells of the outcome of its check. -/
structure Verdict.TellsOutcome (verdict : Verdict) (wording : Option Wording) (label : Text)
    (outcome : Except Fault Report) : Prop where
  /-- A fault is one message about what was checked.  Its detail is the message of the fault, or
  the name of the fault's class if that is empty. -/
  failed : ∀ cause, outcome = .error cause →
    ∃ detail text : Text, detail ≠ [] ∧
      (cause.message ≠ [] → detail = cause.message) ∧
      (cause.message = [] → detail = cause.className) ∧
      Code.internalError.message wording
        ⟨[("section", .text label), ("detail", .text detail)], []⟩ = .ok text ∧
      (wording = none →
        text = Text.ofString "Failed to validate " ++ label ++ Text.ofString ": " ++ detail) ∧
      verdict = ⟨false, some text, some [text]⟩
  valid : ∀ report, outcome = .ok report → report.valid = true → verdict = ⟨true, none, none⟩
  invalid : ∀ report, outcome = .ok report → report.valid = false →
    verdict = ⟨false,
      some (Text.ofString "Invalid " ++ label ++ Text.ofString ": " ++
        Text.join "; " report.errors),
      some report.errors⟩

/-- What the verdict on a section tells of what the section holds. -/
structure Section.Tells (part : Section) (wording : Option Wording) (limit given : Value)
    (verdict : Verdict) : Prop where
  absent : given = .null → verdict = ⟨true, none, none⟩
  empty : part ≠ .condition → given = .list [] → verdict = ⟨true, none, none⟩
  /-- Actions that are there and are no list are told of in one message. -/
  noList : part ≠ .condition → given ≠ .null → (∀ elements, given ≠ .list elements) →
    ∃ text, Code.actionsNotList.message wording (.ofField part.label) = .ok text ∧
      (wording = none → text = part.label ++ Text.ofString " must be a list") ∧
      verdict = ⟨false, some text, some [text]⟩
  checked : part.IsChecked given →
    verdict.TellsOutcome wording part.label (part.check wording limit given)

/-! ## One section -/

theorem Code.message_actionsNotList_none (field : Text) :
    Code.actionsNotList.message none (.ofField field) =
      .ok (field ++ Text.ofString " must be a list") := rfl

theorem Code.message_internalError_none (label detail : Text) :
    Code.internalError.message none ⟨[("section", .text label), ("detail", .text detail)], []⟩ =
      .ok (Text.ofString "Failed to validate " ++ label ++ Text.ofString ": " ++ detail) := by
  change Except.ok (Text.ofString "Failed to validate " ++
    (label ++ (Text.ofString ": " ++ (detail ++ [])))) = _
  rw [List.append_nil, List.append_assoc, List.append_assoc]

theorem Fault.detail_of_message {cause : Fault} (said : cause.message ≠ []) :
    cause.detail = cause.message := by
  rw [detail, if_neg (by simpa using said)]

theorem Fault.detail_of_silent {cause : Fault} (silent : cause.message = []) :
    cause.detail = cause.className := by
  rw [detail, silent]
  rfl

theorem speaksOfFailures_none : SpeaksOfFailures none where
  internalError title cause := by
    have given := Params.ofFailure_given title cause
    exact ⟨_, Code.message_eq_text speaks_none .internalError (.ofFailure title cause) given⟩
  actionsNotList field := ⟨_, Code.message_actionsNotList_none field⟩

theorem Verdict.ofErrors_of_ne_nil {errors : List Text} {summary : Text} (told : errors ≠ [])
    (worded : summary ≠ []) :
    ofErrors errors (some summary) = ⟨false, some summary, some errors⟩ := by
  have filled : errors.isEmpty = false := by simpa using told
  have kept : (some summary).filter (!·.isEmpty) = some summary := by simp [worded]
  simp [ofErrors, filled, kept]

/-- A report is valid exactly if it has no errors. -/
theorem Section.valid_eq_of_check {part : Section} {wording : Option Wording}
    {limit given : Value} {report : Report}
    (made : part.check wording limit given = .ok report) :
    report.valid = report.errors.isEmpty := by
  obtain ⟨findings, rendered⟩ : ∃ findings, Report.ofFindings wording findings = .ok report := by
    cases part with
    | condition => exact ⟨_, (checkCondition_eq_ofFindings wording _ _ _).symm.trans made⟩
    | successActions => exact ⟨_, (checkActions_eq_ofFindings wording _).symm.trans made⟩
    | failureActions => exact ⟨_, (checkActions_eq_ofFindings wording _).symm.trans made⟩
  have own := (Report.eq_ofIssues_of_ofFindings rendered).2
  rw [own, Report.ofIssues_valid, Report.ofIssues_errors, List.isEmpty_map]

theorem Report.verdict_of_invalid {label : Text} {report : Report} (invalid : report.valid = false)
    (grounded : report.valid = report.errors.isEmpty) :
    report.verdict (Text.ofString "Invalid " ++ label ++ Text.ofString ": ") =
      ⟨false,
        some (Text.ofString "Invalid " ++ label ++ Text.ofString ": " ++
          Text.join "; " report.errors),
        some report.errors⟩ := by
  have told : report.errors ≠ [] := by
    intro none
    rw [none, invalid] at grounded
    cases grounded
  have worded : Text.ofString "Invalid " ++ label ++ Text.ofString ": " ++
      Text.join "; " report.errors ≠ [] := by
    simp [Text.ofString]
  rw [Report.verdict, invalid]
  exact Verdict.ofErrors_of_ne_nil told worded

/-- The outcome of a check always gets a verdict. -/
theorem outcomeVerdict_tells {wording : Option Wording} (spoken : SpeaksOfFailures wording)
    (label : Text) {outcome : Except Fault Report}
    (grounded : ∀ report, outcome = .ok report → report.valid = report.errors.isEmpty) :
    ∃ verdict,
      outcomeVerdict wording label (Text.ofString "Invalid " ++ label ++ Text.ofString ": ")
          outcome = .ok verdict ∧
        verdict.TellsOutcome wording label outcome := by
  cases outcome with
  | error cause =>
      obtain ⟨text, said⟩ := spoken.internalError label cause
      refine ⟨.internal text, ?_, ?failed, ?valid, ?invalid⟩
      · exact (internalVerdict_eq_ok_iff _ _ _ _).mpr ⟨text, said, rfl⟩
      case failed =>
        intro other same
        cases same
        refine ⟨cause.detail, text, cause.detail_ne_nil, Fault.detail_of_message,
          Fault.detail_of_silent, said, ?_, rfl⟩
        rintro rfl
        exact Except.ok.inj (said.symm.trans (Code.message_internalError_none label cause.detail))
      case valid =>
        intro report same
        cases same
      case invalid =>
        intro report same
        cases same
  | ok report =>
      refine ⟨_, rfl, ?failed, ?valid, ?invalid⟩
      case failed =>
        intro cause same
        cases same
      case valid =>
        intro other same valid
        cases same
        rw [Report.verdict, valid]
        rfl
      case invalid =>
        intro other same invalid
        cases same
        exact Report.verdict_of_invalid invalid (grounded report rfl)

theorem conditionVerdict_tells {wording : Option Wording} (spoken : SpeaksOfFailures wording)
    (limit given : Value) :
    ∃ verdict, conditionVerdict wording limit given = .ok verdict ∧
      Section.condition.Tells wording limit given verdict := by
  obtain ⟨verdict, judged, told⟩ := outcomeVerdict_tells spoken Section.condition.label
    fun _ made => Section.valid_eq_of_check made
  refine ⟨verdict, ?_, ?absent, ?empty, ?noList, fun _ => told⟩
  · rw [conditionVerdict_eq]
    exact judged
  case absent =>
    rintro rfl
    exact told.valid .clean (checkCondition_null wording limit (.int 0)) rfl
  case empty =>
    intro other
    exact absurd rfl other
  case noList =>
    intro other
    exact absurd rfl other

theorem actionsVerdict_tells {wording : Option Wording} (spoken : SpeaksOfFailures wording)
    (limit given : Value) {part : Section} (actions : part ≠ .condition) :
    ∃ verdict, actionsVerdict wording part.label given = .ok verdict ∧
      part.Tells wording limit given verdict := by
  have check : part.check wording limit given = checkActions wording given := by
    cases part with
    | condition => exact absurd rfl actions
    | successActions => rfl
    | failureActions => rfl
  by_cases listed : given = .null ∨ ∃ elements, given = .list elements
  · obtain ⟨verdict, judged, told⟩ := outcomeVerdict_tells spoken part.label
      fun _ made => Section.valid_eq_of_check (check.trans made)
    refine ⟨verdict, ?_, ?absent, ?empty, ?noList, ?checked⟩
    · rw [actionsVerdict_of_checked wording part.label listed]
      exact judged
    case absent =>
      rintro rfl
      exact told.valid .clean (Report.ofFindings_nil wording) rfl
    case empty =>
      rintro - rfl
      exact told.valid .clean (Report.ofFindings_nil wording) rfl
    case noList =>
      intro _ present noList
      obtain absent | ⟨elements, list⟩ := listed
      · exact absurd absent present
      · exact absurd list (noList elements)
    case checked =>
      intro _
      rw [check]
      exact told
  · rw [not_or, not_exists] at listed
    obtain ⟨present, noList⟩ := listed
    obtain ⟨text, said⟩ := spoken.actionsNotList part.label
    refine ⟨⟨false, some text, some [text]⟩, ?_, ?absent, ?empty, ?noList, ?checked⟩
    · rw [actionsVerdict_of_noList wording part.label present noList, said]
      rfl
    case absent =>
      intro absent
      exact absurd absent present
    case empty =>
      intro _ empty
      exact absurd empty (noList [])
    case noList =>
      intro _ _ _
      refine ⟨text, said, ?_, rfl⟩
      rintro rfl
      rw [Code.message_actionsNotList_none] at said
      exact (Except.ok.inj said).symm
    case checked =>
      rintro (condition | ⟨elements, list⟩)
      · exact absurd condition actions
      · exact absurd list (noList elements)

theorem Section.verdict_tells {wording : Option Wording} (spoken : SpeaksOfFailures wording)
    (limit : Value) (part : Section) (given : Value) :
    ∃ verdict, part.verdict wording limit given = .ok verdict ∧
      part.Tells wording limit given verdict := by
  cases part with
  | condition => exact conditionVerdict_tells spoken limit given
  | successActions => exact actionsVerdict_tells spoken limit given Section.noConfusion
  | failureActions => exact actionsVerdict_tells spoken limit given Section.noConfusion

/-! ## All sections -/

/-- A payload mapping always gets its three verdicts, in the order of reporting, if the wording has
the messages that stand in for a report.  The verdict on a section is a function of what the
section's own key holds, whatever the other keys hold and whether or not their checks fail. -/
theorem payloadSections_isolated {wording : Option Wording} (spoken : SpeaksOfFailures wording)
    (limit : Value) :
    ∃ tell : Section → Value → Verdict,
      (∀ (part : Section) given, part.Tells wording limit given (tell part given)) ∧
        ∀ entries : Entries, ∃ verdicts,
          payloadSections wording limit (.mapping entries) = .ok verdicts ∧
            verdicts.toList =
              Section.all.map fun part => (part, tell part (entries.getD part.key)) := by
  choose tell judged told using Section.verdict_tells spoken limit
  refine ⟨tell, told, ?_⟩
  intro entries
  refine ⟨⟨tell .condition (entries.getD Section.condition.key),
    tell .successActions (entries.getD Section.successActions.key),
    tell .failureActions (entries.getD Section.failureActions.key)⟩, ?_, rfl⟩
  rw [payloadSections_of_read rfl, Payload.sections_eq_ok_iff]
  intro part
  rw [Payload.sectionVerdict_eq wording limit entries part rfl, judged]
  cases part <;> rfl

/-- English, but for the two messages about what an action lacks: one fails with words, the other
without. -/
def Wording.curt : Wording := fun code params =>
  match code with
  | .actionRequired => .error (.signalled .value (some "boom"))
  | .actionTypeRequired => .error (.signalled .runtime none)
  | other => Wording.english other params

/-- A payload with a condition of no known form, and with two actions that lack something. -/
def Value.troubled : Value :=
  .mapping
    [(.text "successActions", .list [.null]), (.text "conditionExpression", .text "later"),
      (.text "failureActions", .list [.mapping []])]

theorem payloadSections_troubled_isolated :
    SpeaksOfFailures (some .curt) ∧
      ∃ verdicts,
        payloadSections (some .curt) (.int 5) Value.troubled = .ok verdicts ∧
          verdicts.condition.valid = false ∧
          verdicts.successActions =
            ⟨false, some "Failed to validate successActions: boom",
              some ["Failed to validate successActions: boom"]⟩ ∧
          verdicts.failureActions =
            ⟨false, some "Failed to validate failureActions: RuntimeError",
              some ["Failed to validate failureActions: RuntimeError"]⟩ := by
  have spoken : SpeaksOfFailures (some .curt) :=
    ⟨speaksOfFailures_none.internalError, speaksOfFailures_none.actionsNotList⟩
  obtain ⟨tell, told, judged⟩ := payloadSections_isolated spoken (.int 5)
  obtain ⟨verdicts, sections, listed⟩ := judged _
  have condition := told .condition (.text "later")
  have success := told .successActions (.list [.null])
  have failure := told .failureActions (.list [.mapping []])
  simp only [SectionVerdicts.toList, Section.all, List.map_cons, List.cons.injEq,
    Prod.mk.injEq, true_and] at listed
  obtain ⟨conditionTold, successTold, failureTold, -⟩ := listed
  refine ⟨spoken, verdicts, sections, ?condition, ?success, ?failure⟩
  case condition =>
    have unknown := (condition.checked (.inl rfl)).invalid _ rfl rfl
    exact (congrArg Verdict.valid (conditionTold.trans unknown)).trans rfl
  case success =>
    obtain ⟨detail, text, -, worded, -, rendered, -, told⟩ :=
      (success.checked (.inr ⟨_, rfl⟩)).failed _ rfl
    obtain rfl := worded (List.cons_ne_nil _ _)
    obtain rfl := Except.ok.inj rendered
    exact successTold.trans told
  case failure =>
    obtain ⟨detail, text, -, -, silent, rendered, -, told⟩ :=
      (failure.checked (.inr ⟨_, rfl⟩)).failed _ rfl
    obtain rfl := silent rfl
    obtain rfl := Except.ok.inj rendered
    exact failureTold.trans told

end Rulebook
