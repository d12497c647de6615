import Rulebook.Action.Check
import Rulebook.Condition.Check
import Rulebook.Payload.Typed
import Rulebook.Payload.Verdict

/-!
# Validating payloads

The three sections of a payload are validated independently of each other.  A section that cannot
be validated gets a verdict that says so and leaves the other sections alone.  The payload as a
whole is valid if all its sections are, and otherwise has their errors one after the other, each
led by the title of its section.
-/

namespace Rulebook

/-- The verdict on a section that could not be validated.  Its message is rendered too, so a
wording that fails for it ends the validation. -/
def internalVerdict (wording : Option Wording) (title : Text) (cause : Fault) :
    Except Fault Verdict := do
  let message ← Code.internalError.message wording
    ⟨[("section", .text title), ("detail", .text cause.detail)], []⟩
  .ok (.internal message)

/-- The verdict of a report; the summary of its errors is led by the given words. -/
def Report.verdict (lead : Text) (report : Report) : Verdict :=
  if report.valid then .clean
  else .ofErrors report.errors (some (lead ++ Text.join "; " report.errors))

/-- The verdict on a condition expression. -/
def conditionVerdict (wording : Option Wording) (limit expression : Value) :
    Except Fault Verdict :=
  if expression.isNull then .ok .clean
  else
    match checkCondition wording limit (.int 0) expression with
    | .error cause => internalVerdict wording "condition expression" cause
    | .ok report => .ok (report.verdict "Invalid condition expression: ")

/-- The verdict on a list of actions that came from a field of that name. -/
def actionsVerdict (wording : Option Wording) (field : Text) (actions : Value) :
    Except Fault Verdict :=
  match actions with
  | .null => .ok .clean
  | .list [] => .ok .clean
  | .list _ =>
      match checkActions wording actions with
      | .error cause => internalVerdict wording field cause
      | .ok report => .ok (report.verdict (Text.ofString "Invalid " ++ field ++ Text.ofString ": "))
  | _ => do
      let message ← Code.actionsNotList.message wording ⟨[("field_name", .text field)], []⟩
      .ok (.ofErrors [message] none)

/-- The section that a word stands for; a word that stands for none is a fault. -/
def Section.named (word : Text) : Except Fault Section :=
  match ofSymbol? word with
  | some part => .ok part
  | none => .error (.unknownWord word "ValidationKind")

/-- The verdicts on the sections of a payload. -/
structure SectionVerdicts where
  condition : Verdict
  successActions : Verdict
  failureActions : Verdict

namespace SectionVerdicts

/-- The verdict on a section. -/
def get (verdicts : SectionVerdicts) : Section → Verdict
  | .condition => verdicts.condition
  | .successActions => verdicts.successActions
  | .failureActions => verdicts.failureActions

/-- The sections with their verdicts, in the order of reporting. -/
def toList (verdicts : SectionVerdicts) : List (Section × Verdict) :=
  Section.all.map fun part => (part, verdicts.get part)

end SectionVerdicts

/-- The payload that data holds: that of a typed record, or the parts of a mapping under their
first names.  Absent data holds the empty payload, and other data none. -/
def Value.payload? : Value → Option Payload
  | .null => some .empty
  | .payload expression success failure => some ⟨expression, success, failure⟩
  | .mapping entries =>
      some
        { condition := Entries.getD "conditionExpression" entries
          successActions := Entries.getD "successActions" entries
          failureActions := Entries.getD "failureActions" entries }
  | _ => none

/-- The verdicts on the sections of a payload that has been read. -/
def Payload.sections (wording : Option Wording) (limit : Value) (payload : Payload) :
    Except Fault SectionVerdicts := do
  let condition ← conditionVerdict wording limit payload.condition
  let success ← actionsVerdict wording "successActions" payload.successActions
  let failure ← actionsVerdict wording "failureActions" payload.failureActions
  .ok ⟨condition, success, failure⟩

/-- The verdicts on the sections of a payload of any shape. -/
def payloadSections (wording : Option Wording) (limit payload : Value) :
    Except Fault SectionVerdicts :=
  match payload.payload? with
  | some payload => payload.sections wording limit
  | none => do
      let failure ← internalVerdict wording "rule payload" .objectExpected
      .ok ⟨failure, .clean, .clean⟩

/-- The errors of sections, each led by the title of its section.  Sections are taken in the order
of reporting, and one without a verdict has no errors. -/
def aggregate (verdictOf : Section → Option Verdict) : Verdict :=
  .ofErrors
    (Section.all.flatMap fun part =>
      match verdictOf part with
      | some verdict =>
          if verdict.valid then []
          else verdict.errorList.map fun error => part.title ++ Text.ofString ": " ++ error
      | none => [])
    none

/-- The verdict on a payload of any shape. -/
def payloadVerdict (wording : Option Wording) (limit payload : Value) :
    Except Fault Verdict := do
  let verdicts ← payloadSections wording limit payload
  .ok (aggregate fun part => some (verdicts.get part))

end Rulebook
