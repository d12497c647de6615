import Rulebook.Action.Check
import Rulebook.Proofs.Finding

/-!
# What a check of actions finds

The findings about an action are those about its type and those about its configuration.  An
action is asked first whether its type requires a key, and a configuration on its own whether it
is a mapping; each renders these findings nevertheless, in every wording, and so does the check of
a list, which puts every action into words before it looks at the next.
-/

namespace Rulebook

/-- The findings about a required key of a configuration. -/
def keyFindings (config : Entries) (key : Text) : List Finding :=
  match (config.getD key).isMissing with
  | .ok false => []
  | .ok true => [.of .configFieldMissing [("field", .text key)]]
  | .error cause => [.fault cause]

/-- The findings about the required keys of a configuration, in order. -/
def requiredFindings (config : Entries) (required : List Text) : List Finding :=
  required.flatMap (keyFindings config)

/-- The finding about a configuration that is not there although the type needs one. -/
def absentConfigFinding (type : Value) : Finding :=
  .of .configRequired
    [("type", type), ("fields", .text (Text.join ", " type.schema.required))]

/-- The findings about a configuration for a type of action. -/
def configFindings (type config : Value) : List Finding :=
  match config.mapping? with
  | some entries => requiredFindings entries type.schema.required
  | none => if type.schema.required.isEmpty then [] else [absentConfigFinding type]

/-- The finding about the type of an action, if there is one. -/
def typeFindings (type : Value) : List Finding :=
  match type with
  | .text content =>
      if content.isEmpty then [.of .actionTypeRequired []]
      else if (ActionType.ofSymbol? content).isSome then []
      else
        [.of .unknownActionType
          [("type", type), ("valid_types", .text (Text.join ", " ActionType.symbols))]]
  | _ => [.of .actionTypeRequired []]

/-- The findings about one action. -/
def actionFindings (action : Value) : List Finding :=
  if action.isNull then [.of .actionRequired []]
  else
    let entries := actionEntries action
    typeFindings (entries.getD "type") ++
      configFindings (entries.getD "type") (entries.getD "config")

/-- The findings about actions whose first has the given position. -/
def actionsFindings (position : Nat) : List Value → List Finding
  | [] => []
  | action :: rest =>
      Finding.ofElement .actionError position (actionFindings action) ++
        actionsFindings (position + 1) rest

/-- The findings about an ordered list of actions, which may be absent. -/
def actionListFindings : Value → List Finding
  | .null => []
  | .list actions => actionsFindings 1 actions
  | .tuple actions => actionsFindings 1 actions
  | _ => [.of .actionsNotList [("field_name", .text "Actions")]]

/-! ## The checks render their findings -/

section Run

variable (wording : Option Wording)

theorem keyIssues_eq (config : Entries) (required : List Text) :
    keyIssues wording config required =
      Finding.renderAll wording (requiredFindings config required) := by
  rw [requiredFindings]
  induction required with
  | nil => rw [keyIssues, List.flatMap_nil, Finding.renderAll_nil]
  | cons key rest induction =>
      rw [keyIssues, List.flatMap_cons, Finding.renderAll_append, induction, keyFindings]
      cases (config.getD key).isMissing with
      | error cause =>
          rw [Finding.renderAll_fault]
          rfl
      | ok missing =>
          cases missing with
          | true =>
              rw [Finding.renderAll_of]
              rfl
          | false =>
              rw [Finding.renderAll_nil]
              rfl

theorem typeIssues_eq (type : Value) :
    typeIssues wording type = Finding.renderAll wording (typeFindings type) := by
  cases type with
  | text content =>
      rw [typeIssues, typeFindings]
      split
      · rw [Finding.renderAll_of]
      · split
        · rw [Finding.renderAll_nil]
        · rw [Finding.renderAll_of]
  | _ => exact (Finding.renderAll_of wording _ _).symm

theorem checkConfig_eq_ofFindings (type config : Value) :
    checkConfig wording type config = Report.ofFindings wording (configFindings type config) := by
  rw [checkConfig, configFindings]
  cases config.mapping? with
  | none =>
      cases type.schema.required.isEmpty with
      | true => exact (Report.ofFindings_nil wording).symm
      | false =>
          rw [Report.ofFindings]
          exact congrArg (· >>= _) (Finding.renderAll_of wording _ _).symm
  | some entries => exact congrArg (· >>= _) (keyIssues_eq wording entries _)

/-- An action whose type requires no key has no findings about its configuration, and otherwise
those of the configuration on its own. -/
theorem requiredFirst_eq (type config : Value) :
    (if type.schema.required.isEmpty then .ok []
      else
        match config.mapping? with
        | none =>
            Issue.alone wording .configRequired
              [("type", type), ("fields", .text (Text.join ", " type.schema.required))]
        | some entries => keyIssues wording entries type.schema.required) =
      Finding.renderAll wording (configFindings type config) := by
  rw [configFindings]
  cases asked : type.schema.required with
  | nil => cases config.mapping? <;> simp [requiredFindings]
  | cons key rest =>
      cases config.mapping? with
      | none =>
          rw [absentConfigFinding, asked]
          exact (Finding.renderAll_of wording _ _).symm
      | some entries => exact keyIssues_eq wording entries _

theorem checkAction_eq_ofFindings (action : Value) :
    checkAction wording action = Report.ofFindings wording (actionFindings action) := by
  rw [checkAction, actionFindings, Report.ofFindings]
  split
  · rw [Finding.renderAll_of]
  · rw [Finding.renderAll_append, ← typeIssues_eq, ← requiredFirst_eq, bind_assoc]
    refine bind_congr fun own => ?_
    rw [bind_assoc]
    rfl

theorem actionsIssues_eq (position : Nat) (actions : List Value) :
    actionsIssues wording position actions =
      Finding.renderAll wording (actionsFindings position actions) := by
  induction actions generalizing position with
  | nil => rw [actionsIssues, actionsFindings, Finding.renderAll_nil]
  | cons action rest induction =>
      rw [actionsIssues, actionsFindings, Finding.renderAll_append, Finding.renderAll_ofElement,
        checkAction_eq_ofFindings, induction, bind_assoc]

theorem checkActions_eq_ofFindings (actions : Value) :
    checkActions wording actions = Report.ofFindings wording (actionListFindings actions) := by
  cases actions with
  | null => exact (Report.ofFindings_nil wording).symm
  | list actions => exact congrArg (· >>= _) (actionsIssues_eq wording 1 actions)
  | tuple actions => exact congrArg (· >>= _) (actionsIssues_eq wording 1 actions)
  | _ => exact congrArg (· >>= _) (Finding.renderAll_of wording _ _).symm

end Run

end Rulebook
