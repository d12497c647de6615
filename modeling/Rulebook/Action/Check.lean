import Rulebook.Message

/-!
# Checking actions

An action is a mapping with a type and, if its type calls for one, a configuration that gives
every required key a value.  Both are looked at, so one action may have issues about either.  Some
values count as missing although the key is there: the absent value, false, the empty text, zero,
and what is not a number.  A configuration can also be checked on its own; whether it is a mapping
is then asked first, and for an action whether its type requires anything.  The actions of a list
are checked one after the other, each put into words before the next is looked at.
-/

namespace Rulebook

/-- The value of a configuration key counts as missing.  A whole number beyond the range of
binary64 cannot be told from one that is not a number. -/
def Value.isMissing : Value → Except Fault Bool
  | .null => .ok true
  | .bool value => .ok (!value)
  | .text content => .ok content.isEmpty
  | .int value => if Double.holds value then .ok (value == 0) else .error .integerTooLarge
  | .double value => .ok (value.isZero || value.isNaN)
  | _ => .ok false

/-- The configuration keys of a type of action; a type outside the vocabulary has none. -/
def Value.schema (type : Value) : ActionSchema :=
  match type.text?.bind ActionType.ofSymbol? with
  | some known => known.schema
  | none => ⟨[], []⟩

/-- The issues about the keys that a configuration is required to fill, in order. -/
def keyIssues (wording : Option Wording) (config : Entries) :
    List Text → Except Fault (List Issue)
  | [] => .ok []
  | key :: rest => do
      let missing ← (config.getD key).isMissing
      let first ←
        (if missing then Issue.alone wording .configFieldMissing [("field", .text key)]
        else .ok [])
      let others ← keyIssues wording config rest
      .ok (first ++ others)

/-- The issue about the type of an action, if there is one. -/
def typeIssues (wording : Option Wording) (type : Value) : Except Fault (List Issue) :=
  match type with
  | .text content =>
      if content.isEmpty then Issue.alone wording .actionTypeRequired []
      else if (ActionType.ofSymbol? content).isSome then .ok []
      else
        Issue.alone wording .unknownActionType
          [("type", type), ("valid_types", .text (Text.join ", " ActionType.symbols))]
  | _ => Issue.alone wording .actionTypeRequired []

/-- The entries that an action is judged by: those of its raw form if that is a mapping, none
otherwise. -/
def actionEntries (action : Value) : Entries :=
  match action with
  | .mapping entries => entries
  | .condition _ | .action .. | .payload .. => (action.raw.mapping?).getD []
  | _ => []

/-- The report on one action.  The configuration is looked at only if the type requires a key. -/
def checkAction (wording : Option Wording) (action : Value) : Except Fault Report :=
  if action.isNull then do
    let issues ← Issue.alone wording .actionRequired []
    .ok (.ofIssues issues)
  else do
    let entries := actionEntries action
    let type := entries.getD "type"
    let required := type.schema.required
    let own ← typeIssues wording type
    let inner ←
      (if required.isEmpty then .ok []
      else
        match (entries.getD "config").mapping? with
        | none =>
            Issue.alone wording .configRequired
              [("type", type), ("fields", .text (Text.join ", " required))]
        | some config => keyIssues wording config required)
    .ok (.ofIssues (own ++ inner))

/-- The report on a configuration for a type of action.  What is no mapping is accepted only if
the type requires no key. -/
def checkConfig (wording : Option Wording) (type config : Value) : Except Fault Report :=
  let required := type.schema.required
  match config.mapping? with
  | none =>
      if required.isEmpty then .ok .clean
      else do
        let issues ← Issue.alone wording .configRequired
          [("type", type), ("fields", .text (Text.join ", " required))]
        .ok (.ofIssues issues)
  | some entries => do
      let issues ← keyIssues wording entries required
      .ok (.ofIssues issues)

/-- The issues of actions whose first has the given position. -/
def actionsIssues (wording : Option Wording) (position : Nat) :
    List Value → Except Fault (List Issue)
  | [] => .ok []
  | action :: rest => do
      let report ← checkAction wording action
      let first ← report.wrapped wording .actionError position
      let others ← actionsIssues wording (position + 1) rest
      .ok (first ++ others)

/-- The report on an ordered list of actions, which may be absent. -/
def checkActions (wording : Option Wording) : Value → Except Fault Report
  | .null => .ok .clean
  | .list actions | .tuple actions => do
      let issues ← actionsIssues wording 1 actions
      .ok (.ofIssues issues)
  | _ => do
      let issues ← Issue.alone wording .actionsNotList [("field_name", .text "Actions")]
      .ok (.ofIssues issues)

end Rulebook
