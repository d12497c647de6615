import Rulebook.Value.Display
import Rulebook.Value.Field

/-!
# Typed actions

An action is read into its type and its configuration, which is a mapping with texts as keys or
absent.
-/

namespace Rulebook

/-- An action read into its parts. -/
structure Action where
  type : ActionType
  config : Option Entries

/-- The typed record as a value. -/
def Action.toValue (action : Action) : Value := .action action.type action.config

/-- Reads a configuration or its absence; every key must be a text. -/
def Value.fitConfig : Value → Fit (Option Entries)
  | .null => .ok none
  | .mapping entries =>
      match Fit.all (entries.map fun entry => fitKey entry.1) with
      | .ok _ => .ok (some entries)
      | .error mismatches => .error mismatches
  | _ => Fit.fail .mappingType
where
  /-- Reads a key, which must be a text. -/
  fitKey (key : Value) : Fit Text :=
    Fit.under (.name key.display) (Fit.under (.name "[key]") key.fitText)

/-- Reads the entries of a mapping as an action. -/
def fitActionEntries (entries : Entries) : Fit Action :=
  let config := Fit.under (.name "config") (entries.getD "config").fitConfig
  match Fit.both (entries.fitRequired "type" (Value.fitWord ActionType.ofSymbol?)) config with
  | .ok (type, config) => .ok ⟨type, config⟩
  | .error mismatches => .error mismatches

/-- Reads data as an action. -/
def Value.fitAction : Value → Fit Action
  | .action type config => .ok ⟨type, config⟩
  | .mapping entries => fitActionEntries entries
  | _ => Fit.fail .recordType

end Rulebook
