import Rulebook.Json.Basic

/-!
# Log entries

An event is what a component reports; an entry is the event as it is written, with the values
bound to the request being handled and the name of the service.
-/

namespace Rulebook

/-- How grave an event is. -/
inductive Level where
  /-- Normal operation. -/
  | info
  /-- Something that a caller or the host should mend. -/
  | warning
  /-- Something that failed. -/
  | error
  deriving DecidableEq, Repr

/-- The word for a level. -/
def Level.symbol : Level → Text
  | .info => "info"
  | .warning => "warning"
  | .error => "error"

/-- What a component reports. -/
structure Event where
  name : Text
  /-- How grave it is. -/
  level : Level
  /-- What is said of it. -/
  fields : List (Text × Json)

/-- Values bound to every entry that is written while a request is handled. -/
abbrev LogContext := List (Text × Json)

/-- A written entry. -/
structure Entry where
  event : Event
  /-- The values bound when it was written. -/
  context : LogContext

namespace Event

/-- An event whose fields are named by strings. -/
def of (name : String) (level : Level) (fields : List (String × Json)) : Event :=
  ⟨name, level, fields.map fun (name, value) => (Text.ofString name, value)⟩

end Event

/-- The name of the service in log entries. -/
def loggedService : Text := "ruleguard"

namespace Entry

/-- The bound values that the event does not give itself. -/
def inherited (entry : Entry) : LogContext :=
  entry.context.filter fun bound => !Assoc.has bound.1 entry.event.fields

/-- The document of an entry. -/
def document (entry : Entry) : Json :=
  .object
    (entry.event.fields ++ entry.inherited ++
      [(Text.ofString "event", Json.text entry.event.name),
        (Text.ofString "level", Json.text entry.event.level.symbol),
        (Text.ofString "service", Json.text loggedService)])

end Entry

end Rulebook
