import Rulebook.Assoc
import Rulebook.Fault
import Rulebook.Number.Shortest

/-!
# Measurements

The service counts requests and validation outcomes.  A labelled series exists from its first use
on.  A counter is asked to add amounts, one for an event, and what it shows is their sum in
binary64 arithmetic; an amount may be neither negative nor beyond the range of binary64 values.
-/

namespace Rulebook

/-- The name and version under which a service reports. -/
structure ServiceInfo where
  name : Text
  version : Text
  deriving DecidableEq

/-- The service if nothing else is given. -/
def ServiceInfo.default : ServiceInfo := ⟨"ruleguard", "0.1.0"⟩

/-- A counter: the amounts that have been added to it, the last one first. -/
structure Counter where
  amounts : List Nat
  deriving DecidableEq

namespace Counter

/-- A counter to which nothing has been added. -/
def zero : Counter := ⟨[]⟩

/-- The counter after one more amount has been added. -/
def add (amount : Nat) (counter : Counter) : Counter := ⟨amount :: counter.amounts⟩

/-- What the counter shows: its amounts added to zero one after the other as binary64 values. -/
def value (counter : Counter) : Double :=
  counter.amounts.foldr (fun (amount : Nat) sum => sum.add (.ofRat amount)) (.zero false)

end Counter

/-- Counts one more event in a series, which begins with its first event. -/
def countEvent {κ : Type} [DecidableEq κ] (key : κ) (series : Assoc κ Counter) : Assoc κ Counter :=
  Assoc.update key .zero (·.add 1) series

/-- What a request is counted under. -/
structure RequestKey where
  method : Text
  path : Text
  status : Nat
  deriving DecidableEq

/-- What a duration is measured under. -/
structure RouteKey where
  method : Text
  path : Text
  deriving DecidableEq

/-- What a validation is counted under. -/
structure ValidationKey where
  part : Text
  valid : Bool
  deriving DecidableEq

/-- The measurements of a service. -/
structure Metrics where
  service : ServiceInfo
  /-- Requests answered. -/
  requests : Assoc RequestKey Counter
  /-- Requests whose duration was measured. -/
  durations : Assoc RouteKey Counter
  /-- Requests being handled. -/
  active : Int
  isUp : Bool
  /-- Sections validated. -/
  validations : Assoc ValidationKey Counter
  /-- Validation errors reported, by section. -/
  errors : Assoc Text Counter
  /-- Expressions refused by the safety guard. -/
  refusals : Counter

namespace Metrics

/-- The measurements of a service that has just started. -/
def fresh (service : ServiceInfo) : Metrics :=
  { service
    requests := []
    durations := []
    active := 0
    isUp := true
    validations := []
    errors := []
    refusals := .zero }

/-- Counts an expression refused by the safety guard. -/
def recordRefusal (metrics : Metrics) : Metrics :=
  { metrics with refusals := metrics.refusals.add 1 }

/-- Counts the outcome of validating a section. -/
def recordOutcome (part : Text) (valid : Bool) (metrics : Metrics) : Metrics :=
  { metrics with validations := countEvent ⟨part, valid⟩ metrics.validations }

/-- Adds to the errors of a section. -/
def addErrors (part : Text) (amount : Nat) (metrics : Metrics) : Metrics :=
  { metrics with errors := Assoc.update part .zero (·.add amount) metrics.errors }

/-- Makes sure that the series for the errors of a section exists. -/
def touchErrors (part : Text) (metrics : Metrics) : Metrics :=
  { metrics with errors := Assoc.update part .zero id metrics.errors }

/-- Records the outcome of validating a section and how many errors were listed.  No list is so
long that the number of its elements could not be added. -/
def recordCount (part : Text) (valid : Bool) (count : Nat) (metrics : Metrics) : Metrics :=
  let counted := metrics.recordOutcome part valid
  if count = 0 then counted else counted.addErrors part count

/-- Records the outcome of validating a section and a number of errors of any size.  The outcome is
counted even if the number cannot be added. -/
def recordValidation (part : Text) (valid : Bool) (errorCount : Int) (metrics : Metrics) :
    Option Fault × Metrics :=
  let unadded := (metrics.recordOutcome part valid).touchErrors part
  if errorCount < 0 then (some .negativeIncrement, unadded)
  else if !Double.holds errorCount then (some .integerTooLarge, unadded)
  else (none, metrics.recordCount part valid errorCount.toNat)

/-- A request has begun. -/
def requestStarted (metrics : Metrics) : Metrics := { metrics with active := metrics.active + 1 }

/-- A request has been answered with that status, or has failed, which counts as status 500. -/
def requestEnded (method path : Text) (status : Option Nat) (metrics : Metrics) : Metrics :=
  let counted :=
    { metrics with
      active := metrics.active - 1
      requests := countEvent ⟨method, path, status.getD 500⟩ metrics.requests }
  if status.isSome then { counted with durations := countEvent ⟨method, path⟩ counted.durations }
  else counted

/-- The service has stopped. -/
def stopped (metrics : Metrics) : Metrics := { metrics with isUp := false }

end Metrics

/-! ## Samples -/

/-- A label with its value. -/
abbrev Label := Text × Text

/-- The value of one series. -/
structure Sample where
  name : Text
  /-- The labels of the series, ordered by name. -/
  labels : List Label
  value : Double
  deriving DecidableEq

namespace Sample

/-- A sample whose names are given as strings. -/
def of (name : String) (labels : List (String × Text)) (value : Double) : Sample :=
  ⟨name, labels.map fun (label, content) => (Text.ofString label, content), value⟩

/-- Samples are ordered by name and then by their labels. -/
def le (left right : Sample) : Bool :=
  let flat (sample : Sample) : List Text :=
    sample.name :: sample.labels.flatMap fun label => [label.1, label.2]
  lexLe Text.lt (flat left) (flat right)

/-- A label value with backslashes, quotation marks and line ends escaped. -/
def escapeLabel (value : Text) : Text :=
  value.flatMap fun point =>
    if point = .ofChar '\\' then "\\\\"
    else if point = .ofChar '"' then "\\\""
    else if point = .ofChar '\n' then "\\n"
    else [point]

/-- The text of a sample's value: positional below a million, and then with an exponent. -/
def valueText (value : Double) : Text :=
  match value with
  | .nan => "NaN"
  | .infinite negative => if negative then "-Inf" else "+Inf"
  | .finite .. =>
      let shown := value.toText
      let whole := shown.takeWhile (· ≠ .ofChar '.')
      if whole.length < shown.length && 6 < whole.length && whole.head? ≠ some (.ofChar '-') then
        let digits := whole.drop 1 ++ shown.drop (whole.length + 1)
        let mantissa := whole.take 1 ++ Text.ofString "." ++ digits
        let trimmed := (mantissa.reverse.dropWhile fun point =>
          point = .ofChar '0' || point = .ofChar '.').reverse
        trimmed ++ Text.ofString "e+0" ++ Text.ofNat (whole.length - 1)
      else shown

/-- The line that reports a sample. -/
def line (sample : Sample) : Text :=
  let labels := sample.labels.map fun (name, value) =>
    name ++ Text.ofString "=\"" ++ escapeLabel value ++ Text.ofString "\""
  let block :=
    if labels.isEmpty then []
    else Text.ofString "\x7b" ++ Text.join "," labels ++ Text.ofString "\x7d"
  sample.name ++ block ++ Text.ofString " " ++ valueText sample.value

end Sample

namespace Metrics

/-- The value of a whole number. -/
def whole (value : Int) : Double := Double.ofRat value

/-- Every sample, ordered. -/
def samples (metrics : Metrics) : List Sample :=
  let service := metrics.service.name
  let requests := metrics.requests.map fun (key, count) =>
    Sample.of "http_requests_total"
      [("method", key.method), ("path", key.path), ("service", service),
        ("status", Text.ofNat key.status)]
      count.value
  let durations := metrics.durations.map fun (key, count) =>
    Sample.of "http_request_duration_seconds_count"
      [("method", key.method), ("path", key.path), ("service", service)] count.value
  let validations := metrics.validations.map fun (key, count) =>
    Sample.of "ruleguard_validations_total"
      [("outcome", if key.valid then "valid" else "invalid"), ("section", key.part)]
      count.value
  let errors := metrics.errors.map fun (part, count) =>
    Sample.of "ruleguard_validation_errors_total" [("section", part)] count.value
  let identity := [("service", service), ("version", metrics.service.version)]
  let single :=
    [Sample.of "app_info" identity (whole 1),
      Sample.of "app_up" identity (whole (if metrics.isUp then 1 else 0)),
      Sample.of "http_requests_active" [("service", service)] (whole metrics.active),
      Sample.of "ruleguard_unsafe_expressions_total" [] metrics.refusals.value]
  (single ++ requests ++ durations ++ validations ++ errors).mergeSort Sample.le

/-- The page that reports every sample, a line each. -/
def page (metrics : Metrics) : Text :=
  metrics.samples.flatMap fun sample => sample.line ++ Text.ofString "\n"

end Metrics

end Rulebook
