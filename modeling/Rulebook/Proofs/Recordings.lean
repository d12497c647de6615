import Rulebook.Proofs.Number.Whole
import Rulebook.Proofs.Samples

/-!
# What is recorded of validations

The measurements of validations change by recordings alone: that a section was validated, or that
an expression was refused.  A recording adds to the counters of the series that it concerns, so
that what has been added to a counter after any recordings is read off their list.
-/

namespace Rulebook

/-- Something that is recorded of a validation. -/
inductive Recording where
  /-- A section was validated with that outcome.  The number of its errors is given unless it is
  one that cannot be added. -/
  | validation (key : ValidationKey) (errors : Option Nat)
  | refusal
  deriving DecidableEq

namespace Recording

/-- How many errors a recording adds. -/
def told : Recording → Nat
  | .validation _ errors => errors.getD 0
  | .refusal => 0

/-- What a recording is counted under with the number of errors that it adds, unless it is a
refusal. -/
def validation? : Recording → Option (ValidationKey × Nat)
  | .validation key errors => some (key, errors.getD 0)
  | .refusal => none

/-- The recording has its series begin, if it has not begun before. -/
def concerns (series : Series) (recording : Recording) : Bool :=
  match series, recording with
  | .validations key, .validation own _ => own = key
  | .errors part, .validation own errors => own.part = part && errors ≠ some 0
  | .refusals, .refusal => true
  | _, _ => false

/-- What the recording adds to the counter of a series: an event, or the errors of its section. -/
def amounts (series : Series) (recording : Recording) : List Nat :=
  if recording.concerns series then
    match series, recording with
    | .errors _, .validation _ errors => errors.toList
    | _, _ => [1]
  else []

theorem amounts_of_events {series : Series} (events : ∀ part, series ≠ .errors part)
    (recording : Recording) :
    recording.amounts series = if recording.concerns series then [1] else [] := by
  cases series with
  | errors part => exact absurd rfl (events part)
  | validations key => rfl
  | refusals => rfl

theorem amounts_of_not_concerns {series : Series} {recording : Recording}
    (apart : recording.concerns series = false) : recording.amounts series = [] := by
  unfold amounts
  rw [apart, if_neg Bool.false_ne_true]

/-- A series of events is counted up by one for each recording that concerns it. -/
theorem flatMap_amounts_of_events {series : Series} (events : ∀ part, series ≠ .errors part)
    (recordings : List Recording) :
    recordings.flatMap (·.amounts series) =
      List.replicate (recordings.countP (·.concerns series)) 1 := by
  induction recordings with
  | nil => rfl
  | cons recording rest induction =>
      rw [List.flatMap_cons, induction, amounts_of_events events, List.countP_cons]
      split_ifs
      · rw [List.replicate_succ]
        rfl
      · rfl

end Recording

namespace Metrics

/-- Records one thing.  That a number cannot be added keeps nothing else from being recorded. -/
def record (recording : Recording) (metrics : Metrics) : Metrics :=
  match recording with
  | .validation key (some count) => metrics.recordCount key.part key.valid count
  | .validation key none => (metrics.recordOutcome key.part key.valid).touchErrors key.part
  | .refusal => metrics.recordRefusal

/-- Records things in order. -/
def recordAll (recordings : List Recording) (metrics : Metrics) : Metrics :=
  recordings.foldl (fun metrics recording => metrics.record recording) metrics

theorem recordAll_cons (recording : Recording) (rest : List Recording) (metrics : Metrics) :
    metrics.recordAll (recording :: rest) = (metrics.record recording).recordAll rest := rfl

theorem recordAll_append (first second : List Recording) (metrics : Metrics) :
    metrics.recordAll (first ++ second) = (metrics.recordAll first).recordAll second :=
  List.foldl_append

/-- What recording a validation does, whether the number of errors can be added or not. -/
theorem record_validation (key : ValidationKey) (errors : Option Nat) (metrics : Metrics) :
    metrics.record (.validation key errors) =
      { metrics with
        validations := countEvent key metrics.validations
        errors :=
          if errors = some 0 then metrics.errors
          else Assoc.update key.part .zero (·.addAll errors.toList) metrics.errors } := by
  cases errors with
  | none => rfl
  | some count =>
      rw [record, recordCount]
      by_cases none : count = 0
      · simp [none, recordOutcome]
      · simp [none, recordOutcome, addErrors, Counter.addAll_singleton]

/-! ## Measurements of validations alone -/

/-- The two measurements agree about validations. -/
structure Agrees (one other : Metrics) : Prop where
  validations : one.validations = other.validations
  errors : one.errors = other.errors
  refusals : one.refusals = other.refusals

theorem Agrees.refl (metrics : Metrics) : metrics.Agrees metrics := ⟨rfl, rfl, rfl⟩

theorem Agrees.trans {first second third : Metrics} (left : first.Agrees second)
    (right : second.Agrees third) : first.Agrees third :=
  ⟨left.validations.trans right.validations, left.errors.trans right.errors,
    left.refusals.trans right.refusals⟩

theorem Agrees.counter? {one other : Metrics} (agree : one.Agrees other) (series : Series) :
    one.counter? series = other.counter? series := by
  cases series with
  | validations key => exact congrArg (Assoc.get? key) agree.validations
  | errors part => exact congrArg (Assoc.get? part) agree.errors
  | refusals => exact congrArg some agree.refusals

theorem Agrees.record {one other : Metrics} (agree : one.Agrees other) (recording : Recording) :
    (one.record recording).Agrees (other.record recording) := by
  obtain ⟨validations, errors, refusals⟩ := agree
  cases recording with
  | refusal => exact ⟨validations, errors, congrArg (·.add 1) refusals⟩
  | validation key count =>
      rw [record_validation, record_validation, validations, errors]
      exact ⟨rfl, rfl, refusals⟩

theorem Agrees.recordAll {one other : Metrics} (agree : one.Agrees other)
    (recordings : List Recording) :
    (one.recordAll recordings).Agrees (other.recordAll recordings) := by
  induction recordings generalizing one other with
  | nil => exact agree
  | cons recording rest induction => exact induction (agree.record recording)

theorem agrees_requestStarted (metrics : Metrics) : metrics.requestStarted.Agrees metrics :=
  ⟨rfl, rfl, rfl⟩

theorem agrees_requestEnded (method path : Text) (status : Option Nat) (metrics : Metrics) :
    (metrics.requestEnded method path status).Agrees metrics := by
  cases status <;> exact ⟨rfl, rfl, rfl⟩

theorem agrees_stopped (metrics : Metrics) : metrics.stopped.Agrees metrics := ⟨rfl, rfl, rfl⟩

/-! ## Counters after recordings -/

theorem getD_countEvent {κ : Type} [DecidableEq κ] (key other : κ) (series : Assoc κ Counter) :
    Assoc.getD other .zero (countEvent key series) =
      (Assoc.getD other .zero series).stepped (if key = other then 1 else 0) := by
  by_cases same : key = other
  · rw [same, countEvent, Assoc.getD_update_self, if_pos rfl]
    rfl
  · rw [countEvent, Assoc.getD_update_of_ne (Ne.symm same), if_neg same]
    rfl

/-- A recording adds to the counters of the series that it concerns and leaves the others alone. -/
theorem counter?_record (series : Series) (recording : Recording) (metrics : Metrics) :
    (metrics.record recording).counter? series =
      if recording.concerns series then
        some ((metrics.counter series).addAll (recording.amounts series))
      else metrics.counter? series := by
  cases recording with
  | refusal => cases series <;> rfl
  | validation own errors =>
      rw [record_validation]
      cases series with
      | refusals => rfl
      | validations key =>
          by_cases same : own = key
          · simp [counter, counter?, countEvent, Recording.amounts, Recording.concerns, same,
              Assoc.get?_update_self, Assoc.getD, Counter.addAll_singleton]
          · simp [counter?, countEvent, Recording.concerns, same,
              Assoc.get?_update_of_ne (Ne.symm same)]
      | errors part =>
          by_cases none : errors = some 0
          · simp [none, Recording.concerns, counter?]
          · by_cases same : own.part = part
            · simp [Recording.concerns, Recording.amounts, same, none, counter, counter?,
                Assoc.get?_update_self, Assoc.getD]
            · simp [none, Recording.concerns, same, counter?,
                Assoc.get?_update_of_ne (Ne.symm same)]

theorem counter_record (series : Series) (recording : Recording) (metrics : Metrics) :
    (metrics.record recording).counter series =
      (metrics.counter series).addAll (recording.amounts series) := by
  rw [counter, counter?_record]
  cases concerned : recording.concerns series with
  | true => rfl
  | false =>
      rw [Recording.amounts_of_not_concerns concerned]
      rfl

/-- What has been added to a counter is what the recordings add to it, in their order. -/
theorem counter_recordAll (series : Series) (recordings : List Recording) (metrics : Metrics) :
    (metrics.recordAll recordings).counter series =
      (metrics.counter series).addAll (recordings.flatMap (·.amounts series)) := by
  induction recordings generalizing metrics with
  | nil => rfl
  | cons recording rest induction =>
      rw [recordAll_cons, induction, counter_record, List.flatMap_cons, Counter.addAll_append]

/-- A series has begun if it had begun before, or if a recording concerns it. -/
theorem isSome_counter?_recordAll (series : Series) (recordings : List Recording)
    (metrics : Metrics) :
    ((metrics.recordAll recordings).counter? series).isSome =
      (recordings.any (·.concerns series) || (metrics.counter? series).isSome) := by
  induction recordings generalizing metrics with
  | nil => rfl
  | cons recording rest induction =>
      rw [recordAll_cons, induction, counter?_record, List.any_cons]
      cases recording.concerns series <;> simp

/-! ## Measurements that are keyed -/

theorem IsKeyed.record {metrics : Metrics} (keyed : metrics.IsKeyed) (recording : Recording) :
    (metrics.record recording).IsKeyed := by
  cases recording with
  | refusal => exact ⟨keyed.validations, keyed.errors⟩
  | validation key errors =>
      rw [record_validation]
      constructor
      · exact keyed.validations.update _ _ _
      · dsimp only
        split_ifs
        · exact keyed.errors
        · exact keyed.errors.update _ _ _

theorem IsKeyed.recordAll {metrics : Metrics} (keyed : metrics.IsKeyed)
    (recordings : List Recording) : (metrics.recordAll recordings).IsKeyed := by
  induction recordings generalizing metrics with
  | nil => exact keyed
  | cons recording rest induction => exact induction (keyed.record recording)

theorem isKeyed_fresh (info : ServiceInfo) : (fresh info).IsKeyed :=
  ⟨List.nodup_nil, List.nodup_nil⟩

theorem counter_fresh (info : ServiceInfo) (series : Series) :
    (fresh info).counter series = .zero := by
  cases series <;> rfl

/-! ## Measurements of recordings alone -/

/-- The measurements of a service of which nothing but this has been recorded. -/
def recorded (info : ServiceInfo) (recordings : List Recording) : Metrics :=
  (fresh info).recordAll recordings

theorem recorded_append (info : ServiceInfo) (recordings later : List Recording) :
    recorded info (recordings ++ later) = (recorded info recordings).recordAll later :=
  recordAll_append recordings later (fresh info)

theorem isKeyed_recorded (info : ServiceInfo) (recordings : List Recording) :
    (recorded info recordings).IsKeyed := (isKeyed_fresh info).recordAll recordings

theorem counter_recorded (info : ServiceInfo) (series : Series) (recordings : List Recording) :
    (recorded info recordings).counter series =
      Counter.zero.addAll (recordings.flatMap (·.amounts series)) := by
  rw [recorded, counter_recordAll, counter_fresh]

/-- A series of events has been counted up by one for each recording that concerns it. -/
theorem counter_recorded_of_events {series : Series} (events : ∀ part, series ≠ .errors part)
    (info : ServiceInfo) (recordings : List Recording) :
    (recorded info recordings).counter series =
      Counter.zero.stepped (recordings.countP (·.concerns series)) := by
  rw [counter_recorded, Recording.flatMap_amounts_of_events events, Counter.stepped]

theorem total_recorded (info : ServiceInfo) (series : Series) (recordings : List Recording) :
    ((recorded info recordings).counter series).total =
      (recordings.flatMap (·.amounts series)).sum := by
  rw [counter_recorded, Counter.total_addAll, Counter.total_zero, Nat.zero_add]

theorem total_recorded_of_events {series : Series} (events : ∀ part, series ≠ .errors part)
    (info : ServiceInfo) (recordings : List Recording) :
    ((recorded info recordings).counter series).total =
      recordings.countP (·.concerns series) := by
  rw [counter_recorded_of_events events, Counter.total_stepped, Counter.total_zero, Nat.zero_add]

/-- Refusals are counted from the beginning; any other series begins with the first recording that
concerns it. -/
theorem isSome_counter?_recorded (info : ServiceInfo) (series : Series)
    (recordings : List Recording) :
    ((recorded info recordings).counter? series).isSome = true ↔
      series = .refusals ∨ ∃ recording ∈ recordings, recording.concerns series = true := by
  rw [recorded, isSome_counter?_recordAll, Bool.or_eq_true, List.any_eq_true, or_comm]
  refine or_congr_left ?_
  cases series <;> simp [counter?, fresh]

theorem shows_recorded_iff (info : ServiceInfo) (recordings : List Recording) (series : Series)
    (value : Double) :
    (recorded info recordings).Shows series value ↔
      (series = .refusals ∨ ∃ recording ∈ recordings, recording.concerns series = true) ∧
        value = (Counter.zero.addAll (recordings.flatMap (·.amounts series))).value := by
  rw [shows_iff_counter (isKeyed_recorded info recordings), isSome_counter?_recorded,
    counter_recorded]

/-! ## Errors of all sections -/

/-- How many errors have been added, whatever their sections. -/
def errorTotal (metrics : Metrics) : Nat := (metrics.errors.map (·.2.total)).sum

theorem sum_total_update {κ : Type} [DecidableEq κ] (key : κ) (amounts : List Nat)
    (series : Assoc κ Counter) :
    ((Assoc.update key .zero (·.addAll amounts) series).map (·.2.total)).sum =
      (series.map (·.2.total)).sum + amounts.sum := by
  induction series with
  | nil => simp [Assoc.update, Counter.total_addAll]
  | cons entry rest induction =>
      obtain ⟨name, counter⟩ := entry
      by_cases same : name = key
      · simp only [Assoc.update, same, if_true, List.map_cons, List.sum_cons,
          Counter.total_addAll]
        omega
      · simp only [Assoc.update, same, if_false, List.map_cons, List.sum_cons, induction]
        omega

theorem errorTotal_record (recording : Recording) (metrics : Metrics) :
    (metrics.record recording).errorTotal = metrics.errorTotal + recording.told := by
  cases recording with
  | refusal => rfl
  | validation key errors =>
      rw [record_validation, errorTotal, errorTotal, Recording.told]
      dsimp only
      split_ifs with none
      · rw [none]
        rfl
      · rw [sum_total_update]
        cases errors <;> simp

theorem errorTotal_recordAll (recordings : List Recording) (metrics : Metrics) :
    (metrics.recordAll recordings).errorTotal =
      metrics.errorTotal + (recordings.map (·.told)).sum := by
  induction recordings generalizing metrics with
  | nil => rfl
  | cons recording rest induction =>
      rw [recordAll_cons, induction, errorTotal_record, List.map_cons, List.sum_cons,
        Nat.add_assoc]

end Metrics

end Rulebook
