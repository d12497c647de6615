import Rulebook.Proofs.Number.Rounding
import Rulebook.Proofs.Recordings

/-!
# What the counters of validations show

After any calls to record something the samples show how often each section was validated with each
outcome, how many expressions were refused, and how many errors each section had, as far as these
numbers are binary64 values.  A call that fails has counted its outcome and has added nothing.  No
counter falls, and the order of calls is seen in nothing but sums of errors that had to be rounded.
-/

namespace Rulebook

/-! ## Calls -/

/-- A call to record something.  The number of errors may be any integer. -/
inductive Call where
  | validation (part : Text) (valid : Bool) (errors : Int)
  | refusal
  deriving DecidableEq

namespace Call

/-- What comes of a call: a fault, if there is one, and the measurements after it. -/
def run (call : Call) (metrics : Metrics) : Option Fault × Metrics :=
  match call with
  | .validation part valid errors => metrics.recordValidation part valid errors
  | .refusal => (none, metrics.recordRefusal)

/-- The section and outcome that a call is counted under. -/
def key? : Call → Option ValidationKey
  | .validation part valid _ => some ⟨part, valid⟩
  | .refusal => none

/-- The number of errors that a call adds to a section.  A negative number and one beyond the range
of binary64 values cannot be added. -/
def added? (part : Text) : Call → Option Nat
  | .validation own _ errors =>
      if own = part ∧ 0 < errors ∧ errors < (Double.wholeRange : Int) then some errors.toNat
      else none
  | .refusal => none

/-- The call has a number of errors for a section, be it one that can be added or not. -/
def Touches (part : Text) : Call → Prop
  | .validation own _ errors => own = part ∧ errors ≠ 0
  | .refusal => False

instance (part : Text) (call : Call) : Decidable (call.Touches part) :=
  match call with
  | .validation _ _ _ => inferInstanceAs (Decidable (_ ∧ _))
  | .refusal => inferInstanceAs (Decidable False)

/-- Why a call fails. -/
inductive FailsWith : Call → Fault → Prop
  | negative {part : Text} {valid : Bool} {errors : Int} (below : errors < 0) :
      FailsWith (.validation part valid errors) .negativeIncrement
  | overlarge {part : Text} {valid : Bool} {errors : Int}
      (beyond : (Double.wholeRange : Int) ≤ errors) :
      FailsWith (.validation part valid errors) .integerTooLarge

end Call

/-- The measurements after calls. -/
def Metrics.after (info : ServiceInfo) (calls : List Call) : Metrics :=
  calls.foldl (fun metrics call => (call.run metrics).2) (.fresh info)

/-- How often calls count an outcome of a section. -/
def outcomeTotal (key : ValidationKey) (calls : List Call) : Nat :=
  calls.countP (·.key? = some key)

/-- The numbers of errors that calls add to a section, in order. -/
def addedErrors (part : Text) (calls : List Call) : List Nat := calls.filterMap (·.added? part)

/-- How many errors calls add to a section. -/
def addedTotal (part : Text) (calls : List Call) : Nat := (addedErrors part calls).sum

/-- The errors that calls add to a section, added in order, each sum being rounded. -/
def addedValue (part : Text) (calls : List Call) : Double :=
  (addedErrors part calls).foldl (fun (sum : Double) (count : Nat) => sum.add (.ofRat count))
    (.zero false)

/-! ## Calls as recordings -/

theorem Double.holds_iff (value : Int) : holds value = true ↔ value.natAbs < wholeRange :=
  decide_eq_true_iff

theorem Double.wholeRange_pos : 0 < wholeRange := by decide +kernel

namespace Call

/-- The number of errors, if it can be added at all. -/
def addable? (errors : Int) : Option Nat :=
  if 0 ≤ errors ∧ errors < (Double.wholeRange : Int) then some errors.toNat else none

/-- What a call records. -/
def recording : Call → Recording
  | .validation part valid errors => .validation ⟨part, valid⟩ (addable? errors)
  | .refusal => .refusal

theorem addable?_eq_some_zero_iff (errors : Int) : addable? errors = some 0 ↔ errors = 0 := by
  have range := Double.wholeRange_pos
  rw [addable?]
  by_cases within : 0 ≤ errors ∧ errors < (Double.wholeRange : Int)
  · rw [if_pos within, Option.some_inj]
    omega
  · rw [if_neg within]
    exact iff_of_false (Option.some_ne_none 0).symm (by omega)

/-- What a call adds is the number that can be added, unless it is zero. -/
theorem added?_validation (part own : Text) (valid : Bool) (errors : Int) :
    added? part (.validation own valid errors) =
      if own = part ∧ errors ≠ 0 then addable? errors else none := by
  rw [added?, addable?, ← ite_and]
  refine if_congr ⟨?_, ?_⟩ rfl rfl
  · rintro ⟨same, positive, below⟩
    exact ⟨⟨same, positive.ne'⟩, positive.le, below⟩
  · rintro ⟨⟨same, some⟩, natural, below⟩
    exact ⟨same, lt_of_le_of_ne natural (Ne.symm some), below⟩

theorem run_eq (call : Call) (metrics : Metrics) :
    (call.run metrics).2 = metrics.record call.recording := by
  cases call with
  | refusal => rfl
  | validation part valid errors =>
      rw [run, recording, addable?, Metrics.recordValidation]
      split_ifs with negative within unheld inside unadded
      · omega
      · rfl
      · rw [Bool.not_eq_true', ← Bool.not_eq_true, Double.holds_iff] at unheld
        omega
      · rfl
      · rfl
      · rw [Bool.not_eq_true', Bool.not_eq_false, Double.holds_iff] at unheld
        omega

theorem fails_iff (call : Call) (metrics : Metrics) (cause : Fault) :
    (call.run metrics).1 = some cause ↔ call.FailsWith cause := by
  have range := Double.wholeRange_pos
  cases call with
  | refusal =>
      refine iff_of_false (Option.some_ne_none cause).symm ?_
      rintro ⟨⟩
  | validation part valid errors =>
      rw [run, Metrics.recordValidation]
      split_ifs with negative unheld
      · constructor
        · rintro ⟨⟩
          exact .negative negative
        · rintro (⟨-⟩ | beyond)
          · rfl
          · omega
      · rw [Bool.not_eq_true', ← Bool.not_eq_true, Double.holds_iff] at unheld
        constructor
        · rintro ⟨⟩
          exact .overlarge (by omega)
        · rintro (below | ⟨-⟩)
          · exact absurd below negative
          · rfl
      · rw [Bool.not_eq_true', Bool.not_eq_false, Double.holds_iff] at unheld
        refine iff_of_false not_false ?_
        rintro (below | beyond) <;> omega

/-- A call that fails records the outcome alone. -/
theorem FailsWith.recording_eq {call : Call} {cause : Fault} (fails : call.FailsWith cause) :
    ∃ key, call.key? = some key ∧ call.recording = .validation key none := by
  have range := Double.wholeRange_pos
  cases fails with
  | negative below =>
      refine ⟨_, rfl, ?_⟩
      rw [recording, addable?, if_neg (by omega)]
  | overlarge beyond =>
      refine ⟨_, rfl, ?_⟩
      rw [recording, addable?, if_neg (by omega)]

theorem concerns_validations (key : ValidationKey) (call : Call) :
    call.recording.concerns (.validations key) = decide (call.key? = some key) := by
  cases call <;> simp [recording, Recording.concerns, key?]

theorem concerns_errors_iff (part : Text) (call : Call) :
    call.recording.concerns (.errors part) = true ↔ call.Touches part := by
  cases call with
  | refusal => simp [recording, Recording.concerns, Touches]
  | validation own valid errors =>
      rw [recording, Recording.concerns, Touches, Bool.and_eq_true, decide_eq_true_iff,
        decide_eq_true_iff, ne_eq, addable?_eq_some_zero_iff]

theorem concerns_refusals (call : Call) :
    call.recording.concerns .refusals = decide (call = .refusal) := by
  cases call <;> rfl

theorem amounts_errors (part : Text) (call : Call) :
    call.recording.amounts (.errors part) = (call.added? part).toList := by
  cases call with
  | refusal => rfl
  | validation own valid errors =>
      have touches : (Recording.validation ⟨own, valid⟩ (addable? errors)).concerns
          (.errors part) = true ↔ own = part ∧ errors ≠ 0 :=
        concerns_errors_iff part (.validation own valid errors)
      rw [added?_validation, recording, Recording.amounts]
      by_cases adds : own = part ∧ errors ≠ 0
      · rw [if_pos adds, if_pos (touches.mpr adds)]
      · rw [if_neg adds, if_neg (touches.not.mpr adds)]
        rfl

end Call

theorem flatMap_amounts_errors (part : Text) (calls : List Call) :
    (calls.map (·.recording)).flatMap (·.amounts (.errors part)) = addedErrors part calls := by
  rw [List.flatMap_map, addedErrors, List.filterMap_eq_flatMap_toList]
  simp only [Call.amounts_errors]

namespace Metrics

theorem after_eq (info : ServiceInfo) (calls : List Call) :
    after info calls = recorded info (calls.map (·.recording)) := by
  rw [after, recorded, recordAll, List.foldl_map]
  simp only [Call.run_eq]

theorem after_append (info : ServiceInfo) (calls later : List Call) :
    after info (calls ++ later) =
      (after info calls).recordAll (later.map (·.recording)) := by
  rw [after_eq, after_eq, List.map_append, recorded_append]

theorem isKeyed_after (info : ServiceInfo) (calls : List Call) : (after info calls).IsKeyed := by
  rw [after_eq]
  exact isKeyed_recorded info _

end Metrics

/-! ## What is shown -/

/-- The value of a count of events: the count itself as far as all natural numbers have a value,
and the end of that range from there on. -/
structure Double.IsCount (value : Double) (count : Nat) : Prop where
  shown : value = Metrics.whole (min count exactRange : Nat)
  exact : value.toRat? = some ((min count exactRange : Nat) : Rat)

theorem Double.isCount_iff {value : Double} {count : Nat} :
    value.IsCount count ↔ value = Metrics.whole (min count exactRange : Nat) := by
  refine ⟨IsCount.shown, fun shown => ⟨shown, ?_⟩⟩
  rw [shown, Metrics.whole, Int.cast_natCast]
  exact toRat?_ofRat_natCast (Nat.min_le_right _ _)

namespace Metrics

/-- The samples tell the calls: the outcomes and refusals by their counts, and the errors of a
section by the value to which they add up, which is their sum as long as it is in the exact range.
The series of its errors has begun exactly if there was a number of them other than zero. -/
structure Tells (metrics : Metrics) (calls : List Call) : Prop where
  validations : ∀ key value, metrics.Shows (.validations key) value ↔
    outcomeTotal key calls ≠ 0 ∧ value.IsCount (outcomeTotal key calls)
  errors : ∀ part value, metrics.Shows (.errors part) value ↔
    (∃ call ∈ calls, call.Touches part) ∧ value = addedValue part calls
  sums : ∀ part, addedTotal part calls ≤ Double.exactRange →
    addedValue part calls = whole (addedTotal part calls)
  refusals : ∀ value, metrics.Shows .refusals value ↔ value.IsCount (calls.count .refusal)

theorem addedValue_eq (part : Text) (calls : List Call) :
    addedValue part calls = (Counter.zero.addAll (addedErrors part calls)).value :=
  (Counter.value_addAll _ .zero).symm

/-- In the exact range, the errors of a section add up to their sum. -/
theorem addedValue_eq_whole {part : Text} {calls : List Call}
    (small : addedTotal part calls ≤ Double.exactRange) :
    addedValue part calls = whole (addedTotal part calls) := by
  have total : (Counter.zero.addAll (addedErrors part calls)).total = addedTotal part calls := by
    rw [Counter.total_addAll, Counter.total_zero, Nat.zero_add, addedTotal]
  rw [addedValue_eq, ← total]
  exact Counter.value_eq_whole (total.trans_le small)

/-- A series of events shows how many calls concern it. -/
theorem shows_events_iff (info : ServiceInfo) (calls : List Call) {series : Series}
    (events : ∀ part, series ≠ .errors part) (value : Double) :
    (after info calls).Shows series value ↔
      (series = .refusals ∨ calls.countP (·.recording.concerns series) ≠ 0) ∧
        value.IsCount (calls.countP (·.recording.concerns series)) := by
  rw [after_eq, shows_recorded_iff, Recording.flatMap_amounts_of_events events, List.countP_map,
    ← Counter.stepped, Counter.value_stepped, Double.isCount_iff, ← Nat.pos_iff_ne_zero,
    List.countP_pos_iff]
  simp only [List.mem_map, exists_exists_and_eq_and, Function.comp_def]

theorem after_tells (info : ServiceInfo) (calls : List Call) :
    (after info calls).Tells calls := by
  constructor
  case validations =>
    intro key value
    have count : calls.countP (·.recording.concerns (.validations key)) =
        outcomeTotal key calls := by simp only [Call.concerns_validations, outcomeTotal]
    rw [shows_events_iff info calls fun _ => Series.noConfusion, count]
    simp
  case errors =>
    intro part value
    rw [after_eq, shows_recorded_iff, flatMap_amounts_errors, ← addedValue_eq]
    simp [Call.concerns_errors_iff]
  case sums => exact fun part small => addedValue_eq_whole small
  case refusals =>
    intro value
    have count : calls.countP (·.recording.concerns .refusals) = calls.count .refusal := by
      simp only [Call.concerns_refusals]
      rfl
    rw [shows_events_iff info calls fun _ => Series.noConfusion, count]
    simp

/-! ## Calls that fail -/

/-- Nothing has changed but the count of an outcome and the errors of its section, whose series has
begun at zero if there was none. -/
structure CountsOnly (before : Metrics) (key : ValidationKey) (after : Metrics) : Prop where
  errors : ∀ value, after.Shows (.errors key.part) value ↔
    before.Shows (.errors key.part) value ∨
      value = .zero false ∧ ∀ other, ¬before.Shows (.errors key.part) other
  others : ∀ sample : Sample, (∀ value, sample ≠ Series.sample value (.validations key)) →
    (∀ value, sample ≠ Series.sample value (.errors key.part)) →
      (sample ∈ after.samples ↔ sample ∈ before.samples)

/-- The measurements differ in those of validations alone. -/
structure KeepsOthers (before after : Metrics) : Prop where
  traffic : after.trafficSamples = before.trafficSamples
  requests : after.requests = before.requests
  durations : after.durations = before.durations

theorem keepsOthers_record (recording : Recording) (metrics : Metrics) :
    metrics.KeepsOthers (metrics.record recording) := by
  cases recording with
  | refusal => exact ⟨rfl, rfl, rfl⟩
  | validation key errors =>
      rw [record_validation]
      exact ⟨rfl, rfl, rfl⟩

theorem keepsOthers_recordAll (recordings : List Recording) (metrics : Metrics) :
    metrics.KeepsOthers (metrics.recordAll recordings) := by
  induction recordings generalizing metrics with
  | nil => exact ⟨rfl, rfl, rfl⟩
  | cons recording rest induction =>
      have first := keepsOthers_record recording metrics
      have others := induction (metrics.record recording)
      exact ⟨others.traffic.trans first.traffic, others.requests.trans first.requests,
        others.durations.trans first.durations⟩

theorem concerns_unadded_iff (key : ValidationKey) (series : Series) :
    (Recording.validation key none).concerns series = true ↔
      series = .validations key ∨ series = .errors key.part := by
  cases series <;> simp [Recording.concerns, eq_comm]

theorem countsOnly_record {metrics : Metrics} (keyed : metrics.IsKeyed) (key : ValidationKey) :
    metrics.CountsOnly key (metrics.record (.validation key none)) := by
  have alike := keyed.record (.validation key none)
  constructor
  case errors =>
    intro value
    have concerned := (concerns_unadded_iff key (.errors key.part)).mpr (.inr rfl)
    simp only [shows_iff keyed, shows_iff alike, reading?, counter?_record, concerned, if_true,
      counter]
    have unadded : (Recording.validation key none).amounts (.errors key.part) = [] :=
      if_pos concerned
    rw [unadded]
    cases metrics.counter? (.errors key.part) with
    | none => simp [eq_comm, Counter.value_zero]
    | some counter => simp [eq_comm]
  case others =>
    intro sample outcome errors
    rw [mem_samples_iff keyed, mem_samples_iff alike, (keepsOthers_record _ metrics).traffic]
    refine or_congr_right (exists_congr fun series => exists_congr fun value => ?_)
    refine and_congr_left fun same => ?_
    have apart : (Recording.validation key none).concerns series ≠ true := by
      rw [Ne, concerns_unadded_iff]
      rintro (rfl | rfl)
      · exact outcome value same
      · exact errors value same
    rw [reading?, counter?_record, if_neg apart, reading?]

end Metrics

/-! ## Counters that do not fall -/

namespace Counter

theorem isMagnitude_value (counter : Counter) : counter.value.IsMagnitude := by
  obtain ⟨amounts⟩ := counter
  induction amounts with
  | nil => exact Double.isMagnitude_zero
  | cons amount rest induction =>
      exact induction.add (Double.isMagnitude_ofRat (Nat.cast_nonneg amount))

/-- Whatever is added to a counter, rounding never leads below what it has shown. -/
theorem value_atMost_addAll (counter : Counter) (amounts : List Nat) :
    counter.value.AtMost (counter.addAll amounts).value := by
  induction amounts generalizing counter with
  | nil => exact counter.isMagnitude_value.atMost_self
  | cons amount rest induction =>
      have added : (Double.ofRat amount).IsMagnitude :=
        Double.isMagnitude_ofRat (Nat.cast_nonneg amount)
      have first : counter.value.AtMost (counter.add amount).value :=
        counter.isMagnitude_value.atMost_add added
      rw [addAll_cons]
      exact first.trans (induction (counter.add amount))

end Counter

namespace Metrics

theorem shows_recordAll_atMost {metrics : Metrics} (keyed : metrics.IsKeyed)
    {series : Series} {value : Double} (shown : metrics.Shows series value)
    (later : List Recording) :
    ∃ greater, (metrics.recordAll later).Shows series greater ∧ value.AtMost greater := by
  obtain ⟨begun, rfl⟩ := (shows_iff_counter keyed series value).mp shown
  refine ⟨((metrics.recordAll later).counter series).value, ?_, ?_⟩
  · rw [shows_iff_counter (keyed.recordAll later), isSome_counter?_recordAll, begun, Bool.or_true]
    exact ⟨rfl, rfl⟩
  · rw [counter_recordAll]
    exact Counter.value_atMost_addAll _ _

end Metrics

/-! ## The order of calls -/

/-- The series counts errors of a section whose sum is beyond the exact range. -/
def Series.Exceeds (calls : List Call) : Series → Prop
  | .errors part => Double.exactRange < addedTotal part calls
  | _ => False

/-- The samples are the same, but for the value of one of the series that may vary. -/
inductive Sample.Alike (varies : Series → Prop) : Sample → Sample → Prop
  | same (sample : Sample) : Alike varies sample sample
  | varied {series : Series} (given : varies series) (value another : Double) :
      Alike varies (series.sample value) (series.sample another)

namespace Metrics

section Order

variable {recordings others : List Recording} (perm : recordings.Perm others)
include perm

/-- Which series have begun does not depend on the order. -/
theorem isSome_counter?_recorded_of_perm (info : ServiceInfo) (series : Series) :
    ((recorded info recordings).counter? series).isSome =
      ((recorded info others).counter? series).isSome := by
  rw [Bool.eq_iff_iff, isSome_counter?_recorded, isSome_counter?_recorded]
  simp only [perm.mem_iff]

/-- Neither does what a counter of events shows, nor an exact sum. -/
theorem value_counter_recorded_of_perm (info : ServiceInfo) {series : Series}
    (settled : (∀ part, series ≠ .errors part) ∨
      ((recorded info recordings).counter series).total ≤ Double.exactRange) :
    ((recorded info recordings).counter series).value =
      ((recorded info others).counter series).value := by
  rcases settled with events | small
  · rw [counter_recorded_of_events events, counter_recorded_of_events events, perm.countP_eq]
  · have amounts := perm.flatMap_right fun recording => recording.amounts series
    have totals : ((recorded info others).counter series).total =
        ((recorded info recordings).counter series).total := by
      rw [total_recorded, total_recorded, amounts.sum_eq]
    rw [Counter.value_eq_whole small, Counter.value_eq_whole (totals.trans_le small), totals]

end Order

theorem total_errors_after (info : ServiceInfo) (part : Text) (calls : List Call) :
    ((recorded info (calls.map (·.recording))).counter (.errors part)).total =
      addedTotal part calls := by
  rw [total_recorded, flatMap_amounts_errors, addedTotal]

/-- What does not exceed the exact range is settled, whatever the order. -/
theorem settled_of_not_exceeds (info : ServiceInfo) {calls : List Call} {series : Series}
    (within : ¬series.Exceeds calls) :
    (∀ part, series ≠ .errors part) ∨
      ((recorded info (calls.map (·.recording))).counter series).total ≤ Double.exactRange := by
  cases series with
  | errors part =>
      rw [total_errors_after]
      exact .inr (not_lt.mp within)
  | validations key => exact .inl fun _ => Series.noConfusion
  | refusals => exact .inl fun _ => Series.noConfusion

theorem samples_after_of_perm {calls others : List Call} (perm : calls.Perm others)
    (info : ServiceInfo) :
    List.Forall₂ (Sample.Alike (Series.Exceeds calls))
      (after info calls).samples (after info others).samples := by
  have recordings := perm.map (·.recording)
  rw [after_eq, after_eq]
  have kept := keepsOthers_recordAll (calls.map (·.recording)) (fresh info)
  have other := keepsOthers_recordAll (others.map (·.recording)) (fresh info)
  refine (samples_forall₂ (isKeyed_recorded info _) (isKeyed_recorded info _) kept.requests
    kept.durations (kept.traffic.trans other.traffic.symm) fun series => ?begun).imp ?alike
  case begun =>
    rw [reading?, reading?, Option.isSome_map, Option.isSome_map]
    exact isSome_counter?_recorded_of_perm recordings info series
  case alike =>
    rintro first second (rfl | ⟨series, value, another, held, standing, rfl, rfl⟩)
    · exact .same first
    · by_cases exceeds : series.Exceeds calls
      · exact .varied exceeds value another
      · have same := value_counter_recorded_of_perm recordings info
          (settled_of_not_exceeds info exceeds)
        rw [counter, counter] at same
        obtain ⟨counter, counted, rfl⟩ := Option.map_eq_some_iff.mp held
        obtain ⟨recounted, again, rfl⟩ := Option.map_eq_some_iff.mp standing
        rw [counted, again, Option.getD_some, Option.getD_some] at same
        rw [same]
        exact .same _

end Metrics

open Metrics

/-- After any calls the counters tell what was recorded.  One more call fails exactly if its number
of errors is negative or too large for a binary64 value, and then only its outcome is counted.  No
counter falls, and other orders of the calls have the same samples but for sums of errors beyond the
exact range. -/
theorem counters_tell_recordings (info : ServiceInfo) (calls : List Call) :
    (after info calls).Tells calls ∧
    (∀ (call : Call) (cause : Fault),
      (call.run (after info calls)).1 = some cause ↔ call.FailsWith cause) ∧
    (∀ call : Call, (call.run (after info calls)).1 ≠ none → ∃ key, call.key? = some key ∧
      (after info calls).CountsOnly key (after info (calls ++ [call]))) ∧
    (∀ later series value, (after info calls).Shows series value →
      ∃ greater, (after info (calls ++ later)).Shows series greater ∧ value.AtMost greater) ∧
    ∀ others, calls.Perm others →
      List.Forall₂ (Sample.Alike (Series.Exceeds calls))
        (after info calls).samples (after info others).samples := by
  refine ⟨after_tells info calls, fun call cause => call.fails_iff _ cause, ?failed, ?grown,
    fun others perm => samples_after_of_perm perm info⟩
  case failed =>
    intro call fails
    obtain ⟨cause, failed⟩ := Option.ne_none_iff_exists'.mp fails
    obtain ⟨key, own, unadded⟩ := ((call.fails_iff _ cause).mp failed).recording_eq
    refine ⟨key, own, ?_⟩
    rw [after_append, List.map_singleton, unadded]
    exact countsOnly_record (isKeyed_after info calls) key
  case grown =>
    intro later series value shown
    rw [after_append]
    exact shows_recordAll_atMost (isKeyed_after info calls) shown _

/-- Conditions with two errors and then with a number that cannot be added, a refusal, and metadata
without errors. -/
def mixedCalls : List Call :=
  [.validation "condition" false 2, .refusal, .validation "condition" false (-1),
    .validation "metadata" true 0]

/-- They show two outcomes and two errors of conditions and no errors of metadata.  The number that
cannot be added would fail here too; a later error adds to the two; and in reverse they show the
same. -/
theorem counters_tell_mixedRecordings :
    (after .default mixedCalls).Shows (.validations ⟨"condition", false⟩) (whole 2) ∧
    (after .default mixedCalls).Shows (.errors "condition") (whole 2) ∧
    (¬∃ value, (after .default mixedCalls).Shows (.errors "metadata") value) ∧
    (after .default mixedCalls).CountsOnly ⟨"condition", false⟩
      (after .default (mixedCalls ++ [.validation "condition" false (-1)])) ∧
    (∃ greater, (after .default (mixedCalls ++ [.validation "condition" false 1])).Shows
        (.errors "condition") greater ∧ (whole 2).AtMost greater) ∧
    List.Forall₂ (Sample.Alike (Series.Exceeds mixedCalls))
      (after .default mixedCalls).samples (after .default mixedCalls.reverse).samples := by
  obtain ⟨tells, fails, failed, grown, ordered⟩ := counters_tell_recordings .default mixedCalls
  have outcomes : outcomeTotal ⟨"condition", false⟩ mixedCalls = 2 := by decide
  have total : addedTotal "condition" mixedCalls = 2 := by decide +kernel
  have sum := tells.sums "condition" (total.trans_le (by decide))
  have shown := (tells.errors "condition" (whole 2)).mpr ⟨by decide, by rw [sum, total]; rfl⟩
  refine ⟨?outcomes, shown, ?metadata, ?failed, grown _ _ _ shown,
    ordered _ (List.reverse_perm _).symm⟩
  case outcomes =>
    rw [tells.validations, Double.isCount_iff, outcomes]
    exact ⟨two_ne_zero, rfl⟩
  case metadata =>
    rintro ⟨value, begun⟩
    exact absurd ((tells.errors _ _).mp begun).1 (by decide)
  case failed =>
    have negative := (fails (.validation "condition" false (-1)) .negativeIncrement).mpr
      (.negative (by decide))
    obtain ⟨key, own, only⟩ := failed _ (negative ▸ Option.some_ne_none _)
    cases own
    exact only

/-- As many errors of conditions as can be told exactly, and then one twice. -/
def fullCalls : List Call :=
  [.validation "condition" false Double.exactRange, .validation "condition" false 1,
    .validation "condition" false 1]

/-- One refusal more than can be told exactly. -/
def manyRefusals : List Call := List.replicate (Double.exactRange + 1) .refusal

/-- Both of the single errors are lost in rounding, but not if they come first; the last of too
many refusals is lost as well; and a number of errors that is too large for a binary64 value is not
added at all. -/
theorem counters_miss_fullRecordings :
    addedTotal "condition" fullCalls = Double.exactRange + 2 ∧
    (after .default fullCalls).Shows (.errors "condition") (whole Double.exactRange) ∧
    (whole Double.exactRange).toRat? = some Double.exactRange ∧
    (after .default fullCalls.reverse).Shows (.errors "condition")
      (whole (Double.exactRange + 2)) ∧
    (after .default fullCalls).samples ≠ (after .default fullCalls.reverse).samples ∧
    manyRefusals.count .refusal = Double.exactRange + 1 ∧
    (after .default manyRefusals).Shows .refusals (whole Double.exactRange) ∧
    ((Call.validation "condition" false (2 ^ 1024)).run (.fresh .default)).1 =
      some .integerTooLarge := by
  have first : (after .default fullCalls).Shows (.errors "condition") (whole Double.exactRange) :=
    (shows_iff (isKeyed_after _ _) _ _).mpr (by decide +kernel)
  have last : (after .default fullCalls.reverse).Shows (.errors "condition")
      (whole (Double.exactRange + 2)) :=
    (shows_iff (isKeyed_after _ _) _ _).mpr (by decide +kernel)
  have many : manyRefusals.count .refusal = Double.exactRange + 1 := List.count_replicate_self
  refine ⟨by decide +kernel, first, by decide +kernel, last, ?differ, many, ?refused,
    by decide +kernel⟩
  case differ =>
    intro same
    rw [Shows, same, ← Shows, shows_iff (isKeyed_after _ _)] at first
    rw [shows_iff (isKeyed_after _ _), first] at last
    exact absurd last (by decide +kernel)
  case refused =>
    rw [(after_tells .default manyRefusals).refusals, Double.isCount_iff, many]
    rfl

end Rulebook
