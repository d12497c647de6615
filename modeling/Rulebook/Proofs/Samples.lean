import Mathlib.Data.List.Forall2
import Mathlib.Data.List.Lex
import Mathlib.Order.Fin.Basic
import Rulebook.Metrics

/-!
# Series of samples

Every counter of validations is a series of samples, named by what it counts and told apart by its
labels.  What the samples say of a series is what the measurements hold under its key, provided
that no key is held twice.  Samples are sorted by name and labels alone, so that the order in which
series have begun cannot be seen in them.
-/

namespace Rulebook

/-! ## The order of samples -/

/-- The comparison by the first difference is the lexicographic order. -/
theorem lexLe_iff_le {α : Type} [LinearOrder α] {lt : α → α → Bool}
    (order : ∀ first second, lt first second = true ↔ first < second) (left right : List α) :
    lexLe lt left right = true ↔ left ≤ right := by
  rw [← not_lt]
  induction left generalizing right with
  | nil => simp [lexLe]
  | cons first firsts induction =>
      cases right with
      | nil => simp [lexLe]
      | cons second seconds =>
          rw [lexLe, List.cons_lt_cons_iff, not_or, not_and]
          simp only [order]
          rcases lt_trichotomy first second with below | same | above
          · simp [below, below.asymm, below.ne']
          · simp [same, induction]
          · simp [above, above.asymm]

namespace Text

theorem lt_iff_lt (left right : Text) : lt left right = true ↔ left < right := by
  have order : le right left = true ↔ right ≤ left :=
    lexLe_iff_le (fun _ _ => decide_eq_true_iff) right left
  rw [lt, Bool.not_eq_true', ← Bool.not_eq_true, order, not_le]

theorem ofString_injective : Function.Injective ofString := by
  intro left right same
  have points : Function.Injective CodePoint.ofChar := by
    intro first second equal
    have number : first.toNat = second.toNat := congrArg (fun point : CodePoint => point.val) equal
    exact Char.ext (UInt32.toNat_inj.mp number)
  exact String.toList_injective (List.map_injective_iff.mpr points same)

end Text

namespace Sample

/-- The texts by which samples are ordered: the name, and then the labels with their values. -/
def key (sample : Sample) : List Text :=
  sample.name :: sample.labels.flatMap fun label => [label.1, label.2]

theorem le_iff (left right : Sample) : left.le right = true ↔ left.key ≤ right.key :=
  lexLe_iff_le Text.lt_iff_lt left.key right.key

theorem pairwise_mergeSort (samples : List Sample) :
    (samples.mergeSort le).Pairwise fun first second => first.le second = true := by
  refine List.pairwise_mergeSort ?trans ?total samples
  case trans =>
    simp only [le_iff]
    exact fun _ _ _ => le_trans
  case total =>
    simp only [Bool.or_eq_true, le_iff]
    exact fun _ _ => le_total _ _

/-- Sorted samples come with their names and labels in one order only. -/
theorem map_key_eq {samples others : List Sample}
    (perm : (samples.map key).Perm (others.map key))
    (sorted : samples.Pairwise fun first second => first.le second = true)
    (alike : others.Pairwise fun first second => first.le second = true) :
    samples.map key = others.map key := by
  simp only [le_iff] at sorted alike
  exact perm.eq_of_pairwise (fun _ _ _ _ => le_antisymm) (List.pairwise_map.mpr sorted)
    (List.pairwise_map.mpr alike)

theorem key_of (name : String) (labels : List (String × Text)) (value : Double) :
    (Sample.of name labels value).key =
      Text.ofString name ::
        labels.flatMap fun label => [Text.ofString label.1, label.2] := by
  rw [key, Sample.of, List.flatMap_map]

end Sample

/-! ## Series -/

/-- Lists that have entries for the same keys, one for each, have these keys in some order. -/
theorem Assoc.IsKeyed.perm_keys {κ ν : Type} [DecidableEq κ] {entries others : Assoc κ ν}
    (keyed : IsKeyed entries) (alike : IsKeyed others)
    (same : ∀ key, has key entries = has key others) :
    (entries.map Prod.fst).Perm (others.map Prod.fst) := by
  rw [List.perm_ext_iff_of_nodup keyed alike]
  intro key
  rw [← has_eq_true_iff, ← has_eq_true_iff, same]

/-- A series that counts something about validations. -/
inductive Series where
  /-- Sections validated with that outcome. -/
  | validations (key : ValidationKey)
  /-- Errors of a section. -/
  | errors (part : Text)
  /-- Expressions refused by the safety guard. -/
  | refusals
  deriving DecidableEq

namespace Series

/-- The sample of a series that stands at a value. -/
def sample (value : Double) : Series → Sample
  | .validations key =>
      .of "ruleguard_validations_total"
        [("outcome", if key.valid then "valid" else "invalid"), ("section", key.part)] value
  | .errors part => .of "ruleguard_validation_errors_total" [("section", part)] value
  | .refusals => .of "ruleguard_unsafe_expressions_total" [] value

theorem value_sample (series : Series) (value : Double) : (series.sample value).value = value := by
  cases series <;> rfl

/-- The names and labels of a series do not depend on its value. -/
def key (series : Series) : List Text := (series.sample (.zero false)).key

theorem key_sample (series : Series) (value : Double) :
    (series.sample value).key = series.key := by
  cases series <;> rfl

/-- Different series differ in their names or labels. -/
theorem eq_of_key_eq {series other : Series} {value another : Double}
    (same : (series.sample value).key = (other.sample another).key) : series = other := by
  cases series <;> cases other <;>
    simp [sample, Sample.key_of, Text.ofString_injective.eq_iff] at same ⊢
  case validations.validations first second =>
    obtain ⟨part, valid⟩ := first
    obtain ⟨otherPart, otherValid⟩ := second
    cases valid <;> cases otherValid <;>
      simp [Text.ofString_injective.eq_iff] at same ⊢
    all_goals exact same
  case errors.errors => exact same

end Series

namespace Metrics

/-- The samples of what does not count validations: the service itself and its traffic. -/
def trafficSamples (metrics : Metrics) : List Sample :=
  let service := metrics.service.name
  let identity := [("service", service), ("version", metrics.service.version)]
  [Sample.of "app_info" identity (whole 1),
    Sample.of "app_up" identity (whole (if metrics.isUp then 1 else 0)),
    Sample.of "http_requests_active" [("service", service)] (whole metrics.active)] ++
  metrics.requests.map (fun (key, count) =>
    Sample.of "http_requests_total"
      [("method", key.method), ("path", key.path), ("service", service),
        ("status", Text.ofNat key.status)]
      count.value) ++
  metrics.durations.map fun (key, count) =>
    Sample.of "http_request_duration_seconds_count"
      [("method", key.method), ("path", key.path), ("service", service)] count.value

/-- The samples of the series that count something about validations. -/
def validationSamples (metrics : Metrics) : List Sample :=
  Series.refusals.sample metrics.refusals.value ::
    (metrics.validations.map fun (key, count) => (Series.validations key).sample count.value) ++
    metrics.errors.map fun (part, count) => (Series.errors part).sample count.value

theorem samples_perm (metrics : Metrics) :
    metrics.samples.Perm (metrics.trafficSamples ++ metrics.validationSamples) := by
  refine (List.mergeSort_perm _ _).trans ?_
  simp only [trafficSamples, validationSamples, Series.sample, List.cons_append, List.nil_append,
    List.append_assoc]
  have moved : ∀ (refused : Sample) (first second rest : List Sample),
      (refused :: (first ++ (second ++ rest))).Perm (first ++ (second ++ refused :: rest)) := by
    intro refused first second rest
    rw [← List.append_assoc, ← List.append_assoc]
    exact List.perm_middle.symm
  exact .cons _ (.cons _ (.cons _ (moved _ _ _ _)))

/-- The counter of a series, if it has begun. -/
def counter? (metrics : Metrics) : Series → Option Counter
  | .validations key => Assoc.get? key metrics.validations
  | .errors part => Assoc.get? part metrics.errors
  | .refusals => some metrics.refusals

/-- The counter of a series; nothing has been added to one that has not begun. -/
def counter (metrics : Metrics) (series : Series) : Counter := (metrics.counter? series).getD .zero

/-- What the measurements hold for a series, if it has begun. -/
def reading? (metrics : Metrics) (series : Series) : Option Double :=
  (metrics.counter? series).map Counter.value

/-- No series of validations is held twice. -/
structure IsKeyed (metrics : Metrics) : Prop where
  validations : Assoc.IsKeyed metrics.validations
  errors : Assoc.IsKeyed metrics.errors

/-- The samples show that value for the series. -/
def Shows (metrics : Metrics) (series : Series) (value : Double) : Prop :=
  series.sample value ∈ metrics.samples

theorem name_mem_of_traffic {metrics : Metrics} {sample : Sample}
    (member : sample ∈ metrics.trafficSamples) :
    sample.name ∈ ["app_info", "app_up", "http_requests_active", "http_requests_total",
      "http_request_duration_seconds_count"].map Text.ofString := by
  simp only [trafficSamples, List.mem_append, List.mem_cons, List.not_mem_nil, or_false,
    List.mem_map] at member
  rcases member with ((rfl | rfl | rfl) | ⟨entry, -, rfl⟩) | ⟨entry, -, rfl⟩ <;>
    simp [Sample.of]

theorem key_ne_of_traffic {metrics : Metrics} {traffic : Sample}
    (member : traffic ∈ metrics.trafficSamples) (series : Series) (value : Double) :
    traffic.key ≠ (series.sample value).key := by
  intro same
  have name : traffic.name = (series.sample value).name := List.head_eq_of_cons_eq same
  have listed := name_mem_of_traffic member
  rw [name] at listed
  cases series <;> simp [Series.sample, Sample.of, Text.ofString_injective.eq_iff] at listed

theorem mem_validationSamples_iff {metrics : Metrics} (keyed : metrics.IsKeyed)
    (sample : Sample) :
    sample ∈ metrics.validationSamples ↔
      ∃ series value, metrics.reading? series = some value ∧ sample = series.sample value := by
  simp only [validationSamples, List.mem_append, List.mem_cons, List.mem_map, Prod.exists,
    keyed.validations.mem_iff, keyed.errors.mem_iff]
  constructor
  · rintro ((refused | ⟨key, count, held, rfl⟩) | ⟨part, count, held, rfl⟩)
    · exact ⟨.refusals, _, rfl, refused⟩
    · exact ⟨.validations key, _, by rw [reading?, counter?, held]; rfl, rfl⟩
    · exact ⟨.errors part, _, by rw [reading?, counter?, held]; rfl, rfl⟩
  · rintro ⟨series, value, held, rfl⟩
    obtain ⟨count, counted, rfl⟩ := Option.map_eq_some_iff.mp held
    cases series with
    | validations key => exact .inl (.inr ⟨key, count, counted, rfl⟩)
    | errors part => exact .inr ⟨part, count, counted, rfl⟩
    | refusals =>
        obtain rfl := Option.some.inj counted
        exact .inl (.inl rfl)

/-- Every sample is one of the traffic, or that of a series with what is held for it. -/
theorem mem_samples_iff {metrics : Metrics} (keyed : metrics.IsKeyed) (sample : Sample) :
    sample ∈ metrics.samples ↔ sample ∈ metrics.trafficSamples ∨
      ∃ series value, metrics.reading? series = some value ∧ sample = series.sample value := by
  rw [metrics.samples_perm.mem_iff, List.mem_append, mem_validationSamples_iff keyed]

theorem shows_iff {metrics : Metrics} (keyed : metrics.IsKeyed) (series : Series)
    (value : Double) : metrics.Shows series value ↔ metrics.reading? series = some value := by
  rw [Shows, mem_samples_iff keyed]
  constructor
  · rintro (traffic | ⟨other, another, held, same⟩)
    · exact absurd rfl (key_ne_of_traffic traffic series value)
    · obtain rfl := Series.eq_of_key_eq (congrArg Sample.key same)
      have equal := congrArg Sample.value same
      rw [series.value_sample, series.value_sample] at equal
      exact equal ▸ held
  · intro held
    exact .inr ⟨series, value, held, rfl⟩

/-- A series that has begun has one sample, with what its counter shows. -/
theorem shows_iff_counter {metrics : Metrics} (keyed : metrics.IsKeyed) (series : Series)
    (value : Double) : metrics.Shows series value ↔
      (metrics.counter? series).isSome = true ∧ value = (metrics.counter series).value := by
  rw [shows_iff keyed, reading?, counter]
  cases metrics.counter? series <;> simp [eq_comm]

/-- Before any request has been counted, the samples of the traffic have different names. -/
theorem traffic_distinct {metrics : Metrics} (requests : metrics.requests = [])
    (durations : metrics.durations = []) {first second : Sample}
    (member : first ∈ metrics.trafficSamples) (other : second ∈ metrics.trafficSamples)
    (same : first.key = second.key) : first = second := by
  simp only [trafficSamples, requests, durations, List.map_nil, List.append_nil, List.mem_cons,
    List.not_mem_nil, or_false] at member other
  rcases member with rfl | rfl | rfl <;> rcases other with rfl | rfl | rfl <;>
    simp [Sample.key_of, Text.ofString_injective.eq_iff] at same ⊢

theorem map_key_validationSamples (metrics : Metrics) :
    metrics.validationSamples.map Sample.key = Series.refusals.key ::
      ((metrics.validations.map Prod.fst).map (fun key => (Series.validations key).key) ++
        (metrics.errors.map Prod.fst).map fun part => (Series.errors part).key) := by
  simp [validationSamples, Series.key_sample, Function.comp_def]

/-- Measurements in which the same series have begun have samples of the same names and labels, in
whatever order the series have begun. -/
theorem samples_map_key_eq {metrics other : Metrics} (keyed : metrics.IsKeyed)
    (alike : other.IsKeyed) (traffic : metrics.trafficSamples = other.trafficSamples)
    (begun : ∀ series, (metrics.reading? series).isSome = (other.reading? series).isSome) :
    metrics.samples.map Sample.key = other.samples.map Sample.key := by
  refine Sample.map_key_eq ?perm (Sample.pairwise_mergeSort _) (Sample.pairwise_mergeSort _)
  have counted := keyed.validations.perm_keys alike.validations fun key => by
    simpa [reading?, counter?, Assoc.has] using begun (.validations key)
  have added := keyed.errors.perm_keys alike.errors fun part => by
    simpa [reading?, counter?, Assoc.has] using begun (.errors part)
  have named := ((counted.map fun key => (Series.validations key).key).append
    (added.map fun part => (Series.errors part).key)).cons Series.refusals.key
  refine ((metrics.samples_perm.map Sample.key).trans ?_).trans
    (other.samples_perm.map Sample.key).symm
  rw [traffic, List.map_append, List.map_append, map_key_validationSamples,
    map_key_validationSamples]
  exact named.append_left _

/-- The samples of such measurements agree place by place, but for the values of series. -/
theorem samples_forall₂ {metrics other : Metrics} (keyed : metrics.IsKeyed)
    (alike : other.IsKeyed) (requests : metrics.requests = [])
    (durations : metrics.durations = [])
    (traffic : metrics.trafficSamples = other.trafficSamples)
    (begun : ∀ series, (metrics.reading? series).isSome = (other.reading? series).isSome) :
    List.Forall₂ (fun first second => first = second ∨ ∃ series value another,
      metrics.reading? series = some value ∧ other.reading? series = some another ∧
        first = series.sample value ∧ second = series.sample another)
      metrics.samples other.samples := by
  have keys := samples_map_key_eq keyed alike traffic begun
  rw [← List.forall₂_eq_eq_eq, List.forall₂_map_left_iff, List.forall₂_map_right_iff,
    List.forall₂_iff_zip] at keys
  obtain ⟨lengths, aligned⟩ := keys
  refine List.forall₂_iff_zip.mpr ⟨lengths, fun {first second} paired => ?_⟩
  have same := aligned paired
  obtain ⟨member, mate⟩ := List.of_mem_zip paired
  rw [mem_samples_iff keyed] at member
  rw [mem_samples_iff alike, ← traffic] at mate
  rcases member with member | ⟨series, value, held, rfl⟩ <;>
    rcases mate with mate | ⟨another, standing, kept, rfl⟩
  · exact .inl (traffic_distinct requests durations member mate same)
  · exact absurd same (key_ne_of_traffic member _ _)
  · exact absurd same.symm (key_ne_of_traffic mate _ _)
  · obtain rfl := Series.eq_of_key_eq same
    exact .inr ⟨series, value, standing, held, kept, rfl, rfl⟩

end Metrics

end Rulebook
