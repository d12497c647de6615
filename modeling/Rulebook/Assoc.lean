/-!
# Association lists

Values by key in order of insertion.  A key that is given a value again keeps its place; looking
up a key finds its first entry.
-/

namespace Rulebook

/-- Values by key, in order of insertion. -/
abbrev Assoc (κ ν : Type) := List (κ × ν)

namespace Assoc

variable {κ ν : Type} [DecidableEq κ]

/-- The value of a key, if it has one. -/
def get? (key : κ) : Assoc κ ν → Option ν
  | [] => none
  | (name, value) :: rest => if name = key then some value else get? key rest

/-- The value of a key, or the given value if it has none. -/
def getD (key : κ) (otherwise : ν) (entries : Assoc κ ν) : ν :=
  (get? key entries).getD otherwise

/-- The key has a value. -/
def has (key : κ) (entries : Assoc κ ν) : Bool := (get? key entries).isSome

/-- Changes the value of a key in place; a new key comes last and begins with the given value. -/
def update (key : κ) (initial : ν) (change : ν → ν) : Assoc κ ν → Assoc κ ν
  | [] => [(key, change initial)]
  | (name, value) :: rest =>
      if name = key then (name, change value) :: rest
      else (name, value) :: update key initial change rest

/-- Gives a key its value: in place if the key is there, at the end if it is new. -/
def put (key : κ) (value : ν) (entries : Assoc κ ν) : Assoc κ ν :=
  update key value (fun _ => value) entries

@[simp]
theorem get?_nil (key : κ) : get? key ([] : Assoc κ ν) = none := rfl

@[simp]
theorem get?_cons (key name : κ) (value : ν) (rest : Assoc κ ν) :
    get? key ((name, value) :: rest) = if name = key then some value else get? key rest := rfl

theorem get?_append (key : κ) (left right : Assoc κ ν) :
    get? key (left ++ right) = (get? key left).or (get? key right) := by
  induction left with
  | nil => rfl
  | cons entry rest ih =>
      obtain ⟨name, value⟩ := entry
      rw [List.cons_append, get?_cons, get?_cons, ih]
      split <;> rfl

theorem has_eq_false {key : κ} {entries : Assoc κ ν}
    (absent : ∀ entry ∈ entries, entry.1 ≠ key) : has key entries = false := by
  induction entries with
  | nil => rfl
  | cons entry rest ih =>
      obtain ⟨first, others⟩ := List.forall_mem_cons.mp absent
      rw [has, get?_cons, if_neg first]
      exact ih others

theorem get?_update_self (key : κ) (initial : ν) (change : ν → ν) (entries : Assoc κ ν) :
    get? key (update key initial change entries) = some (change (getD key initial entries)) := by
  induction entries with
  | nil => simp [update, getD]
  | cons entry rest ih =>
      obtain ⟨name, value⟩ := entry
      by_cases same : name = key
      · simp [update, getD, same]
      · simpa [update, getD, same] using ih

theorem get?_update_of_ne {key other : κ} (distinct : other ≠ key) (initial : ν)
    (change : ν → ν) (entries : Assoc κ ν) :
    get? other (update key initial change entries) = get? other entries := by
  induction entries with
  | nil => simp [update, distinct.symm]
  | cons entry rest ih =>
      obtain ⟨name, value⟩ := entry
      by_cases same : name = key
      · simp [update, same, distinct.symm]
      · simp [update, same, ih]

theorem get?_update (key other : κ) (initial : ν) (change : ν → ν) (entries : Assoc κ ν) :
    get? other (update key initial change entries) =
      if other = key then some (change (getD key initial entries)) else get? other entries := by
  by_cases same : other = key
  · subst same
    simp [get?_update_self]
  · simp [get?_update_of_ne same, same]

theorem getD_update_self (key : κ) (initial : ν) (change : ν → ν) (entries : Assoc κ ν) :
    getD key initial (update key initial change entries) =
      change (getD key initial entries) := by
  simp only [getD, get?_update_self]
  rfl

theorem getD_update_of_ne {key other : κ} (distinct : other ≠ key) (initial otherwise : ν)
    (change : ν → ν) (entries : Assoc κ ν) :
    getD other otherwise (update key initial change entries) = getD other otherwise entries := by
  simp only [getD, get?_update_of_ne distinct]

theorem has_update (key other : κ) (initial : ν) (change : ν → ν) (entries : Assoc κ ν) :
    has other (update key initial change entries) =
      (decide (key = other) || has other entries) := by
  rw [has, get?_update]
  by_cases same : key = other
  · simp [same]
  · simp [same, Ne.symm same, has]

/-! ### Lists in which every key has one entry -/

/-- No key has two entries. -/
def IsKeyed (entries : Assoc κ ν) : Prop := (entries.map Prod.fst).Nodup

theorem has_eq_true_iff (key : κ) (entries : Assoc κ ν) :
    has key entries = true ↔ key ∈ entries.map Prod.fst := by
  induction entries with
  | nil => simp [has]
  | cons entry rest ih =>
      obtain ⟨name, value⟩ := entry
      by_cases same : name = key
      · simp [has, same]
      · simpa [has, same, Ne.symm same] using ih

theorem isKeyed_cons_iff (key : κ) (value : ν) (rest : Assoc κ ν) :
    IsKeyed ((key, value) :: rest) ↔ has key rest = false ∧ IsKeyed rest := by
  rw [← Bool.not_eq_true, has_eq_true_iff]
  exact List.nodup_cons

theorem IsKeyed.update {entries : Assoc κ ν} (keyed : IsKeyed entries) (key : κ) (initial : ν)
    (change : ν → ν) : IsKeyed (Assoc.update key initial change entries) := by
  induction entries with
  | nil => exact (isKeyed_cons_iff _ _ _).mpr ⟨rfl, List.nodup_nil⟩
  | cons entry rest ih =>
      obtain ⟨name, value⟩ := entry
      obtain ⟨new, others⟩ := (isKeyed_cons_iff _ _ _).mp keyed
      rw [Assoc.update]
      split
      case isTrue => exact (isKeyed_cons_iff _ _ _).mpr ⟨new, others⟩
      case isFalse distinct =>
        refine (isKeyed_cons_iff _ _ _).mpr ⟨?_, ih others⟩
        rw [has_update, new, decide_eq_false (Ne.symm distinct)]
        rfl

theorem IsKeyed.mem_iff {entries : Assoc κ ν} (keyed : IsKeyed entries) (key : κ) (value : ν) :
    (key, value) ∈ entries ↔ get? key entries = some value := by
  induction entries with
  | nil => simp
  | cons entry rest ih =>
      obtain ⟨name, own⟩ := entry
      obtain ⟨new, others⟩ := (isKeyed_cons_iff _ _ _).mp keyed
      rw [List.mem_cons, get?_cons, ih others]
      by_cases same : name = key
      · have absent : get? key rest = none := by simpa [has, same] using new
        simp [same, absent, eq_comm]
      · simp [same, Ne.symm same]

end Assoc

end Rulebook
