import Rulebook.Proofs.Condition.Shape

/-!
# Raw values

A value is raw if no typed record lies in it, which is to say that it is its own raw form.  What
is read from a document is raw, and so is everything that a raw value holds.
-/

namespace Rulebook

namespace Value

/-- The value is its own raw form. -/
def IsRaw (value : Value) : Prop := value.raw = value

theorem isRaw_list_iff (elements : List Value) :
    IsRaw (.list elements) ↔ ∀ element ∈ elements, element.IsRaw := by
  rw [IsRaw, raw, list.injEq]
  induction elements with
  | nil => simp [rawElements]
  | cons element rest induction =>
      rw [rawElements, List.cons.injEq, induction, List.forall_mem_cons]
      rfl

theorem isRaw_mapping_iff (entries : Entries) :
    IsRaw (.mapping entries) ↔ ∀ entry ∈ entries, entry.2.IsRaw := by
  rw [IsRaw, raw, mapping.injEq]
  induction entries with
  | nil => simp [rawEntries]
  | cons entry rest induction =>
      obtain ⟨key, value⟩ := entry
      rw [rawEntries, List.cons.injEq, induction, List.forall_mem_cons, Prod.mk.injEq]
      exact and_congr_left fun _ => and_iff_right rfl

theorem not_isRaw_condition (typed : Condition) : ¬IsRaw (.condition typed) := by
  intro same
  rw [IsRaw, raw_condition, Condition.raw] at same
  cases same

theorem IsRaw.of_get? {entries : Entries} {name : Text} {value : Value}
    (raw : IsRaw (.mapping entries)) (found : entries.get? name = some value) : value.IsRaw := by
  obtain ⟨key, member⟩ := Entries.mem_of_get? found
  exact (isRaw_mapping_iff entries).mp raw (key, value) member

/-- The entries of a raw value are those of a mapping. -/
theorem IsRaw.eq_mapping {expression : Value} (raw : expression.IsRaw) {entries : Entries}
    (judged : expression.entries? = some entries) : expression = .mapping entries := by
  cases expression with
  | mapping own =>
      cases judged
      rfl
  | condition typed => exact absurd raw (not_isRaw_condition typed)
  | _ => cases judged

/-- The rules of a raw group are raw. -/
theorem IsRaw.rules {expression operator : Value} {rules : List Value} (raw : expression.IsRaw)
    (shape : expression.IsGroup operator rules) : ∀ rule ∈ rules, rule.IsRaw := by
  obtain ⟨judged, -, hasRules⟩ := shape
  obtain rfl := raw.eq_mapping judged
  exact (isRaw_list_iff rules).mp (raw.of_get? hasRules)

mutual

/-- What is read from a document is raw. -/
theorem isRaw_ofJson : ∀ json, (ofJson json).IsRaw
  | .null => rfl
  | .bool _ => rfl
  | .int _ => rfl
  | .double _ => rfl
  | .text _ => rfl
  | .array items => (isRaw_list_iff _).mpr (isRaw_ofItems items)
  | .object members => (isRaw_mapping_iff _).mpr (isRaw_ofMembers members)

theorem isRaw_ofItems : ∀ items, ∀ element ∈ ofItems items, element.IsRaw
  | [], _, member => by cases member
  | item :: rest, element, member => by
      rw [ofItems] at member
      rcases List.mem_cons.mp member with rfl | later
      · exact isRaw_ofJson item
      · exact isRaw_ofItems rest element later

theorem isRaw_ofMembers : ∀ members, ∀ entry ∈ ofMembers members, entry.2.IsRaw
  | [], _, member => by cases member
  | (name, json) :: rest, entry, member => by
      rw [ofMembers] at member
      rcases List.mem_cons.mp member with rfl | later
      · exact isRaw_ofJson json
      · exact isRaw_ofMembers rest entry later

end

end Value

end Rulebook
