import Rulebook.Proofs.Finding

/-!
# Findings about the elements of a list

Rules and actions are checked one by one, and what is found about one of them stands under its
position.  Positions count all elements, also those about which nothing is found.
-/

namespace Rulebook

namespace Finding

/-- The findings about elements, of which the first has the given position, from the findings of
each. -/
def ofElements (code : Code) (position : Nat) : List (List Finding) → List Finding
  | [] => []
  | own :: rest => ofElement code position own ++ ofElements code (position + 1) rest

@[simp]
theorem ofElements_nil (code : Code) (position : Nat) : ofElements code position [] = [] := rfl

theorem ofElements_cons (code : Code) (position : Nat) (own : List Finding)
    (rest : List (List Finding)) :
    ofElements code position (own :: rest) =
      ofElement code position own ++ ofElements code (position + 1) rest := rfl

theorem mem_ofElement_iff (code : Code) (position : Nat) (own : List Finding)
    (finding : Finding) :
    finding ∈ ofElement code position own ↔ own ≠ [] ∧ finding = .element code position own := by
  rw [ofElement]
  cases own <;> simp

/-- The findings about elements wrap the findings about each element that has any. -/
theorem mem_ofElements_iff (code : Code) (position : Nat) (lists : List (List Finding))
    (finding : Finding) :
    finding ∈ ofElements code position lists ↔
      ∃ (index : Nat) (own : List Finding), lists[index]? = some own ∧ own ≠ [] ∧
        finding = .element code (position + index) own := by
  induction lists generalizing position with
  | nil => simp
  | cons first rest induction =>
      rw [ofElements_cons, List.mem_append, mem_ofElement_iff, induction]
      constructor
      · intro member
        obtain ⟨faulty, same⟩ | ⟨index, own, found, faulty, same⟩ := member
        · exact ⟨0, first, rfl, faulty, same⟩
        · refine ⟨index + 1, own, found, faulty, ?_⟩
          rw [same, show position + 1 + index = position + (index + 1) by omega]
      · intro member
        obtain ⟨index, own, found, faulty, same⟩ := member
        cases index with
        | zero =>
            cases found
            exact .inl ⟨faulty, same⟩
        | succ index =>
            right
            refine ⟨index, own, found, faulty, ?_⟩
            rw [same, show position + 1 + index = position + (index + 1) by omega]

end Finding

end Rulebook
