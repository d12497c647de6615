import Mathlib.Data.List.TakeWhile
import Rulebook.Service.Http

/-!
# Documents that can be sent

Text has a byte form if no lone surrogate stands in it.  Every text that is made of characters has
one, and so has everything that the answer style writes about such texts, so that a document of
them and of whole numbers is always sent.
-/

namespace Rulebook

theorem CodePoint.isSurrogate_ofChar (char : Char) : (ofChar char).isSurrogate = false := by
  have valid := char.valid
  have value : (ofChar char).val = char.val.toNat := rfl
  simp only [UInt32.isValidChar, Nat.isValidChar] at valid
  rw [isSurrogate, value]
  simp only [Bool.and_eq_false_iff, decide_eq_false_iff_not]
  omega

/-! ## Texts with a byte form -/

namespace Text

/-- No lone surrogate stands in the text. -/
def HasByteForm (text : Text) : Prop := ∀ point ∈ text, point.isSurrogate = false

theorem firstUnencodable?_eq_none_iff (text : Text) :
    text.firstUnencodable? = none ↔ text.HasByteForm := by
  have clean : text.dropWhile (!·.isSurrogate) = [] ↔ text.HasByteForm := by
    simp [List.dropWhile_eq_nil_iff, HasByteForm]
  rw [← clean, firstUnencodable?]
  cases text.dropWhile (!·.isSurrogate) <;> simp

theorem hasByteForm_nil : HasByteForm [] := List.forall_mem_nil _

theorem hasByteForm_append_iff (left right : Text) :
    HasByteForm (left ++ right) ↔ left.HasByteForm ∧ right.HasByteForm :=
  List.forall_mem_append

theorem hasByteForm_singleton_iff (point : CodePoint) :
    HasByteForm [point] ↔ point.isSurrogate = false :=
  List.forall_mem_singleton

theorem hasByteForm_ite {condition : Prop} [Decidable condition] {left right : Text}
    (first : left.HasByteForm) (second : right.HasByteForm) :
    HasByteForm (if condition then left else right) := by
  split
  · exact first
  · exact second

theorem hasByteForm_map_ofChar (chars : List Char) : HasByteForm (chars.map CodePoint.ofChar) := by
  intro point member
  obtain ⟨char, -, rfl⟩ := List.mem_map.mp member
  exact CodePoint.isSurrogate_ofChar char

theorem hasByteForm_ofString (string : String) : (ofString string).HasByteForm :=
  hasByteForm_map_ofChar _

theorem hasByteForm_ofNat (value : Nat) : (ofNat value).HasByteForm :=
  hasByteForm_map_ofChar _

theorem hasByteForm_ofInt (value : Int) : (ofInt value).HasByteForm := by
  rw [ofInt]
  refine hasByteForm_ite ?_ (hasByteForm_ofNat _)
  exact (hasByteForm_append_iff _ _).mpr ⟨hasByteForm_ofString _, hasByteForm_ofNat _⟩

theorem hasByteForm_hex (width value : Nat) : (hex width value).HasByteForm := by
  induction width generalizing value with
  | zero => exact hasByteForm_nil
  | succ width induction =>
      rw [hex, hasByteForm_append_iff, hasByteForm_singleton_iff]
      exact ⟨induction (value / 16), CodePoint.isSurrogate_ofChar _⟩

theorem hasByteForm_join {separator : Text} (between : separator.HasByteForm) {texts : List Text}
    (each : ∀ text ∈ texts, text.HasByteForm) : (join separator texts).HasByteForm := by
  induction texts with
  | nil => exact hasByteForm_nil
  | cons first rest induction =>
      have tail := induction fun text member => each text (List.mem_cons_of_mem first member)
      cases rest with
      | nil => exact each first List.mem_cons_self
      | cons second rest =>
          rw [join_cons_cons, hasByteForm_append_iff, hasByteForm_append_iff]
          exact ⟨⟨each first List.mem_cons_self, between⟩, tail⟩

end Text

/-! ## Documents -/

namespace Json

open Text

/-- The document is sent by an answer: its numbers are finite and what is written of it has a byte
form. -/
structure IsSendable (document : Json) : Prop where
  finite : document.isFinite = true
  written : (document.write .compact).HasByteForm

theorem hasByteForm_writePoint {point : CodePoint} (whole : point.isSurrogate = false) :
    (writePoint .compact point).HasByteForm := by
  have escape : ∀ value, (escapeUnit value).HasByteForm := fun value =>
    (hasByteForm_append_iff _ _).mpr ⟨hasByteForm_ofString _, hasByteForm_hex _ _⟩
  exact
    hasByteForm_ite (hasByteForm_ofString _) <| hasByteForm_ite (hasByteForm_ofString _) <|
    hasByteForm_ite (hasByteForm_ofString _) <| hasByteForm_ite (hasByteForm_ofString _) <|
    hasByteForm_ite (hasByteForm_ofString _) <| hasByteForm_ite (hasByteForm_ofString _) <|
    hasByteForm_ite (hasByteForm_ofString _) <| hasByteForm_ite (escape _) <|
    hasByteForm_ite ((hasByteForm_singleton_iff point).mpr whole) <| hasByteForm_ite (escape _) <|
    (hasByteForm_append_iff _ _).mpr ⟨escape _, escape _⟩

theorem hasByteForm_writeText {text : Text} (whole : text.HasByteForm) :
    (writeText .compact text).HasByteForm := by
  rw [writeText, hasByteForm_append_iff, hasByteForm_append_iff]
  refine ⟨⟨hasByteForm_ofString _, ?_⟩, hasByteForm_ofString _⟩
  intro point member
  obtain ⟨source, inside, written⟩ := List.mem_flatMap.mp member
  exact hasByteForm_writePoint (whole source inside) point written

theorem isSendable_text {text : Text} (whole : text.HasByteForm) : (Json.text text).IsSendable := by
  refine ⟨rfl, ?_⟩
  rw [write]
  exact hasByteForm_writeText whole

theorem isSendable_string (value : String) : (Json.string value).IsSendable :=
  isSendable_text (hasByteForm_ofString value)

theorem isSendable_int (value : Int) : (Json.int value).IsSendable := by
  refine ⟨rfl, ?_⟩
  rw [write]
  exact hasByteForm_ofInt value

private theorem written_members {members : List (Text × Json)}
    (each : ∀ member ∈ members, member.1.HasByteForm ∧ member.2.IsSendable) :
    membersAreFinite members = true ∧
      ∀ text ∈ writeMembers .compact members, text.HasByteForm := by
  induction members with
  | nil => exact ⟨rfl, List.forall_mem_nil _⟩
  | cons member rest induction =>
      obtain ⟨name, value⟩ := member
      obtain ⟨named, sendable⟩ := each _ List.mem_cons_self
      obtain ⟨finite, written⟩ :=
        induction fun other member => each other (List.mem_cons_of_mem _ member)
      refine ⟨?_, ?_⟩
      · rw [membersAreFinite, sendable.finite, finite]
        rfl
      · rw [writeMembers, List.forall_mem_cons, hasByteForm_append_iff, hasByteForm_append_iff]
        exact ⟨⟨⟨hasByteForm_writeText named, hasByteForm_ofString _⟩, sendable.written⟩, written⟩

theorem isSendable_object {members : List (Text × Json)}
    (each : ∀ member ∈ members, member.1.HasByteForm ∧ member.2.IsSendable) :
    (Json.object members).IsSendable := by
  obtain ⟨finite, written⟩ := written_members each
  refine ⟨?_, ?_⟩
  · rw [isFinite]
    exact finite
  · rw [write, hasByteForm_append_iff, hasByteForm_append_iff]
    exact ⟨⟨hasByteForm_ofString _, hasByteForm_join (hasByteForm_ofString _) written⟩,
      hasByteForm_ofString _⟩

theorem isSendable_record {members : List (String × Json)}
    (each : ∀ member ∈ members, member.2.IsSendable) : (record members).IsSendable := by
  apply isSendable_object
  intro member inside
  obtain ⟨⟨name, value⟩, listed, rfl⟩ := List.mem_map.mp inside
  exact ⟨hasByteForm_ofString name, each _ listed⟩

end Json

theorem Response.ofDocument_of_isSendable {content : Json} (sendable : content.IsSendable)
    (status : Nat) : ofDocument status content = .ok ⟨status, .document content, []⟩ := by
  have whole := (Text.firstUnencodable?_eq_none_iff _).mpr sendable.written
  rw [ofDocument, sendable.finite, whole]
  rfl

end Rulebook
