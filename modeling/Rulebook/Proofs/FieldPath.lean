import Mathlib.Computability.RegularExpressions
import Rulebook.FieldPath

/-!
# Field paths as a regular language

The scan of a field path accepts a regular language.  Its expression is built from two classes of
code points, each written out as the code points in it: one for the head of a path, and one that is
repeated any number of times behind it.  A word belongs to the language of a repeated class exactly
if all of its code points are in the class, so that a path may be continued by any of these and by
nothing else.
-/

namespace Rulebook

namespace CodePoint

/-- The code points from one character to another, ends included. -/
def range (first last : Char) : List CodePoint :=
  (List.range' first.toNat (last.toNat + 1 - first.toNat)).map CodePoint.ofNat

theorem mem_range_iff (first last : Char) (point : CodePoint) :
    point ∈ range first last ↔ point.isBetween first last = true := by
  have bounded : last.toNat < 0x110000 := (CodePoint.ofChar last).isLt
  simp only [range, isBetween, List.mem_map, List.mem_range'_1, Bool.and_eq_true,
    decide_eq_true_eq]
  constructor
  · rintro ⟨value, ⟨low, high⟩, rfl⟩
    have own : (CodePoint.ofNat value).val = value := Nat.mod_eq_of_lt (by omega)
    omega
  · rintro ⟨low, high⟩
    exact ⟨point.val, by omega, Fin.ofNat_val_eq_self point⟩

end CodePoint

/-! ## Classes of code points -/

/-- The regular expression of the words of one code point out of a class. -/
def classPattern (points : List CodePoint) : RegularExpression CodePoint :=
  (points.map RegularExpression.char).sum

theorem mem_matches_classPattern_iff {points : List CodePoint} {word : Text} :
    word ∈ (classPattern points).matches' ↔ ∃ point ∈ points, word = [point] := by
  induction points with
  | nil => simp [classPattern]
  | cons first rest induction =>
      rw [classPattern, List.map_cons, List.sum_cons, RegularExpression.matches'_add,
        Language.mem_add, ← classPattern, induction, List.exists_mem_cons_iff]
      rfl

/-- A class repeated any number of times gives the words all of whose code points are in it. -/
theorem mem_matches_star_classPattern_iff {points : List CodePoint} {word : Text} :
    word ∈ (classPattern points).star.matches' ↔ ∀ point ∈ word, point ∈ points := by
  rw [RegularExpression.matches'_star, Language.mem_kstar]
  constructor
  · rintro ⟨words, rfl, each⟩ point member
    obtain ⟨single, listed, inside⟩ := List.mem_flatten.mp member
    obtain ⟨own, given, rfl⟩ := mem_matches_classPattern_iff.mp (each single listed)
    rwa [List.mem_singleton.mp inside]
  · intro each
    refine ⟨word.map ([·]), ?whole, ?single⟩
    case whole => exact (List.flatMap_singleton' word).symm
    case single =>
      intro single listed
      obtain ⟨point, member, rfl⟩ := List.mem_map.mp listed
      exact mem_matches_classPattern_iff.mpr ⟨point, each point member, rfl⟩

/-! ## The pattern of field paths -/

namespace FieldPath

/-- The code points that may begin a path: `[A-Za-z_]`. -/
def heads : List CodePoint :=
  CodePoint.range 'A' 'Z' ++ CodePoint.range 'a' 'z' ++ Text.ofString "_"

/-- The code points that may continue a path: `[A-Za-z0-9_.\[\]]`. -/
def tails : List CodePoint :=
  CodePoint.range 'A' 'Z' ++ CodePoint.range 'a' 'z' ++ CodePoint.range '0' '9' ++
    Text.ofString "_.[]"

/-- The regular expression of field paths: `[A-Za-z_][A-Za-z0-9_.\[\]]*`. -/
def pattern : RegularExpression CodePoint := classPattern heads * (classPattern tails).star

theorem isHead_iff_mem (point : CodePoint) : isHead point = true ↔ point ∈ heads := by
  have single : Text.ofString "_" = [.ofChar '_'] := rfl
  simp [isHead, heads, single, CodePoint.mem_range_iff, or_assoc]

theorem isTail_iff_mem (point : CodePoint) : isTail point = true ↔ point ∈ tails := by
  have marks : Text.ofString "_.[]" = [.ofChar '_', .ofChar '.', .ofChar '[', .ofChar ']'] := rfl
  simp only [isTail, isHead, tails, marks, CodePoint.mem_range_iff, Bool.or_eq_true,
    decide_eq_true_eq, List.mem_append, List.mem_cons, List.not_mem_nil, or_false]
  tauto

theorem mem_tails_of_mem_heads {point : CodePoint} (member : point ∈ heads) : point ∈ tails := by
  rw [← isTail_iff_mem, isTail, (isHead_iff_mem point).mpr member]
  rfl

theorem val_lt_of_mem_tails {point : CodePoint} (member : point ∈ tails) : point.val < 128 := by
  have each : tails.all (·.val < 128) = true := by decide
  simpa using List.all_eq_true.mp each point member

theorem isValid_iff_mem_matches (path : Text) : isValid path = true ↔ path ∈ pattern.matches' := by
  rw [pattern, RegularExpression.matches'_mul, Language.mem_mul]
  cases path with
  | nil =>
      have unmatched : ¬∃ head ∈ (classPattern heads).matches',
          ∃ tail ∈ (classPattern tails).star.matches', head ++ tail = [] := by
        rintro ⟨head, first, tail, -, empty⟩
        obtain ⟨point, -, rfl⟩ := mem_matches_classPattern_iff.mp first
        exact List.cons_ne_nil _ _ empty
      simpa using unmatched
  | cons point rest =>
      rw [isValid_cons, Bool.and_eq_true, isHead_iff_mem, List.all_eq_true]
      simp only [isTail_iff_mem]
      constructor
      · rintro ⟨first, others⟩
        exact ⟨[point], mem_matches_classPattern_iff.mpr ⟨point, first, rfl⟩, rest,
          mem_matches_star_classPattern_iff.mpr others, rfl⟩
      · rintro ⟨head, first, tail, others, split⟩
        obtain ⟨own, given, rfl⟩ := mem_matches_classPattern_iff.mp first
        obtain ⟨rfl, rfl⟩ := List.cons.inj split
        exact ⟨given, mem_matches_star_classPattern_iff.mp others⟩

theorem mem_tails_of_isValid {path : Text} (valid : isValid path = true) :
    ∀ point ∈ path, point ∈ tails := by
  cases path with
  | nil => exact List.forall_mem_nil _
  | cons head rest =>
      rw [isValid_cons, Bool.and_eq_true, isHead_iff_mem, List.all_eq_true] at valid
      exact List.forall_mem_cons.mpr ⟨mem_tails_of_mem_heads valid.1, fun point member =>
        (isTail_iff_mem point).mp (valid.2 point member)⟩

end FieldPath

/-- A value is a field path exactly if it is a text that, as a whole, is in the language of the
pattern.  Every code point of a path is one of the first 128, and a path stays one when a text is
put behind it exactly if all code points of that text may continue a path. -/
theorem isFieldPath_iff_matches :
    (∀ value : Value, value.isFieldPath = true ↔
      ∃ path, value = .text path ∧ path ∈ FieldPath.pattern.matches') ∧
    ∀ path, (Value.text path).isFieldPath = true →
      (∀ point ∈ path, point.val < 128) ∧
      ∀ rest, (Value.text (path ++ rest)).isFieldPath = true ↔
        ∀ point ∈ rest, point ∈ FieldPath.tails := by
  refine ⟨?accepted, ?continued⟩
  case accepted =>
    intro value
    cases value with
    | text path =>
        rw [Value.isFieldPath, FieldPath.isValid_iff_mem_matches]
        simp
    | _ => simp [Value.isFieldPath]
  case continued =>
    intro path valid
    rw [Value.isFieldPath] at valid
    refine ⟨?ascii, ?rest⟩
    case ascii =>
      intro point member
      exact FieldPath.val_lt_of_mem_tails (FieldPath.mem_tails_of_isValid valid point member)
    case rest =>
      intro rest
      rw [Value.isFieldPath, FieldPath.isValid_append path rest valid, List.all_eq_true]
      simp only [FieldPath.isTail_iff_mem]

/-- A path to an item matches as a whole; it may go on with another name, but not with a letter
beyond the first 128 code points or with a line end. -/
theorem isFieldPath_item_continued :
    Text.ofString "order.items[0]" ∈ FieldPath.pattern.matches' ∧
    (Value.text (Text.ofString "order.items[0]" ++ Text.ofString ".sku")).isFieldPath = true ∧
    (Value.text (Text.ofString "order.items[0]" ++ Text.ofString "é")).isFieldPath = false ∧
    (Value.text (Text.ofString "order.items[0]" ++ Text.ofString "\n")).isFieldPath = false := by
  have valid : (Value.text (Text.ofString "order.items[0]")).isFieldPath = true := by decide
  obtain ⟨path, same, matched⟩ := (isFieldPath_iff_matches.1 _).mp valid
  have continued := (isFieldPath_iff_matches.2 _ valid).2
  simp only [← FieldPath.isTail_iff_mem, ← List.all_eq_true] at continued
  refine ⟨Value.text.inj same ▸ matched, (continued _).mpr (by decide), ?letter, ?lineEnd⟩
  case letter => exact Bool.eq_false_iff.mpr ((continued _).not.mpr (by decide))
  case lineEnd => exact Bool.eq_false_iff.mpr ((continued _).not.mpr (by decide))

end Rulebook
