import Rulebook.Proofs.Action.Run
import Rulebook.Proofs.Condition.Findings
import Rulebook.Proofs.IssueTree

/-!
# Findings about actions

What is found about an action is found about its type and about its configuration, and of the
latter only about the keys that the type requires.  A required key may hold a number that is too
large to be compared with zero; that is the only fault a check of actions leaves.
-/

namespace Rulebook

/-! ## Missing values -/

namespace Value

/-- The values that count as missing. -/
inductive IsBlank : Value → Prop
  | null : IsBlank .null
  | false : IsBlank (.bool false)
  | emptyText : IsBlank (.text [])
  | zero : IsBlank (.int 0)
  /-- Zero as a binary64 number, of either sign. -/
  | zeroDouble (negative : Bool) (exponent : Int) :
      IsBlank (.double (.finite negative 0 exponent))
  | notNumber : IsBlank (.double .nan)

/-- The value is a whole number that rounds beyond the greatest binary64 number. -/
def IsOverlarge (value : Value) : Prop :=
  ∃ number : Int, value = .int number ∧ Double.wholeRange ≤ number.natAbs

theorem not_isOverlarge_zero : ¬IsOverlarge (.int 0) := by
  intro overlarge
  obtain ⟨number, same, large⟩ := overlarge
  cases same
  exact absurd large (by decide +kernel)

theorem IsBlank.not_isOverlarge {value : Value} (blank : value.IsBlank) : ¬value.IsOverlarge := by
  cases blank with
  | zero => exact not_isOverlarge_zero
  | _ => simp [IsOverlarge]

theorem isMissing_of_overlarge {value : Value} (overlarge : value.IsOverlarge) :
    value.isMissing = .error .integerTooLarge := by
  obtain ⟨number, rfl, large⟩ := overlarge
  have beyond : Double.holds number = false := decide_eq_false (Nat.not_lt.mpr large)
  rw [isMissing, beyond]
  rfl

theorem isMissing_of_blank {value : Value} (blank : value.IsBlank) :
    value.isMissing = .ok true := by
  cases blank with
  | zero =>
      have held : Double.holds 0 = true := by decide +kernel
      rw [isMissing, held]
      rfl
  | _ => rfl

theorem isMissing_of_filled {value : Value} (filled : ¬value.IsBlank)
    (small : ¬value.IsOverlarge) : value.isMissing = .ok false := by
  cases value with
  | null => exact absurd .null filled
  | bool truth =>
      cases truth with
      | false => exact absurd .false filled
      | true => rfl
  | int number =>
      have held : Double.holds number = true := by
        simpa [IsOverlarge, Double.holds] using small
      have nonzero : number ≠ 0 := by
        rintro rfl
        exact filled .zero
      simp [isMissing, held, nonzero]
  | double number =>
      cases number with
      | nan => exact absurd .notNumber filled
      | infinite negative => rfl
      | finite negative mantissa exponent =>
          have nonzero : mantissa ≠ 0 := by
            rintro rfl
            exact filled (.zeroDouble negative exponent)
          simp [isMissing, Double.isZero, Double.isNaN, nonzero]
  | text content =>
      cases content with
      | nil => exact absurd .emptyText filled
      | cons first rest => rfl
  | _ => rfl

end Value

/-- The mapping gives the key no value, or one that counts as missing. -/
def Entries.Lacks (entries : Entries) (key : Text) : Prop :=
  ∀ value, entries.get? key = some value → value.IsBlank

theorem Entries.lacks_iff (entries : Entries) (key : Text) :
    entries.Lacks key ↔ (entries.getD key).IsBlank := by
  rw [Lacks, getD]
  cases entries.get? key with
  | none => simpa using Value.IsBlank.null
  | some value => simp

/-! ## Findings about a configuration -/

/-- A configuration gives a key that the type requires a number that is overlarge. -/
def Value.HasOverlargeKey (type config : Value) : Prop :=
  ∃ (entries : Entries) (key : Text), config = .mapping entries ∧ key ∈ type.schema.required ∧
    (entries.getD key).IsOverlarge

/-- A configuration lacks a key that the type requires. -/
def Value.LacksKey (type config : Value) (key : Text) : Prop :=
  ∃ entries : Entries, config = .mapping entries ∧ key ∈ type.schema.required ∧ entries.Lacks key

theorem mem_keyFindings_iff (entries : Entries) (key : Text) (finding : Finding) :
    finding ∈ keyFindings entries key ↔
      (entries.Lacks key ∧ finding = .of .configFieldMissing [("field", .text key)]) ∨
        ((entries.getD key).IsOverlarge ∧ finding = .fault .integerTooLarge) := by
  rw [keyFindings, entries.lacks_iff]
  by_cases overlarge : (entries.getD key).IsOverlarge
  · have filled : ¬(entries.getD key).IsBlank := fun blank => blank.not_isOverlarge overlarge
    simp [Value.isMissing_of_overlarge overlarge, overlarge, filled]
  · by_cases blank : (entries.getD key).IsBlank
    · simp [Value.isMissing_of_blank blank, overlarge, blank]
    · simp [Value.isMissing_of_filled blank overlarge, overlarge, blank]

theorem mem_configFindings_iff (type config : Value) (finding : Finding) :
    finding ∈ configFindings type config ↔
      (∃ (entries : Entries) (key : Text), config = .mapping entries ∧
        key ∈ type.schema.required ∧ entries.Lacks key ∧
        finding = .of .configFieldMissing [("field", .text key)]) ∨
      ((∀ entries, config ≠ .mapping entries) ∧ type.schema.required ≠ [] ∧
        finding = absentConfigFinding type) ∨
      (type.HasOverlargeKey config ∧ finding = .fault .integerTooLarge) := by
  rw [configFindings, Value.HasOverlargeKey]
  cases config with
  | mapping entries =>
      simp only [Value.mapping?, requiredFindings, List.mem_flatMap, mem_keyFindings_iff]
      constructor
      · intro found
        obtain ⟨key, required, ⟨lacks, same⟩ | ⟨overlarge, same⟩⟩ := found
        · exact .inl ⟨entries, key, rfl, required, lacks, same⟩
        · exact .inr (.inr ⟨⟨entries, key, rfl, required, overlarge⟩, same⟩)
      · intro found
        obtain ⟨_, key, own, required, lacks, same⟩ | ⟨none, -, -⟩ |
          ⟨⟨_, key, own, required, overlarge⟩, same⟩ := found
        · cases own
          exact ⟨key, required, .inl ⟨lacks, same⟩⟩
        · exact absurd rfl (none entries)
        · cases own
          exact ⟨key, required, .inr ⟨overlarge, same⟩⟩
  | _ => cases type.schema.required <;> simp [Value.mapping?]

theorem fault_mem_configFindings_iff (type config : Value) :
    .fault .integerTooLarge ∈ configFindings type config ↔ type.HasOverlargeKey config := by
  rw [mem_configFindings_iff]
  simp [Finding.of, absentConfigFinding]

theorem missing_mem_configFindings_iff (type config : Value) (key : Text) :
    .of .configFieldMissing [("field", .text key)] ∈ configFindings type config ↔
      type.LacksKey config key := by
  rw [mem_configFindings_iff, Value.LacksKey]
  simp [Finding.of, absentConfigFinding]

/-- A finding about a configuration is plain, or the fault that a required number leaves. -/
theorem configFindings_cases {type config : Value} {finding : Finding}
    (member : finding ∈ configFindings type config) :
    finding.IsPlain ∨ finding = .fault .integerTooLarge := by
  obtain ⟨_, key, -, -, -, rfl⟩ | ⟨-, -, rfl⟩ | ⟨-, rfl⟩ :=
    (mem_configFindings_iff type config finding).mp member
  · exact .inl (Finding.isPlain_of ["field"] (by decide) rfl (by decide))
  · exact .inl (Finding.isPlain_of ["type", "fields"] (by decide) rfl (by decide))
  · exact .inr rfl

/-! ## Findings about an action -/

namespace Value

/-- What an action gives as its type. -/
def actionType (action : Value) : Value := (actionEntries action).getD "type"

/-- What an action gives as its configuration. -/
def actionConfig (action : Value) : Value := (actionEntries action).getD "config"

/-- The findings about an action that are not about its configuration. -/
def headFindings (action : Value) : List Finding :=
  if action.isNull then [.of .actionRequired []] else typeFindings action.actionType

end Value

/-- An absent action has no configuration either. -/
theorem actionFindings_eq (action : Value) :
    actionFindings action =
      action.headFindings ++ configFindings action.actionType action.actionConfig := by
  cases action <;> rfl

theorem typeFindings_cases {type : Value} {finding : Finding}
    (member : finding ∈ typeFindings type) :
    finding.IsPlain ∧ finding.code? ≠ some .configFieldMissing := by
  have required : (Finding.of .actionTypeRequired []).IsPlain :=
    Finding.isPlain_of [] (by decide) rfl (by decide)
  cases type with
  | text content =>
      rw [typeFindings] at member
      split at member
      · obtain rfl := List.mem_singleton.mp member
        exact ⟨required, by simp [Finding.of, Finding.code?]⟩
      · split at member
        · cases member
        · obtain rfl := List.mem_singleton.mp member
          exact ⟨Finding.isPlain_of ["type", "valid_types"] (by decide) rfl (by decide),
            by simp [Finding.of, Finding.code?]⟩
  | _ =>
      obtain rfl := List.mem_singleton.mp member
      exact ⟨required, by simp [Finding.of, Finding.code?]⟩

theorem headFindings_cases {action : Value} {finding : Finding}
    (member : finding ∈ action.headFindings) :
    finding.IsPlain ∧ finding.code? ≠ some .configFieldMissing := by
  rw [Value.headFindings] at member
  split at member
  · obtain rfl := List.mem_singleton.mp member
    exact ⟨Finding.isPlain_of [] (by decide) rfl (by decide), by simp [Finding.of, Finding.code?]⟩
  · exact typeFindings_cases member

theorem actionFindings_cases {action : Value} {finding : Finding}
    (member : finding ∈ actionFindings action) :
    finding.IsPlain ∨ finding = .fault .integerTooLarge := by
  rw [actionFindings_eq, List.mem_append] at member
  obtain head | config := member
  · exact .inl (headFindings_cases head).1
  · exact configFindings_cases config

theorem fault_mem_actionFindings_iff (action : Value) :
    .fault .integerTooLarge ∈ actionFindings action ↔
      action.actionType.HasOverlargeKey action.actionConfig := by
  have foreign : .fault .integerTooLarge ∉ action.headFindings := by
    intro member
    obtain ⟨plain, -⟩ := headFindings_cases member
    cases plain
  simp [actionFindings_eq, foreign, fault_mem_configFindings_iff]

theorem missing_mem_actionFindings_iff (action : Value) (key : Text) :
    .of .configFieldMissing [("field", .text key)] ∈ actionFindings action ↔
      action.actionType.LacksKey action.actionConfig key := by
  have foreign : .of .configFieldMissing [("field", .text key)] ∉ action.headFindings := by
    intro member
    obtain ⟨-, other⟩ := headFindings_cases member
    exact other rfl
  simp [actionFindings_eq, foreign, missing_mem_configFindings_iff]

end Rulebook
