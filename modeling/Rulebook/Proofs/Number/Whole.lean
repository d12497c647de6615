import Mathlib.Data.Rat.Cast.Order
import Mathlib.Tactic.FieldSimp
import Mathlib.Tactic.NormNum
import Rulebook.Metrics

/-!
# Natural numbers as binary64 values

A natural number of at most fifty-three binary digits is a multiple of a power of two that a
binary64 value can have as its mantissa.  Rounding leaves it alone, and so sums of such numbers are
exact as long as they stay in that range.  A counter shows its total up to there; one that counts
events shows every event until it reaches the end of that range, and stands still from then on.
-/

namespace Rulebook

namespace Double

/-- The greatest natural number up to which all are binary64 values. -/
def exactRange : Nat := 2 * leastMantissa

/-! ## Rounding a natural number -/

theorem roundRatio_natCast (value : Nat) : roundRatio (value : Rat) = value := by
  simp [roundRatio, Nat.mod_one]

theorem twoPow_natCast (exponent : Nat) : twoPow (exponent : Int) = (2 : Rat) ^ exponent := by
  simp [twoPow]

theorem twoPow_neg_natCast (exponent : Nat) :
    twoPow (-(exponent : Int)) = 1 / (2 : Rat) ^ exponent := by
  cases exponent with
  | zero => simp [twoPow]
  | succ exponent =>
      have negative : ¬(0 : Int) ≤ -((exponent + 1 : Nat) : Int) := by omega
      rw [twoPow, if_neg negative]
      simp

theorem binaryExponent_natCast {value : Nat} (positive : value ≠ 0) :
    binaryExponent (value : Rat) = Nat.log2 value := by
  have below : twoPow (Nat.log2 value : Int) ≤ (value : Rat) := by
    rw [twoPow_natCast]
    exact_mod_cast Nat.log2_self_le positive
  have guess : (Nat.log2 (value : Rat).num.toNat : Int) - Nat.log2 (value : Rat).den =
      Nat.log2 value := by
    have one : Nat.log2 1 = 0 := by decide
    simp [one]
  rw [binaryExponent, guess]
  exact if_pos below

/-- A positive number is shifted until its first digit is that of a mantissa. -/
theorem ofMagnitude_natCast {value shift : Nat} (positive : value ≠ 0)
    (digits : Nat.log2 value + shift = 52) :
    ofMagnitude false (value : Rat) = .finite false (value * 2 ^ shift) (-(shift : Int)) := by
  have given : ¬(value : Rat) ≤ 0 := by
    have above : (0 : Rat) < value := by exact_mod_cast Nat.pos_of_ne_zero positive
    exact not_le.mpr above
  have exponent : max (binaryExponent (value : Rat) - 52) minExponent = -(shift : Int) := by
    rw [binaryExponent_natCast positive, minExponent]
    omega
  have mantissa : roundRatio ((value : Rat) / twoPow (-(shift : Int))) = value * 2 ^ shift := by
    rw [twoPow_neg_natCast, div_div_eq_mul_div, div_one]
    exact_mod_cast roundRatio_natCast (value * 2 ^ shift)
  have uncarried : ¬value * 2 ^ shift = 2 * leastMantissa := by
    have below : value < 2 ^ (Nat.log2 value + 1) := Nat.lt_log2_self
    have least : value * 2 ^ shift < 2 * leastMantissa :=
      calc value * 2 ^ shift
          < 2 ^ (Nat.log2 value + 1) * 2 ^ shift :=
            Nat.mul_lt_mul_of_pos_right below (Nat.two_pow_pos shift)
        _ = 2 ^ (Nat.log2 value + shift + 1) := by rw [← Nat.pow_add, Nat.add_right_comm]
        _ = 2 * leastMantissa := by rw [digits]; rfl
    exact least.ne
  have bounded : ¬maxExponent < -(shift : Int) := by
    rw [maxExponent]
    omega
  rw [ofMagnitude, if_neg given, exponent]
  dsimp only
  rw [mantissa, if_neg uncarried, if_neg uncarried, if_neg bounded]

theorem toRat?_ofMagnitude_natCast {value : Nat} (positive : value ≠ 0)
    (small : value < exactRange) :
    (ofMagnitude false (value : Rat)).toRat? = some (value : Rat) := by
  have digits : Nat.log2 value < 53 := (Nat.log2_lt positive).mpr small
  obtain ⟨shift, split⟩ : ∃ shift, Nat.log2 value + shift = 52 := ⟨52 - Nat.log2 value, by omega⟩
  have power : (2 : Rat) ^ shift ≠ 0 := pow_ne_zero shift two_ne_zero
  rw [ofMagnitude_natCast positive split, toRat?, twoPow_neg_natCast]
  push_cast
  field_simp

/-- Every natural number of the exact range is a binary64 value. -/
theorem toRat?_ofRat_natCast {value : Nat} (small : value ≤ exactRange) :
    (ofRat (value : Rat)).toRat? = some (value : Rat) := by
  have positive : ¬(value : Rat) < 0 := not_lt.mpr (Nat.cast_nonneg value)
  rw [ofRat, if_neg positive]
  by_cases zero : value = 0
  · rw [zero]
    decide +kernel
  by_cases greatest : value = exactRange
  · rw [greatest]
    decide +kernel
  · exact toRat?_ofMagnitude_natCast zero (lt_of_le_of_ne small greatest)

/-- A sum that stays in the exact range is not rounded. -/
theorem add_ofRat_natCast {left right : Nat} (small : left + right ≤ exactRange) :
    (ofRat (left : Rat)).add (ofRat (right : Rat)) = ofRat ((left + right : Nat) : Rat) := by
  have first := toRat?_ofRat_natCast (Nat.le_trans (Nat.le_add_right left right) small)
  have second := toRat?_ofRat_natCast (Nat.le_trans (Nat.le_add_left right left) small)
  rw [add, first, second]
  push_cast
  rfl

end Double

/-! ## Counters -/

namespace Metrics

theorem whole_zero : whole 0 = .zero false := by decide +kernel

theorem whole_add {left right : Nat} (small : left + right ≤ Double.exactRange) :
    (whole left).add (whole right) = whole ((left + right : Nat) : Int) := by
  simp only [whole, Int.cast_natCast]
  exact Double.add_ofRat_natCast small

end Metrics

namespace Counter

/-- The exact sum of what has been added. -/
def total (counter : Counter) : Nat := counter.amounts.sum

/-- The counter after amounts have been added in order. -/
def addAll (amounts : List Nat) (counter : Counter) : Counter :=
  ⟨amounts.reverse ++ counter.amounts⟩

/-- The counter after that many events have been counted. -/
def stepped (count : Nat) (counter : Counter) : Counter := counter.addAll (List.replicate count 1)

@[simp]
theorem addAll_nil (counter : Counter) : counter.addAll [] = counter := rfl

theorem addAll_singleton (amount : Nat) (counter : Counter) :
    counter.addAll [amount] = counter.add amount := rfl

theorem addAll_append (first second : List Nat) (counter : Counter) :
    counter.addAll (first ++ second) = (counter.addAll first).addAll second := by
  rw [addAll, addAll, addAll, List.reverse_append, List.append_assoc]

theorem addAll_cons (amount : Nat) (rest : List Nat) (counter : Counter) :
    counter.addAll (amount :: rest) = (counter.add amount).addAll rest :=
  addAll_append [amount] rest counter

theorem stepped_stepped (first second : Nat) (counter : Counter) :
    (counter.stepped first).stepped second = counter.stepped (first + second) := by
  rw [stepped, stepped, stepped, ← addAll_append, List.replicate_append_replicate]

@[simp]
theorem total_zero : zero.total = 0 := rfl

@[simp]
theorem value_zero : zero.value = .zero false := rfl

@[simp]
theorem total_add (amount : Nat) (counter : Counter) :
    (counter.add amount).total = counter.total + amount := by
  rw [total, add, List.sum_cons, Nat.add_comm, total]

theorem total_addAll (amounts : List Nat) (counter : Counter) :
    (counter.addAll amounts).total = counter.total + amounts.sum := by
  rw [total, addAll, List.sum_append, List.sum_reverse, Nat.add_comm, total]

@[simp]
theorem total_stepped (count : Nat) (counter : Counter) :
    (counter.stepped count).total = counter.total + count := by
  rw [stepped, total_addAll, List.sum_replicate_nat, Nat.mul_one]

/-- A counter shows the amounts added one after the other to what it has shown before. -/
theorem value_addAll (amounts : List Nat) (counter : Counter) :
    (counter.addAll amounts).value =
      amounts.foldl (fun (sum : Double) (amount : Nat) => sum.add (.ofRat amount))
        counter.value := by
  rw [value, addAll, List.foldr_append, List.foldr_reverse, value]

/-- In the exact range a counter shows its total. -/
theorem value_eq_whole {counter : Counter} (small : counter.total ≤ Double.exactRange) :
    counter.value = Metrics.whole counter.total := by
  obtain ⟨amounts⟩ := counter
  induction amounts with
  | nil => exact Metrics.whole_zero.symm
  | cons amount rest induction =>
      have split : (mk (amount :: rest)).total = (mk rest).total + amount := total_add amount ⟨rest⟩
      rw [split] at small ⊢
      rw [← Metrics.whole_add small, ← induction (by omega)]
      rfl

/-- A counter of events shows their number in the exact range, and the end of that range after. -/
theorem value_stepped (count : Nat) :
    (zero.stepped count).value = Metrics.whole (min count Double.exactRange : Nat) := by
  induction count with
  | zero => exact value_eq_whole (Nat.zero_le _)
  | succ count induction =>
      have next : (zero.stepped (count + 1)).value =
          (zero.stepped count).value.add (Metrics.whole (1 : Nat)) := by
        rw [← stepped_stepped]
        rfl
      rw [next, induction]
      by_cases within : count < Double.exactRange
      · rw [Nat.min_eq_left within.le, Nat.min_eq_left within, Metrics.whole_add within]
      · -- One more than the end of the range lies midway between two values and rounds back.
        rw [Nat.min_eq_right (not_lt.mp within),
          Nat.min_eq_right ((not_lt.mp within).trans (Nat.le_succ count))]
        decide +kernel

end Counter

end Rulebook
