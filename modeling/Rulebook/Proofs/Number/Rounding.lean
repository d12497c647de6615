import Mathlib.Algebra.Order.Field.Basic
import Mathlib.Tactic.FieldSimp
import Mathlib.Tactic.Linarith
import Mathlib.Tactic.Ring
import Rulebook.Proofs.Number.Whole

/-!
# Rounding and the order of numbers

Rounding a magnitude to a binary64 value never leads below a value that does not lie above it,
where every magnitude beyond the greatest finite value comes to infinity.  So a sum of values that
are not negative never falls when something is added to it.
-/

namespace Rulebook

/-! ## Powers of two -/

theorem twoPow_eq_zpow (exponent : Int) : twoPow exponent = (2 : Rat) ^ exponent := by
  obtain ⟨size, rfl | rfl⟩ := Int.eq_nat_or_neg exponent
  · rw [Double.twoPow_natCast, zpow_natCast]
  · rw [Double.twoPow_neg_natCast, zpow_neg, zpow_natCast, one_div]

theorem twoPow_pos (exponent : Int) : 0 < twoPow exponent := by
  rw [twoPow_eq_zpow]
  exact zpow_pos two_pos exponent

theorem twoPow_add (first second : Int) :
    twoPow (first + second) = twoPow first * twoPow second := by
  simp only [twoPow_eq_zpow]
  exact zpow_add₀ two_ne_zero first second

theorem twoPow_le_twoPow {less more : Int} (below : less ≤ more) : twoPow less ≤ twoPow more := by
  simp only [twoPow_eq_zpow]
  exact zpow_le_zpow_right₀ one_le_two below

/-- A positive natural number lies between two neighbouring powers of two. -/
theorem twoPow_log2_bounds {value : Nat} (positive : value ≠ 0) :
    twoPow (Nat.log2 value) ≤ value ∧ (value : Rat) < twoPow (Nat.log2 value + 1) := by
  have next : ((Nat.log2 value : Int) + 1) = ((Nat.log2 value + 1 : Nat) : Int) := by push_cast; rfl
  rw [next, Double.twoPow_natCast, Double.twoPow_natCast]
  constructor
  · exact_mod_cast Nat.log2_self_le positive
  · exact_mod_cast Nat.lt_log2_self

/-- The numerator of a ratio that is not negative, as a natural number. -/
theorem num_toNat_eq {ratio : Rat} (natural : 0 ≤ ratio) :
    (ratio.num.toNat : Rat) = ratio * ratio.den := by
  have numerator : ((ratio.num.toNat : Nat) : Int) = ratio.num :=
    Int.toNat_of_nonneg (Rat.num_nonneg.mpr natural)
  rw [Rat.mul_den_eq_num, ← numerator]
  rfl

namespace Double

/-- So does every positive ratio, and its binary exponent tells between which. -/
theorem binaryExponent_bounds {ratio : Rat} (positive : 0 < ratio) :
    twoPow (binaryExponent ratio) ≤ ratio ∧ ratio < twoPow (binaryExponent ratio + 1) := by
  have above : 0 < ratio.num := Rat.num_pos.mpr positive
  have divisor : (0 : Rat) < ratio.den := by exact_mod_cast ratio.den_pos
  have own := num_toNat_eq positive.le
  obtain ⟨numeratorLow, numeratorHigh⟩ := @twoPow_log2_bounds ratio.num.toNat (by omega)
  obtain ⟨divisorLow, divisorHigh⟩ := twoPow_log2_bounds ratio.den_nz
  have low : twoPow (Nat.log2 ratio.num.toNat - Nat.log2 ratio.den - 1) ≤ ratio := by
    refine le_of_mul_le_mul_right ?_ divisor
    calc twoPow (Nat.log2 ratio.num.toNat - Nat.log2 ratio.den - 1) * ratio.den
        ≤ twoPow (Nat.log2 ratio.num.toNat - Nat.log2 ratio.den - 1) *
            twoPow (Nat.log2 ratio.den + 1) :=
          mul_le_mul_of_nonneg_left divisorHigh.le (twoPow_pos _).le
      _ = twoPow (Nat.log2 ratio.num.toNat) := by rw [← twoPow_add]; congr 1; ring
      _ ≤ ratio * ratio.den := own ▸ numeratorLow
  have high : ratio < twoPow (Nat.log2 ratio.num.toNat - Nat.log2 ratio.den + 1) := by
    refine lt_of_mul_lt_mul_right ?_ divisor.le
    calc ratio * ratio.den
        < twoPow (Nat.log2 ratio.num.toNat + 1) := own ▸ numeratorHigh
      _ = twoPow (Nat.log2 ratio.num.toNat - Nat.log2 ratio.den + 1) *
            twoPow (Nat.log2 ratio.den) := by rw [← twoPow_add]; congr 1; ring
      _ ≤ twoPow (Nat.log2 ratio.num.toNat - Nat.log2 ratio.den + 1) * ratio.den :=
          mul_le_mul_of_nonneg_left divisorLow (twoPow_pos _).le
  rw [binaryExponent]
  split_ifs with fits
  · exact ⟨fits, high⟩
  · rw [sub_add_cancel]
    exact ⟨low, not_le.mp fits⟩

end Double

/-! ## The nearest natural number -/

/-- A ratio is its whole part and a fraction. -/
theorem ratio_eq_whole_add {ratio : Rat} (natural : 0 ≤ ratio) :
    ratio = (ratio.num.toNat / ratio.den : Nat) +
      (ratio.num.toNat % ratio.den : Nat) / (ratio.den : Rat) := by
  have divisor : (ratio.den : Rat) ≠ 0 := by exact_mod_cast ratio.den_nz
  have parts : (ratio.den : Rat) * (ratio.num.toNat / ratio.den : Nat) +
      (ratio.num.toNat % ratio.den : Nat) = ratio.num.toNat := by
    exact_mod_cast Nat.div_add_mod _ _
  rw [num_toNat_eq natural] at parts
  field_simp
  linarith

theorem roundRatio_near {ratio : Rat} (natural : 0 ≤ ratio) :
    ratio - 1 / 2 ≤ roundRatio ratio ∧ (roundRatio ratio : Rat) ≤ ratio + 1 / 2 := by
  have divisor : (0 : Rat) < ratio.den := by exact_mod_cast ratio.den_pos
  have split := ratio_eq_whole_add natural
  have least : (0 : Rat) ≤ (ratio.num.toNat % ratio.den : Nat) / (ratio.den : Rat) :=
    div_nonneg (Nat.cast_nonneg _) divisor.le
  have most : (ratio.num.toNat % ratio.den : Nat) / (ratio.den : Rat) < 1 := by
    rw [div_lt_one divisor]
    exact_mod_cast Nat.mod_lt _ ratio.den_pos
  rw [roundRatio]
  split_ifs with below above even
  · have half : (ratio.num.toNat % ratio.den : Nat) / (ratio.den : Rat) < 1 / 2 := by
      rw [div_lt_div_iff₀ divisor two_pos]
      exact_mod_cast (by omega : ratio.num.toNat % ratio.den * 2 < 1 * ratio.den)
    constructor <;> linarith
  · have half : 1 / 2 < (ratio.num.toNat % ratio.den : Nat) / (ratio.den : Rat) := by
      rw [div_lt_div_iff₀ two_pos divisor]
      exact_mod_cast (by omega : 1 * ratio.den < ratio.num.toNat % ratio.den * 2)
    push_cast
    constructor <;> linarith
  all_goals
    have half : (ratio.num.toNat % ratio.den : Nat) / (ratio.den : Rat) = 1 / 2 := by
      rw [div_eq_div_iff divisor.ne' two_ne_zero]
      exact_mod_cast (by omega : ratio.num.toNat % ratio.den * 2 = 1 * ratio.den)
    push_cast
    constructor <;> linarith

/-- A natural number that does not lie above a ratio does not lie above the nearest one. -/
theorem le_roundRatio {value : Nat} {ratio : Rat} (below : (value : Rat) ≤ ratio) :
    value ≤ roundRatio ratio := by
  have near := (roundRatio_near (le_trans (Nat.cast_nonneg value) below)).1
  have less : (value : Rat) < ((roundRatio ratio + 1 : Nat) : Rat) := by
    push_cast
    linarith
  exact Nat.lt_succ_iff.mp (by exact_mod_cast less)

theorem roundRatio_le {value : Nat} {ratio : Rat} (natural : 0 ≤ ratio)
    (above : ratio ≤ (value : Rat)) : roundRatio ratio ≤ value := by
  have near := (roundRatio_near natural).2
  have less : (roundRatio ratio : Rat) < ((value + 1 : Nat) : Rat) := by
    push_cast
    linarith
  exact Nat.lt_succ_iff.mp (by exact_mod_cast less)

namespace Double

/-! ## Rounding without an upper limit -/

/-- The exponent with which a positive ratio is rounded. -/
def roundingExponent (ratio : Rat) : Int := max (binaryExponent ratio - 52) minExponent

/-- The mantissa to which a positive ratio is rounded; it may reach the next power of two. -/
def roundedMantissa (ratio : Rat) : Nat := roundRatio (ratio / twoPow (roundingExponent ratio))

/-- A ratio rounded as if there were no greatest exponent. -/
def rounded (ratio : Rat) : Rat := roundedMantissa ratio * twoPow (roundingExponent ratio)

theorem leastMantissa_eq_twoPow : (leastMantissa : Rat) = twoPow 52 := by decide +kernel

theorem roundedMantissa_le {ratio : Rat} (positive : 0 < ratio) :
    roundedMantissa ratio ≤ exactRange := by
  have unit := twoPow_pos (roundingExponent ratio)
  refine roundRatio_le (div_nonneg positive.le unit.le) ?_
  rw [div_le_iff₀ unit]
  have high := (binaryExponent_bounds positive).2
  have scale : ((exactRange : Nat) : Rat) = twoPow 53 := by decide +kernel
  calc ratio ≤ twoPow (binaryExponent ratio + 1) := high.le
    _ ≤ twoPow (53 + roundingExponent ratio) :=
        twoPow_le_twoPow (by rw [roundingExponent]; omega)
    _ = exactRange * twoPow (roundingExponent ratio) := by rw [twoPow_add, scale]

/-- Above the least exponent the mantissa is a full one. -/
theorem le_roundedMantissa {ratio : Rat} (positive : 0 < ratio)
    (normal : minExponent < roundingExponent ratio) : leastMantissa ≤ roundedMantissa ratio := by
  have unit := twoPow_pos (roundingExponent ratio)
  refine le_roundRatio ?_
  rw [le_div_iff₀ unit, leastMantissa_eq_twoPow, ← twoPow_add]
  have low := (binaryExponent_bounds positive).1
  have own : 52 + roundingExponent ratio = binaryExponent ratio := by
    rw [roundingExponent] at normal ⊢
    omega
  rw [own]
  exact low

/-- Every value of a lesser exponent lies below a ratio rounded at a greater one. -/
theorem exactRange_le_rounded {exponent : Int} (least : minExponent ≤ exponent) {ratio : Rat}
    (positive : 0 < ratio) (coarser : exponent < roundingExponent ratio) :
    exactRange * twoPow exponent ≤ rounded ratio := by
  have full := le_roundedMantissa positive (least.trans_lt coarser)
  have scale : ((exactRange : Nat) : Rat) = leastMantissa * twoPow 1 := by decide +kernel
  calc (exactRange : Rat) * twoPow exponent
      = leastMantissa * twoPow (1 + exponent) := by rw [scale, mul_assoc, ← twoPow_add]
    _ ≤ leastMantissa * twoPow (roundingExponent ratio) :=
        mul_le_mul_of_nonneg_left (twoPow_le_twoPow (by omega)) (Nat.cast_nonneg _)
    _ ≤ rounded ratio :=
        mul_le_mul_of_nonneg_right (by exact_mod_cast full) (twoPow_pos _).le

/-- A value that does not lie above a ratio does not lie above the rounded ratio. -/
theorem le_rounded {mantissa : Nat} {exponent : Int} (small : mantissa ≤ exactRange)
    (least : minExponent ≤ exponent) {ratio : Rat} (positive : 0 < ratio)
    (below : mantissa * twoPow exponent ≤ ratio) :
    mantissa * twoPow exponent ≤ rounded ratio := by
  rcases le_or_gt (roundingExponent ratio) exponent with finer | coarser
  · -- The value is a multiple of the unit to which the ratio is rounded.
    have unit := twoPow_pos (roundingExponent ratio)
    obtain ⟨shift, split⟩ := Int.le.dest finer
    have multiple : (mantissa : Rat) * twoPow exponent =
        ((mantissa * 2 ^ shift : Nat) : Rat) * twoPow (roundingExponent ratio) := by
      rw [← split, Int.add_comm, twoPow_add, twoPow_natCast]
      push_cast
      ring
    rw [multiple] at below ⊢
    have counted := le_roundRatio ((le_div_iff₀ unit).mpr below)
    exact mul_le_mul_of_nonneg_right (by exact_mod_cast counted) unit.le
  · refine le_trans ?_ (exactRange_le_rounded least positive coarser)
    exact mul_le_mul_of_nonneg_right (by exact_mod_cast small) (twoPow_pos exponent).le

end Double

/-! ## Rounding with an upper limit -/

theorem Number.Point.not_lt_trans {low middle high : Number.Point}
    (below : middle.lt low = false) (above : high.lt middle = false) : high.lt low = false := by
  cases low <;> cases middle <;> cases high <;> simp_all [lt]
  case exact.exact.exact => exact below.trans above

/-- Where a magnitude lies when everything beyond the finite values is infinite. -/
def Number.Point.capped (magnitude : Rat) : Number.Point :=
  if twoPow 1024 ≤ magnitude then .top else .exact magnitude

namespace Double

/-- A magnitude as a binary64 value: infinite, or with a mantissa and an exponent in range. -/
inductive IsMagnitude : Double → Prop
  | infinite : IsMagnitude (.infinite false)
  | finite {mantissa : Nat} {exponent : Int} (small : mantissa ≤ exactRange)
      (least : minExponent ≤ exponent) : IsMagnitude (.finite false mantissa exponent)

theorem ofMagnitude_eq {ratio : Rat} (positive : 0 < ratio) :
    ofMagnitude false ratio =
      if maxExponent <
          (if roundedMantissa ratio = exactRange then roundingExponent ratio + 1
            else roundingExponent ratio)
      then .infinite false
      else .finite false
        (if roundedMantissa ratio = exactRange then leastMantissa else roundedMantissa ratio)
        (if roundedMantissa ratio = exactRange then roundingExponent ratio + 1
          else roundingExponent ratio) :=
  if_neg positive.not_ge

/-- Rounding a positive ratio leaves the mantissa below the next power of two, and gives an
infinity if the exponent is too great for it. -/
theorem ofMagnitude_settles {ratio : Rat} (positive : 0 < ratio) :
    ∃ (mantissa : Nat) (exponent : Int),
      mantissa < exactRange ∧ minExponent ≤ exponent ∧
      (minExponent < exponent → leastMantissa ≤ mantissa) ∧
      mantissa * twoPow exponent = rounded ratio ∧
      ofMagnitude false ratio =
        if maxExponent < exponent then .infinite false else .finite false mantissa exponent := by
  have least : minExponent ≤ roundingExponent ratio := le_max_right _ _
  by_cases carried : roundedMantissa ratio = exactRange
  · refine ⟨leastMantissa, roundingExponent ratio + 1, by decide, by omega, fun _ => le_refl _,
      ?value, ?outcome⟩
    case value =>
      have scale : ((exactRange : Nat) : Rat) = leastMantissa * twoPow 1 := by decide +kernel
      rw [rounded, carried, scale, Int.add_comm, twoPow_add, mul_assoc]
    case outcome => simp only [ofMagnitude_eq positive, carried, if_true]
  · refine ⟨roundedMantissa ratio, roundingExponent ratio,
      lt_of_le_of_ne (roundedMantissa_le positive) carried, least,
      le_roundedMantissa positive, rfl, ?_⟩
    simp only [ofMagnitude_eq positive, carried, if_false]

theorem isMagnitude_zero : IsMagnitude (.zero false) := .finite (Nat.zero_le _) (le_refl _)

theorem isMagnitude_ofMagnitude (ratio : Rat) : (ofMagnitude false ratio).IsMagnitude := by
  rcases le_or_gt ratio 0 with nothing | positive
  · rw [ofMagnitude, if_pos nothing]
    exact isMagnitude_zero
  · obtain ⟨mantissa, exponent, small, least, -, -, settled⟩ := ofMagnitude_settles positive
    rw [settled]
    split_ifs
    · exact .infinite
    · exact .finite small.le least

theorem point?_ofMagnitude {ratio : Rat} (positive : 0 < ratio) :
    (Number.double (ofMagnitude false ratio)).point? = some (.capped (rounded ratio)) := by
  obtain ⟨mantissa, exponent, small, -, full, value, settled⟩ := ofMagnitude_settles positive
  rw [settled, ← value, Number.Point.capped]
  split_ifs with overflow infinite infinite
  · rfl
  · have scale : twoPow 1024 = leastMantissa * twoPow 972 := by decide +kernel
    have beyond : twoPow 1024 ≤ mantissa * twoPow exponent :=
      calc twoPow 1024 = leastMantissa * twoPow 972 := scale
        _ ≤ leastMantissa * twoPow exponent :=
          mul_le_mul_of_nonneg_left (twoPow_le_twoPow overflow) (Nat.cast_nonneg _)
        _ ≤ mantissa * twoPow exponent :=
          mul_le_mul_of_nonneg_right
            (by exact_mod_cast full (lt_trans (by decide) overflow)) (twoPow_pos _).le
    exact absurd beyond infinite
  · have scale : twoPow 1024 = exactRange * twoPow maxExponent := by decide +kernel
    have within : mantissa * twoPow exponent < twoPow 1024 :=
      calc (mantissa : Rat) * twoPow exponent
          < exactRange * twoPow exponent :=
            mul_lt_mul_of_pos_right (by exact_mod_cast small) (twoPow_pos _)
        _ ≤ exactRange * twoPow maxExponent :=
            mul_le_mul_of_nonneg_left (twoPow_le_twoPow (not_lt.mp overflow)) (Nat.cast_nonneg _)
        _ = twoPow 1024 := scale.symm
    exact absurd infinite (not_le.mpr within)
  · rfl

/-! ## Sums that do not fall -/

/-- Both are numbers, and the left one does not lie above the right one. -/
def AtMost (left right : Double) : Prop :=
  ∃ low high, (Number.double left).point? = some low ∧ (Number.double right).point? = some high ∧
    high.lt low = false

theorem AtMost.trans {left middle right : Double} (first : left.AtMost middle)
    (second : middle.AtMost right) : left.AtMost right := by
  obtain ⟨low, between, lower, own, below⟩ := first
  obtain ⟨other, high, same, upper, above⟩ := second
  obtain rfl := Option.some.inj (own.symm.trans same)
  exact ⟨low, high, lower, upper, Number.Point.not_lt_trans below above⟩

theorem point?_of_toRat? {value : Double} {own : Rat} (given : value.toRat? = some own) :
    (Number.double value).point? = some (.exact own) := by
  cases value with
  | finite => exact congrArg (Option.map Number.Point.exact) given
  | nan => cases given
  | infinite => cases given

theorem atMost_of_le {left right : Double} {low high : Rat} (first : left.toRat? = some low)
    (second : right.toRat? = some high) (below : low ≤ high) : left.AtMost right :=
  ⟨_, _, point?_of_toRat? first, point?_of_toRat? second, decide_eq_false (not_lt.mpr below)⟩

theorem toRat?_zero : (zero false).toRat? = some 0 := by simp [zero, toRat?]

namespace IsMagnitude

variable {left right value : Double}

theorem atMost_infinite (magnitude : value.IsMagnitude) : value.AtMost (.infinite false) := by
  cases magnitude with
  | infinite => exact ⟨.top, .top, rfl, rfl, rfl⟩
  | finite => exact ⟨_, .top, rfl, rfl, rfl⟩

theorem atMost_self (magnitude : value.IsMagnitude) : value.AtMost value := by
  cases magnitude with
  | infinite => exact ⟨.top, .top, rfl, rfl, rfl⟩
  | finite => exact atMost_of_le rfl rfl (le_refl _)

theorem nonneg (magnitude : value.IsMagnitude) {own : Rat} (given : value.toRat? = some own) :
    0 ≤ own := by
  cases magnitude with
  | infinite => cases given
  | finite =>
      rw [← Option.some.inj given]
      exact mul_nonneg (Nat.cast_nonneg _) (twoPow_pos _).le

/-- A magnitude that does not lie above a ratio does not lie above the rounded ratio. -/
theorem atMost_ofMagnitude (magnitude : value.IsMagnitude) {own ratio : Rat}
    (given : value.toRat? = some own) (below : own ≤ ratio) :
    value.AtMost (ofMagnitude false ratio) := by
  rcases le_or_gt ratio 0 with nothing | positive
  · rw [ofMagnitude, if_pos nothing]
    exact atMost_of_le given toRat?_zero (below.trans nothing)
  · cases magnitude with
    | infinite => cases given
    | @finite mantissa exponent small least =>
        have same : mantissa * twoPow exponent = own := Option.some.inj given
        have held := le_rounded small least positive (same.trans_le below)
        refine ⟨_, _, point?_of_toRat? given, point?_ofMagnitude positive, ?_⟩
        rw [Number.Point.capped]
        split_ifs
        · rfl
        · exact decide_eq_false (not_lt.mpr (same ▸ held))

/-- The sum of magnitudes is infinite, or their exact sum rounded. -/
theorem add_cases (first : left.IsMagnitude) (second : right.IsMagnitude) :
    left.add right = .infinite false ∨
      ∃ low high, left.toRat? = some low ∧ right.toRat? = some high ∧
        left.add right = ofMagnitude false (low + high) := by
  cases first with
  | infinite => cases second <;> exact .inl rfl
  | finite small least =>
      have natural := (IsMagnitude.finite small least).nonneg rfl
      cases second with
      | infinite => exact .inl rfl
      | finite small least =>
          have other := (IsMagnitude.finite small least).nonneg rfl
          exact .inr ⟨_, _, rfl, rfl, if_neg (not_lt.mpr (add_nonneg natural other))⟩

theorem add (first : left.IsMagnitude) (second : right.IsMagnitude) :
    (left.add right).IsMagnitude := by
  obtain infinite | ⟨low, high, -, -, sum⟩ := first.add_cases second
  · rw [infinite]
    exact .infinite
  · rw [sum]
    exact isMagnitude_ofMagnitude _

/-- A magnitude never falls when another is added to it. -/
theorem atMost_add (first : left.IsMagnitude) (second : right.IsMagnitude) :
    left.AtMost (left.add right) := by
  obtain infinite | ⟨low, high, given, other, sum⟩ := first.add_cases second
  · rw [infinite]
    exact first.atMost_infinite
  · rw [sum]
    exact first.atMost_ofMagnitude given (le_add_of_nonneg_right (second.nonneg other))

end IsMagnitude

theorem isMagnitude_ofRat {ratio : Rat} (natural : 0 ≤ ratio) : (ofRat ratio).IsMagnitude := by
  rw [ofRat, if_neg (not_lt.mpr natural)]
  exact isMagnitude_ofMagnitude ratio

end Double

end Rulebook
