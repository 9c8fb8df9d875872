import DartRoutes.Number.Binary64
import Mathlib.Algebra.Order.Field.Power
import Mathlib.Data.Int.Log
import Mathlib.Data.Rat.Floor
import Mathlib.Tactic.Linarith
import Mathlib.Tactic.NormNum
import Mathlib.Tactic.Positivity
import Mathlib.Tactic.Ring

/-!
# Rounding to a binary number

A quotient is rounded to the nearest multiple of a power of two, the spacing of the binary numbers
at its place. The integer arithmetic of `Binary64.ofQuotient` computes this multiple, and the
distance between a number and its rounding is at most half the spacing.
-/

namespace DartRoutes

/-- The nearest integer, the even one when two are equally near. -/
def roundEven (x : ℚ) : ℤ :=
  if Int.fract x < 1 / 2 then ⌊x⌋
  else if 1 / 2 < Int.fract x then ⌊x⌋ + 1
  else if ⌊x⌋ % 2 = 0 then ⌊x⌋
  else ⌊x⌋ + 1

theorem roundEven_intCast (number : ℤ) : roundEven number = number := by
  simp [roundEven]

theorem abs_roundEven_sub_le (x : ℚ) : |(roundEven x : ℚ) - x| ≤ 1 / 2 := by
  have split := Int.floor_add_fract x
  have nonneg := Int.fract_nonneg x
  have below := Int.fract_lt_one x
  unfold roundEven
  rw [abs_le]
  split_ifs <;> push_cast <;> constructor <;> linarith

/-- Of two numbers in the wrong order after the rounding, both would lie in the middle between the
same integers, so they would be one number. -/
theorem roundEven_mono {x y : ℚ} (le : x ≤ y) : roundEven x ≤ roundEven y := by
  apply Int.not_lt.mp
  intro less
  have apart : (roundEven y : ℚ) + 1 ≤ roundEven x := by exact_mod_cast less
  have first := (abs_le.mp (abs_roundEven_sub_le x)).2
  have second := (abs_le.mp (abs_roundEven_sub_le y)).1
  have same : x = y := by linarith
  subst same
  exact Int.lt_irrefl _ less

theorem roundEven_le {x : ℚ} {bound : ℤ} (le : x ≤ bound) : roundEven x ≤ bound := by
  simpa only [roundEven_intCast] using roundEven_mono le

theorem le_roundEven {x : ℚ} {bound : ℤ} (le : bound ≤ x) : bound ≤ roundEven x := by
  simpa only [roundEven_intCast] using roundEven_mono le

theorem fract_natCast_div (numerator denominator : Nat) (positive : 0 < denominator) :
    Int.fract ((numerator : ℚ) / denominator) =
      ((numerator % denominator : Nat) : ℚ) / denominator := by
  have nonzero : (denominator : ℚ) ≠ 0 := by positivity
  have whole : (numerator : ℚ) =
      denominator * (numerator / denominator : Nat) + (numerator % denominator : Nat) := by
    exact_mod_cast (Nat.div_add_mod numerator denominator).symm
  have floor : (⌊(numerator : ℚ) / denominator⌋ : ℚ) = (numerator / denominator : Nat) := by
    rw [Rat.floor_natCast_div_natCast]
    rfl
  rw [← Int.self_sub_floor, floor, eq_div_iff nonzero, sub_mul, div_mul_cancel₀ _ nonzero]
  linarith

theorem fract_lt_half_iff (numerator denominator : Nat) (positive : 0 < denominator) :
    Int.fract ((numerator : ℚ) / denominator) < 1 / 2 ↔
      2 * (numerator % denominator) < denominator := by
  have positiveRat : (0 : ℚ) < denominator := by exact_mod_cast positive
  rw [fract_natCast_div numerator denominator positive, div_lt_iff₀ positiveRat, ← @Nat.cast_lt ℚ]
  push_cast
  constructor <;> intro less <;> linarith

theorem half_lt_fract_iff (numerator denominator : Nat) (positive : 0 < denominator) :
    1 / 2 < Int.fract ((numerator : ℚ) / denominator) ↔
      denominator < 2 * (numerator % denominator) := by
  have positiveRat : (0 : ℚ) < denominator := by exact_mod_cast positive
  rw [fract_natCast_div numerator denominator positive, lt_div_iff₀ positiveRat, ← @Nat.cast_lt ℚ]
  push_cast
  constructor <;> intro less <;> linarith

theorem roundQuotient_eq (numerator denominator : Nat) (positive : 0 < denominator) :
    (roundQuotient numerator denominator : ℤ) = roundEven ((numerator : ℚ) / denominator) := by
  have floor : ⌊(numerator : ℚ) / denominator⌋ = ((numerator / denominator : Nat) : ℤ) :=
    Rat.floor_natCast_div_natCast numerator denominator
  simp only [roundQuotient, roundEven, fract_lt_half_iff numerator denominator positive,
    half_lt_fract_iff numerator denominator positive, floor]
  split_ifs <;> omega

namespace Binary64

theorem scaleQuotient_spec (numerator denominator : Nat) (positive : 0 < denominator)
    (exponent : ℤ) :
    0 < (scaleQuotient numerator denominator exponent).2 ∧
      ((scaleQuotient numerator denominator exponent).1 : ℚ) /
          (scaleQuotient numerator denominator exponent).2 =
        (numerator : ℚ) / denominator / 2 ^ exponent := by
  unfold scaleQuotient
  by_cases nonneg : 0 ≤ exponent
  · obtain ⟨power, rfl⟩ := Int.eq_ofNat_of_zero_le nonneg
    simp only [nonneg, ↓reduceIte, Int.toNat_natCast, Nat.pow_eq]
    refine ⟨by positivity, ?_⟩
    push_cast
    rw [zpow_natCast, div_div]
  · obtain ⟨power, rfl⟩ : ∃ power : Nat, exponent = -power := ⟨exponent.natAbs, by omega⟩
    simp only [nonneg, ↓reduceIte, neg_neg, Int.toNat_natCast, Nat.pow_eq]
    refine ⟨positive, ?_⟩
    push_cast
    rw [zpow_neg, zpow_natCast, div_inv_eq_mul, div_mul_eq_mul_div]

theorem scaleQuotient_lt_iff (numerator denominator : Nat) (positive : 0 < denominator)
    (exponent : ℤ) :
    (scaleQuotient numerator denominator exponent).1 <
        (scaleQuotient numerator denominator exponent).2 ↔
      (numerator : ℚ) / denominator < 2 ^ exponent := by
  obtain ⟨unitPositive, equal⟩ := scaleQuotient_spec numerator denominator positive exponent
  have scale : (0 : ℚ) < 2 ^ exponent := by positivity
  rw [← div_lt_one scale, ← equal, div_lt_one (by exact_mod_cast unitPositive), Nat.cast_lt]

theorem log_eq_of_le_of_lt {x : ℚ} {power : ℤ} (le : 2 ^ power ≤ x) (lt : x < 2 ^ (power + 1)) :
    Int.log 2 x = power := by
  have positive : 0 < x := lt_of_lt_of_le (by positivity) le
  have lower : power ≤ Int.log 2 x :=
    (Int.zpow_le_iff_le_log (by decide) positive).mp (by exact_mod_cast le)
  have upper : Int.log 2 x < power + 1 :=
    (Int.lt_zpow_iff_log_lt (by decide) positive).mp (by exact_mod_cast lt)
  omega

theorem two_zpow_log2_le {number : Nat} (positive : 0 < number) :
    (2 : ℚ) ^ (number.log2 : ℤ) ≤ number := by
  rw [zpow_natCast]
  exact_mod_cast Nat.log2_self_le positive.ne'

theorem lt_two_zpow_log2 (number : Nat) : (number : ℚ) < 2 ^ ((number.log2 : ℤ) + 1) := by
  rw [← Nat.cast_succ, zpow_natCast]
  exact_mod_cast Nat.lt_log2_self

/-- The logarithms of numerator and denominator tell that of the quotient up to one. -/
theorem quotientLog2_eq {numerator denominator : Nat} (numeratorPositive : 0 < numerator)
    (positive : 0 < denominator) :
    quotientLog2 numerator denominator = Int.log 2 ((numerator : ℚ) / denominator) := by
  have positiveRat : (0 : ℚ) < denominator := by exact_mod_cast positive
  have upper : (numerator : ℚ) / denominator <
      2 ^ ((numerator.log2 : ℤ) - denominator.log2 + 1) := by
    rw [div_lt_iff₀ positiveRat]
    calc (numerator : ℚ) < 2 ^ ((numerator.log2 : ℤ) + 1) := lt_two_zpow_log2 numerator
      _ = 2 ^ ((numerator.log2 : ℤ) - denominator.log2 + 1) * 2 ^ (denominator.log2 : ℤ) := by
        rw [← zpow_add₀ (by norm_num)]
        congr 1
        omega
      _ ≤ 2 ^ ((numerator.log2 : ℤ) - denominator.log2 + 1) * denominator :=
        mul_le_mul_of_nonneg_left (two_zpow_log2_le positive) (by positivity)
  have lower : (2 : ℚ) ^ ((numerator.log2 : ℤ) - denominator.log2 - 1) ≤
      (numerator : ℚ) / denominator := by
    rw [le_div_iff₀ positiveRat]
    calc (2 : ℚ) ^ ((numerator.log2 : ℤ) - denominator.log2 - 1) * denominator
        ≤ 2 ^ ((numerator.log2 : ℤ) - denominator.log2 - 1) * 2 ^ ((denominator.log2 : ℤ) + 1) :=
          mul_le_mul_of_nonneg_left (lt_two_zpow_log2 denominator).le (by positivity)
      _ = 2 ^ (numerator.log2 : ℤ) := by
        rw [← zpow_add₀ (by norm_num)]
        congr 1
        omega
      _ ≤ numerator := two_zpow_log2_le numeratorPositive
  have estimate := scaleQuotient_lt_iff numerator denominator positive
    ((numerator.log2 : ℤ) - denominator.log2)
  simp only [quotientLog2]
  symm
  split_ifs with below
  · apply log_eq_of_le_of_lt lower
    simpa using estimate.mp below
  · exact log_eq_of_le_of_lt (not_lt.mp (mt estimate.mpr below)) upper

/-- The exponent of the distance between the binary numbers around `x`. -/
def spacing (x : ℚ) : ℤ :=
  max leastExponent (Int.log 2 x - 52)

/-- The multiple of the spacing nearest to `x`. -/
def nearest (x : ℚ) : ℚ :=
  roundEven (x / 2 ^ spacing x) * 2 ^ spacing x

theorem nearest_zero : nearest 0 = 0 := by
  have zero : roundEven 0 = 0 := roundEven_intCast 0
  simp [nearest, zero]

theorem nearest_nonneg {x : ℚ} (nonneg : 0 ≤ x) : 0 ≤ nearest x := by
  have mantissa : 0 ≤ roundEven (x / 2 ^ spacing x) :=
    le_roundEven (by push_cast; positivity)
  have mantissaRat : (0 : ℚ) ≤ roundEven (x / 2 ^ spacing x) := by exact_mod_cast mantissa
  unfold nearest
  positivity

theorem abs_nearest_sub_le_spacing (x : ℚ) : |nearest x - x| ≤ 2 ^ spacing x / 2 := by
  have scale : (0 : ℚ) < 2 ^ spacing x := by positivity
  have error := abs_roundEven_sub_le (x / 2 ^ spacing x)
  calc |nearest x - x|
      = |((roundEven (x / 2 ^ spacing x) : ℚ) - x / 2 ^ spacing x) * 2 ^ spacing x| := by
        rw [sub_mul, div_mul_cancel₀ _ scale.ne', nearest]
    _ = |(roundEven (x / 2 ^ spacing x) : ℚ) - x / 2 ^ spacing x| * 2 ^ spacing x := by
        rw [abs_mul, abs_of_pos scale]
    _ ≤ 1 / 2 * 2 ^ spacing x := mul_le_mul_of_nonneg_right error scale.le
    _ = 2 ^ spacing x / 2 := by ring

theorem spacing_le_of_lt {x : ℚ} {power : ℤ} (positive : 0 < x) (below : x < 2 ^ power)
    (normal : leastExponent + 53 ≤ power) : spacing x ≤ power - 53 := by
  have log : Int.log 2 x < power :=
    (Int.lt_zpow_iff_log_lt (by decide) positive).mp (by exact_mod_cast below)
  unfold spacing
  omega

/-- The rounding moves a number below `2 ^ power` by at most `2 ^ (power - 54)`. -/
theorem abs_nearest_sub_le {x : ℚ} {power : ℤ} (nonneg : 0 ≤ x) (below : x < 2 ^ power)
    (normal : leastExponent + 53 ≤ power) : |nearest x - x| ≤ 2 ^ (power - 54) := by
  rcases nonneg.eq_or_lt with rfl | positive
  · rw [nearest_zero, sub_zero, abs_zero]
    positivity
  · calc |nearest x - x| ≤ 2 ^ spacing x / 2 := abs_nearest_sub_le_spacing x
      _ ≤ 2 ^ (power - 53) / 2 := by
        have grows : (2 : ℚ) ^ spacing x ≤ 2 ^ (power - 53) :=
          zpow_le_zpow_right₀ (by norm_num) (spacing_le_of_lt positive below normal)
        linarith
      _ = 2 ^ (power - 54) := by
        have step : power - 53 = power - 54 + 1 := by omega
        rw [step, zpow_add_one₀ (by norm_num)]
        ring

theorem nearest_le_two_zpow {x : ℚ} : nearest x ≤ 2 ^ (spacing x + 53) := by
  have scale : (0 : ℚ) < 2 ^ spacing x := by positivity
  have below : x < 2 ^ (spacing x + 53) := by
    calc x < 2 ^ (Int.log 2 x + 1) := by exact_mod_cast Int.lt_zpow_succ_log_self (by decide) x
      _ ≤ 2 ^ (spacing x + 53) := by
        apply zpow_le_zpow_right₀ (by norm_num)
        unfold spacing
        omega
  have power : (2 : ℚ) ^ (spacing x + 53) = ((2 ^ 53 : ℤ) : ℚ) * 2 ^ spacing x := by
    rw [add_comm, zpow_add₀ (by norm_num)]
    norm_num
  have mantissa : roundEven (x / 2 ^ spacing x) ≤ 2 ^ 53 := by
    apply roundEven_le
    rw [div_le_iff₀ scale, ← power]
    exact below.le
  rw [power, nearest]
  exact mul_le_mul_of_nonneg_right (by exact_mod_cast mantissa) scale.le

theorem two_zpow_le_nearest {x : ℚ} (positive : 0 < x) (normal : leastExponent < spacing x) :
    2 ^ (spacing x + 52) ≤ nearest x := by
  have scale : (0 : ℚ) < 2 ^ spacing x := by positivity
  have above : 2 ^ (spacing x + 52) ≤ x := by
    have place : spacing x + 52 = Int.log 2 x := by
      unfold spacing at normal ⊢
      omega
    rw [place]
    exact_mod_cast Int.zpow_log_le_self (by decide) positive
  have power : (2 : ℚ) ^ (spacing x + 52) = ((2 ^ 52 : ℤ) : ℚ) * 2 ^ spacing x := by
    rw [add_comm, zpow_add₀ (by norm_num)]
    norm_num
  have mantissa : 2 ^ 52 ≤ roundEven (x / 2 ^ spacing x) := by
    apply le_roundEven
    rw [le_div_iff₀ scale, ← power]
    exact above
  rw [power, nearest]
  exact mul_le_mul_of_nonneg_right (by exact_mod_cast mantissa) scale.le

theorem spacing_mono {x y : ℚ} (positive : 0 < x) (le : x ≤ y) : spacing x ≤ spacing y := by
  have log : Int.log 2 x ≤ Int.log 2 y := Int.log_mono_right positive le
  unfold spacing
  omega

/-- Numbers of one spacing are rounded on one grid; between two spacings lies a power of two that
both grids hold. -/
theorem nearest_mono {x y : ℚ} (nonneg : 0 ≤ x) (le : x ≤ y) : nearest x ≤ nearest y := by
  rcases nonneg.eq_or_lt with rfl | positive
  · rw [nearest_zero]
    exact nearest_nonneg le
  rcases (spacing_mono positive le).eq_or_lt with same | less
  · have scale : (0 : ℚ) < 2 ^ spacing x := by positivity
    have mantissa : roundEven (x / 2 ^ spacing x) ≤ roundEven (y / 2 ^ spacing x) :=
      roundEven_mono (div_le_div_of_nonneg_right le scale.le)
    rw [nearest, nearest, ← same]
    exact mul_le_mul_of_nonneg_right (by exact_mod_cast mantissa) scale.le
  · have normal : leastExponent < spacing y := lt_of_le_of_lt (le_max_left _ _) less
    calc nearest x ≤ 2 ^ (spacing x + 53) := nearest_le_two_zpow
      _ ≤ 2 ^ (spacing y + 52) := zpow_le_zpow_right₀ (by norm_num) (by omega)
      _ ≤ nearest y := two_zpow_le_nearest (positive.trans_le le) normal

theorem nearest_le_two_mul {x : ℚ} (atLeast : 1 ≤ x) : nearest x ≤ 2 * x := by
  have positive : 0 < x := by linarith
  have place : spacing x ≤ Int.log 2 x := by
    have log : 0 ≤ Int.log 2 x :=
      (Int.zpow_le_iff_le_log (by decide) positive).mp (by simpa using atLeast)
    have least : leastExponent ≤ 0 := by decide
    unfold spacing
    omega
  have step : (2 : ℚ) ^ spacing x ≤ x := by
    calc (2 : ℚ) ^ spacing x ≤ 2 ^ Int.log 2 x := zpow_le_zpow_right₀ (by norm_num) place
      _ ≤ x := by exact_mod_cast Int.zpow_log_le_self (by decide) positive
  have error := (abs_le.mp (abs_nearest_sub_le_spacing x)).2
  linarith

/-- The greatest finite binary number. -/
def greatest : ℚ := (2 ^ 53 - 1) * 2 ^ greatestExponent

theorem spacing_le_greatestExponent {x : ℚ} (positive : 0 < x) (le : x ≤ greatest) :
    spacing x ≤ greatestExponent := by
  have below : x < 2 ^ (greatestExponent + 53) := by
    have scale : (0 : ℚ) < 2 ^ greatestExponent := by positivity
    calc x ≤ (2 ^ 53 - 1) * 2 ^ greatestExponent := le
      _ < 2 ^ (53 : ℤ) * 2 ^ greatestExponent := by
        apply mul_lt_mul_of_pos_right _ scale
        norm_num
      _ = 2 ^ (greatestExponent + 53) := by
        rw [← zpow_add₀ (by norm_num), add_comm]
  have bound := spacing_le_of_lt positive below (by decide)
  omega

/-- A full mantissa at the greatest exponent does not carry. -/
theorem spacing_lt_greatestExponent {x : ℚ} (positive : 0 < x) (le : x ≤ greatest)
    (carries : roundEven (x / 2 ^ spacing x) = 2 ^ 53) : spacing x < greatestExponent := by
  rcases (spacing_le_greatestExponent positive le).lt_or_eq with less | equal
  · exact less
  · exfalso
    have scale : (0 : ℚ) < 2 ^ greatestExponent := by positivity
    have bound : roundEven (x / 2 ^ spacing x) ≤ 2 ^ 53 - 1 := by
      apply roundEven_le
      rw [equal, div_le_iff₀ scale]
      calc x ≤ (2 ^ 53 - 1) * 2 ^ greatestExponent := le
        _ = ((2 ^ 53 - 1 : ℤ) : ℚ) * 2 ^ greatestExponent := by norm_num
    omega

/-- The quotient is rounded to the nearest binary number if it is not beyond the greatest one. -/
theorem ofQuotient_eq_nearest (negative : Bool) (numerator denominator : Nat)
    (positive : 0 < denominator) (le : (numerator : ℚ) / denominator ≤ greatest) :
    ∃ mantissa exponent,
      ofQuotient negative numerator denominator = .finite negative mantissa exponent ∧
        (mantissa : ℚ) * 2 ^ exponent = nearest ((numerator : ℚ) / denominator) := by
  rcases Nat.eq_zero_or_pos numerator with rfl | numeratorPositive
  · refine ⟨0, leastExponent, by simp [ofQuotient], ?_⟩
    simp [nearest_zero]
  set x : ℚ := (numerator : ℚ) / denominator with quotient_eq
  have quotientPositive : 0 < x := by positivity
  obtain ⟨unitPositive, scaled⟩ :=
    scaleQuotient_spec numerator denominator positive (spacing x)
  have place : max leastExponent (quotientLog2 numerator denominator - (precision - 1 : Int)) =
      spacing x := by
    rw [quotientLog2_eq numeratorPositive positive]
    rfl
  have rounded := roundQuotient_eq (scaleQuotient numerator denominator (spacing x)).1
    (scaleQuotient numerator denominator (spacing x)).2 unitPositive
  rw [scaled, ← quotient_eq] at rounded
  have fits := spacing_le_greatestExponent quotientPositive le
  simp only [ofQuotient, numeratorPositive.ne', positive.ne', or_self, ↓reduceIte, place]
  by_cases carries : roundQuotient (scaleQuotient numerator denominator (spacing x)).1
      (scaleQuotient numerator denominator (spacing x)).2 = Nat.pow 2 precision
  · have full : roundEven (x / 2 ^ spacing x) = 2 ^ 53 := by
      rw [← rounded, carries]
      rfl
    have less := spacing_lt_greatestExponent quotientPositive le full
    refine ⟨Nat.pow 2 (precision - 1), spacing x + 1, ?_, ?_⟩
    · have inRange : ¬ greatestExponent < spacing x + 1 := by omega
      simp only [carries, ↓reduceIte, inRange]
    · rw [nearest, full, zpow_add_one₀ (by norm_num)]
      norm_num [precision]
      ring
  · refine ⟨roundQuotient (scaleQuotient numerator denominator (spacing x)).1
      (scaleQuotient numerator denominator (spacing x)).2, spacing x, ?_, ?_⟩
    · have inRange : ¬ greatestExponent < spacing x := by omega
      simp only [carries, ↓reduceIte, inRange]
    · rw [nearest, ← rounded]
      simp

theorem quotient_spec (mantissa : Nat) (exponent : ℤ) :
    0 < (quotient mantissa exponent).2 ∧
      ((quotient mantissa exponent).1 : ℚ) / (quotient mantissa exponent).2 =
        (mantissa : ℚ) * 2 ^ exponent := by
  unfold quotient
  by_cases nonneg : 0 ≤ exponent
  · obtain ⟨power, rfl⟩ := Int.eq_ofNat_of_zero_le nonneg
    simp [Nat.pow_eq]
  · obtain ⟨power, rfl⟩ : ∃ power : Nat, exponent = -power := ⟨exponent.natAbs, by omega⟩
    simp only [nonneg, ↓reduceIte, neg_neg, Int.toNat_natCast, Nat.pow_eq]
    refine ⟨by positivity, ?_⟩
    push_cast
    rw [zpow_neg, zpow_natCast, div_eq_mul_inv]

theorem exists_fraction?_ofQuotient (numerator denominator : Nat) (positive : 0 < denominator)
    (le : (numerator : ℚ) / denominator ≤ greatest) :
    ∃ rounded unit : Nat,
      (ofQuotient false numerator denominator).fraction? = some ((rounded : ℤ), unit) ∧ 0 < unit ∧
        (rounded : ℚ) / unit = nearest ((numerator : ℚ) / denominator) := by
  obtain ⟨mantissa, exponent, finite, value⟩ :=
    ofQuotient_eq_nearest false numerator denominator positive le
  obtain ⟨unitPositive, same⟩ := quotient_spec mantissa exponent
  refine ⟨(quotient mantissa exponent).1, (quotient mantissa exponent).2, ?_, unitPositive,
    same.trans value⟩
  rw [finite]
  rfl

end Binary64

end DartRoutes
