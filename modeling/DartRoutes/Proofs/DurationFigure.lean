import DartRoutes.Duration
import DartRoutes.Proofs.BinaryRounding
import Mathlib.Algebra.Order.Floor.Ring

/-!
# Durations in normal units and in order

The figure of a time is described by its exact number of seconds, with `nearest` for each rounded
operation. Every unit of a figure stays below the next one except just below a minute, where the
tenths round up to sixty seconds; and the minutes and seconds add up to the whole seconds as long as
the two roundings of the division by sixty stay within half a minute. Figures that are right in both
respects are in the order of their times.
-/

namespace DartRoutes

namespace Binary64

/-- The parts of a finite number of the format. -/
structure IsInFormat (mantissa : Nat) (exponent : Int) : Prop where
  mantissa_lt : mantissa < Nat.pow 2 precision
  least_le : leastExponent ≤ exponent
  le_greatest : exponent ≤ greatestExponent

theorem IsInFormat.mantissa_le {mantissa : Nat} {exponent : Int}
    (format : IsInFormat mantissa exponent) : (mantissa : ℚ) ≤ 2 ^ 53 - 1 := by
  have whole : mantissa ≤ 2 ^ 53 - 1 := Nat.le_pred_of_lt format.mantissa_lt
  have cast : (mantissa : ℚ) ≤ ((2 ^ 53 - 1 : Nat) : ℚ) := by exact_mod_cast whole
  norm_num at cast ⊢
  exact cast

theorem IsInFormat.value_le {mantissa : Nat} {exponent : Int}
    (format : IsInFormat mantissa exponent) : (mantissa : ℚ) * 2 ^ exponent ≤ greatest := by
  have power : (2 : ℚ) ^ exponent ≤ 2 ^ greatestExponent :=
    zpow_le_zpow_right₀ (by norm_num) format.le_greatest
  calc (mantissa : ℚ) * 2 ^ exponent ≤ (2 ^ 53 - 1) * 2 ^ exponent :=
        mul_le_mul_of_nonneg_right format.mantissa_le (by positivity)
    _ ≤ greatest := mul_le_mul_of_nonneg_left power (by norm_num)

/-- The greatest binary number below one is `1 - 2 ^ (-53)`. -/
theorem IsInFormat.value_le_of_lt_one {mantissa : Nat} {exponent : Int}
    (format : IsInFormat mantissa exponent) (below : (mantissa : ℚ) * 2 ^ exponent < 1) :
    (mantissa : ℚ) * 2 ^ exponent ≤ 1 - 2 ^ (-53 : ℤ) := by
  rcases le_or_gt exponent (-53) with small | large
  · have power : (2 : ℚ) ^ exponent ≤ 2 ^ (-53 : ℤ) := zpow_le_zpow_right₀ (by norm_num) small
    calc (mantissa : ℚ) * 2 ^ exponent ≤ (2 ^ 53 - 1) * 2 ^ (-53 : ℤ) :=
          mul_le_mul format.mantissa_le power (by positivity) (by norm_num)
      _ = 1 - 2 ^ (-53 : ℤ) := by norm_num
  · rcases Nat.eq_zero_or_pos mantissa with rfl | positive
    · norm_num
    -- The number is a multiple of `2 ^ exponent`, and so is one.
    have negative : exponent < 0 := by
      apply Int.not_le.mp
      intro nonneg
      have one : (1 : ℚ) ≤ mantissa := by exact_mod_cast positive
      have scale : (1 : ℚ) ≤ 2 ^ exponent := one_le_zpow₀ (by norm_num) nonneg
      have product : (1 : ℚ) * 1 ≤ mantissa * 2 ^ exponent :=
        mul_le_mul one scale (by norm_num) (by positivity)
      linarith
    obtain ⟨power, rfl⟩ : ∃ power : Nat, exponent = -power := ⟨exponent.natAbs, by omega⟩
    have scale : (0 : ℚ) < 2 ^ power := by positivity
    rw [zpow_neg, zpow_natCast] at below ⊢
    have less : mantissa + 1 ≤ 2 ^ power := by
      have product : (mantissa : ℚ) < 2 ^ power := by
        rwa [← div_eq_mul_inv, div_lt_one scale] at below
      exact_mod_cast product
    have lessRat : (mantissa : ℚ) + 1 ≤ 2 ^ power := by exact_mod_cast less
    have step : (2 : ℚ) ^ (-53 : ℤ) ≤ (2 ^ power)⁻¹ := by
      rw [← zpow_natCast, ← zpow_neg]
      exact zpow_le_zpow_right₀ (by norm_num) large.le
    have total : ((mantissa : ℚ) + 1) * (2 ^ power)⁻¹ ≤ 1 := by
      rw [← div_eq_mul_inv, div_le_one scale]
      exact lessRat
    linarith

/-- The whole number that a division ends with: the part behind the point counts beyond a half. -/
def snap (x : ℚ) : ℤ :=
  if 1 / 2 < Int.fract x then ⌊x⌋ + 1 else ⌊x⌋

theorem snap_eq_iff {x : ℚ} {number : ℤ} :
    snap x = number ↔ (number : ℚ) - 1 / 2 < x ∧ x ≤ number + 1 / 2 := by
  have split := Int.floor_add_fract x
  have nonneg := Int.fract_nonneg x
  have below := Int.fract_lt_one x
  unfold snap
  constructor
  · rintro rfl
    split_ifs <;> push_cast <;> constructor <;> linarith
  · rintro ⟨above, atMost⟩
    split_ifs with beyond
    · have lower : ⌊x⌋ < number := by exact_mod_cast (by linarith : (⌊x⌋ : ℚ) < number)
      have upper : number < ⌊x⌋ + 2 := by exact_mod_cast (by linarith : (number : ℚ) < ⌊x⌋ + 2)
      omega
    · have lower : ⌊x⌋ < number + 1 := by exact_mod_cast (by linarith : (⌊x⌋ : ℚ) < number + 1)
      have upper : number < ⌊x⌋ + 1 := by exact_mod_cast (by linarith : (number : ℚ) < ⌊x⌋ + 1)
      omega

theorem snap_natCast_div (numerator denominator : Nat) (positive : 0 < denominator) :
    snap ((numerator : ℚ) / denominator) =
      ((if denominator < 2 * (numerator % denominator) then numerator / denominator + 1
        else numerator / denominator : Nat) : ℤ) := by
  have floor : ⌊(numerator : ℚ) / denominator⌋ = ((numerator / denominator : Nat) : ℤ) :=
    Rat.floor_natCast_div_natCast numerator denominator
  simp only [snap, half_lt_fract_iff numerator denominator positive, floor]
  split_ifs <;> rfl

/-- The sixtieth part of sixty times a number, both rounded. -/
def roundedSixtieth (count : ℤ) : ℚ :=
  nearest (nearest (60 * count) / 60)

/-- Below `2 ^ 57` the multiple is moved by at most `8` and its sixtieth part by at most `1 / 4`. -/
theorem abs_roundedSixtieth_sub_lt {count : ℤ} (nonneg : 0 ≤ count)
    (below : (60 * count : ℚ) < 2 ^ 57) : |roundedSixtieth count - count| < 1 / 2 := by
  have nonnegRat : (0 : ℚ) ≤ 60 * count := by
    have cast : (0 : ℚ) ≤ count := by exact_mod_cast nonneg
    linarith
  have first := abs_nearest_sub_le nonnegRat (by exact_mod_cast below : _ < (2 : ℚ) ^ (57 : ℤ))
    (by decide)
  norm_num at first
  obtain ⟨firstLower, firstUpper⟩ := abs_le.mp first
  have nonnegPart : 0 ≤ nearest (60 * count) / 60 := by
    have multiple := nearest_nonneg nonnegRat
    positivity
  have belowPart : nearest (60 * count) / 60 < (2 : ℚ) ^ (52 : ℤ) := by
    rw [div_lt_iff₀ (by norm_num)]
    norm_num at below ⊢
    linarith
  have second := abs_nearest_sub_le nonnegPart belowPart (by decide)
  norm_num at second
  obtain ⟨secondLower, secondUpper⟩ := abs_le.mp second
  rw [abs_lt, roundedSixtieth]
  constructor <;> linarith

end Binary64

namespace Seconds

open Binary64

/-- The time is a whole number of seconds or a finite binary number, and this is its exact value. -/
inductive HasValue : Seconds → ℚ → Prop where
  | whole (count : ℤ) : HasValue (.whole count) count
  | binary (negative : Bool) {mantissa : Nat} {exponent : Int}
      (format : IsInFormat mantissa exponent) :
      HasValue (.binary (.finite negative mantissa exponent))
        ((if negative then -1 else 1) * (mantissa * 2 ^ exponent))

/-- The number of whole minutes that is shown of a time of `x` seconds. -/
def shownMinutes (x : ℚ) : Seconds → ℤ
  | .whole _ => ⌊x / 60⌋
  | .binary _ => snap (roundedSixtieth ⌊x / 60⌋)

/-- The minutes of a time of `x` seconds are counted exactly: those of a whole number always are,
and those of a binary number if the two roundings stay within half a minute. -/
def KeepsMinutes (x : ℚ) : Seconds → Prop
  | .whole _ => True
  | .binary _ =>
      (⌊x / 60⌋ : ℚ) - 1 / 2 < roundedSixtieth ⌊x / 60⌋ ∧
        roundedSixtieth ⌊x / 60⌋ ≤ ⌊x / 60⌋ + 1 / 2

theorem shownMinutes_eq_iff {time : Seconds} {x : ℚ} :
    time.shownMinutes x = ⌊x / 60⌋ ↔ time.KeepsMinutes x := by
  cases time with
  | whole count => simp [shownMinutes, KeepsMinutes]
  | binary number => exact snap_eq_iff

theorem keepsMinutes_of_lt (time : Seconds) {x : ℚ} (nonneg : 0 ≤ x) (below : x < 2 ^ 57) :
    time.KeepsMinutes x := by
  cases time with
  | whole count => trivial
  | binary number =>
      have minutes : 0 ≤ ⌊x / 60⌋ := Int.floor_nonneg.mpr (by positivity)
      have atMost : (60 * ⌊x / 60⌋ : ℚ) < 2 ^ 57 := by
        have floor := Int.floor_le (x / 60)
        linarith
      obtain ⟨lower, upper⟩ := abs_lt.mp (abs_roundedSixtieth_sub_lt minutes atMost)
      constructor <;> linarith

end Seconds

namespace Duration

open Binary64

/-- The seconds that a figure stands for. -/
def size : Duration → ℚ
  | .milliseconds count => count / 1000
  | .tenths count => count / 10
  | .minutes count seconds => 60 * count + seconds

/-- Each unit of the figure stays below the next one. -/
def IsInUnits : Duration → Prop
  | .milliseconds count => count ≤ 999
  | .tenths count => (count : ℚ) / 10 < 60
  | .minutes _ seconds => seconds < 60

/-- Minutes and seconds add up to the whole seconds of a time of `x` seconds. -/
def AddsUp (x : ℚ) : Duration → Prop
  | .milliseconds _ => True
  | .tenths _ => True
  | .minutes count seconds => ((count * 60 + seconds : Nat) : ℤ) = ⌊x⌋

/-- The figures of a time of `x` seconds, form by form. -/
inductive Shows (time : Seconds) (x : ℚ) : Duration → Prop where
  | milliseconds {count : Nat} (below : x < 1) (count_eq : (count : ℤ) = ⌊nearest (x * 1000)⌋)
      (count_le : count ≤ 999) : Shows time x (.milliseconds count)
  | tenths {count : Nat} (atLeast : 1 ≤ x) (below : x < 60)
      (count_eq : (count : ℤ) = roundEven (x * 10)) : Shows time x (.tenths count)
  | minutes {count seconds : Nat} (atLeast : 60 ≤ x)
      (count_eq : (count : ℤ) = time.shownMinutes x) (seconds_eq : (seconds : ℤ) = ⌊x⌋ % 60) :
      Shows time x (.minutes count seconds)

theorem thousand_le_greatest : 1000 ≤ greatest := by
  have power : (1 : ℚ) ≤ 2 ^ greatestExponent := one_le_zpow₀ (by norm_num) (by decide)
  unfold greatest
  linarith

theorem thousandfold_eq {numerator denominator : Nat} (positive : 0 < denominator)
    (below : (numerator : ℚ) / denominator < 1) :
    (thousandfold numerator denominator : ℤ) =
      ⌊nearest ((numerator : ℚ) / denominator * 1000)⌋ := by
  have product : ((numerator * 1000 : Nat) : ℚ) / denominator =
      (numerator : ℚ) / denominator * 1000 := by
    push_cast
    ring
  have fits : ((numerator * 1000 : Nat) : ℚ) / denominator ≤ greatest := by
    have large := thousand_le_greatest
    rw [product]
    linarith
  obtain ⟨mantissa, exponent, rounded, value⟩ :=
    ofQuotient_eq_nearest false (numerator * 1000) denominator positive fits
  have floor := Rat.floor_natCast_div_natCast (quotient mantissa exponent).1
    (quotient mantissa exponent).2
  rw [(quotient_spec mantissa exponent).2, value, product] at floor
  simp only [thousandfold, rounded]
  rw [floor]
  rfl

theorem sub_mod_div {numerator denominator : Nat} (positive : 0 < denominator) :
    ((numerator - numerator % (60 * denominator) : Nat) : ℚ) / denominator =
      60 * (⌊(numerator : ℚ) / denominator / 60⌋ : ℤ) := by
  have floor : ⌊(numerator : ℚ) / denominator / 60⌋ =
      ((numerator / (60 * denominator) : Nat) : ℤ) := by
    rw [div_div, mul_comm (denominator : ℚ)]
    exact_mod_cast Rat.floor_natCast_div_natCast numerator (60 * denominator)
  have multiple : numerator - numerator % (60 * denominator) =
      60 * denominator * (numerator / (60 * denominator)) := by
    have whole := Nat.div_add_mod numerator (60 * denominator)
    omega
  have nonzero : (denominator : ℚ) ≠ 0 := by positivity
  rw [multiple, floor, div_eq_iff nonzero]
  generalize numerator / (60 * denominator) = minutes
  push_cast
  ring

theorem wholeMinutes_eq {numerator denominator : Nat} (positive : 0 < denominator)
    (atLeast : 60 ≤ (numerator : ℚ) / denominator)
    (fits : (numerator : ℚ) / denominator ≤ greatest) :
    (wholeMinutes numerator denominator : ℤ) =
      snap (roundedSixtieth ⌊(numerator : ℚ) / denominator / 60⌋) := by
  set minutes : ℤ := ⌊(numerator : ℚ) / denominator / 60⌋ with minutes_eq
  have multiple := @sub_mod_div numerator denominator positive
  have floor := Int.floor_le ((numerator : ℚ) / denominator / 60)
  rw [← minutes_eq] at multiple floor
  have one : (1 : ℚ) ≤ minutes := by
    have whole : (1 : ℤ) ≤ minutes := Int.le_floor.mpr (by push_cast; linarith)
    exact_mod_cast whole
  obtain ⟨rounded, unit, rounded_eq, unitPositive, value⟩ :=
    exists_fraction?_ofQuotient (numerator - numerator % (60 * denominator)) denominator positive
      (by rw [multiple]; linarith)
  rw [multiple] at value
  have part : (rounded : ℚ) / (unit * 60 : Nat) = nearest (60 * minutes) / 60 := by
    push_cast
    rw [← div_div, value]
  have double := nearest_le_two_mul (by linarith : 1 ≤ 60 * (minutes : ℚ))
  obtain ⟨sixtieth, last, sixtieth_eq, lastPositive, lastValue⟩ :=
    exists_fraction?_ofQuotient rounded (unit * 60) (by omega) (by rw [part]; linarith)
  rw [part, ← roundedSixtieth] at lastValue
  rw [← lastValue, snap_natCast_div sixtieth last lastPositive]
  simp only [wholeMinutes, rounded_eq, Int.toNat_natCast, sixtieth_eq]

theorem roundQuotient_tenths {numerator denominator : Nat} (positive : 0 < denominator) :
    (roundQuotient (numerator * 10) denominator : ℤ) =
      roundEven ((numerator : ℚ) / denominator * 10) := by
  rw [roundQuotient_eq (numerator * 10) denominator positive]
  congr 1
  push_cast
  ring

theorem seconds_eq {numerator denominator : Nat} :
    ((numerator % (60 * denominator) / denominator : Nat) : ℤ) =
      ⌊(numerator : ℚ) / denominator⌋ % 60 := by
  rw [Rat.floor_natCast_div_natCast, Nat.mod_mul_left_div_self]
  rfl

/-- Of a binary number below one not more than 999 thousandths are shown: the distance to one is at
least `2 ^ (-53)`, and the product with a thousand is moved by at most `2 ^ (-44)`. -/
theorem floor_nearest_thousandfold_le {x : ℚ} (nonneg : 0 ≤ x) (le : x ≤ 1 - 2 ^ (-53 : ℤ)) :
    ⌊nearest (x * 1000)⌋ ≤ 999 := by
  have below : x * 1000 < (2 : ℚ) ^ (10 : ℤ) := by
    norm_num at le ⊢
    linarith
  have error := (abs_le.mp (abs_nearest_sub_le (by positivity) below (by decide))).2
  apply Int.lt_add_one_iff.mp
  apply Int.floor_lt.mpr
  norm_num at le error ⊢
  linarith

theorem ofFraction_shows {numerator denominator : Nat} (positive : 0 < denominator)
    (number : Binary64) (fits : (numerator : ℚ) / denominator ≤ greatest)
    (apart : (numerator : ℚ) / denominator < 1 →
      (numerator : ℚ) / denominator ≤ 1 - 2 ^ (-53 : ℤ)) :
    Shows (.binary number) ((numerator : ℚ) / denominator) (ofFraction numerator denominator) := by
  have positiveRat : (0 : ℚ) < denominator := by exact_mod_cast positive
  have nonneg : 0 ≤ (numerator : ℚ) / denominator := by positivity
  have second : numerator < denominator ↔ (numerator : ℚ) / denominator < 1 := by
    rw [div_lt_one positiveRat, Nat.cast_lt]
  have minute : numerator < 60 * denominator ↔ (numerator : ℚ) / denominator < 60 := by
    rw [div_lt_iff₀ positiveRat]
    exact_mod_cast Iff.rfl
  unfold ofFraction
  split_ifs with belowSecond belowMinute
  · have less := second.mp belowSecond
    have count := thousandfold_eq positive less
    have atMost := floor_nearest_thousandfold_le nonneg (apart less)
    exact .milliseconds less count (by omega)
  · exact .tenths (not_lt.mp (mt second.mpr belowSecond)) (minute.mp belowMinute)
      (roundQuotient_tenths positive)
  · have atLeast := not_lt.mp (mt minute.mpr belowMinute)
    exact .minutes atLeast (wholeMinutes_eq positive atLeast fits) seconds_eq

theorem ofWhole_shows (count : Nat) : Shows (.whole count) count (ofWhole count) := by
  unfold ofWhole
  split_ifs with belowSecond belowMinute
  · have none : count = 0 := by omega
    subst none
    exact .milliseconds (by norm_num) (by simp [nearest_zero]) (by decide)
  · refine .tenths (by exact_mod_cast Nat.not_lt.mp belowSecond) (by exact_mod_cast belowMinute) ?_
    have tenths : (count : ℚ) * 10 = ((count * 10 : ℤ) : ℚ) := by push_cast; rfl
    rw [tenths, roundEven_intCast]
    rfl
  · refine .minutes (by exact_mod_cast Nat.not_lt.mp belowMinute) ?_ ?_
    · exact (Rat.floor_natCast_div_natCast count 60).symm
    · simp

theorem exists_shows {time : Seconds} {x : ℚ} (value : time.HasValue x) (nonneg : 0 ≤ x) :
    ∃ figure, ofSeconds time = .ok figure ∧ Shows time x figure := by
  cases value with
  | whole count =>
      obtain ⟨natural, rfl⟩ := Int.eq_ofNat_of_zero_le (by exact_mod_cast nonneg)
      exact ⟨_, rfl, by simpa using ofWhole_shows natural⟩
  | @binary negative mantissa exponent format =>
      cases negative with
      | true =>
          -- A number with a sign is not negative only if it is zero.
          have zero : (mantissa : ℚ) * 2 ^ exponent = 0 := by
            have magnitude : 0 ≤ (mantissa : ℚ) * 2 ^ exponent := by positivity
            simp only [↓reduceIte] at nonneg
            linarith
          refine ⟨.milliseconds 0, rfl, ?_⟩
          rw [zero]
          exact .milliseconds (by norm_num) (by simp [nearest_zero]) (by decide)
      | false =>
          obtain ⟨unitPositive, same⟩ := quotient_spec mantissa exponent
          refine ⟨_, rfl, ?_⟩
          simp only [Bool.false_eq_true, ↓reduceIte, one_mul]
          rw [← same]
          apply ofFraction_shows unitPositive
          · rw [same]
            exact format.value_le
          · rw [same]
            exact format.value_le_of_lt_one

/-- Minutes and seconds add up to the whole seconds exactly when the minutes are exact. -/
theorem minutes_add_iff {x : ℚ} {minutes seconds : ℤ} (seconds_eq : seconds = ⌊x⌋ % 60) :
    minutes * 60 + seconds = ⌊x⌋ ↔ minutes = ⌊x / 60⌋ := by
  have minute : ⌊x / 60⌋ = ⌊x⌋ / 60 := Int.floor_div_natCast x 60
  omega

theorem roundEven_tenths_lt_iff {x : ℚ} : roundEven (x * 10) < 600 ↔ x < 59.95 := by
  constructor
  · intro less
    apply not_le.mp
    intro atLeast
    have middle : roundEven (1199 / 2) = 600 := by decide +kernel
    have most : roundEven (1199 / 2) ≤ roundEven (x * 10) :=
      roundEven_mono (by norm_num at atLeast ⊢; linarith)
    omega
  · intro less
    have error := (abs_le.mp (abs_roundEven_sub_le (x * 10))).2
    have most : (roundEven (x * 10) : ℚ) < (600 : ℤ) := by
      norm_num at less ⊢
      linarith
    exact_mod_cast most

namespace Shows

variable {time other : Seconds} {x y : ℚ} {figure later : Duration}

/-- Only the rounding of the tenths reaches the next unit, and it does from `59.95` on. -/
theorem isInUnits_iff (shown : Shows time x figure) :
    figure.IsInUnits ↔ x < 59.95 ∨ 60 ≤ x := by
  cases shown with
  | milliseconds below _ count_le =>
      constructor
      · intro _
        apply Or.inl
        norm_num
        linarith
      · intro _
        exact count_le
  | @tenths count _ below count_eq =>
      have unit : (Duration.tenths count).IsInUnits ↔ x < 59.95 := by
        rw [← roundEven_tenths_lt_iff, ← count_eq, IsInUnits, div_lt_iff₀ (by norm_num)]
        norm_num
      rw [unit]
      constructor
      · exact Or.inl
      · intro side
        exact side.resolve_right (not_le.mpr below)
  | @minutes count seconds atLeast _ seconds_eq =>
      have less : seconds < 60 := by omega
      exact ⟨fun _ => .inr atLeast, fun _ => less⟩

theorem addsUp_iff (nonneg : 0 ≤ x) (shown : Shows time x figure) :
    figure.AddsUp x ↔ time.KeepsMinutes x := by
  cases shown with
  | milliseconds below =>
      have keeps := time.keepsMinutes_of_lt nonneg (by linarith)
      exact iff_of_true trivial keeps
  | tenths _ below =>
      have keeps := time.keepsMinutes_of_lt nonneg (by linarith)
      exact iff_of_true trivial keeps
  | minutes _ count_eq seconds_eq =>
      rw [← Seconds.shownMinutes_eq_iff, ← count_eq, ← minutes_add_iff seconds_eq, AddsUp]
      push_cast
      rfl

theorem size_eq_thousandths (shown : Shows time x figure) (below : x < 1) :
    figure.size = (⌊nearest (x * 1000)⌋ : ℚ) / 1000 ∧ figure.size < 1 := by
  cases shown with
  | @milliseconds count _ count_eq count_le =>
      have atMost : (count : ℚ) ≤ 999 := by exact_mod_cast count_le
      rw [← count_eq, size, div_lt_one (by norm_num)]
      exact ⟨rfl, by linarith⟩
  | tenths atLeast => linarith
  | minutes atLeast => linarith

theorem size_eq_tenths (shown : Shows time x figure) (atLeast : 1 ≤ x) (below : x < 60) :
    figure.size = (roundEven (x * 10) : ℚ) / 10 := by
  cases shown with
  | milliseconds less => linarith
  | tenths _ _ count_eq =>
      rw [← count_eq, size]
      rfl
  | minutes minute => linarith

/-- The minutes and seconds stand for the whole seconds if the minutes are exact. -/
theorem size_eq_floor (shown : Shows time x figure) (keeps : time.KeepsMinutes x)
    (atLeast : 60 ≤ x) : figure.size = ⌊x⌋ := by
  cases shown with
  | milliseconds below => linarith
  | tenths _ below => linarith
  | @minutes count seconds _ count_eq seconds_eq =>
      have counted : (count : ℤ) = ⌊x / 60⌋ :=
        count_eq.trans (Seconds.shownMinutes_eq_iff.mpr keeps)
      have total := (minutes_add_iff seconds_eq).mpr counted
      have cast : ((count * 60 + seconds : ℤ) : ℚ) = ⌊x⌋ := by exact_mod_cast total
      rw [size, ← cast]
      push_cast
      ring

theorem one_le_size (shown : Shows time x figure) (keeps : time.KeepsMinutes x)
    (atLeast : 1 ≤ x) : 1 ≤ figure.size := by
  rcases lt_or_ge x 60 with below | minute
  · have tenths : 10 ≤ roundEven (x * 10) := le_roundEven (by push_cast; linarith)
    have tenthsRat : (10 : ℚ) ≤ roundEven (x * 10) := by exact_mod_cast tenths
    rw [shown.size_eq_tenths atLeast below]
    linarith
  · have whole : 1 ≤ ⌊x⌋ := Int.le_floor.mpr (by push_cast; exact atLeast)
    rw [shown.size_eq_floor keeps minute]
    exact_mod_cast whole

/-- Times are in the order of their figures: within a form every rounding is monotone, and between
two forms lies a second or a minute. -/
theorem size_le_size (shown : Shows time x figure) (shownLater : Shows other y later)
    (nonneg : 0 ≤ x) (le : x ≤ y) (keeps : time.KeepsMinutes x)
    (keepsLater : other.KeepsMinutes y) : figure.size ≤ later.size := by
  rcases lt_or_ge x 1 with belowSecond | second
  · obtain ⟨size_eq, less⟩ := shown.size_eq_thousandths belowSecond
    rcases lt_or_ge y 1 with laterBelow | laterSecond
    · have counts : ⌊nearest (x * 1000)⌋ ≤ ⌊nearest (y * 1000)⌋ :=
        Int.floor_le_floor (nearest_mono (by positivity) (by linarith))
      have countsRat : (⌊nearest (x * 1000)⌋ : ℚ) ≤ ⌊nearest (y * 1000)⌋ := by
        exact_mod_cast counts
      rw [size_eq, (shownLater.size_eq_thousandths laterBelow).1]
      linarith
    · exact less.le.trans (shownLater.one_le_size keepsLater laterSecond)
  rcases lt_or_ge x 60 with belowMinute | minute
  · rw [shown.size_eq_tenths second belowMinute]
    rcases lt_or_ge y 60 with laterBelow | laterMinute
    · have tenths : roundEven (x * 10) ≤ roundEven (y * 10) := roundEven_mono (by linarith)
      have tenthsRat : (roundEven (x * 10) : ℚ) ≤ roundEven (y * 10) := by exact_mod_cast tenths
      rw [shownLater.size_eq_tenths (second.trans le) laterBelow]
      linarith
    · have tenths : roundEven (x * 10) ≤ 600 := roundEven_le (by push_cast; linarith)
      have tenthsRat : (roundEven (x * 10) : ℚ) ≤ 600 := by exact_mod_cast tenths
      have whole : 60 ≤ ⌊y⌋ := Int.le_floor.mpr (by push_cast; exact laterMinute)
      have wholeRat : (60 : ℚ) ≤ ⌊y⌋ := by exact_mod_cast whole
      rw [shownLater.size_eq_floor keepsLater laterMinute]
      linarith
  · have whole : ⌊x⌋ ≤ ⌊y⌋ := Int.floor_le_floor le
    rw [shown.size_eq_floor keeps minute, shownLater.size_eq_floor keepsLater (minute.trans le)]
    exact_mod_cast whole

end Shows

/-- Two times, one not later than the other, have figures. The units of a figure are normal exactly
when its time does not lie in the last twentieth of a second below a minute; its minutes and seconds
add up exactly when the minutes are counted exactly, as they always are below `2 ^ 57` seconds; and
the figures are in the order of their times if the minutes of both are. -/
theorem units_and_order_iff {first second : Seconds} {x y : ℚ} (value : first.HasValue x)
    (valueLater : second.HasValue y) (nonneg : 0 ≤ x) (le : x ≤ y) :
    ∃ shown later, ofSeconds first = .ok shown ∧ ofSeconds second = .ok later ∧
      (shown.IsInUnits ↔ x < 59.95 ∨ 60 ≤ x) ∧ (later.IsInUnits ↔ y < 59.95 ∨ 60 ≤ y) ∧
      (shown.AddsUp x ↔ first.KeepsMinutes x) ∧ (later.AddsUp y ↔ second.KeepsMinutes y) ∧
      (x < 2 ^ 57 → first.KeepsMinutes x) ∧ (y < 2 ^ 57 → second.KeepsMinutes y) ∧
      (first.KeepsMinutes x → second.KeepsMinutes y → shown.size ≤ later.size) := by
  have nonnegLater := nonneg.trans le
  obtain ⟨shown, shown_eq, shows_first⟩ := exists_shows value nonneg
  obtain ⟨later, later_eq, shows_second⟩ := exists_shows valueLater nonnegLater
  refine ⟨shown, later, shown_eq, later_eq, shows_first.isInUnits_iff, shows_second.isInUnits_iff,
    shows_first.addsUp_iff nonneg, shows_second.addsUp_iff nonnegLater,
    first.keepsMinutes_of_lt nonneg, second.keepsMinutes_of_lt nonnegLater, ?_⟩
  exact shows_first.size_le_size shows_second nonneg le

/-- The binary number next to 65.2 is shown as one minute and five seconds, before two minutes. -/
theorem units_and_order_iff_twoMinutes :
    (minutes 1 5).IsInUnits ∧ (minutes 2 0).IsInUnits ∧
      (minutes 1 5).AddsUp (4588042120383693 * 2 ^ (-46 : ℤ)) ∧ (minutes 2 0).AddsUp 120 ∧
      (minutes 1 5).size ≤ (minutes 2 0).size := by
  have value : (Seconds.binary (.finite false 4588042120383693 (-46))).HasValue
      (4588042120383693 * 2 ^ (-46 : ℤ)) := by
    simpa using Seconds.HasValue.binary false
      (⟨by decide, by decide, by decide⟩ : IsInFormat 4588042120383693 (-46))
  have valueLater : (Seconds.whole 120).HasValue 120 := Seconds.HasValue.whole 120
  obtain ⟨shown, later, shown_eq, later_eq, units, unitsLater, total, totalLater, keeps, -,
    ordered⟩ := units_and_order_iff value valueLater (by positivity) (by norm_num)
  have first : ofSeconds (.binary (.finite false 4588042120383693 (-46))) = .ok (.minutes 1 5) := by
    decide +kernel
  have second : ofSeconds (.whole 120) = .ok (.minutes 2 0) := rfl
  cases shown_eq.symm.trans first
  cases later_eq.symm.trans second
  have exactMinutes := keeps (by norm_num)
  exact ⟨units.mpr (by norm_num), unitsLater.mpr (by norm_num), total.mpr exactMinutes,
    totalLater.mpr trivial, ordered exactMinutes trivial⟩

/-- The binary number next to 59.96 is shown as sixty seconds. -/
theorem not_forall_units_and_order :
    ¬ ∀ (first second : Seconds) (x y : ℚ), first.HasValue x → second.HasValue y → 0 ≤ x → x ≤ y →
      ∃ shown later, ofSeconds first = .ok shown ∧ ofSeconds second = .ok later ∧
        shown.IsInUnits ∧ later.IsInUnits ∧ shown.AddsUp x ∧ later.AddsUp y ∧
          shown.size ≤ later.size := by
  intro claim
  have value := Seconds.HasValue.binary false (⟨by decide, by decide, by decide⟩ :
    IsInFormat 8438619801785467 (-47))
  obtain ⟨shown, -, shown_eq, -, units, -⟩ :=
    claim _ _ _ _ value value (by norm_num) le_rfl
  have sixty : ofSeconds (.binary (.finite false 8438619801785467 (-47))) = .ok (.tenths 600) := by
    decide +kernel
  cases shown_eq.symm.trans sixty
  norm_num [IsInUnits] at units

/-- From `2 ^ 57` seconds on a minute can be lost in the division, and a later time is shown with
fewer seconds. -/
example :
    [4503599627370502, 4503599627370503].map
        (fun mantissa => ofSeconds (.binary (.finite false mantissa 5))) =
      [.ok (.minutes 2401919801264267 44), .ok (.minutes 2401919801264267 16)] := by
  decide +kernel

end Duration

end DartRoutes
