import DocStore.Number.Double
import Mathlib.Algebra.Order.Field.Power
import Mathlib.Data.Nat.Cast.Order.Field
import Mathlib.Tactic.FieldSimp
import Mathlib.Tactic.Linarith
import Mathlib.Tactic.NormNum
import Mathlib.Tactic.Positivity
import Mathlib.Tactic.Ring

/-!
# Rounding to finite doubles

A rational has a nearest finite double when it lies below the limit half a step above the greatest
of them. At the limit the tie goes to the even side, which is no finite double.
-/

namespace DocStore.Double

/-- Half a step above the greatest finite double. -/
def limit : ℚ := 2 ^ 1024 - 2 ^ 970

theorem limit_eq : limit = (2 ^ 54 - 1) * 2 ^ (970 : ℤ) := by
  have power : (2 : ℚ) ^ 1024 = 2 ^ 54 * 2 ^ 970 := by rw [← pow_add]
  have exponent : (2 : ℚ) ^ (970 : ℤ) = 2 ^ 970 := zpow_natCast 2 970
  rw [limit, power, exponent, sub_mul, one_mul]

/-! ## Rounding to an integer -/

theorem roundHalfEven_bounds (num den : Nat) :
    num / den ≤ roundHalfEven num den ∧ roundHalfEven num den ≤ num / den + 1 := by
  simp only [roundHalfEven]
  split
  · omega
  · split <;> omega

section Round

variable {num den : Nat} (positive : 0 < den)

include positive

theorem div_lt_iff (bound : Nat) : num / den < bound ↔ (num / den : ℚ) < bound := by
  have den_pos : (0 : ℚ) < den := by exact_mod_cast positive
  rw [Nat.div_lt_iff_lt_mul positive, div_lt_iff₀ den_pos]
  norm_cast

theorem roundHalfEven_le {bound : Nat} (below : (num / den : ℚ) < bound) :
    roundHalfEven num den ≤ bound := by
  have quotient := (div_lt_iff positive bound).mpr below
  have upper := (roundHalfEven_bounds num den).2
  omega

theorem le_roundHalfEven {bound : Nat} (above : (bound : ℚ) ≤ num / den) :
    bound ≤ roundHalfEven num den := by
  have quotient : bound ≤ num / den := by
    by_contra small
    exact absurd ((div_lt_iff positive bound).mp (not_le.mp small)) (not_lt.mpr above)
  exact quotient.trans (roundHalfEven_bounds num den).1

/-- Below an even number, everything is rounded to it that is nearer to it or ties with it. -/
theorem roundHalfEven_lt_iff {bound : Nat} (even : bound % 2 = 0) :
    roundHalfEven num den < bound ↔ (num / den : ℚ) < bound - 1 / 2 := by
  have den_pos : (0 : ℚ) < den := by exact_mod_cast positive
  have crossed : (num / den : ℚ) < bound - 1 / 2 ↔ 2 * num + den < 2 * (bound * den) := by
    rw [div_lt_iff₀ den_pos]
    constructor
    · intro below
      have doubled : (2 * num + den : ℚ) < 2 * (bound * den) := by linarith
      exact_mod_cast doubled
    · intro below
      have doubled : (2 * num + den : ℚ) < 2 * (bound * den) := by exact_mod_cast below
      linarith
  rw [crossed]
  have split : den * (num / den) + num % den = num := Nat.div_add_mod num den
  have rest_lt : num % den < den := Nat.mod_lt num positive
  have bounds := roundHalfEven_bounds num den
  rcases lt_trichotomy (num / den + 1) bound with below | middle | above
  · have room : (num / den + 2) * den ≤ bound * den := Nat.mul_le_mul_right den below
    rw [Nat.add_mul, Nat.mul_comm (num / den) den] at room
    omega
  · -- The quotient is odd, so a tie is rounded up.
    subst middle
    rw [Nat.add_mul, Nat.mul_comm (num / den) den]
    simp only [roundHalfEven]
    split
    · omega
    · split <;> omega
  · have exceeds : bound * den ≤ num / den * den :=
      Nat.mul_le_mul_right den (Nat.le_of_lt_succ above)
    rw [Nat.mul_comm (num / den) den] at exceeds
    omega

end Round

/-! ## Rounding to a rank -/

theorem rescale_den_pos {num den : Nat} (positive : 0 < den) (scale : Int) :
    0 < (rescale num den scale).2 := by
  rw [rescale]
  split
  · exact Nat.mul_pos positive (Nat.pow_pos (by decide))
  · exact positive

theorem rescale_value (num den : Nat) (scale : Int) :
    ((rescale num den scale).1 / (rescale num den scale).2 : ℚ) * 2 ^ scale = num / den := by
  have power_ne : (2 : ℚ) ^ scale ≠ 0 := zpow_ne_zero scale two_ne_zero
  rw [rescale]
  split
  · next upwards =>
      have power : ((Nat.pow 2 scale.toNat : Nat) : ℚ) = 2 ^ scale := by
        rw [Nat.pow_eq, Nat.cast_pow, ← zpow_natCast, Int.toNat_of_nonneg upwards]
        rfl
      rw [Nat.cast_mul, power, div_mul_eq_mul_div, mul_div_mul_right _ _ power_ne]
  · next downwards =>
      have power : ((Nat.pow 2 (-scale).toNat : Nat) : ℚ) * 2 ^ scale = 1 := by
        rw [Nat.pow_eq, Nat.cast_pow, ← zpow_natCast, Int.toNat_of_nonneg (by omega), zpow_neg]
        exact inv_mul_cancel₀ power_ne
      rw [Nat.cast_mul, div_mul_eq_mul_div, mul_assoc, power, mul_one]

theorem log2_bounds {n : Nat} (nonzero : n ≠ 0) :
    (2 : ℚ) ^ (n.log2 : ℤ) ≤ n ∧ (n : ℚ) < 2 ^ (n.log2 + 1 : ℤ) := by
  constructor
  · rw [zpow_natCast]
    exact_mod_cast Nat.log2_self_le nonzero
  · have upper : n < 2 ^ (n.log2 + 1) := Nat.lt_log2_self
    have power : (2 : ℚ) ^ (n.log2 + 1 : ℤ) = ((2 ^ (n.log2 + 1) : Nat) : ℚ) := by
      push_cast
      exact_mod_cast zpow_natCast (2 : ℚ) (n.log2 + 1)
    rw [power]
    exact_mod_cast upper

/-- The exponent of the step between doubles around a fraction, as far as its logarithm tells. -/
def scaleOf (num den : Nat) : Int := max (-1074) ((num.log2 : Int) - den.log2 - 53)

/-- The fraction in units of two steps or less. -/
def scaled (num den : Nat) : Nat × Nat := rescale num den (scaleOf num den)

section Rank

variable {num den : Nat} (nonzero : num ≠ 0) (positive : 0 < den)

include nonzero positive

/-- A scaled fraction lies in the two binades of a significand, or below them at the least scale. -/
theorem scaled_bounds :
    (num / den : ℚ) < 2 ^ 54 * 2 ^ scaleOf num den ∧
    (-1074 < scaleOf num den → 2 ^ 52 * 2 ^ scaleOf num den ≤ (num / den : ℚ)) := by
  have den_pos : (0 : ℚ) < den := by exact_mod_cast positive
  obtain ⟨numLower, numUpper⟩ := log2_bounds nonzero
  obtain ⟨denLower, denUpper⟩ := log2_bounds positive.ne'
  have power (m n : Int) : (2 : ℚ) ^ m * 2 ^ n = 2 ^ (m + n) := (zpow_add₀ two_ne_zero m n).symm
  have grows {m n : Int} (le : m ≤ n) : (2 : ℚ) ^ m ≤ 2 ^ n :=
    zpow_le_zpow_right₀ one_le_two le
  constructor
  · rw [div_lt_iff₀ den_pos]
    have room : (num.log2 : Int) + 1 ≤ 54 + scaleOf num den + den.log2 := by
      rw [scaleOf]
      omega
    calc (num : ℚ) < 2 ^ (num.log2 + 1 : ℤ) := numUpper
      _ ≤ 2 ^ (54 + scaleOf num den + den.log2) := grows room
      _ = 2 ^ 54 * 2 ^ scaleOf num den * 2 ^ (den.log2 : ℤ) := by
        rw [← power (54 + scaleOf num den), ← power 54]
        rfl
      _ ≤ 2 ^ 54 * 2 ^ scaleOf num den * den := by gcongr
  · intro aboveLeast
    rw [le_div_iff₀ den_pos]
    have exact_scale : 52 + scaleOf num den + (den.log2 + 1) = num.log2 := by
      rw [scaleOf] at aboveLeast ⊢
      omega
    calc 2 ^ 52 * 2 ^ scaleOf num den * (den : ℚ)
        ≤ 2 ^ 52 * 2 ^ scaleOf num den * 2 ^ (den.log2 + 1 : ℤ) := by gcongr
      _ = 2 ^ (52 + scaleOf num den + (den.log2 + 1)) := by
        rw [← power (52 + scaleOf num den), ← power 52]
        rfl
      _ = 2 ^ (num.log2 : ℤ) := by rw [exact_scale]
      _ ≤ num := numLower

end Rank

/-! ## The greatest ranks

With a fraction of at most 54 binary digits in front of the point, its rank stays below the greatest
ranks as long as its exponent does, and passes them where its exponent does. -/

theorem small_product {x bound power unit : ℚ} (nonneg : 0 ≤ x) (below : x < bound)
    (positive : 0 < unit) (small : power ≤ unit) : x * power < bound * unit :=
  calc x * power ≤ x * unit := mul_le_mul_of_nonneg_left small nonneg
    _ < bound * unit := mul_lt_mul_of_pos_right below positive

theorem great_product {x bound power unit : ℚ} (nonneg : 0 ≤ bound) (above : bound ≤ x)
    (positive : 0 < unit) (great : unit ≤ power) : bound * unit ≤ x * power :=
  mul_le_mul above great positive.le (nonneg.trans above)

theorem two_zpow_le {m n : Int} (le : m ≤ n) : (2 : ℚ) ^ m ≤ 2 ^ n :=
  zpow_le_zpow_right₀ one_le_two le

section Fraction

variable {n d : Nat} (positive : 0 < d) {scale : Int}

include positive

/-- The rank of a fraction with at most 53 digits in front of the point. -/
theorem fractionRank_lt_iff (short : n / d < 2 * binade)
    (long : -1074 < scale → (2 : ℚ) ^ 52 ≤ n / d) :
    (scale + 1074).toNat * binade + roundHalfEven n d < 2047 * binade ↔
      (n / d : ℚ) * 2 ^ scale < limit := by
  have nonneg : (0 : ℚ) ≤ n / d := by positivity
  have unit_pos : (0 : ℚ) < 2 ^ (970 : ℤ) := by positivity
  have below := (div_lt_iff positive _).mp short
  have double : ((2 * binade : Nat) : ℚ) = 2 ^ 53 := by norm_num [binade]
  rw [limit_eq]
  rcases lt_trichotomy scale 971 with less | rfl | more
  · have rank_le := roundHalfEven_le positive below
    have value_lt := small_product nonneg below unit_pos (two_zpow_le (Int.le_of_lt_add_one less))
    have room : ((2 * binade : Nat) : ℚ) ≤ 2 ^ 54 - 1 := by norm_num [binade]
    refine iff_of_true ?_ (value_lt.trans_le (mul_le_mul_of_nonneg_right room unit_pos.le))
    simp only [binade] at rank_le ⊢
    omega
  · have halves : (n / d : ℚ) * 2 ^ (971 : ℤ) = 2 * (n / d) * 2 ^ (970 : ℤ) := by
      rw [show (971 : ℤ) = 970 + 1 from rfl, zpow_add_one₀ two_ne_zero]
      ring
    have rank : ((971 : Int) + 1074).toNat * binade + roundHalfEven n d < 2047 * binade ↔
        roundHalfEven n d < 2 * binade := by
      simp only [binade]
      omega
    rw [rank, roundHalfEven_lt_iff positive rfl, double, halves, mul_lt_mul_iff_left₀ unit_pos]
    constructor <;> intro <;> linarith
  · have significand := long (by omega)
    have rank_ge : binade ≤ roundHalfEven n d :=
      le_roundHalfEven positive (by norm_num [binade] at significand ⊢; exact significand)
    have value_ge := great_product (by positivity) significand (by positivity) (two_zpow_le more)
    have quarter : (2 : ℚ) ^ ((971 : ℤ) + 1) = 4 * 2 ^ (970 : ℤ) := by
      have four : (2 : ℚ) ^ (2 : ℤ) = 4 := by norm_num
      rw [show (971 : ℤ) + 1 = 2 + 970 from rfl, zpow_add₀ two_ne_zero, four]
    have exceeds : ((2 : ℚ) ^ 54 - 1) * 2 ^ (970 : ℤ) ≤ 2 ^ 52 * 2 ^ ((971 : ℤ) + 1) := by
      rw [quarter]
      generalize (2 : ℚ) ^ (970 : ℤ) = unit at unit_pos
      linarith
    refine iff_of_false ?_ (not_lt.mpr (exceeds.trans value_ge))
    simp only [binade] at rank_ge ⊢
    omega

end Fraction

theorem nearestRank_of_ne_zero {num : Nat} (nonzero : num ≠ 0) (den : Nat) :
    nearestRank num den =
      if (scaled num den).1 / (scaled num den).2 < 2 * binade then
        (scaleOf num den + 1074).toNat * binade +
          roundHalfEven (scaled num den).1 (scaled num den).2
      else
        (scaleOf num den + 1075).toNat * binade +
          roundHalfEven (scaled num den).1 (2 * (scaled num den).2) := by
  rw [nearestRank, if_neg nonzero]
  rfl

/-- A fraction is rounded to a finite double when it lies below the limit. -/
theorem nearestRank_lt_iff {num den : Nat} (positive : 0 < den) :
    nearestRank num den < 2047 * binade ↔ (num / den : ℚ) < limit := by
  by_cases zero : num = 0
  · subst zero
    have limit_pos : (0 : ℚ) < limit := by
      rw [limit_eq]
      positivity
    rw [nearestRank, if_pos rfl, Nat.cast_zero, zero_div]
    exact iff_of_true (by decide) limit_pos
  obtain ⟨upper, lower⟩ := scaled_bounds zero positive
  have den_pos : 0 < (scaled num den).2 := rescale_den_pos positive _
  have value : ((scaled num den).1 / (scaled num den).2 : ℚ) * 2 ^ scaleOf num den = num / den :=
    rescale_value num den _
  have power_pos : (0 : ℚ) < 2 ^ scaleOf num den := by positivity
  rw [nearestRank_of_ne_zero zero]
  rw [← value] at upper lower ⊢
  rw [mul_lt_mul_iff_left₀ power_pos] at upper
  rw [mul_le_mul_iff_left₀ power_pos] at lower
  generalize (scaled num den).1 = n at *
  generalize (scaled num den).2 = d at *
  generalize scaleOf num den = scale at *
  split
  · next short => exact fractionRank_lt_iff den_pos short lower
  · next carries =>
      -- One digit more in front of the point: half the fraction, at the next exponent.
      have half_pos : 0 < 2 * d := by omega
      have half : (n / (2 * d : Nat) : ℚ) = n / d / 2 := by
        rw [Nat.cast_mul, Nat.cast_ofNat, mul_comm, div_mul_eq_div_div]
      have next_scale : scale + 1075 = scale + 1 + 1074 := by ring
      have next_value : (n / d : ℚ) * 2 ^ scale = n / (2 * d : Nat) * 2 ^ (scale + 1) := by
        rw [half, zpow_add_one₀ two_ne_zero]
        ring
      have double : ((2 * binade : Nat) : ℚ) = 2 ^ 53 := by norm_num [binade]
      have short : n / (2 * d) < 2 * binade := by
        rw [div_lt_iff half_pos, half, double]
        linarith
      have long : (2 : ℚ) ^ 52 ≤ n / (2 * d : Nat) := by
        rw [div_lt_iff den_pos, double] at carries
        rw [half]
        linarith
      rw [next_scale, next_value]
      exact fractionRank_lt_iff half_pos short fun _ => long

theorem ofRatio?_isSome_iff (negative : Bool) {num den : Nat} (positive : 0 < den) :
    (ofRatio? negative num den).isSome ↔ (num / den : ℚ) < limit := by
  rw [← nearestRank_lt_iff positive, ofRatio?]
  split <;> simp_all

/-! ## Decimals -/

theorem one_le_limit : 1 ≤ limit := by
  have unit : (1 : ℚ) ≤ 2 ^ (970 : ℤ) := one_le_zpow₀ one_le_two (by decide)
  rw [limit_eq]
  exact one_le_mul_of_one_le_of_one_le (by norm_num) unit

theorem limit_lt_ten_pow : limit < 10 ^ 401 := by
  have unit_pos : (0 : ℚ) < 2 ^ 970 := by positivity
  calc limit < 2 ^ 1024 := sub_lt_self _ unit_pos
    _ ≤ 2 ^ (3 * 401) := pow_le_pow_right₀ one_le_two (by decide)
    _ = (2 ^ 3) ^ 401 := pow_mul 2 3 401
    _ ≤ 10 ^ 401 := pow_le_pow_left₀ (by norm_num) (by norm_num) 401

/-- A third of the binary digits are no more than the decimal digits. -/
theorem lt_ten_pow (digits : Nat) : (digits : ℚ) < 10 ^ (digits.log2 / 3 + 1) := by
  have binary : digits < 2 ^ (digits.log2 + 1) := Nat.lt_log2_self
  calc (digits : ℚ) < 2 ^ (digits.log2 + 1) := by exact_mod_cast binary
    _ ≤ 2 ^ (3 * (digits.log2 / 3 + 1)) := pow_le_pow_right₀ one_le_two (by omega)
    _ = (2 ^ 3) ^ (digits.log2 / 3 + 1) := pow_mul 2 3 _
    _ ≤ 10 ^ (digits.log2 / 3 + 1) := pow_le_pow_left₀ (by norm_num) (by norm_num) _

/-- A decimal has a nearest finite double when it lies below the limit. -/
theorem ofDecimal?_isSome_iff (negative : Bool) (digits : Nat) (exponent : Int) :
    (ofDecimal? negative digits exponent).isSome ↔ (digits : ℚ) * 10 ^ exponent < limit := by
  have power_pos : (0 : ℚ) < 10 ^ exponent := by positivity
  rw [ofDecimal?]
  split
  · next zero =>
      subst zero
      rw [Nat.cast_zero, zero_mul]
      exact iff_of_true rfl (one_pos.trans_le one_le_limit)
  · next nonzero =>
      split
      · next great =>
          have one_le : (1 : ℚ) ≤ digits := by exact_mod_cast Nat.one_le_iff_ne_zero.mpr nonzero
          have exceeds : limit < digits * 10 ^ exponent :=
            calc limit < 10 ^ 401 := limit_lt_ten_pow
              _ = 10 ^ (401 : ℤ) := (zpow_natCast 10 401).symm
              _ ≤ 10 ^ exponent := zpow_le_zpow_right₀ (by norm_num) great
              _ ≤ digits * 10 ^ exponent := le_mul_of_one_le_left power_pos.le one_le
          exact iff_of_false nofun (not_lt.mpr exceeds.le)
      · split
        · next small =>
            have under : (digits : ℚ) * 10 ^ exponent < limit :=
              calc (digits : ℚ) * 10 ^ exponent
                  < 10 ^ (digits.log2 / 3 + 1) * 10 ^ exponent := by
                    exact mul_lt_mul_of_pos_right (lt_ten_pow digits) power_pos
                _ = 10 ^ (((digits.log2 / 3 + 1 : Nat) : ℤ) + exponent) := by
                    rw [zpow_add₀ (by norm_num), zpow_natCast]
                _ ≤ 10 ^ (0 : ℤ) := zpow_le_zpow_right₀ (by norm_num) (by push_cast; omega)
                _ ≤ limit := by rw [zpow_zero]; exact one_le_limit
            exact iff_of_true rfl under
        · split
          · next upwards =>
              have power : ((Nat.pow 10 exponent.toNat : Nat) : ℚ) = 10 ^ exponent := by
                rw [Nat.pow_eq, Nat.cast_pow, ← zpow_natCast, Int.toNat_of_nonneg upwards]
                rfl
              rw [ofRatio?_isSome_iff negative one_pos, Nat.cast_mul, power, Nat.cast_one, div_one]
          · next downwards =>
              have power : ((Nat.pow 10 (-exponent).toNat : Nat) : ℚ) = (10 ^ exponent)⁻¹ := by
                rw [Nat.pow_eq, Nat.cast_pow, ← zpow_natCast, Int.toNat_of_nonneg (by omega),
                  zpow_neg]
                rfl
              have den_pos : 0 < Nat.pow 10 (-exponent).toNat := Nat.pow_pos (by decide)
              rw [ofRatio?_isSome_iff negative den_pos, power, div_inv_eq_mul]

/-! ## The values of doubles -/

/-- The rational that a double stands for. -/
def toRat (d : Double) : ℚ :=
  (if d.negative then -1 else 1) * d.binary.1 * 2 ^ d.binary.2

theorem abs_toRat (d : Double) : |d.toRat| = d.binary.1 * 2 ^ d.binary.2 := by
  have nonneg : (0 : ℚ) ≤ d.binary.1 * 2 ^ d.binary.2 := by positivity
  rw [toRat, mul_assoc]
  split
  · rw [neg_one_mul, abs_neg, abs_of_nonneg nonneg]
  · rw [one_mul, abs_of_nonneg nonneg]

theorem binary_bounds (d : Double) : d.binary.1 ≤ 2 * binade - 1 ∧ d.binary.2 ≤ 971 := by
  have field_le : d.rank / binade ≤ 2046 := Nat.le_of_lt_succ (Nat.div_lt_of_lt_mul (by
    rw [Nat.mul_comm]
    exact d.rank_lt))
  have rest_lt : d.rank % binade < binade := Nat.mod_lt _ (by decide)
  rw [binary]
  split
  · next zero =>
      have below : d.rank < binade := (Nat.div_eq_zero_iff_lt (by decide)).mp zero
      exact ⟨by omega, show (-1074 : Int) ≤ 971 by decide⟩
  · exact ⟨by omega, by omega⟩

/-- Every double is finite. -/
theorem abs_toRat_lt_limit (d : Double) : |d.toRat| < limit := by
  obtain ⟨significand, exponent⟩ := binary_bounds d
  have unit_pos : (0 : ℚ) < 2 ^ (970 : ℤ) := by positivity
  have top : (d.binary.1 : ℚ) ≤ 2 ^ 53 - 1 := by
    have greatest : ((2 * binade - 1 : Nat) : ℚ) = 2 ^ 53 - 1 := by norm_num [binade]
    rw [← greatest]
    exact_mod_cast significand
  rw [abs_toRat, limit_eq]
  calc (d.binary.1 : ℚ) * 2 ^ d.binary.2
      ≤ (2 ^ 53 - 1) * 2 ^ (970 + 1 : ℤ) := by
        exact mul_le_mul top (two_zpow_le exponent) (by positivity) (by norm_num)
    _ = (2 ^ 54 - 2) * 2 ^ (970 : ℤ) := by
        rw [zpow_add_one₀ two_ne_zero]
        ring
    _ < (2 ^ 54 - 1) * 2 ^ (970 : ℤ) := mul_lt_mul_of_pos_right (by norm_num) unit_pos

end DocStore.Double
