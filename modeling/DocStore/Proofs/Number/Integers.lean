import DocStore.Number
import DocStore.Proofs.Number.Rounding

/-!
# Integers as doubles

Rounding never turns the order of two integers around, and it keeps them apart as long as one of
them is below `2 ^ 53` in absolute value. Beyond that, different integers can be conflated: they are
rounded to one double.
-/

namespace DocStore

namespace Double

/-! ## The rank of a natural number -/

theorem roundHalfEven_mono {num num' : Nat} (le : num ≤ num') (den : Nat) :
    roundHalfEven num den ≤ roundHalfEven num' den := by
  have bounds := roundHalfEven_bounds num den
  have bounds' := roundHalfEven_bounds num' den
  rcases Nat.lt_or_eq_of_le (Nat.div_le_div_right (c := den) le) with less | same
  · omega
  · -- With one quotient for both, the greater numerator has the greater rest.
    have whole := Nat.div_add_mod num den
    have whole' := Nat.div_add_mod num' den
    rw [same] at whole
    have rest_le : num % den ≤ num' % den := by omega
    simp only [roundHalfEven, same]
    by_cases below : 2 * (num' % den) < den
    · rw [if_pos below, if_pos (show 2 * (num % den) < den by omega)]
    rw [if_neg below]
    by_cases above : 2 * (num' % den) > den
    · rw [if_pos above]
      split
      · omega
      · split <;> omega
    · rw [if_neg above, if_neg (show ¬ 2 * (num % den) > den by omega)]
      split <;> omega

theorem roundHalfEven_double (n : Nat) : roundHalfEven (n * 2) 2 = n := by
  have quotient : n * 2 / 2 = n := Nat.mul_div_cancel n (by decide)
  have rest : n * 2 % 2 = 0 := Nat.mul_mod_left n 2
  simp [roundHalfEven, quotient, rest]

theorem scaleOf_one (n : Nat) : scaleOf n 1 = n.log2 - 53 := by
  have one : Nat.log2 1 = 0 := rfl
  rw [scaleOf, one]
  omega

theorem log2_mono {m n : Nat} (nonzero : m ≠ 0) (le : m ≤ n) : m.log2 ≤ n.log2 :=
  (Nat.le_log2 (by omega)).mpr ((Nat.log2_self_le nonzero).trans le)

/-- A number of at most 53 binary digits is its own significand. -/
theorem nearestRank_small {n : Nat} (nonzero : n ≠ 0) (small : n.log2 ≤ 52) :
    nearestRank n 1 = (n.log2 + 1022) * binade + n * 2 ^ (52 - n.log2) := by
  have shift : 53 - n.log2 = 52 - n.log2 + 1 := by omega
  have scaledTo : scaled n 1 = (n * 2 ^ (52 - n.log2) * 2, 1) := by
    have downwards : ¬ (0 : Int) ≤ n.log2 - 53 := by omega
    have places : (-((n.log2 : Int) - 53)).toNat = 53 - n.log2 := by omega
    rw [scaled, scaleOf_one, rescale, if_neg downwards, places, Nat.pow_eq, shift, Nat.pow_succ,
      Nat.mul_assoc]
  have above : 2 ^ n.log2 * 2 ^ (52 - n.log2) ≤ n * 2 ^ (52 - n.log2) :=
    Nat.mul_le_mul_right _ (Nat.log2_self_le nonzero)
  have power : 2 ^ n.log2 * 2 ^ (52 - n.log2) = binade := by
    rw [← Nat.pow_add, Nat.add_sub_cancel' small]
    rfl
  have carries : ¬ n * 2 ^ (52 - n.log2) * 2 / 1 < 2 * binade := by
    rw [Nat.div_one]
    omega
  have exponent : (scaleOf n 1 + 1075).toNat = n.log2 + 1022 := by
    rw [scaleOf_one]
    omega
  rw [nearestRank_of_ne_zero nonzero, scaledTo, if_neg carries, exponent, Nat.mul_one,
    roundHalfEven_double]

/-- Of a longer number, the digits behind the first 53 are rounded. -/
theorem nearestRank_great {n : Nat} (great : 53 ≤ n.log2) :
    nearestRank n 1 = (n.log2 + 1022) * binade + roundHalfEven n (2 ^ (n.log2 - 52)) := by
  have nonzero : n ≠ 0 := by
    rintro rfl
    exact absurd great (by decide)
  have scaledTo : scaled n 1 = (n, 2 ^ (n.log2 - 53)) := by
    have upwards : (0 : Int) ≤ n.log2 - 53 := by omega
    have places : ((n.log2 : Int) - 53).toNat = n.log2 - 53 := by omega
    rw [scaled, scaleOf_one, rescale, if_pos upwards, places, Nat.pow_eq, Nat.one_mul]
  have carries : ¬ n / 2 ^ (n.log2 - 53) < 2 * binade := by
    have power : 2 * binade * 2 ^ (n.log2 - 53) = 2 ^ n.log2 := by
      have digits : 2 * binade = 2 ^ 53 := rfl
      rw [digits, ← Nat.pow_add, Nat.add_sub_cancel' great]
    rw [Nat.div_lt_iff_lt_mul (Nat.two_pow_pos _), power]
    exact Nat.not_lt.mpr (Nat.log2_self_le nonzero)
  have exponent : (scaleOf n 1 + 1075).toNat = n.log2 + 1022 := by
    rw [scaleOf_one]
    omega
  have unit : 2 * 2 ^ (n.log2 - 53) = 2 ^ (n.log2 - 52) := by
    rw [← Nat.pow_succ', show n.log2 - 52 = n.log2 - 53 + 1 by omega]
  rw [nearestRank_of_ne_zero nonzero, scaledTo, if_neg carries, exponent, unit]

/-- The ranks of the numbers with one logarithm lie in one binade, or begin the next one. -/
theorem nearestRank_bounds {n : Nat} (nonzero : n ≠ 0) :
    (n.log2 + 1023) * binade ≤ nearestRank n 1 ∧
      nearestRank n 1 ≤ (n.log2 + 1024) * binade ∧
      (n.log2 ≤ 52 → nearestRank n 1 < (n.log2 + 1024) * binade) := by
  have below : n < 2 ^ (n.log2 + 1) := Nat.lt_log2_self
  have above := Nat.log2_self_le nonzero
  have next : (n.log2 + 1023) * binade = (n.log2 + 1022) * binade + binade := Nat.succ_mul _ _
  have second : (n.log2 + 1024) * binade = (n.log2 + 1023) * binade + binade := Nat.succ_mul _ _
  rcases Nat.lt_or_ge n.log2 53 with small | great
  · have le : n.log2 ≤ 52 := Nat.le_of_lt_succ small
    have lower : 2 ^ n.log2 * 2 ^ (52 - n.log2) ≤ n * 2 ^ (52 - n.log2) :=
      Nat.mul_le_mul_right _ above
    have upper : n * 2 ^ (52 - n.log2) < 2 ^ (n.log2 + 1) * 2 ^ (52 - n.log2) :=
      Nat.mul_lt_mul_of_pos_right below (Nat.two_pow_pos _)
    have power : 2 ^ n.log2 * 2 ^ (52 - n.log2) = binade := by
      rw [← Nat.pow_add, Nat.add_sub_cancel' le]
      rfl
    rw [Nat.pow_succ', Nat.mul_assoc] at upper
    rw [nearestRank_small nonzero le]
    omega
  · have lower : 2 ^ (n.log2 - 52) * binade = 2 ^ n.log2 := by
      have digits : binade = 2 ^ 52 := rfl
      rw [digits, ← Nat.pow_add, Nat.sub_add_cancel (Nat.le_of_succ_le great)]
    have positive : 0 < 2 ^ (n.log2 - 52) := Nat.two_pow_pos _
    have quotient_ge : binade ≤ n / 2 ^ (n.log2 - 52) := by
      rw [Nat.le_div_iff_mul_le positive, Nat.mul_comm, lower]
      exact above
    have quotient_lt : n / 2 ^ (n.log2 - 52) < 2 * binade := by
      rw [Nat.div_lt_iff_lt_mul positive, Nat.mul_assoc, Nat.mul_comm binade, lower,
        ← Nat.pow_succ']
      exact below
    have rounded := roundHalfEven_bounds n (2 ^ (n.log2 - 52))
    rw [nearestRank_great great]
    omega

theorem nearestRank_mono {m n : Nat} (le : m ≤ n) : nearestRank m 1 ≤ nearestRank n 1 := by
  by_cases zero : m = 0
  · rw [zero, nearestRank, if_pos rfl]
    exact Nat.zero_le _
  have nonzero : n ≠ 0 := by omega
  have bounds := nearestRank_bounds zero
  have bounds' := nearestRank_bounds nonzero
  rcases Nat.lt_or_eq_of_le (log2_mono zero le) with less | same
  · have room : (m.log2 + 1024) * binade ≤ (n.log2 + 1023) * binade :=
      Nat.mul_le_mul_right _ (by omega)
    omega
  · rcases Nat.lt_or_ge n.log2 53 with small | great
    · have scaled_le : m * 2 ^ (52 - n.log2) ≤ n * 2 ^ (52 - n.log2) := Nat.mul_le_mul_right _ le
      rw [nearestRank_small zero (by omega), nearestRank_small nonzero (by omega), same]
      omega
    · have rounded_le := roundHalfEven_mono le (2 ^ (n.log2 - 52))
      rw [nearestRank_great (by omega), nearestRank_great great, same]
      omega

/-- The rank of a number of at most 53 binary digits is below that of every greater number. -/
theorem nearestRank_lt {m n : Nat} (less : m < n) (small : m < 2 ^ 53) :
    nearestRank m 1 < nearestRank n 1 := by
  have nonzero : n ≠ 0 := by omega
  have bounds' := nearestRank_bounds nonzero
  by_cases zero : m = 0
  · have positive : 0 < (n.log2 + 1023) * binade := Nat.mul_pos (Nat.succ_pos _) (by decide)
    rw [zero, nearestRank, if_pos rfl]
    omega
  have digits : m.log2 ≤ 52 := Nat.le_of_lt_succ ((Nat.log2_lt zero).mpr small)
  have bounds := nearestRank_bounds zero
  rcases Nat.lt_or_eq_of_le (log2_mono zero less.le) with apart | same
  · have room : (m.log2 + 1024) * binade ≤ (n.log2 + 1023) * binade :=
      Nat.mul_le_mul_right _ (by omega)
    omega
  · have scaled_lt : m * 2 ^ (52 - n.log2) < n * 2 ^ (52 - n.log2) :=
      Nat.mul_lt_mul_of_pos_right less (Nat.two_pow_pos _)
    rw [nearestRank_small zero digits, nearestRank_small nonzero (by omega), same]
    omega

/-! ## The rank of an integer -/

/-- The rank that a natural number is rounded to, the greatest one from some number on. -/
def naturalRank (n : Nat) : Nat := min (nearestRank n 1) (2047 * binade - 1)

theorem naturalRank_mono {m n : Nat} (le : m ≤ n) : naturalRank m ≤ naturalRank n := by
  have ranks := nearestRank_mono le
  simp only [naturalRank]
  omega

theorem naturalRank_lt {m n : Nat} (less : m < n) (small : m < 2 ^ 53) :
    naturalRank m < naturalRank n := by
  have ranks := nearestRank_lt less small
  have finite : nearestRank m 1 < 2047 * binade - 1 := by
    by_cases zero : m = 0
    · rw [zero, nearestRank, if_pos rfl]
      decide
    · have digits : m.log2 ≤ 52 := Nat.le_of_lt_succ ((Nat.log2_lt zero).mpr small)
      have bounds := nearestRank_bounds zero
      have room : (m.log2 + 1024) * binade ≤ 1076 * binade := Nat.mul_le_mul_right _ (by omega)
      simp only [binade] at *
      omega
  simp only [naturalRank]
  omega

theorem signedRank_ofInt (value : Int) :
    (ofInt value).signedRank =
      if value < 0 then -(naturalRank value.natAbs : Int) else naturalRank value.natAbs := by
  have rank : (ofInt value).rank = naturalRank value.natAbs ∧
      (ofInt value).negative = decide (value < 0) := by
    rw [ofInt, ofRatio?, naturalRank]
    split
    · exact ⟨by simp only [Option.getD_some]; omega, rfl⟩
    · exact ⟨by simp only [Option.getD_none, greatest]; omega, rfl⟩
  rw [signedRank, rank.1, rank.2]
  by_cases negative : value < 0 <;> simp [negative]

theorem signedRank_ofInt_mono {m n : Int} (le : m ≤ n) :
    (ofInt m).signedRank ≤ (ofInt n).signedRank := by
  rw [signedRank_ofInt, signedRank_ofInt]
  rcases Int.lt_or_le m 0 with negative | nonneg
  · rcases Int.lt_or_le n 0 with negative' | nonneg'
    · have ranks := naturalRank_mono (show n.natAbs ≤ m.natAbs by omega)
      rw [if_pos negative, if_pos negative']
      omega
    · rw [if_pos negative, if_neg (by omega)]
      omega
  · have ranks := naturalRank_mono (show m.natAbs ≤ n.natAbs by omega)
    rw [if_neg (by omega), if_neg (by omega)]
    omega

theorem signedRank_ofInt_lt {m n : Int} (less : m < n)
    (small : m.natAbs < 2 ^ 53 ∨ n.natAbs < 2 ^ 53) :
    (ofInt m).signedRank < (ofInt n).signedRank := by
  have zero : naturalRank 0 = 0 := rfl
  rw [signedRank_ofInt, signedRank_ofInt]
  rcases Int.lt_or_le m 0 with negative | nonneg
  · rcases Int.lt_or_le n 0 with negative' | nonneg'
    · have ranks := naturalRank_lt (show n.natAbs < m.natAbs by omega) (by omega)
      rw [if_pos negative, if_pos negative']
      omega
    · have ranks := naturalRank_lt (show 0 < m.natAbs by omega) (by decide)
      rw [if_pos negative, if_neg (by omega)]
      omega
  · have ranks := naturalRank_lt (show m.natAbs < n.natAbs by omega) (by omega)
    rw [if_neg (by omega), if_neg (by omega)]
    omega

/-! ## Conflated integers -/

/-- Different integers that are rounded to one double. -/
def Conflated (m n : Int) : Prop := m ≠ n ∧ (ofInt m).same (ofInt n) = true

theorem same_iff {a b : Double} : a.same b = true ↔ a.signedRank = b.signedRank := beq_iff_eq

/-- Only great integers are conflated. -/
theorem Conflated.great {m n : Int} (conflated : Conflated m n) :
    2 ^ 53 ≤ m.natAbs ∧ 2 ^ 53 ≤ n.natAbs := by
  obtain ⟨apart, same⟩ := conflated
  have ranks := same_iff.mp same
  by_contra small
  have one : m.natAbs < 2 ^ 53 ∨ n.natAbs < 2 ^ 53 := by omega
  rcases Int.lt_or_gt_of_ne apart with less | greater
  · have rank_lt := signedRank_ofInt_lt less one
    omega
  · have rank_lt := signedRank_ofInt_lt greater one.symm
    omega

theorem Conflated.symm {m n : Int} (conflated : Conflated m n) : Conflated n m :=
  ⟨conflated.1.symm, same_iff.mpr (same_iff.mp conflated.2).symm⟩

theorem lt_ofInt_iff (m n : Int) : (ofInt m).lt (ofInt n) = true ↔ m < n ∧ ¬ Conflated m n := by
  rw [lt, decide_eq_true_iff, Conflated, same_iff]
  constructor
  · intro rank_lt
    have less : m < n := by
      by_contra ge
      have rank_le := signedRank_ofInt_mono (Int.not_lt.mp ge)
      omega
    exact ⟨less, fun conflated => absurd conflated.2 (by omega)⟩
  · rintro ⟨less, apart⟩
    have rank_le := signedRank_ofInt_mono less.le
    have rank_ne : (ofInt m).signedRank ≠ (ofInt n).signedRank := fun same => apart ⟨by omega, same⟩
    omega

theorem le_ofInt_iff (m n : Int) : (ofInt m).le (ofInt n) = true ↔ m ≤ n ∨ Conflated m n := by
  have below := lt_ofInt_iff n m
  have flipped : (ofInt m).le (ofInt n) = !(ofInt n).lt (ofInt m) := by
    rw [le, lt, ← decide_not]
    exact decide_eq_decide.mpr Int.not_lt.symm
  rw [flipped, Bool.not_eq_true', Bool.eq_false_iff, ne_eq, below]
  constructor
  · intro notBelow
    by_cases less : n < m
    · exact .inr (Classical.not_not.mp fun apart =>
        notBelow ⟨less, fun conflated => apart conflated.symm⟩)
    · exact .inl (Int.not_lt.mp less)
  · rintro (le | conflated) ⟨less, apart⟩
    · omega
    · exact apart conflated.symm

end Double

/-! ## Equality and order of numbers -/

namespace Number

/-- Different integers of 64 bits that are rounded to one double. -/
def Conflated (m n : Number) : Prop :=
  ∃ x y, m.word? = some x ∧ n.word? = some y ∧ Double.Conflated x y

theorem eq_of_word? {n : Number} {x : Int} (word : n.word? = some x) : n = .integer x := by
  cases n with
  | integer value =>
      simp only [word?, Option.ite_none_right_eq_some, Option.some.injEq] at word
      rw [word.2]
  | double value => cases word

/-- Numbers are equal when they are rounded to one double and are not conflated. -/
theorem equal_iff (m n : Number) :
    m.equal n = true ↔ m.toDouble.same n.toDouble = true ∧ ¬ Conflated m n := by
  unfold equal
  split
  · next x y first second =>
      have conflated : Conflated m n ↔ Double.Conflated x y := by
        constructor
        · rintro ⟨x', y', first', second', conflated⟩
          cases first.symm.trans first'
          cases second.symm.trans second'
          exact conflated
        · exact fun conflated => ⟨x, y, first, second, conflated⟩
      rw [conflated, eq_of_word? first, eq_of_word? second, toDouble, toDouble, beq_iff_eq,
        Double.Conflated]
      constructor
      · rintro rfl
        exact ⟨Double.same_iff.mpr rfl, fun conflated => conflated.1 rfl⟩
      · rintro ⟨same, apart⟩
        exact Classical.not_not.mp fun different => apart ⟨different, same⟩
  · next absent =>
      have apart : ¬ Conflated m n := fun ⟨x, y, first, second, _⟩ => absent x y first second
      simp [apart]

/-- Whether numbers are equal or not, their doubles are what is compared. -/
theorem order_eq (m n : Number) :
    m.order n = compare m.toDouble.signedRank n.toDouble.signedRank := by
  rw [order]
  split
  · next equal =>
      rw [Double.same_iff.mp ((equal_iff m n).mp equal).1]
      exact Std.compare_self.symm
  · rfl

theorem order_eq_eq_iff (m n : Number) :
    m.order n = .eq ↔ m.toDouble.same n.toDouble = true := by
  rw [order_eq, Std.compare_eq_iff_eq, Double.same_iff]

theorem equal_self (n : Number) : n.equal n = true := by
  refine (equal_iff n n).mpr ⟨Double.same_iff.mpr rfl, ?_⟩
  rintro ⟨x, y, first, second, apart, _⟩
  exact apart (Option.some.inj (first.symm.trans second))

theorem equal_comm (m n : Number) : m.equal n = true ↔ n.equal m = true := by
  have flips {m n : Number} (equal : m.equal n = true) : n.equal m = true := by
    obtain ⟨same, apart⟩ := (equal_iff m n).mp equal
    refine (equal_iff n m).mpr ⟨Double.same_iff.mpr (Double.same_iff.mp same).symm, ?_⟩
    rintro ⟨x, y, first, second, conflated⟩
    exact apart ⟨y, x, second, first, conflated.symm⟩
  exact ⟨flips, flips⟩

end Number

end DocStore
