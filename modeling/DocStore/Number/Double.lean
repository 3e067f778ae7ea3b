/-!
# Finite doubles

A finite binary64 number is a sign and a rank, the position of its absolute value in the increasing
list of non-negative doubles. The order of doubles is the order of signed ranks, so the two zeros
are equal, and a rational is rounded by exact arithmetic on natural numbers.
-/

namespace DocStore

/-- The number of doubles with one exponent. -/
def binade : Nat := 4503599627370496

structure Double where
  negative : Bool
  rank : Nat
  rank_lt : rank < 2047 * binade
  deriving DecidableEq

namespace Double

instance : Inhabited Double := ⟨⟨false, 0, by decide⟩⟩

def signedRank (d : Double) : Int :=
  if d.negative then -d.rank else d.rank

def order (a b : Double) : Ordering := compare a.signedRank b.signedRank

def same (a b : Double) : Bool := a.signedRank == b.signedRank

def lt (a b : Double) : Bool := decide (a.signedRank < b.signedRank)

def le (a b : Double) : Bool := decide (a.signedRank ≤ b.signedRank)

/-- The absolute value as `significand * 2 ^ exponent`. -/
def binary (d : Double) : Nat × Int :=
  let field : Nat := d.rank / binade
  if field = 0 then (d.rank, -1074) else (binade + d.rank % binade, (field : Int) - 1075)

def roundHalfEven (num den : Nat) : Nat :=
  let quotient := num / den
  let rest := num % den
  if 2 * rest < den then quotient
  else if 2 * rest > den then quotient + 1
  else quotient + quotient % 2

/-- Multiplies a fraction by `2 ^ -scale`. -/
def rescale (num den : Nat) (scale : Int) : Nat × Nat :=
  if 0 ≤ scale then (num, den * Nat.pow 2 scale.toNat) else (num * Nat.pow 2 (-scale).toNat, den)

/-- The rank nearest to `num / den`, halves going to the even rank. Consecutive ranks in one binade
differ by one unit `2 ^ scale`, and the carry out of a binade is the first rank of the next. -/
def nearestRank (num den : Nat) : Nat :=
  if num = 0 then 0
  else
    let scale := max (-1074) ((num.log2 : Int) - den.log2 - 53)
    let (n, d) := rescale num den scale
    if n / d < 2 * binade then (scale + 1074).toNat * binade + roundHalfEven n d
    else (scale + 1075).toNat * binade + roundHalfEven n (2 * d)

/-- `none` when the nearest rank lies beyond the greatest finite double. -/
def ofRatio? (negative : Bool) (num den : Nat) : Option Double :=
  let rank := nearestRank num den
  if h : rank < 2047 * binade then some ⟨negative, rank, h⟩ else none

def greatest (negative : Bool) : Double := ⟨negative, 2047 * binade - 1, by decide⟩

/-- Saturates, far above every integer that a document can hold. -/
def ofInt (value : Int) : Double :=
  (ofRatio? (value < 0) value.natAbs 1).getD (greatest (value < 0))

def zero (negative : Bool) : Double := ⟨negative, 0, by decide⟩

/-- The double nearest to the product. -/
def multiply? (a b : Double) : Option Double :=
  let (m, e) := a.binary
  let (n, f) := b.binary
  let (num, den) := rescale (m * n) 1 (-(e + f))
  ofRatio? (a.negative != b.negative) num den

/-- The double nearest to the quotient by a double other than zero. -/
def divide? (a b : Double) : Option Double :=
  let (m, e) := a.binary
  let (n, f) := b.binary
  let (num, den) := rescale m n (f - e)
  ofRatio? (a.negative != b.negative) num den

/-- The double nearest to `digits * 10 ^ exponent`. Exponents that decide the answer by themselves
are settled before any power is computed. -/
def ofDecimal? (negative : Bool) (digits : Nat) (exponent : Int) : Option Double :=
  if digits = 0 then some (zero negative)
  else if 400 < exponent then none
  else if exponent + digits.log2 / 3 < -400 then some (zero negative)
  else if 0 ≤ exponent then ofRatio? negative (digits * Nat.pow 10 exponent.toNat) 1
  else ofRatio? negative digits (Nat.pow 10 (-exponent).toNat)

/-- The double nearest to `10 ^ n`. -/
def powerOfTen (n : Nat) : Double := (ofDecimal? false 1 n).getD (greatest false)

/-- Scales a double below `10 ^ 20` by a power of ten, rounding after every step: by one factor, or
by one divisor, or by `10 ^ 308` and a second divisor. Two divisions by `10 ^ 308` leave zero. -/
def scaleByTen? (value : Double) (exponent : Int) : Option Double :=
  if value.rank = 0 then some value
  else if 308 < exponent then none
  else if 0 ≤ exponent then value.multiply? (powerOfTen exponent.toNat)
  else if -308 ≤ exponent then value.divide? (powerOfTen (-exponent).toNat)
  else if -616 ≤ exponent then
    (value.divide? (powerOfTen 308)).bind fun scaled =>
      scaled.divide? (powerOfTen (-exponent - 308).toNat)
  else some (zero value.negative)

end Double

end DocStore
