import DocStore.Proofs.Number.Rounding
import DocStore.Text.CharClass
import DocStore.Text.Numeral

/-!
# The grammar of decimal numerals

A numeral is a sign or none, digits on at least one side of an optional point, and an exponent or
none. It is read as a double when its value has a nearest finite one.
-/

namespace DocStore.Numeral

/-! ## The grammar -/

/-- A sign, or none for a number that is not negative. -/
inductive Sign : Bool → List Char → Prop where
  | none : Sign false []
  | plus : Sign false ['+']
  | minus : Sign true ['-']

def Digits (text : List Char) : Prop := ∀ c ∈ text, c.isDigit = true

/-- The digits behind a point, or none. -/
inductive Fraction : List Char → List Char → Prop where
  | none : Fraction [] []
  | point {digits : List Char} (each : Digits digits) : Fraction digits ('.' :: digits)

inductive Integer : Int → List Char → Prop where
  | signed {negative : Bool} {sign digits : List Char} (isSign : Sign negative sign)
      (nonempty : digits ≠ []) (each : Digits digits) :
      Integer (if negative then -(value digits : Int) else value digits) (sign ++ digits)

/-- A marked power of ten, or none for the first one. -/
inductive Exponent : Int → List Char → Prop where
  | none : Exponent 0 []
  | marked {mark : Char} {power : Int} {text : List Char} (isMark : mark ∈ ['e', 'E'])
      (integer : Integer power text) : Exponent power (mark :: text)

/-- A numeral with its value. -/
inductive Decimal : ℚ → List Char → Prop where
  | numeral {negative : Bool} {sign whole digits fraction exponent : List Char} {power : Int}
      (isSign : Sign negative sign) (each : Digits whole) (isFraction : Fraction digits fraction)
      (nonempty : whole ≠ [] ∨ digits ≠ []) (isExponent : Exponent power exponent) :
      Decimal
        ((if negative then -1 else 1) * value (whole ++ digits) * 10 ^ (power - digits.length))
        (sign ++ (whole ++ (fraction ++ exponent)))

/-- A numeral for a number that has a nearest finite double. -/
def IsFinite (text : List Char) : Prop := ∃ q, Decimal q text ∧ |q| < Double.limit

/-! ## The reader keeps to the grammar -/

theorem isSign_splitSign (text : List Char) :
    ∃ sign, Sign (splitSign text).1 sign ∧ text = sign ++ (splitSign text).2 := by
  unfold splitSign
  split
  · exact ⟨['+'], .plus, rfl⟩
  · exact ⟨['-'], .minus, rfl⟩
  · exact ⟨[], .none, rfl⟩

/-- A text begins with neither sign. -/
def Unsigned (text : List Char) : Prop := ∀ c ∈ text.head?, c ≠ '+' ∧ c ≠ '-'

theorem splitSign_append {negative : Bool} {sign text : List Char} (isSign : Sign negative sign)
    (isUnsigned : Unsigned text) : splitSign (sign ++ text) = (negative, text) := by
  cases isSign with
  | plus => rfl
  | minus => rfl
  | none =>
      unfold splitSign
      split
      · next same =>
          rw [List.nil_append] at same
          exact absurd rfl (isUnsigned '+' (same ▸ rfl)).1
      · next same =>
          rw [List.nil_append] at same
          exact absurd rfl (isUnsigned '-' (same ▸ rfl)).2
      · rfl

theorem unsigned_of_isDigit {c : Char} (isDigit : c.isDigit = true) (rest : List Char) :
    Unsigned (c :: rest) := by
  rintro _ ⟨⟩
  constructor <;> rintro rfl <;> cases isDigit

theorem digits?_eq_some_iff {text : List Char} {n : Nat} :
    digits? text = some n ↔ text ≠ [] ∧ Digits text ∧ value text = n := by
  rw [digits?]
  cases text with
  | nil => simp
  | cons c rest => simp [Digits]

theorem integer?_eq (text : List Char) :
    integer? text = (digits? (splitSign text).2).map fun n : Nat =>
      if (splitSign text).1 then -(n : Int) else n := by
  rw [integer?]
  generalize splitSign text = split
  obtain ⟨negative, unsigned⟩ := split
  simp only
  cases digits? unsigned <;> rfl

theorem integer?_eq_some_iff {text : List Char} {i : Int} :
    integer? text = some i ↔ Integer i text := by
  rw [integer?_eq]
  constructor
  · intro read
    obtain ⟨n, isNatural, rfl⟩ := Option.map_eq_some_iff.mp read
    obtain ⟨nonempty, each, rfl⟩ := digits?_eq_some_iff.mp isNatural
    obtain ⟨sign, isSign, same⟩ := isSign_splitSign text
    have integer := Integer.signed isSign nonempty each
    rwa [← same] at integer
  · rintro ⟨isSign, nonempty, each⟩
    next negative sign digits =>
      obtain ⟨first, rest, rfl⟩ := List.exists_cons_of_ne_nil nonempty
      have isUnsigned := unsigned_of_isDigit (each first (.head rest)) rest
      have natural := digits?_eq_some_iff.mpr ⟨nonempty, each, rfl⟩
      rw [splitSign_append isSign isUnsigned]
      simp only [natural, Option.map_some]

theorem exponent?_eq_some_iff {text : List Char} {power : Int} :
    exponent? text = some power ↔ Exponent power text := by
  cases text with
  | nil =>
      constructor
      · rintro ⟨⟩
        exact .none
      · rintro ⟨⟩
        rfl
  | cons mark rest =>
      rw [exponent?]
      constructor
      · intro read
        split at read
        · next isMark =>
            refine .marked ?_ (integer?_eq_some_iff.mp read)
            simpa using isMark
        · cases read
      · rintro (_ | ⟨isMark, integer⟩)
        rw [if_pos (by simpa using isMark)]
        exact integer?_eq_some_iff.mpr integer

/-! ### The parts of a numeral -/

/-- A text does not begin with a digit. -/
def Ends (text : List Char) : Prop := ∀ c ∈ text.head?, c.isDigit = false

theorem takeWhile_digits {digits rest : List Char} (each : Digits digits) (ends : Ends rest) :
    (digits ++ rest).takeWhile Char.isDigit = digits ∧
      (digits ++ rest).dropWhile Char.isDigit = rest := by
  rw [List.takeWhile_append_of_pos each, List.dropWhile_append_of_pos each]
  cases rest with
  | nil => exact ⟨List.append_nil digits, rfl⟩
  | cons c rest =>
      have noDigit := ends c rfl
      simp [List.takeWhile, List.dropWhile, noDigit]

theorem digits_takeWhile (text : List Char) : Digits (text.takeWhile Char.isDigit) :=
  List.all_eq_true.mp List.all_takeWhile

/-- What stands behind the digits in front of a point, cut behind the digits of the fraction. -/
def splitFraction : List Char → List Char × List Char
  | '.' :: tail => (tail.takeWhile Char.isDigit, tail.dropWhile Char.isDigit)
  | tail => ([], tail)

theorem isFraction_splitFraction (text : List Char) :
    ∃ fraction, Fraction (splitFraction text).1 fraction ∧
      text = fraction ++ (splitFraction text).2 := by
  unfold splitFraction
  split
  · next tail =>
      refine ⟨'.' :: tail.takeWhile Char.isDigit, .point (digits_takeWhile tail), ?_⟩
      exact congrArg ('.' :: ·) List.takeWhile_append_dropWhile.symm
  · exact ⟨[], .none, rfl⟩

theorem Exponent.ends {power : Int} {text : List Char} (exponent : Exponent power text) :
    Ends text ∧ text.head? ≠ some '.' := by
  cases exponent with
  | none => exact ⟨nofun, nofun⟩
  | marked isMark integer =>
      simp only [List.mem_cons, List.not_mem_nil, or_false] at isMark
      rcases isMark with rfl | rfl
      · exact ⟨by rintro _ ⟨⟩; rfl, nofun⟩
      · exact ⟨by rintro _ ⟨⟩; rfl, nofun⟩

theorem splitFraction_append {digits fraction exponent : List Char} {power : Int}
    (isFraction : Fraction digits fraction) (isExponent : Exponent power exponent) :
    splitFraction (fraction ++ exponent) = (digits, exponent) := by
  obtain ⟨ends, noPoint⟩ := isExponent.ends
  cases isFraction with
  | none =>
      rw [List.nil_append]
      unfold splitFraction
      split
      · exact absurd rfl noPoint
      · rfl
  | point each =>
      obtain ⟨taken, dropped⟩ := takeWhile_digits each ends
      exact Prod.ext taken dropped

theorem double?_eq (text : List Char) :
    double? text =
      let whole := (splitSign text).2.takeWhile Char.isDigit
      let behind := splitFraction ((splitSign text).2.dropWhile Char.isDigit)
      if whole.isEmpty && behind.1.isEmpty then none
      else
        (exponent? behind.2).bind fun power =>
          Double.ofDecimal? (splitSign text).1 (value (whole ++ behind.1))
            (power - behind.1.length) := by
  rfl

theorem abs_decimal (negative : Bool) (digits : Nat) (power : Int) :
    |((if negative then -1 else 1) * digits * 10 ^ power : ℚ)| = digits * 10 ^ power := by
  have nonneg : (0 : ℚ) ≤ digits * 10 ^ power := by positivity
  rw [mul_assoc]
  cases negative with
  | true => simp
  | false => simp

theorem ends_fraction {digits fraction exponent : List Char} {power : Int}
    (isFraction : Fraction digits fraction) (isExponent : Exponent power exponent) :
    Ends (fraction ++ exponent) := by
  cases isFraction with
  | none => exact isExponent.ends.1
  | point =>
      rintro _ ⟨⟩
      rfl

theorem unsigned_numeral {whole digits fraction : List Char} (each : Digits whole)
    (isFraction : Fraction digits fraction) (nonempty : whole ≠ [] ∨ digits ≠ [])
    (rest : List Char) : Unsigned (whole ++ (fraction ++ rest)) := by
  cases whole with
  | cons first others => exact unsigned_of_isDigit (each first (.head others)) _
  | nil =>
      cases isFraction with
      | none => exact absurd rfl (nonempty.resolve_left (· rfl))
      | point =>
          rintro _ ⟨⟩
          decide

/-- A text is read as a double when it is a numeral for a number that has a nearest one. -/
theorem double?_isSome_iff (text : List Char) : (double? text).isSome ↔ IsFinite text := by
  rw [double?_eq]
  simp only
  constructor
  · intro read
    obtain ⟨sign, isSign, signed⟩ := isSign_splitSign text
    generalize (splitSign text).1 = negative at isSign read
    generalize (splitSign text).2 = unsigned at signed read
    obtain ⟨fraction, isFraction, behind⟩ :=
      isFraction_splitFraction (unsigned.dropWhile Char.isDigit)
    generalize splitFraction (unsigned.dropWhile Char.isDigit) = parts at isFraction behind read
    split at read
    · cases read
    · next nonempty =>
        obtain ⟨value, found⟩ := Option.isSome_iff_exists.mp read
        obtain ⟨power, isExponent, finite⟩ := Option.bind_eq_some_iff.mp found
        have decimal := Decimal.numeral isSign (digits_takeWhile unsigned) isFraction
          (by simpa [imp_iff_not_or] using nonempty) (exponent?_eq_some_iff.mp isExponent)
        rw [← behind, List.takeWhile_append_dropWhile, ← signed] at decimal
        refine ⟨_, decimal, ?_⟩
        rw [abs_decimal]
        exact (Double.ofDecimal?_isSome_iff _ _ _).mp (Option.isSome_of_eq_some finite)
  · rintro ⟨_, ⟨isSign, each, isFraction, nonempty, isExponent⟩, finite⟩
    obtain ⟨taken, dropped⟩ := takeWhile_digits each (ends_fraction isFraction isExponent)
    rw [splitSign_append isSign (unsigned_numeral each isFraction nonempty _), taken, dropped,
      splitFraction_append isFraction isExponent, if_neg (by simpa [imp_iff_not_or] using nonempty),
      exponent?_eq_some_iff.mpr isExponent, Option.bind_some, Double.ofDecimal?_isSome_iff,
      ← abs_decimal]
    exact finite

/-! ## Blanks around a numeral -/

open Text

def Blank (text : List Char) : Prop := ∀ c ∈ text, isBlank c = true

/-- Not a single character is blank. -/
def Solid (text : List Char) : Prop := ∀ c ∈ text, isBlank c = false

theorem dropWhile_isBlank {blank text : List Char} (isBlank : Blank blank)
    (plain : ∀ c ∈ text.head?, Text.isBlank c = false) :
    (blank ++ text).dropWhile Text.isBlank = text := by
  rw [List.dropWhile_append_of_pos isBlank]
  cases text with
  | nil => rfl
  | cons c rest => simp [List.dropWhile, plain c rfl]

/-- What stands between blanks is trimmed to itself. -/
theorem trimBlank_append {left core right : List Char} (isLeft : Blank left) (isRight : Blank right)
    (nonempty : core ≠ []) (solid : Solid core) :
    trimBlank (left ++ (core ++ right)) = core := by
  have front : ∀ c ∈ (core ++ right).head?, Text.isBlank c = false := by
    intro c isHead
    rw [List.head?_append_of_ne_nil _ nonempty] at isHead
    exact solid c (List.mem_of_mem_head? isHead)
  have back : ∀ c ∈ core.reverse.head?, Text.isBlank c = false := fun c isHead =>
    solid c (List.mem_reverse.mp (List.mem_of_mem_head? isHead))
  have reversed : Blank right.reverse := fun c member => isRight c (List.mem_reverse.mp member)
  rw [trimBlank, dropWhile_isBlank isLeft front, List.reverse_append,
    dropWhile_isBlank reversed back, List.reverse_reverse]

theorem exists_trimBlank (text : List Char) : ∃ left right, Blank left ∧ Blank right ∧
    text = left ++ (trimBlank text ++ right) := by
  have blank (text : List Char) : Blank (text.takeWhile Text.isBlank) :=
    List.all_eq_true.mp List.all_takeWhile
  refine ⟨text.takeWhile Text.isBlank,
    ((text.dropWhile Text.isBlank).reverse.takeWhile Text.isBlank).reverse, blank text,
    fun c member => blank _ c (List.mem_reverse.mp member), ?_⟩
  rw [trimBlank, ← List.reverse_append, List.takeWhile_append_dropWhile, List.reverse_reverse,
    List.takeWhile_append_dropWhile]

theorem Solid.append {first second : List Char} (isFirst : Solid first) (isSecond : Solid second) :
    Solid (first ++ second) :=
  List.forall_mem_append.mpr ⟨isFirst, isSecond⟩

theorem Digits.solid {text : List Char} (each : Digits text) : Solid text := by
  intro c member
  obtain ⟨least, greatest⟩ := Char.isDigit_iff_toNat.mp (each c member)
  have apart : ∀ range ∈ blankRanges, range.2 < '0'.toNat ∨ '9'.toNat < range.1 := by decide
  refine Bool.eq_false_iff.mpr fun blank => ?_
  obtain ⟨range, listed, inside⟩ := List.any_eq_true.mp blank
  simp only [Bool.and_eq_true, decide_eq_true_eq] at inside
  have outside := apart range listed
  omega

theorem Sign.solid {negative : Bool} {sign : List Char} (isSign : Sign negative sign) :
    Solid sign := by
  cases isSign with
  | none => exact nofun
  | plus => exact List.forall_mem_singleton.mpr rfl
  | minus => exact List.forall_mem_singleton.mpr rfl

theorem Fraction.solid {digits text : List Char} (isFraction : Fraction digits text) :
    Solid text := by
  cases isFraction with
  | none => exact nofun
  | point each => exact List.forall_mem_cons.mpr ⟨by decide, each.solid⟩

theorem Exponent.solid {power : Int} {text : List Char} (isExponent : Exponent power text) :
    Solid text := by
  cases isExponent with
  | none => exact nofun
  | @marked mark _ _ isMark integer =>
      obtain ⟨isSign, _, each⟩ := integer
      have solidMark : isBlank mark = false := by
        rcases List.mem_pair.mp isMark with rfl | rfl <;> rfl
      exact List.forall_mem_cons.mpr ⟨solidMark, isSign.solid.append each.solid⟩

theorem Decimal.solid {q : ℚ} {text : List Char} (decimal : Decimal q text) : Solid text := by
  obtain ⟨isSign, each, isFraction, _, isExponent⟩ := decimal
  exact isSign.solid.append (each.solid.append (isFraction.solid.append isExponent.solid))

theorem Decimal.nonempty {q : ℚ} {text : List Char} (decimal : Decimal q text) : text ≠ [] := by
  obtain ⟨isSign, each, isFraction, nonempty, isExponent⟩ := decimal
  cases isFraction with
  | none => simp [nonempty.resolve_right (· rfl)]
  | point => simp

/-- A text is trimmed to a numeral when there are only blanks around one. -/
theorem double?_trimBlank_isSome_iff (text : List Char) :
    (double? (trimBlank text)).isSome ↔ ∃ left core right, text = left ++ (core ++ right) ∧
      Blank left ∧ Blank right ∧ IsFinite core := by
  rw [double?_isSome_iff]
  constructor
  · intro finite
    obtain ⟨left, right, isLeft, isRight, split⟩ := exists_trimBlank text
    exact ⟨left, trimBlank text, right, split, isLeft, isRight, finite⟩
  · rintro ⟨left, core, right, rfl, isLeft, isRight, q, decimal, finite⟩
    rw [trimBlank_append isLeft isRight decimal.nonempty decimal.solid]
    exact ⟨q, decimal, finite⟩

end DocStore.Numeral
