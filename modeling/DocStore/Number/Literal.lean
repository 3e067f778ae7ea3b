import DocStore.Number

/-!
# Number literals

The number that a literal stands for. An integer that fits a signed or an unsigned 64-bit word stays
exact, negative zero apart. Of any other literal the leading digits that fit an unsigned word count;
they are rounded to a double and then scaled by a power of ten, so the result can be a neighbour of
the nearest double.
-/

namespace DocStore

/-- The parts of a literal, with digits only in the lists. Without a fraction and an exponent it is
written as an integer. -/
structure Literal where
  negative : Bool
  whole : List Char
  fraction : List Char
  exponent : Option Int

namespace Literal

/-- Appends digits to a word as long as it remains one; the count is that of the digits left. -/
def gather (word : Nat) : List Char → Nat × Nat
  | [] => (word, 0)
  | digit :: rest =>
      let next := 10 * word + (digit.toNat - '0'.toNat)
      if next < UInt64.size then gather next rest else (word, rest.length + 1)

/-- The digits that count, and the power of ten that they count for. Digits left over in front of
the point raise the power, those behind it change nothing. -/
def significand (literal : Literal) : Nat × Int :=
  let (whole, left) := gather 0 literal.whole
  let (word, dropped) := gather whole literal.fraction
  (word, literal.exponent.getD 0 + left - (literal.fraction.length - dropped : Nat))

/-- `none` beyond the finite doubles. -/
def double? (literal : Literal) : Option Double :=
  let (word, exponent) := literal.significand
  ((Double.ofInt word).scaleByTen? exponent).map fun value =>
    { value with negative := literal.negative }

def isInteger (literal : Literal) : Bool :=
  literal.fraction.isEmpty && literal.exponent.isNone

/-- The integer of a literal that is written as one and fits a word. -/
def integer? (literal : Literal) : Option Int :=
  let magnitude := Numeral.value literal.whole
  if !literal.isInteger then none
  else if literal.negative then
    if 0 < magnitude && Numeral.isWord (-magnitude) then some (-magnitude) else none
  else if magnitude < UInt64.size then some magnitude
  else none

def number? (literal : Literal) : Option Number :=
  match literal.integer? with
  | some value => some (.integer value)
  | none => literal.double?.map .double

end Literal

end DocStore
