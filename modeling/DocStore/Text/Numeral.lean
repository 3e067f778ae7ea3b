import DocStore.Number.Double

/-!
# Numerals in text

Decimal numerals as they stand in array indices, in settings and in the operands of comparisons.
Digits are the ASCII digits, and the whole text has to be a numeral.
-/

namespace DocStore.Numeral

def value (digits : List Char) : Nat :=
  digits.foldl (fun total digit => 10 * total + (digit.toNat - '0'.toNat)) 0

/-- The sign, negative or not, and the text behind it. -/
def splitSign : List Char → Bool × List Char
  | '+' :: rest => (false, rest)
  | '-' :: rest => (true, rest)
  | text => (false, text)

def digits? (text : List Char) : Option Nat :=
  if !text.isEmpty && text.all Char.isDigit then some (value text) else none

/-- An unsigned integer below the limit; a plus sign is allowed. -/
def natural? (limit : Nat) (text : List Char) : Option Nat :=
  let unsigned := match text with
    | '+' :: rest => rest
    | _ => text
  (digits? unsigned).filter (· < limit)

def integer? (text : List Char) : Option Int :=
  let (negative, unsigned) := splitSign text
  (digits? unsigned).map fun n => if negative then -(n : Int) else n

/-- Whether an integer fits a signed 64-bit word. -/
def isWord (i : Int) : Bool := -9223372036854775808 ≤ i && i ≤ 9223372036854775807

/-- An integer that fits a signed 64-bit word. -/
def index? (text : List Char) : Option Int := (integer? text).filter isWord

def exponent? : List Char → Option Int
  | [] => some 0
  | mark :: rest => if mark == 'e' || mark == 'E' then integer? rest else none

/-- Digits on at least one side of an optional point, then an optional exponent; `none` also when
the value exceeds every finite double. -/
def double? (text : List Char) : Option Double :=
  let (negative, unsigned) := splitSign text
  let whole := unsigned.takeWhile Char.isDigit
  let (fraction, rest) := match unsigned.dropWhile Char.isDigit with
    | '.' :: tail => (tail.takeWhile Char.isDigit, tail.dropWhile Char.isDigit)
    | tail => ([], tail)
  if whole.isEmpty && fraction.isEmpty then none
  else
    (exponent? rest).bind fun exponent =>
      Double.ofDecimal? negative (value (whole ++ fraction)) (exponent - fraction.length)

end DocStore.Numeral
