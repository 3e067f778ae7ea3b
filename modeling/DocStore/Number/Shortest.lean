import DocStore.Number.Double

/-!
# Shortest decimal text

The text of a double uses the fewest digits that read back as the same double and, among those, the
decimal nearest to it. Candidates are the two neighbours of the value on each decimal grid, tried
from the coarsest grid on; the reals that round to a double form an interval which contains its
ends exactly when the significand is even.
-/

namespace DocStore

/-- The value `0.digits * 10 ^ point`. -/
structure Decimal where
  digits : List Char
  point : Int

namespace Decimal

def ofScaled (coefficient : Nat) (exponent : Int) : Decimal :=
  let all := (toString coefficient).toList
  let digits := (all.reverse.dropWhile (· == '0')).reverse
  ⟨digits, exponent + all.length⟩

end Decimal

namespace Double

/-- A double in units of a quarter of its binade's step, with the ends of its rounding interval. -/
structure Span where
  value : Nat
  low : Nat
  high : Nat
  closed : Bool
  exponent : Int

def span (d : Double) : Span :=
  let (significand, exponent) := d.binary
  let narrow := significand == binade && decide (-1074 < exponent)
  { value := 4 * significand
    low := if narrow then 4 * significand - 1 else 4 * significand - 2
    high := 4 * significand + 2
    closed := significand % 2 == 0
    exponent := exponent - 2 }

def power (base : Nat) (exponent : Int) : Nat :=
  if 0 ≤ exponent then Nat.pow base exponent.toNat else 1

namespace Span

/-- Binary units and decimal units of `10 ^ grid` on one integer scale. -/
def onGrid (s : Span) (grid : Int) (units : Nat) : Nat :=
  units * power 2 s.exponent * power 10 (-grid)

def decimalOnGrid (s : Span) (grid : Int) (coefficient : Nat) : Nat :=
  coefficient * power 10 grid * power 2 (-s.exponent)

def contains (s : Span) (grid : Int) (coefficient : Nat) : Bool :=
  let decimal := s.decimalOnGrid grid coefficient
  let low := s.onGrid grid s.low
  let high := s.onGrid grid s.high
  if s.closed then low ≤ decimal && decimal ≤ high else low < decimal && decimal < high

/-- The neighbour on the grid that reads back; of two, the nearer, and the even one in a tie. -/
def pick? (s : Span) (grid : Int) : Option Nat :=
  let value := s.onGrid grid s.value
  let unit := s.decimalOnGrid grid 1
  let below := value / unit
  match s.contains grid below, s.contains grid (below + 1) with
  | true, true =>
      let fromBelow := value - s.decimalOnGrid grid below
      let fromAbove := s.decimalOnGrid grid (below + 1) - value
      if fromBelow < fromAbove then some below
      else if fromAbove < fromBelow then some (below + 1)
      else some (below + below % 2)
  | true, false => some below
  | false, true => some (below + 1)
  | false, false => none

/-- The least `e` with the value below `10 ^ e`. -/
def decimalExponent (s : Span) : Int :=
  let base := Int.fdiv (((s.value.log2 : Int) + s.exponent) * 30103) 100000
  ([base - 1, base, base + 1].find? fun e =>
    s.onGrid e s.value < s.decimalOnGrid e 1).getD (base + 2)

end Span

def shortest (d : Double) : Decimal :=
  let s := d.span
  let exponent := s.decimalExponent
  match (List.range 17).findSome? fun (n : Nat) =>
      (s.pick? (exponent - n - 1)).map fun coefficient =>
        Decimal.ofScaled coefficient (exponent - n - 1) with
  | some decimal => decimal
  | none => ⟨['0'], 0⟩

def zeros (count : Int) : List Char := List.replicate count.toNat '0'

/-- Positional from `0.00001` up to sixteen digits before the point, always with a fraction part;
otherwise one digit before the point and a signed exponent. -/
def layout (decimal : Decimal) : List Char :=
  let digits := decimal.digits
  let point := decimal.point
  if 0 < point ∧ point ≤ 16 then
    if (digits.length : Int) ≤ point then
      digits ++ zeros (point - digits.length) ++ ['.', '0']
    else digits.take point.toNat ++ '.' :: digits.drop point.toNat
  else if -5 < point ∧ point ≤ 0 then '0' :: '.' :: (zeros (-point) ++ digits)
  else
    let fraction := if digits.length ≤ 1 then [] else '.' :: digits.drop 1
    let sign := if point ≤ 0 then '-' else '+'
    digits.take 1 ++ fraction ++ 'e' :: sign :: (toString (point - 1).natAbs).toList

def text (d : Double) : String :=
  let unsigned := if d.rank = 0 then ['0', '.', '0'] else layout d.shortest
  String.ofList (if d.negative then '-' :: unsigned else unsigned)

end Double

end DocStore
