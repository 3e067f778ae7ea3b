import DocStore.Number.Shortest
import DocStore.Text.Numeral

/-!
# Numbers of documents

A number is an integer or a double. Two integers that fit a signed 64-bit word are compared exactly
when tested for equality; in every other pair both sides are rounded to doubles first.
-/

namespace DocStore

inductive Number where
  | integer (value : Int)
  | double (value : Double)
  deriving DecidableEq

namespace Number

instance : Inhabited Number := ⟨.integer 0⟩

def toDouble : Number → Double
  | .integer value => Double.ofInt value
  | .double value => value

/-- The value of an integer that fits a signed 64-bit word. -/
def word? : Number → Option Int
  | .integer value => if Numeral.isWord value then some value else none
  | .double _ => none

/-- The value of a natural number below the limit. -/
def natural? (limit : Nat) : Number → Option Nat
  | .integer (.ofNat value) => if value < limit then some value else none
  | _ => none

def equal (a b : Number) : Bool :=
  match a.word?, b.word? with
  | some x, some y => x == y
  | _, _ => a.toDouble.same b.toDouble

def order (a b : Number) : Ordering :=
  if a.equal b then .eq else a.toDouble.order b.toDouble

def text : Number → String
  | .integer value => toString value
  | .double value => value.text

end Number

end DocStore
