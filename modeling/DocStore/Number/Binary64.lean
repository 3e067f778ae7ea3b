import DocStore.Number.Double

/-!
# All binary64 numbers

The numbers of documents are finite, but the operand of a comparison and the cutoff of a purge may
be any binary64 number: the infinities stand at the two ends of the finite doubles, and NaN stands
nowhere. The bits of a NaN are not kept.
-/

namespace DocStore

inductive Binary64 where
  | finite (value : Double)
  | infinite (negative : Bool)
  | nan
  deriving DecidableEq

namespace Binary64

instance : Inhabited Binary64 := ⟨finite default⟩

instance : Coe Double Binary64 := ⟨finite⟩

/-- The place among the signed ranks of the doubles; NaN has none. -/
def place? : Binary64 → Option Int
  | finite value => some value.signedRank
  | infinite negative => some (if negative then -(2047 * binade) else 2047 * binade)
  | nan => none

/-- False where one of the sides is NaN. -/
def lt (a b : Binary64) : Bool :=
  match a.place?, b.place? with
  | some x, some y => decide (x < y)
  | _, _ => false

/-- False where one of the sides is NaN. -/
def le (a b : Binary64) : Bool :=
  match a.place?, b.place? with
  | some x, some y => decide (x ≤ y)
  | _, _ => false

theorem lt_finite (a b : Double) : lt a b = a.lt b := rfl

theorem le_finite (a b : Double) : le a b = a.le b := rfl

/-- The integer rounded to a double. -/
def ofInt (value : Int) : Binary64 := Double.ofInt value

end Binary64

end DocStore
