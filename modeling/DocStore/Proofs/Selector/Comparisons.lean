import DocStore.Proofs.Lowering
import DocStore.Proofs.Number.Integers
import DocStore.Proofs.Selector.Reading

/-!
# Comparing integers

A comparison rounds the field and its bound to doubles, whereas equality takes integers of 64 bits
as they are. To a comparison, conflated integers are therefore the same; all others are compared
exactly, in particular those of which one is below `2 ^ 53` in absolute value.
-/

namespace DocStore

namespace Comparison

/-- The comparison of the integers themselves. -/
def Exact : Comparison → Int → Int → Prop
  | gt, n, x => x < n
  | gte, n, x => x ≤ n
  | lt, n, x => n < x
  | lte, n, x => n ≤ x

/-- The comparison of integers in which conflated ones count as the same. -/
def Rounded : Comparison → Int → Int → Prop
  | gt, n, x => x < n ∧ ¬ Double.Conflated n x
  | gte, n, x => x ≤ n ∨ Double.Conflated n x
  | lt, n, x => n < x ∧ ¬ Double.Conflated n x
  | lte, n, x => n ≤ x ∨ Double.Conflated n x

theorem holds_ofInt_iff (comparison : Comparison) (n x : Int) :
    comparison.holds (.ofInt n) (.ofInt x) = true ↔ comparison.Rounded n x := by
  have flipped : Double.Conflated x n ↔ Double.Conflated n x :=
    ⟨Double.Conflated.symm, Double.Conflated.symm⟩
  cases comparison with
  | gt => rw [holds, Binary64.ofInt, Binary64.ofInt, Binary64.lt_finite, Double.lt_ofInt_iff,
      flipped, Rounded]
  | gte => rw [holds, Binary64.ofInt, Binary64.ofInt, Binary64.le_finite, Double.le_ofInt_iff,
      flipped, Rounded]
  | lt => exact Double.lt_ofInt_iff n x
  | lte => exact Double.le_ofInt_iff n x

theorem rounded_iff_exact {n x : Int} (apart : ¬ Double.Conflated n x) (comparison : Comparison) :
    comparison.Rounded n x ↔ comparison.Exact n x := by
  cases comparison with
  | gt | lt => exact and_iff_left apart
  | gte | lte => exact or_iff_left apart

theorem rounded_gte_iff (n x : Int) :
    gte.Rounded n x ↔ gt.Rounded n x ∨ n = x ∨ Double.Conflated n x := by
  rw [Rounded, Rounded]
  by_cases conflated : Double.Conflated n x
  · simp [conflated]
  · simp only [conflated, not_false_iff, and_true, or_false]
    omega

end Comparison

namespace Number

/-- The equality of integers, for which only conflated ones beyond 64 bits are the same. -/
def SameInteger (n x : Int) : Prop :=
  n = x ∨ Double.Conflated n x ∧ ¬ Conflated (.integer n) (.integer x)

theorem equal_integer_iff (n x : Int) :
    (integer n).equal (.integer x) = true ↔ SameInteger n x := by
  rw [equal_iff, toDouble, toDouble, SameInteger]
  constructor
  · rintro ⟨same, apart⟩
    by_cases equal : n = x
    · exact .inl equal
    · exact .inr ⟨⟨equal, same⟩, apart⟩
  · rintro (rfl | ⟨conflated, apart⟩)
    · exact (equal_iff _ _).mp (equal_self (.integer n))
    · exact ⟨conflated.2, apart⟩

theorem Conflated.of_integer {n x : Int} (conflated : Conflated (.integer n) (.integer x)) :
    Double.Conflated n x := by
  obtain ⟨m, y, first, second, conflated⟩ := conflated
  cases eq_of_word? first
  cases eq_of_word? second
  exact conflated

end Number

namespace Selector

/-- The selector that applies one operator to one field. -/
def onField (name : String) (operator : Operator) (operand : Json) : Json :=
  .object [(name, .object [(operator.key, operand)])]

/-- The selector is accepted, and a value passes it exactly if the condition is met. It passes the
predicate that the selector is lowered to under the same condition. -/
def Decides (json value : Json) (condition : Prop) : Prop :=
  ∃ selector, read json = .ok selector ∧
    (selector.accepts value = true ↔ condition) ∧
    ((Predicate.ofSelector selector).holds value = true ↔ condition)

section Field

variable {name : String} {path : FieldPath} (isPath : FieldPath.ofString name = .ok path)
  (noOperator : isOperatorKey name = false)

include isPath noOperator

theorem read_onField {operator : Operator} {operand : Json} {condition : Condition}
    (reads : ReadsCondition operator operand condition) :
    read (onField name operator operand) = .ok (.field path condition) := by
  have isOperator : isOperatorKey operator.key = true := by
    cases operator with
    | compare comparison => cases comparison <;> rfl
    | _ => rfl
  have areOperators : ∀ entry ∈ [(operator.key, operand)], isOperatorKey entry.1 = true :=
    List.forall_mem_singleton.mpr isOperator
  have field : Reads (.field path) (.object [(operator.key, operand)]) (.field path condition) :=
    .operators (List.cons_ne_nil _ _) areOperators (.cons (.condition reads) .nil)
  have item : Reads (.item .document) (onField name operator operand) (.field path condition) :=
    .object (.cons (.named noOperator isPath field) .nil)
  exact read_eq_ok_iff.mpr (.inr item)

theorem decides_onField {operator : Operator} {operand value : Json} {condition : Condition}
    (reads : ReadsCondition operator operand condition) {meets : Prop}
    (accepts : condition.accepts (path.lookup value) = true ↔ meets) :
    Decides (onField name operator operand) value meets := by
  refine ⟨.field path condition, read_onField isPath noOperator reads, ?_, ?_⟩
  · rw [Selector.accepts]
    exact accepts
  · rw [Predicate.ofSelector, Predicate.holds_ofCondition]
    exact accepts

/-- Comparisons of integers are exact up to conflated ones, which pass as the same. At least is
greater or equal, unless integers of 64 bits are conflated, which equality tells apart. -/
theorem comparisons_conflate {value : Json} {n : Int} (stored : path.lookup value = some (.ofInt n))
    (x : Int) :
    (∀ comparison : Comparison,
      Decides (onField name (.compare comparison) (.ofInt x)) value (comparison.Rounded n x)) ∧
    Decides (onField name .eq (.ofInt x)) value (Number.SameInteger n x) ∧
    (¬ Double.Conflated n x →
      ∀ comparison : Comparison, comparison.Rounded n x ↔ comparison.Exact n x) ∧
    (Double.Conflated n x → 2 ^ 53 ≤ n.natAbs ∧ 2 ^ 53 ≤ x.natAbs) ∧
    (¬ Number.Conflated (.integer n) (.integer x) →
      (Comparison.gte.Rounded n x ↔ Comparison.gt.Rounded n x ∨ Number.SameInteger n x)) ∧
    (Number.Conflated (.integer n) (.integer x) → Comparison.gte.Rounded n x ∧
      ¬ Comparison.gt.Rounded n x ∧ ¬ Number.SameInteger n x) := by
  refine ⟨?compares, ?equals, Comparison.rounded_iff_exact, Double.Conflated.great, ?agrees,
    ?differs⟩
  case compares =>
    intro comparison
    refine decides_onField isPath noOperator (.compare rfl) ?_
    rw [stored]
    exact comparison.holds_ofInt_iff n x
  case equals =>
    refine decides_onField isPath noOperator (.eq (.ofInt x)) ?_
    rw [stored]
    exact Number.equal_integer_iff n x
  case agrees =>
    intro apart
    rw [Comparison.rounded_gte_iff, Number.SameInteger, and_iff_left apart]
  case differs =>
    intro conflated
    have rounded := conflated.of_integer
    refine ⟨.inr rounded, fun greater => greater.2 rounded, ?_⟩
    rintro (equal | ⟨_, apart⟩)
    · exact rounded.1 equal
    · exact apart conflated

end Field

/-- `2 ^ 53` and its successor are at least each other, neither greater nor equal. -/
theorem comparisons_conflate_sample :
    let n : Int := 9007199254740993
    let x : Int := 9007199254740992
    let value : Json := .object [("n", .ofInt n)]
    FieldPath.ofString "n" = .ok ⟨["n"]⟩ ∧ isOperatorKey "n" = false ∧
      FieldPath.lookup ⟨["n"]⟩ value = some (.ofInt n) ∧
      Number.Conflated (.integer n) (.integer x) ∧
      Decides (onField "n" (.compare .gt) (.ofInt x)) value (Comparison.gt.Rounded n x) ∧
      Decides (onField "n" (.compare .gte) (.ofInt x)) value (Comparison.gte.Rounded n x) ∧
      Decides (onField "n" .eq (.ofInt x)) value (Number.SameInteger n x) ∧
      Comparison.gte.Rounded n x ∧ ¬ Comparison.gt.Rounded n x ∧ ¬ Number.SameInteger n x := by
  intro n x value
  have isPath : FieldPath.ofString "n" = .ok ⟨["n"]⟩ := rfl
  have stored : FieldPath.lookup ⟨["n"]⟩ value = some (.ofInt n) := rfl
  have conflated : Number.Conflated (.integer n) (.integer x) :=
    ⟨n, x, rfl, rfl, by decide, by decide⟩
  obtain ⟨compares, equals, -, -, -, differs⟩ := comparisons_conflate isPath rfl stored x
  exact ⟨isPath, rfl, stored, conflated, compares .gt, compares .gte, equals, differs conflated⟩

/-- The successor of `2 ^ 53` is greater, and the comparison misses it. -/
theorem comparison_misses_successor :
    ∃ selector, read (onField "n" (.compare .gt) (.ofInt 9007199254740992)) = .ok selector ∧
      (9007199254740992 : Int) < 9007199254740993 ∧
      selector.accepts (.object [("n", .ofInt 9007199254740993)]) = false ∧
      (Predicate.ofSelector selector).holds (.object [("n", .ofInt 9007199254740993)]) = false :=
  ⟨_, rfl, by decide, by decide, by decide⟩

end Selector

end DocStore
