import DocStore.Proofs.Json.Reordered
import DocStore.Proofs.Json.SortKey
import DocStore.Query.Compiled
import Mathlib.Order.Defs.Unbundled
import Mathlib.Data.Set.Function

/-!
# The order of rows

Each sort term compares two rows by the values at its path, upwards or downwards, and every further
term decides only where all terms before it leave the rows equal. Behind the terms stand the ids, so
no two rows with different ids are left equal.
-/

namespace DocStore

namespace CompiledQuery

/-- A term reads the values at its path and compares them in its direction. -/
instance (term : SortTerm) : Std.TransCmp fun a b => termOrder a b term := by
  have upwards : Std.TransCmp fun a b : StoredRow =>
      Json.optionOrder (a.data.lookup term.path) (b.data.lookup term.path) :=
    transCmp_of_key (fun row => row.data.lookup term.path) fun _ _ => rfl
  obtain ⟨path, direction⟩ := term
  cases direction with
  | asc => exact upwards
  | desc =>
      have downwards : (fun a b => termOrder a b ⟨path, .desc⟩) = fun a b : StoredRow =>
          Json.optionOrder (b.data.lookup path) (a.data.lookup path) := by
        funext a b
        have swapped : Json.optionOrder (b.data.lookup path) (a.data.lookup path) =
            (Json.optionOrder (a.data.lookup path) (b.data.lookup path)).swap :=
          Std.OrientedCmp.eq_swap
        exact swapped.symm
      rw [downwards]
      exact inferInstanceAs (Std.TransCmp fun a b : StoredRow =>
        (fun a b : StoredRow => Json.optionOrder (a.data.lookup path) (b.data.lookup path)) b a)

theorem order_cons (predicate : Predicate) (term : SortTerm) (rest : List SortTerm) (skip : Nat)
    (limit : Option Nat) (a b : StoredRow) :
    order ⟨predicate, term :: rest, skip, limit⟩ a b =
      (termOrder a b term).then (order ⟨predicate, rest, skip, limit⟩ a b) := rfl

instance (query : CompiledQuery) : Std.TransCmp query.order := by
  obtain ⟨predicate, sort, skip, limit⟩ := query
  induction sort with
  | nil => exact inferInstanceAs (Std.TransCmp (compareOn StoredRow.id))
  | cons term rest ih =>
      exact inferInstanceAs (Std.TransCmp
        (compareLex (fun a b => termOrder a b term) (order ⟨predicate, rest, skip, limit⟩)))

/-- Only the ids decide in the end, so rows that are left equal have the same id. -/
theorem id_eq_of_order_eq {query : CompiledQuery} {a b : StoredRow} (same : query.order a b = .eq) :
    a.id = b.id := by
  obtain ⟨predicate, sort, skip, limit⟩ := query
  induction sort with
  | nil => exact Std.compare_eq_iff_eq.mp same
  | cons term rest ih =>
      rw [order_cons] at same
      exact ih (Ordering.then_eq_eq.mp same).2

theorem isStrictTotalOrder_order (query : CompiledQuery) {rows : Set StoredRow}
    (distinct : rows.InjOn StoredRow.id) :
    IsStrictTotalOrder rows fun a b => query.order a b = .lt where
  irrefl row less := by
    have same : query.order row row = .eq := Std.ReflCmp.compare_self
    rw [same] at less
    cases less
  trans _ _ _ first second := Std.TransCmp.lt_trans first second
  trichotomous a b notBelow notAbove := by
    have same : query.order a b = .eq := by
      cases compared : query.order a b with
      | eq => rfl
      | lt => exact absurd compared notBelow
      | gt => exact absurd (Std.OrientedCmp.lt_of_gt compared) notAbove
    exact Subtype.ext (distinct a.2 b.2 (id_eq_of_order_eq same))

/-- Values, present or missing, are totally preordered whatever the order of their keys, and every
list of terms orders rows with different ids strictly and totally. -/
theorem orders_lawful :
    (Std.ReflCmp Json.order ∧ Std.TransCmp Json.order) ∧
    (Std.ReflCmp Json.optionOrder ∧ Std.TransCmp Json.optionOrder) ∧
    (∀ a a' b b' : Json, Json.Reordered a a' → Json.Reordered b b' →
      Json.order a b = Json.order a' b') ∧
    (∀ a a' b b' : Option Json, Option.Rel Json.Reordered a a' → Option.Rel Json.Reordered b b' →
      Json.optionOrder a b = Json.optionOrder a' b') ∧
    ∀ query : CompiledQuery, Std.TransCmp query.order ∧
      ∀ rows : Set StoredRow, rows.InjOn StoredRow.id →
        IsStrictTotalOrder rows fun a b => query.order a b = .lt := by
  refine ⟨⟨inferInstance, inferInstance⟩, ⟨inferInstance, inferInstance⟩, ?_, ?_, ?_⟩
  · intro a a' b b' first second
    exact Json.Reordered.order_eq first second
  · intro a a' b b' first second
    exact Json.Reordered.optionOrder_eq first second
  · intro query
    exact ⟨inferInstance, fun rows distinct => query.isStrictTotalOrder_order distinct⟩

/-- A row with a value to sort by, if any. -/
def sortableRow (id : String) (value : List Json) : StoredRow :=
  ⟨id, ⟨value.map fun value => ("n", value)⟩⟩

theorem orders_lawful_sample :
    let query : CompiledQuery := ⟨.const true, [⟨⟨["n"]⟩, .desc⟩], 0, none⟩
    let empty := sortableRow "empty" [.array []]
    let missing := sortableRow "missing" []
    let ab : Json := .object [("a", .ofNat 1), ("b", .ofNat 2)]
    let ba : Json := .object [("b", .ofNat 2), ("a", .ofNat 1)]
    IsStrictTotalOrder ({empty, missing} : Set StoredRow) (fun a b => query.order a b = .lt) ∧
    query.order missing empty = .lt ∧ Json.order ab .null = Json.order ba .null ∧
    Json.optionOrder (some ab) none = Json.optionOrder (some ba) none := by
  intro query empty missing ab ba
  obtain ⟨_, _, values, options, queries⟩ := orders_lawful
  have distinct : Set.InjOn StoredRow.id {empty, missing} := by
    rintro a (rfl | rfl) b (rfl | rfl) same
    · rfl
    · exact absurd same (by decide)
    · exact absurd same (by decide)
    · rfl
  have number (n : Nat) : Json.Reordered (.ofNat n) (.ofNat n) := .scalar rfl
  have reordered : Json.Reordered ab ba :=
    .object (by decide) (.swap _ _ _) (.cons (.value (number 2)) (.cons (.value (number 1)) .nil))
  exact ⟨(queries query).2 _ distinct, rfl, values ab ba .null .null reordered (.scalar rfl),
    options (some ab) (some ba) none none (.some reordered) .none⟩

end CompiledQuery

end DocStore
