import DocStore.Lists
import Mathlib.Data.List.Forall2

/-!
# Stable sorting is sorting

The sorted list has the same elements and ascends. When positions are the keys, the element at a
position of the sorted list is the one with that position as its key.
-/

namespace DocStore

variable {α : Type}

theorem insertSorted_perm (order : α → α → Ordering) (x : α) (xs : List α) :
    (insertSorted order x xs).Perm (x :: xs) := by
  induction xs with
  | nil => exact .refl _
  | cons y ys ih =>
      rw [insertSorted]
      split
      · exact (ih.cons y).trans (.swap x y ys)
      · exact .refl _

theorem stableSort_perm (order : α → α → Ordering) (xs : List α) :
    (stableSort order xs).Perm xs := by
  induction xs with
  | nil => exact .refl _
  | cons x xs ih => exact (insertSorted_perm order x _).trans (ih.cons x)

/-- An element goes in front of a list in which nothing is less. -/
theorem insertSorted_of_least {order : α → α → Ordering} {x : α} {xs : List α}
    (least : ∀ y ∈ xs, order y x ≠ .lt) : insertSorted order x xs = x :: xs := by
  cases xs with
  | nil => rfl
  | cons y ys => rw [insertSorted, if_neg (by simpa using least y (.head ys))]

/-- A list in which nothing is less than what stands before it is left as it is. -/
theorem stableSort_of_pairwise {order : α → α → Ordering} {xs : List α}
    (sorted : xs.Pairwise fun a b => order b a ≠ .lt) : stableSort order xs = xs := by
  induction xs with
  | nil => rfl
  | cons x rest ih =>
      obtain ⟨least, others⟩ := List.pairwise_cons.mp sorted
      rw [stableSort, ih others, insertSorted_of_least least]

section Matches

variable {β : Type} {related : α → β → Prop} {order : α → α → Ordering} {order' : β → β → Ordering}
  (alike : ∀ a a' b b', related a a' → related b b' → order a b = order' a' b')

include alike

theorem insertSorted_forall₂ {x : α} {y : β} (first : related x y) {xs : List α} {ys : List β}
    (rest : List.Forall₂ related xs ys) :
    List.Forall₂ related (insertSorted order x xs) (insertSorted order' y ys) := by
  induction rest with
  | nil => exact .cons first .nil
  | cons second others ih =>
      rw [insertSorted, insertSorted, alike _ _ _ _ second first]
      split
      · exact .cons second ih
      · exact .cons first (.cons second others)

/-- Sorting moves the elements of matched lists to the same places. -/
theorem stableSort_forall₂ {xs : List α} {ys : List β} (items : List.Forall₂ related xs ys) :
    List.Forall₂ related (stableSort order xs) (stableSort order' ys) := by
  induction items with
  | nil => exact .nil
  | cons first rest ih => exact insertSorted_forall₂ alike first ih

end Matches

section Sorted

variable {order : α → α → Ordering} [Std.TransCmp order]

theorem pairwise_insertSorted (x : α) {xs : List α}
    (sorted : xs.Pairwise fun a b => (order a b).isLE) :
    (insertSorted order x xs).Pairwise fun a b => (order a b).isLE := by
  induction xs with
  | nil => exact List.pairwise_singleton _ x
  | cons y ys ih =>
      obtain ⟨least, rest⟩ := List.pairwise_cons.mp sorted
      rw [insertSorted]
      split
      · next less =>
          have below : (order y x).isLE := Ordering.isLE_of_eq_lt (beq_iff_eq.mp less)
          refine List.pairwise_cons.mpr ⟨fun z member => ?_, ih rest⟩
          have among := (insertSorted_perm order x ys).mem_iff.mp member
          rcases List.mem_cons.mp among with rfl | inside
          · exact below
          · exact least z inside
      · next notLess =>
          have above : (order x y).isLE := by
            cases compared : order x y with
            | gt => exact absurd (beq_iff_eq.mpr (Std.OrientedCmp.lt_of_gt compared)) notLess
            | _ => rfl
          refine List.pairwise_cons.mpr ⟨fun z member => ?_, sorted⟩
          rcases List.mem_cons.mp member with rfl | inside
          · exact above
          · exact Std.TransCmp.isLE_trans above (least z inside)

theorem pairwise_stableSort (xs : List α) :
    (stableSort order xs).Pairwise fun a b => (order a b).isLE := by
  induction xs with
  | nil => exact .nil
  | cons x xs ih => exact pairwise_insertSorted x ih

theorem filter_insertSorted (keep : α → Bool) (x : α) {xs : List α}
    (sorted : xs.Pairwise fun a b => (order a b).isLE) :
    (insertSorted order x xs).filter keep =
      if keep x then insertSorted order x (xs.filter keep) else xs.filter keep := by
  induction xs with
  | nil => cases kept : keep x <;> simp [insertSorted, kept]
  | cons y ys ih =>
      obtain ⟨least, rest⟩ := List.pairwise_cons.mp sorted
      rw [insertSorted]
      split
      · next less =>
          rw [List.filter_cons, List.filter_cons, ih rest]
          cases keep y <;> cases keep x <;> simp [insertSorted, less]
      · next notLess =>
          -- Nothing that is kept of a sorted list is less than an element that goes in front of it.
          have first : ∀ z ∈ (y :: ys).filter keep, order z x ≠ .lt := by
            intro z member less
            rcases List.mem_cons.mp (List.mem_of_mem_filter member) with rfl | inside
            · exact notLess (beq_iff_eq.mpr less)
            · exact notLess (beq_iff_eq.mpr (Std.TransCmp.lt_of_isLE_of_lt (least z inside) less))
          rw [insertSorted_of_least first, List.filter_cons]

/-- What is kept of a sorted list is sorted as it was among all elements. -/
theorem filter_stableSort (keep : α → Bool) (xs : List α) :
    (stableSort order xs).filter keep = stableSort order (xs.filter keep) := by
  induction xs with
  | nil => rfl
  | cons x xs ih =>
      rw [stableSort, filter_insertSorted keep x (pairwise_stableSort xs), ih, List.filter_cons]
      cases keep x <;> rfl

/-- Where the order tells all elements apart, sorting forgets how they stood. -/
theorem stableSort_eq_of_perm {xs ys : List α} (perm : xs.Perm ys)
    (apart : ∀ a ∈ xs, ∀ b ∈ xs, order a b = .eq → a = b) :
    stableSort order xs = stableSort order ys := by
  have sorted := (stableSort_perm order xs).trans (perm.trans (stableSort_perm order ys).symm)
  refine sorted.eq_of_pairwise (fun a b left right below above => ?_)
    (pairwise_stableSort xs) (pairwise_stableSort ys)
  have first : a ∈ xs := (stableSort_perm order xs).mem_iff.mp left
  have second : b ∈ xs := perm.mem_iff.mpr ((stableSort_perm order ys).mem_iff.mp right)
  exact apart a first b second (Std.OrientedCmp.isLE_antisymm below above)

end Sorted

/-! ## Positions as keys -/

/-- Puts entries in the order of their positions. -/
theorem keys_stableSort {entries : List (Nat × α)} {n : Nat}
    (perm : (entries.map (·.1)).Perm (List.range n)) :
    (stableSort (fun a b => compare a.1 b.1) entries).map (·.1) = List.range n := by
  have trans : Std.TransCmp fun a b : Nat × α => compare a.1 b.1 :=
    inferInstanceAs (Std.TransCmp (compareOn Prod.fst))
  have sorted : ((stableSort (fun a b => compare a.1 b.1) entries).map (·.1)).Pairwise (· ≤ ·) :=
    List.pairwise_map.mpr ((pairwise_stableSort entries).imp fun le => Nat.isLE_compare.mp le)
  have same := ((stableSort_perm (fun a b => compare a.1 b.1) entries).map (·.1)).trans perm
  exact same.eq_of_pairwise (fun a b _ _ => Nat.le_antisymm) sorted List.pairwise_le_range

/-- The entry at a position is the one with that position as its key. -/
theorem getElem?_stableSort {entries : List (Nat × α)} {n : Nat}
    (perm : (entries.map (·.1)).Perm (List.range n)) {position : Nat} {value : α}
    (member : (position, value) ∈ entries) :
    (stableSort (fun a b => compare a.1 b.1) entries)[position]? = some (position, value) := by
  have keys := keys_stableSort perm
  have inside := (stableSort_perm (fun a b => compare a.1 b.1) entries).mem_iff.mpr member
  obtain ⟨index, found⟩ := List.getElem?_of_mem inside
  have key : (List.range n)[index]? = some position := by
    rw [← keys, List.getElem?_map, found]
    rfl
  have same : index = position := by
    obtain ⟨bound, at_index⟩ := List.getElem?_eq_some_iff.mp key
    rwa [List.getElem_range] at at_index
  rwa [same] at found

/-- Entries that stand in the order of their positions keep this order among others. -/
theorem filterMap_stableSort {β : Type} {first second : List (Nat × α)} {n : Nat}
    (perm : ((first ++ second).map (·.1)).Perm (List.range n))
    (ascending : first.Pairwise fun a b => a.1 < b.1) {f : Nat × α → Option β}
    (others : ∀ entry ∈ second, f entry = none) :
    (stableSort (fun a b => compare a.1 b.1) (first ++ second)).filterMap f =
      first.filterMap f := by
  have keys := keys_stableSort perm
  have sorted : (stableSort (fun a b => compare a.1 b.1) (first ++ second)).Pairwise
      fun a b => a.1 < b.1 := by
    refine List.pairwise_map.mp ?_
    rw [keys]
    exact List.pairwise_lt_range
  have none_second : second.filter (fun entry => (f entry).isSome) = [] :=
    List.filter_eq_nil_iff.mpr fun entry member => by simp [others entry member]
  have kept : (stableSort (fun a b => compare a.1 b.1) (first ++ second)).filter
      (fun entry => (f entry).isSome) = first.filter fun entry => (f entry).isSome := by
    have same := (stableSort_perm (fun a b => compare a.1 b.1) (first ++ second)).filter
      fun entry => (f entry).isSome
    rw [List.filter_append, none_second, List.append_nil] at same
    refine same.eq_of_pairwise (fun a b _ _ less more => ?_)
      (sorted.sublist List.filter_sublist) (ascending.sublist List.filter_sublist)
    exact absurd less (Nat.lt_asymm more)
  have of_filter : ∀ entries : List (Nat × α),
      (entries.filter fun entry => (f entry).isSome).filterMap f = entries.filterMap f := by
    intro entries
    rw [List.filterMap_filter]
    refine List.filterMap_congr fun entry _ => ?_
    cases f entry <;> rfl
  rw [← of_filter, kept, of_filter]

end DocStore
