import DocStore.Json.Order
import DocStore.Proofs.Induction
import DocStore.Proofs.Number.Integers

/-!
# Sort keys of values

A value in stored form has a sort key, a list of parts that are compared one by one. The key of a
container begins with its size, so the key of one value is never a proper beginning of the key of
another one, and the order of values is the lexicographic order of their keys.
-/

namespace DocStore

/-- A rank or a length, then a number, then a text. -/
structure KeyPart where
  size : Nat
  number : Int
  text : String

namespace KeyPart

def order : KeyPart → KeyPart → Ordering :=
  compareLex (compareOn size) (compareLex (compareOn number) (compareOn text))

instance : Std.TransCmp order :=
  inferInstanceAs
    (Std.TransCmp (compareLex (compareOn size) (compareLex (compareOn number) (compareOn text))))

end KeyPart

/-- Keys are compared part by part, a proper beginning first. -/
def keyCompare : List KeyPart → List KeyPart → Ordering := List.compareLex KeyPart.order

instance : Std.TransCmp keyCompare := inferInstanceAs (Std.TransCmp (List.compareLex KeyPart.order))

theorem keyCompare_cons (a b : Nat) (x y : Int) (s t : String) (as bs : List KeyPart) :
    keyCompare (⟨a, x, s⟩ :: as) (⟨b, y, t⟩ :: bs) =
      ((compare a b).then ((compare x y).then (compare s t))).then (keyCompare as bs) :=
  List.compareLex_cons_cons

theorem keyCompare_size (a b : Nat) (as bs : List KeyPart) :
    keyCompare (⟨a, 0, ""⟩ :: as) (⟨b, 0, ""⟩ :: bs) = (compare a b).then (keyCompare as bs) := by
  simp [keyCompare_cons]

theorem keyCompare_number (size : Nat) (x y : Int) (as bs : List KeyPart) :
    keyCompare (⟨size, x, ""⟩ :: as) (⟨size, y, ""⟩ :: bs) =
      (compare x y).then (keyCompare as bs) := by
  simp [keyCompare_cons]

namespace Json

mutual

def sortKey : Json → List KeyPart
  | .null => [⟨0, 0, ""⟩]
  | .string value => [⟨1, 0, value⟩]
  | .number value => [⟨2, value.toDouble.signedRank, ""⟩]
  | .bool value => [⟨3, value.toInt, ""⟩]
  | .array items => ⟨4, 0, ""⟩ :: ⟨items.length, 0, ""⟩ :: sortKeyOfItems items
  | .object entries => ⟨5, 0, ""⟩ :: ⟨entries.length, 0, ""⟩ :: sortKeyOfEntries entries

def sortKeyOfItems : List Json → List KeyPart
  | [] => []
  | item :: rest => sortKey item ++ sortKeyOfItems rest

def sortKeyOfEntries : List (String × Json) → List KeyPart
  | [] => []
  | (key, value) :: rest =>
      ⟨key.utf8ByteSize, 0, key⟩ :: (sortKey value ++ sortKeyOfEntries rest)

end

/-! ## The order of values is the order of their keys -/

/-- What comes after two different sizes does not matter. -/
theorem then_eq_then {m n : Nat} {first second : Ordering} (same : m = n → first = second) :
    (compare m n).then first = (compare m n).then second := by
  by_cases equal : m = n
  · rw [same equal]
  · cases compared : compare m n with
    | eq => exact absurd (Nat.compare_eq_eq.mp compared) equal
    | lt => rfl
    | gt => rfl

theorem sortKey_eq_cons (json : Json) :
    ∃ number text behind, sortKey json = ⟨json.kindRank, number, text⟩ :: behind := by
  cases json <;> exact ⟨_, _, _, rfl⟩

theorem storedOrder_of_rank_ne {a b : Json} (apart : a.kindRank ≠ b.kindRank) :
    storedOrder a b = compare a.kindRank b.kindRank := by
  cases a <;> cases b <;> first | rfl | exact absurd rfl apart

theorem keyCompare_of_rank_ne {a b : Json} (apart : a.kindRank ≠ b.kindRank)
    (x y : List KeyPart) :
    keyCompare (sortKey a ++ x) (sortKey b ++ y) = (storedOrder a b).then (keyCompare x y) := by
  obtain ⟨number, text, behind, first⟩ := sortKey_eq_cons a
  obtain ⟨number', text', behind', second⟩ := sortKey_eq_cons b
  rw [first, second, List.cons_append, List.cons_append, keyCompare_cons,
    storedOrder_of_rank_ne apart, Ordering.then_assoc]
  exact then_eq_then fun same => absurd same apart

/-- Comparing the keys compares the values first and then what stands behind their keys. -/
def ComparesFirst (a : Json) : Prop :=
  ∀ b x y, keyCompare (sortKey a ++ x) (sortKey b ++ y) = (storedOrder a b).then (keyCompare x y)

theorem keyCompare_items {as : List Json} (each : ∀ item ∈ as, ComparesFirst item) {bs : List Json}
    (same : as.length = bs.length) (x y : List KeyPart) :
    keyCompare (sortKeyOfItems as ++ x) (sortKeyOfItems bs ++ y) =
      (storedItemsOrder as bs).then (keyCompare x y) := by
  induction as generalizing bs with
  | nil =>
      cases List.length_eq_zero_iff.mp same.symm
      rfl
  | cons a as ih =>
      cases bs with
      | nil => cases same
      | cons b bs =>
          have others := ih (fun item member => each item (.tail a member)) (Nat.succ.inj same)
          rw [sortKeyOfItems, sortKeyOfItems, List.append_assoc, List.append_assoc,
            each a (.head as), others, storedItemsOrder, Ordering.then_assoc]

theorem keyCompare_entries {as : List (String × Json)}
    (each : ∀ entry ∈ as, ComparesFirst entry.2) {bs : List (String × Json)}
    (same : as.length = bs.length) (x y : List KeyPart) :
    keyCompare (sortKeyOfEntries as ++ x) (sortKeyOfEntries bs ++ y) =
      (storedEntriesOrder as bs).then (keyCompare x y) := by
  induction as generalizing bs with
  | nil =>
      cases List.length_eq_zero_iff.mp same.symm
      rfl
  | cons a as ih =>
      cases bs with
      | nil => cases same
      | cons b bs =>
          obtain ⟨k, a⟩ := a
          obtain ⟨l, b⟩ := b
          have others := ih (fun entry member => each entry (.tail _ member)) (Nat.succ.inj same)
          have key : (compare k.utf8ByteSize l.utf8ByteSize).then
              ((compare (0 : Int) 0).then (compare k l)) = keyOrder k l := rfl
          rw [sortKeyOfEntries, sortKeyOfEntries, List.cons_append, List.cons_append,
            keyCompare_cons, key, List.append_assoc, List.append_assoc, each (k, a) (.head as),
            others, storedEntriesOrder, Ordering.then_assoc, Ordering.then_assoc]

/-- Kinds apart are settled by the first parts of the keys. -/
theorem comparesFirst_of_rank {a : Json}
    (same : ∀ b, a.kindRank = b.kindRank → ∀ x y,
      keyCompare (sortKey a ++ x) (sortKey b ++ y) = (storedOrder a b).then (keyCompare x y)) :
    ComparesFirst a := by
  intro b x y
  by_cases rank : a.kindRank = b.kindRank
  · exact same b rank x y
  · exact keyCompare_of_rank_ne rank x y

theorem comparesFirst (a : Json) : ComparesFirst a := by
  induction a with
  | null =>
      refine comparesFirst_of_rank fun b rank x y => ?_
      cases b <;> cases rank
      rfl
  | bool value =>
      refine comparesFirst_of_rank fun b rank x y => ?_
      cases b <;> cases rank
      next other => cases value <;> cases other <;> rfl
  | number value =>
      refine comparesFirst_of_rank fun b rank x y => ?_
      cases b <;> cases rank
      next other =>
        rw [storedOrder, Number.order_eq]
        exact keyCompare_number 2 value.toDouble.signedRank other.toDouble.signedRank x y
  | string value =>
      refine comparesFirst_of_rank fun b rank x y => ?_
      cases b <;> cases rank
      next other => exact keyCompare_cons 1 1 0 0 value other x y
  | array items ih =>
      refine comparesFirst_of_rank fun b rank x y => ?_
      cases b <;> cases rank
      next others =>
        rw [sortKey, sortKey, storedOrder, Ordering.then_assoc]
        simp only [List.cons_append, keyCompare_size, Std.compare_self, Ordering.eq_then]
        exact then_eq_then fun same => keyCompare_items ih same x y
  | object entries ih =>
      refine comparesFirst_of_rank fun b rank x y => ?_
      cases b <;> cases rank
      next others =>
        rw [sortKey, sortKey, storedOrder, Ordering.then_assoc]
        simp only [List.cons_append, keyCompare_size, Std.compare_self, Ordering.eq_then]
        exact then_eq_then fun same => keyCompare_entries ih same x y

theorem storedOrder_eq (a b : Json) : storedOrder a b = keyCompare (sortKey a) (sortKey b) := by
  have compared := comparesFirst a b [] []
  rw [List.append_nil, List.append_nil] at compared
  rw [compared]
  exact Ordering.then_eq.symm

/-! ## The order of present and missing values -/

/-- An empty array at the top has a key before all others, a missing value one behind them. -/
def orderKey : Option Json → List KeyPart
  | some json => if json.isEmptyArray then [] else sortKey json.canonical
  | none => [⟨6, 0, ""⟩]

theorem order_eq (a b : Json) : order a b = keyCompare (orderKey (some a)) (orderKey (some b)) := by
  obtain ⟨number, text, behind, first⟩ := sortKey_eq_cons a.canonical
  obtain ⟨number', text', behind', second⟩ := sortKey_eq_cons b.canonical
  rw [order, orderKey, orderKey]
  cases a.isEmptyArray <;> cases b.isEmptyArray
  · exact storedOrder_eq a.canonical b.canonical
  · simp only [first]
    rfl
  · simp only [second]
    rfl
  · rfl

theorem kindRank_lt (json : Json) : json.kindRank < 6 := by
  cases json <;> simp [kindRank]

theorem keyCompare_missing (json : Json) :
    keyCompare (orderKey (some json)) (orderKey none) = .lt := by
  obtain ⟨number, text, behind, found⟩ := sortKey_eq_cons json.canonical
  rw [orderKey, orderKey]
  cases json.isEmptyArray with
  | true => rfl
  | false =>
      have lower : compare json.canonical.kindRank 6 = .lt :=
        Nat.compare_eq_lt.mpr json.canonical.kindRank_lt
      rw [if_neg Bool.false_ne_true, found, keyCompare_cons, lower]
      rfl

theorem optionOrder_eq (a b : Option Json) :
    optionOrder a b = keyCompare (orderKey a) (orderKey b) := by
  cases a with
  | none =>
      cases b with
      | none => rfl
      | some b =>
          have swapped : keyCompare (orderKey none) (orderKey (some b)) =
              (keyCompare (orderKey (some b)) (orderKey none)).swap := Std.OrientedCmp.eq_swap
          rw [swapped, keyCompare_missing]
          rfl
  | some a =>
      cases b with
      | none => exact (keyCompare_missing a).symm
      | some b => exact order_eq a b

end Json

/-- An order that is read off keys is a total preorder. -/
theorem transCmp_of_key {α β : Type} {order : α → α → Ordering} {keyOrder : β → β → Ordering}
    [Std.TransCmp keyOrder] (key : α → β) (same : ∀ a b, order a b = keyOrder (key a) (key b)) :
    Std.TransCmp order where
  eq_swap {a b} := by
    rw [same, same]
    exact Std.OrientedCmp.eq_swap
  isLE_trans {a b c} := by
    rw [same, same, same]
    exact Std.TransCmp.isLE_trans

namespace Json

instance : Std.TransCmp order := transCmp_of_key (fun json => orderKey (some json)) order_eq

instance : Std.TransCmp optionOrder := transCmp_of_key orderKey optionOrder_eq

end Json

end DocStore
