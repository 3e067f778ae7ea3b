import DocStore.Proofs.FieldPath
import DocStore.Query.Compiled
import Mathlib.Data.List.Forall2

/-!
# Sort lists

A sort list holds names and objects, and every pair of an object is an item of its own. An item is a
sort term or it is set aside, the pairs beside it staying what they are. Rows are sorted as if the
items that are set aside had never been in the list.
-/

namespace DocStore

namespace Direction

/-- The text is the name of the direction, in small letters or in capitals. -/
def Spells (text : String) (direction : Direction) : Prop :=
  text.toList.map Char.toLower = direction.name.toList

theorem ofString?_eq_some_iff (text : String) (direction : Direction) :
    ofString? text = some direction ↔ Spells text direction := by
  rw [ofString?, Spells]
  generalize text.toList.map Char.toLower = small
  constructor
  · intro read
    split at read
    · cases read
      rfl
    · cases read
      rfl
    · cases read
  · rintro rfl
    cases direction <;> rfl

end Direction

namespace SortTerm

/-- An item stands for a term: a name sorts upwards, a pair says how its field is sorted by. -/
inductive Means : Json → SortTerm → Prop where
  | name {field : String} {path : FieldPath} (dotted : FieldPath.Dotted field path.segments) :
      Means (.string field) ⟨path, .asc⟩
  | pair {field text : String} {path : FieldPath} {direction : Direction}
      (dotted : FieldPath.Dotted field path.segments) (spells : Direction.Spells text direction) :
      Means (.object [(field, .string text)]) ⟨path, direction⟩

theorem toOption_ofString_eq_some_iff (field : String) (path : FieldPath) :
    (FieldPath.ofString field).toOption = some path ↔ FieldPath.Dotted field path.segments := by
  rw [← FieldPath.ofString_eq_ok_iff]
  cases FieldPath.ofString field <;> simp [Except.toOption]

theorem ofItem?_eq_some_iff {item : Json} {term : SortTerm} :
    ofItem? item = some term ↔ Means item term := by
  constructor
  · intro read
    unfold ofItem? at read
    split at read
    · obtain ⟨path, named, rfl⟩ := Option.map_eq_some_iff.mp read
      exact .name ((toOption_ofString_eq_some_iff _ path).mp named)
    · obtain ⟨path, named, directed⟩ := Option.bind_eq_some_iff.mp read
      obtain ⟨direction, spelled, same⟩ := Option.bind_eq_some_iff.mp directed
      cases same
      exact .pair ((toOption_ofString_eq_some_iff _ path).mp named)
        ((Direction.ofString?_eq_some_iff _ direction).mp spelled)
    · cases read
  · rintro (dotted | ⟨dotted, spells⟩)
    · rw [ofItem?, (toOption_ofString_eq_some_iff _ _).mpr dotted, Option.map_some]
    · rw [ofItem?, (toOption_ofString_eq_some_iff _ _).mpr dotted,
        (Direction.ofString?_eq_some_iff _ _).mpr spells]
      rfl

theorem ofItem?_eq_none_iff {item : Json} :
    ofItem? item = none ↔ ∀ term, ¬ Means item term := by
  rw [Option.eq_none_iff_forall_ne_some]
  exact forall_congr' fun term => not_congr ofItem?_eq_some_iff

/-- The items of a list: the pairs of each object that has any, and all other entries whole. -/
inductive Flattens : List Json → List Json → Prop where
  | nil : Flattens [] []
  | pairs {first : String × Json} {others : List (String × Json)} {sort items : List Json}
      (rest : Flattens sort items) :
      Flattens (.object (first :: others) :: sort)
        ((first :: others).map (fun entry => .object [entry]) ++ items)
  | whole {entry : Json} {sort items : List Json}
      (noPairs : ∀ first others, entry ≠ .object (first :: others)) (rest : Flattens sort items) :
      Flattens (entry :: sort) (entry :: items)

theorem itemsOf_eq_singleton {entry : Json}
    (noPairs : ∀ first others, entry ≠ .object (first :: others)) : itemsOf entry = [entry] := by
  unfold itemsOf
  split
  · next first others => exact absurd rfl (noPairs first others)
  · rfl

theorem flattens_flatMap (sort : List Json) : Flattens sort (sort.flatMap itemsOf) := by
  induction sort with
  | nil => exact .nil
  | cons entry sort ih =>
      rw [List.flatMap_cons]
      by_cases pairs : ∃ first others, entry = .object (first :: others)
      · obtain ⟨first, others, rfl⟩ := pairs
        exact .pairs ih
      · have noPairs : ∀ first others, entry ≠ .object (first :: others) :=
          fun first others same => pairs ⟨first, others, same⟩
        rw [itemsOf_eq_singleton noPairs]
        exact .whole noPairs ih

theorem Flattens.flatMap_eq {sort items : List Json} (flattens : Flattens sort items) :
    sort.flatMap itemsOf = items := by
  induction flattens with
  | nil => rfl
  | pairs _ ih =>
      rw [List.flatMap_cons, ih]
      rfl
  | whole noPairs _ ih =>
      rw [List.flatMap_cons, itemsOf_eq_singleton noPairs, ih]
      rfl

/-- Every item is kept, which needs a term, or set aside, in the order of the items. -/
inductive Splits : List Json → List Json → List Json → Prop where
  | nil : Splits [] [] []
  | keep {item : Json} {term : SortTerm} {items kept dropped : List Json} (means : Means item term)
      (rest : Splits items kept dropped) : Splits (item :: items) (item :: kept) dropped
  | drop {item : Json} {items kept dropped : List Json} (noTerm : ∀ term, ¬ Means item term)
      (rest : Splits items kept dropped) : Splits (item :: items) kept (item :: dropped)

theorem splits_filter (items : List Json) :
    Splits items (items.filter fun item => (ofItem? item).isSome)
      (items.filter fun item => (ofItem? item).isNone) := by
  induction items with
  | nil => exact .nil
  | cons item items ih =>
      cases read : ofItem? item with
      | some term =>
          rw [List.filter_cons_of_pos (by rw [read]; rfl), List.filter_cons_of_neg (by simp [read])]
          exact .keep (ofItem?_eq_some_iff.mp read) ih
      | none =>
          rw [List.filter_cons_of_neg (by simp [read]), List.filter_cons_of_pos (by rw [read]; rfl)]
          exact .drop (ofItem?_eq_none_iff.mp read) ih

namespace Splits

variable {items kept dropped : List Json}

theorem filterMap_eq (splits : Splits items kept dropped) :
    kept.filterMap ofItem? = items.filterMap ofItem? := by
  induction splits with
  | nil => rfl
  | keep means _ ih =>
      rw [List.filterMap_cons_some (ofItem?_eq_some_iff.mpr means),
        List.filterMap_cons_some (ofItem?_eq_some_iff.mpr means), ih]
  | drop noTerm _ ih => rw [List.filterMap_cons_none (ofItem?_eq_none_iff.mpr noTerm), ih]

/-- The terms are those of the kept items. -/
theorem forall₂_means (splits : Splits items kept dropped) :
    List.Forall₂ Means kept (items.filterMap ofItem?) := by
  induction splits with
  | nil => exact .nil
  | keep means _ ih =>
      rw [List.filterMap_cons_some (ofItem?_eq_some_iff.mpr means)]
      exact .cons means ih
  | drop noTerm _ ih =>
      rw [List.filterMap_cons_none (ofItem?_eq_none_iff.mpr noTerm)]
      exact ih

/-- The kept items split into themselves. -/
theorem again (splits : Splits items kept dropped) : Splits kept kept [] := by
  induction splits with
  | nil => exact .nil
  | keep means _ ih => exact .keep means ih
  | drop _ _ ih => exact ih

/-- The items leave no choice. -/
theorem unique {others rest : List Json} (splits : Splits items kept dropped)
    (again : Splits items others rest) : kept = others ∧ dropped = rest := by
  induction splits generalizing others rest with
  | nil =>
      cases again
      exact ⟨rfl, rfl⟩
  | keep means _ ih =>
      cases again with
      | keep _ again => exact ⟨congrArg _ (ih again).1, (ih again).2⟩
      | drop noTerm _ => exact absurd means (noTerm _)
  | drop noTerm _ ih =>
      cases again with
      | keep means _ => exact absurd means (noTerm _)
      | drop _ again => exact ⟨(ih again).1, congrArg _ (ih again).2⟩

theorem flattens_kept (splits : Splits items kept dropped) : Flattens kept kept := by
  induction splits with
  | nil => exact .nil
  | keep means _ ih =>
      cases means with
      | name => exact .whole nofun ih
      | pair => exact .pairs ih
  | drop _ _ ih => exact ih

end Splits

end SortTerm

namespace QuerySpec

open SortTerm

variable {query : MangoQuery} {selector : Selector}

theorem ofMango_eq (parses : Selector.read query.selector = .ok selector) :
    ofMango query = .ok {
      selector
      sort := (query.sort.flatMap itemsOf).filterMap ofItem?
      skip := (query.skip.map UInt64.toNat).getD 0
      limit := query.limit.bind fun limit => positive limit.toNat
      droppedSort := (query.sort.flatMap itemsOf).filter fun item => (ofItem? item).isNone } := by
  rw [ofMango, parses]
  rfl

/-- With the kept items alone, a query is read as before and nothing is set aside. -/
theorem ofMango_kept {spec : QuerySpec} {items kept dropped sort : List Json}
    (parses : Selector.read query.selector = .ok selector) (read : ofMango query = .ok spec)
    (whole : Flattens query.sort items) (splits : Splits items kept dropped)
    (flattens : Flattens sort kept) :
    ofMango { query with sort } = .ok { spec with droppedSort := [] } := by
  have noneLeft : (kept.filter fun item => (ofItem? item).isNone) = [] :=
    ((splits_filter kept).unique splits.again).2
  have again : ofMango { query with sort } = _ := ofMango_eq parses
  rw [ofMango_eq parses, whole.flatMap_eq, ← splits.filterMap_eq] at read
  cases read
  rw [again, flattens.flatMap_eq, noneLeft]

/-- A query whose selector is read splits its sort list: every item is a term or set aside, and the
rows are sorted as by any list of the items that were kept. -/
theorem sort_list_splits (parses : Selector.read query.selector = .ok selector) :
    ∃ spec items kept, ofMango query = .ok spec ∧ Flattens query.sort items ∧
      Splits items kept spec.droppedSort ∧ List.Forall₂ Means kept spec.sort ∧
      Flattens kept kept ∧
      ∀ sort, Flattens sort kept → ∃ other, ofMango { query with sort } = .ok other ∧
        other.droppedSort = [] ∧ (∀ a b, other.compile.order a b = spec.compile.order a b) ∧
        ∀ rows, other.compile.arrange rows = spec.compile.arrange rows := by
  have flattens := flattens_flatMap query.sort
  have splits := splits_filter (query.sort.flatMap itemsOf)
  have read := ofMango_eq parses
  refine ⟨_, _, _, read, flattens, splits, splits.forall₂_means, splits.flattens_kept,
    fun sort again => ?_⟩
  exact ⟨_, ofMango_kept parses read flattens splits again, rfl, fun _ _ => rfl, fun _ => rfl⟩

/-- A pair that is kept beside one that is not, an unknown entry, a name, and nothing at all. -/
theorem sort_list_splits_sample :
    let good : Json := .object [("title", .string "DESC")]
    let bad : Json := .object [("done", .string "sideways")]
    let sort : List Json := [.object [("title", .string "DESC"), ("done", .string "sideways")],
      .ofNat 7, .string "created", .object [], .string "a..b"]
    let query : MangoQuery := ⟨.null, sort, none, none⟩
    Selector.read query.selector = .ok .everything ∧
    ∃ spec items kept, ofMango query = .ok spec ∧ Flattens sort items ∧
      Splits items kept spec.droppedSort ∧ List.Forall₂ Means kept spec.sort ∧
      items = [good, bad, .ofNat 7, .string "created", .object [], .string "a..b"] ∧
      kept = [good, .string "created"] ∧
      spec.droppedSort = [bad, .ofNat 7, .object [], .string "a..b"] := by
  intro good bad sort query
  have parses : Selector.read query.selector = .ok .everything := rfl
  obtain ⟨spec, items, kept, read, flattens, splits, means, _⟩ := sort_list_splits parses
  have all : sort.flatMap itemsOf = items := flattens.flatMap_eq
  obtain ⟨keptEq, droppedEq⟩ := (splits_filter items).unique splits
  refine ⟨parses, spec, items, kept, read, flattens, splits, means, all.symm, ?_, ?_⟩
  · rw [← keptEq, ← all]
    rfl
  · rw [← droppedEq, ← all]
    rfl

end QuerySpec

end DocStore
