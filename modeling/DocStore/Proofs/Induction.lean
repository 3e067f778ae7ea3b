import DocStore.Predicate

/-!
# Induction over values, selectors and predicates

Values, selectors and predicates branch through lists. Each gets one induction principle, in which
the hypothesis of a branch speaks of the members of its list, and the functions that walk such lists
are put in terms of the functions on lists.
-/

namespace DocStore

theorem all_eq_all_of_mem {α : Type} {p q : α → Bool} {items : List α}
    (same : ∀ item ∈ items, p item = q item) : items.all p = items.all q := by
  induction items with
  | nil => rfl
  | cons item rest ih =>
      rw [List.all_cons, List.all_cons, same item (.head rest),
        ih fun other member => same other (.tail item member)]

theorem any_eq_any_of_mem {α : Type} {p q : α → Bool} {items : List α}
    (same : ∀ item ∈ items, p item = q item) : items.any p = items.any q := by
  induction items with
  | nil => rfl
  | cons item rest ih =>
      rw [List.any_cons, List.any_cons, same item (.head rest),
        ih fun other member => same other (.tail item member)]

namespace Json

@[elab_as_elim, induction_eliminator]
theorem induction {motive : Json → Prop} (null : motive .null)
    (bool : ∀ value, motive (.bool value)) (number : ∀ value, motive (.number value))
    (string : ∀ value, motive (.string value))
    (array : ∀ items, (∀ item ∈ items, motive item) → motive (.array items))
    (object : ∀ entries, (∀ entry ∈ entries, motive entry.2) → motive (.object entries))
    (json : Json) : motive json :=
  @Json.rec motive (fun items => ∀ item ∈ items, motive item)
    (fun entries => ∀ entry ∈ entries, motive entry.2) (fun entry => motive entry.2)
    null bool number string array object (fun _ member => nomatch member)
    (fun _ _ first rest => List.forall_mem_cons.mpr ⟨first, rest⟩)
    (fun _ member => nomatch member)
    (fun _ _ first rest => List.forall_mem_cons.mpr ⟨first, rest⟩) (fun _ _ value => value) json

end Json

namespace Selector

@[elab_as_elim, induction_eliminator]
theorem induction {motive : Selector → Prop}
    (and : ∀ clauses, (∀ clause ∈ clauses, motive clause) → motive (.and clauses))
    (or : ∀ clauses, (∀ clause ∈ clauses, motive clause) → motive (.or clauses))
    (nor : ∀ clauses, (∀ clause ∈ clauses, motive clause) → motive (.nor clauses))
    (not : ∀ clause, motive clause → motive (.not clause))
    (field : ∀ path condition, motive (.field path condition))
    (elemMatch : ∀ path clause, motive clause → motive (.elemMatch path clause))
    (selector : Selector) : motive selector :=
  @Selector.rec motive (fun clauses => ∀ clause ∈ clauses, motive clause)
    and or nor not field elemMatch (fun _ member => nomatch member)
    (fun _ _ first rest => List.forall_mem_cons.mpr ⟨first, rest⟩) selector

theorem allAccept_eq_all (clauses : List Selector) (json : Json) :
    allAccept clauses json = clauses.all fun clause => clause.accepts json := by
  induction clauses with
  | nil => rfl
  | cons clause rest ih => rw [allAccept, ih, List.all_cons]

theorem anyAccepts_eq_any (clauses : List Selector) (json : Json) :
    anyAccepts clauses json = clauses.any fun clause => clause.accepts json := by
  induction clauses with
  | nil => rfl
  | cons clause rest ih => rw [anyAccepts, ih, List.any_cons]

theorem accepts_elemMatch (path : FieldPath) (clause : Selector) (json : Json) :
    (elemMatch path clause).accepts json =
      (((path.lookup json).bind Json.items?).getD []).any fun item => clause.accepts item := by
  rw [accepts]
  cases path.lookup json with
  | none => rfl
  | some found => cases found <;> rfl

end Selector

namespace Predicate

@[elab_as_elim, induction_eliminator]
theorem induction {motive : Predicate → Prop}
    (const : ∀ value, motive (.const value))
    (and : ∀ parts, (∀ part ∈ parts, motive part) → motive (.and parts))
    (or : ∀ parts, (∀ part ∈ parts, motive part) → motive (.or parts))
    (not : ∀ part, motive part → motive (.not part))
    (textEq : ∀ path value, motive (.textEq path value))
    (jsonEq : ∀ path value, motive (.jsonEq path value))
    (isNull : ∀ path, motive (.isNull path))
    (compare : ∀ path comparison value, motive (.compare path comparison value))
    (present : ∀ path, motive (.exists path))
    (kindIs : ∀ path kind, motive (.kindIs path kind))
    (contains : ∀ path value, motive (.contains path value))
    (elemMatch : ∀ path part, motive part → motive (.elemMatch path part))
    (predicate : Predicate) : motive predicate :=
  @Predicate.rec motive (fun parts => ∀ part ∈ parts, motive part)
    const and or not textEq jsonEq isNull compare present kindIs contains elemMatch
    (fun _ member => nomatch member)
    (fun _ _ first rest => List.forall_mem_cons.mpr ⟨first, rest⟩) predicate

theorem allHold_eq_all (parts : List Predicate) (json : Json) :
    allHold parts json = parts.all fun part => part.holds json := by
  induction parts with
  | nil => rfl
  | cons part rest ih => rw [allHold, ih, List.all_cons]

theorem anyHolds_eq_any (parts : List Predicate) (json : Json) :
    anyHolds parts json = parts.any fun part => part.holds json := by
  induction parts with
  | nil => rfl
  | cons part rest ih => rw [anyHolds, ih, List.any_cons]

/-- An element match goes through the items of an array, and through none of any other value. -/
theorem holds_elemMatch (path : FieldPath) (part : Predicate) (json : Json) :
    (elemMatch path part).holds json =
      (((path.lookup json).bind Json.items?).getD []).any fun item => part.holds item := by
  rw [holds]
  cases path.lookup json with
  | none => rfl
  | some found => cases found <;> rfl

theorem allAlwaysTrue_eq_all (parts : List Predicate) :
    allAlwaysTrue parts = parts.all isAlwaysTrue := by
  induction parts with
  | nil => rfl
  | cons part rest ih => rw [allAlwaysTrue, ih, List.all_cons]

theorem anyAlwaysTrue_eq_any (parts : List Predicate) :
    anyAlwaysTrue parts = parts.any isAlwaysTrue := by
  induction parts with
  | nil => rfl
  | cons part rest ih => rw [anyAlwaysTrue, ih, List.any_cons]

theorem allAlwaysFalse_eq_all (parts : List Predicate) :
    allAlwaysFalse parts = parts.all isAlwaysFalse := by
  induction parts with
  | nil => rfl
  | cons part rest ih => rw [allAlwaysFalse, ih, List.all_cons]

theorem anyAlwaysFalse_eq_any (parts : List Predicate) :
    anyAlwaysFalse parts = parts.any isAlwaysFalse := by
  induction parts with
  | nil => rfl
  | cons part rest ih => rw [anyAlwaysFalse, ih, List.any_cons]

theorem ofSelectors_eq_map (clauses : List Selector) :
    ofSelectors clauses = clauses.map ofSelector := by
  induction clauses with
  | nil => rfl
  | cons clause rest ih => rw [ofSelectors, ih, List.map_cons]

end Predicate

end DocStore
