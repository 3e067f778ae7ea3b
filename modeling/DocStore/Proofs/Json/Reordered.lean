import DocStore.FieldPath
import DocStore.Json.Containment
import DocStore.Json.Text
import DocStore.Proofs.Induction
import DocStore.Proofs.Keyed
import DocStore.Proofs.Pointwise
import DocStore.Proofs.StableSort
import Mathlib.Data.List.Nodup
import Mathlib.Data.List.Perm.Basic

/-!
# The order of keys

Two values may differ in the order of the keys of their objects, at any depth. As long as no object
has a key twice, such values have the same stored form and the same text, they are equal to and hold
the same values, and a path finds values in them that differ in the order of keys only.
-/

namespace DocStore

namespace Json

/-- Entries with the same key and related values. -/
inductive EntryRel (related : Json → Json → Prop) : String × Json → String × Json → Prop where
  | value {key : String} {a b : Json} (value : related a b) : EntryRel related (key, a) (key, b)

/-- Equal up to the order of the keys of objects, none of which has a key twice. -/
inductive Reordered : Json → Json → Prop where
  | scalar {json : Json} (isScalar : json.isScalar = true) : Reordered json json
  | array {as bs : List Json} (items : List.Forall₂ Reordered as bs) :
      Reordered (.array as) (.array bs)
  | object {as shuffled bs : List (String × Json)} (distinct : (as.map (·.1)).Nodup)
      (perm : as.Perm shuffled) (values : List.Forall₂ (EntryRel Reordered) shuffled bs) :
      Reordered (.object as) (.object bs)

namespace Reordered

@[elab_as_elim]
theorem induction {motive : Json → Json → Prop}
    (scalar : ∀ json, json.isScalar = true → motive json json)
    (array : ∀ as bs, List.Forall₂ motive as bs → motive (.array as) (.array bs))
    (object : ∀ as shuffled bs, (as.map (·.1)).Nodup → as.Perm shuffled →
      List.Forall₂ (EntryRel motive) shuffled bs → motive (.object as) (.object bs))
    {a b : Json} (reordered : Reordered a b) : motive a b :=
  @Reordered.rec (fun a b _ => motive a b) (fun as bs _ => List.Forall₂ motive as bs)
    (fun as bs _ => List.Forall₂ (EntryRel motive) as bs) (fun a b _ => EntryRel motive a b)
    (fun isScalar => scalar _ isScalar) (fun _ items => array _ _ items)
    (fun distinct perm _ values => object _ _ _ distinct perm values)
    .nil (fun _ _ first rest => .cons first rest) .nil (fun _ _ first rest => .cons first rest)
    (fun _ value => .value value) a b reordered

end Reordered

/-! ## Entries in another order -/

section Entries

variable {related : Json → Json → Prop} {as bs shuffled : List (String × Json)}

theorem map_key_eq (values : List.Forall₂ (EntryRel related) as bs) :
    as.map (·.1) = bs.map (·.1) := by
  refine map_forall₂ (values.imp fun a b entry => ?_)
  cases entry
  rfl

theorem lookup_perm (distinct : (as.map (·.1)).Nodup) (perm : as.Perm bs) (key : String) :
    as.lookup key = bs.lookup key := by
  by_cases named : key ∈ as.map (·.1)
  · obtain ⟨⟨_, value⟩, member, rfl⟩ := List.mem_map.mp named
    rw [Keyed.lookup_of_mem distinct member,
      Keyed.lookup_of_mem ((perm.map _).nodup_iff.mp distinct) (perm.mem_iff.mp member)]
  · rw [Keyed.lookup_of_notMem named,
      Keyed.lookup_of_notMem fun other => named ((perm.map _).mem_iff.mpr other)]

theorem lookup_values (values : List.Forall₂ (EntryRel related) as bs) (key : String) :
    Option.Rel related (as.lookup key) (bs.lookup key) := by
  induction values with
  | nil => exact .none
  | cons first rest ih =>
      obtain ⟨value⟩ := first
      rw [List.lookup_cons, List.lookup_cons]
      split
      · exact .some value
      · exact ih

/-- Under every key, both objects have related values or none. -/
theorem lookup_entries (distinct : (as.map (·.1)).Nodup) (perm : as.Perm shuffled)
    (values : List.Forall₂ (EntryRel related) shuffled bs) (key : String) :
    Option.Rel related (as.lookup key) (bs.lookup key) := by
  rw [lookup_perm distinct perm]
  exact lookup_values values key

theorem length_reordered (perm : as.Perm shuffled)
    (values : List.Forall₂ (EntryRel related) shuffled bs) : as.length = bs.length :=
  perm.length_eq.trans values.length_eq

end Entries

theorem entryRel_flip {a b : String × Json} (entry : EntryRel (flip related) a b) :
    EntryRel related b a := by
  obtain ⟨value⟩ := entry
  exact .value value

theorem Reordered.symm {a b : Json} (reordered : Reordered a b) : Reordered b a := by
  refine reordered.induction (motive := flip Reordered) ?scalar ?array ?object
  case scalar => exact fun _ isScalar => .scalar isScalar
  case array => exact fun as bs items => .array items.flip
  case object =>
    intro as shuffled bs distinct perm values
    -- The values may as well be related first and shuffled then.
    obtain ⟨moved, entries, order⟩ := List.perm_comp_forall₂ perm values
    have keys : (bs.map (·.1)).Nodup := by
      rw [← (order.map _).nodup_iff, ← map_key_eq entries]
      exact distinct
    exact .object keys order.symm (entries.imp fun _ _ entry => entryRel_flip entry).flip

/-! ## The stored form -/

/-- Entries are put in the order of their keys. -/
def entryOrder {α : Type} (a b : String × α) : Ordering := keyOrder a.1 b.1

instance {α : Type} : Std.TransCmp (@entryOrder α) :=
  inferInstanceAs (Std.TransCmp
    (compareLex (compareOn fun entry : String × α => entry.1.utf8ByteSize) (compareOn Prod.fst)))

theorem key_eq_of_entryOrder {α : Type} {a b : String × α} (above : (entryOrder a b).isLE)
    (below : (entryOrder b a).isLE) : a.1 = b.1 := by
  have same : entryOrder a b = .eq := Std.OrientedCmp.isLE_antisymm above below
  exact Std.compare_eq_iff_eq.mp (Ordering.then_eq_eq.mp same).2

/-- Distinct keys have one order only. -/
theorem sortEntries_perm {α : Type} {as bs : List (String × α)}
    (distinct : (as.map (·.1)).Nodup) (perm : as.Perm bs) : sortEntries as = sortEntries bs := by
  have first : (sortEntries as).Perm as := stableSort_perm entryOrder as
  have second : (sortEntries bs).Perm bs := stableSort_perm entryOrder bs
  have ascends (entries : List (String × α)) :
      (sortEntries entries).Pairwise fun a b => (entryOrder a b).isLE :=
    @pairwise_stableSort _ entryOrder _ entries
  have same := first.trans (perm.trans second.symm)
  refine same.eq_of_pairwise ?_ (ascends as) (ascends bs)
  intro a b inFirst inSecond above below
  have member : a ∈ as := first.mem_iff.mp inFirst
  have other : b ∈ as := perm.mem_iff.mpr (second.mem_iff.mp inSecond)
  exact List.inj_on_of_nodup_map distinct member other (key_eq_of_entryOrder above below)

theorem canonicalItems_eq_map (items : List Json) : canonicalItems items = items.map canonical := by
  induction items with
  | nil => rfl
  | cons item rest ih => rw [canonicalItems, ih, List.map_cons]

theorem canonicalEntries_eq_map (entries : List (String × Json)) :
    canonicalEntries entries = entries.map fun entry => (entry.1, entry.2.canonical) := by
  induction entries with
  | nil => rfl
  | cons entry rest ih => rw [canonicalEntries, ih, List.map_cons]

namespace Reordered

theorem canonical_eq {a b : Json} (reordered : Reordered a b) : a.canonical = b.canonical := by
  refine reordered.induction ?scalar ?array ?object
  case scalar => exact fun _ _ => rfl
  case array =>
      intro as bs items
      rw [canonical, canonical, canonicalItems_eq_map, canonicalItems_eq_map, map_forall₂ items]
  case object =>
      intro as shuffled bs distinct perm values
      have same : shuffled.map (fun entry => (entry.1, entry.2.canonical)) =
          bs.map fun entry => (entry.1, entry.2.canonical) := by
        refine map_forall₂ (values.imp fun a b entry => ?_)
        obtain ⟨value⟩ := entry
        exact Prod.ext rfl value
      rw [canonical, canonical, canonicalEntries_eq_map, canonicalEntries_eq_map, ← same]
      refine congrArg Json.object (sortEntries_perm ?_ (perm.map _))
      rwa [List.map_map]

theorem kind_eq {a b : Json} (reordered : Reordered a b) : a.kind = b.kind := by
  cases reordered <;> rfl

theorem double?_eq {a b : Json} (reordered : Reordered a b) : a.double? = b.double? := by
  cases reordered <;> rfl

theorem text?_eq {a b : Json} (reordered : Reordered a b) : a.text? = b.text? := by
  have stored := reordered.canonical_eq
  cases reordered with
  | scalar isScalar => rfl
  | array items => exact congrArg (fun json => some (String.ofList (print .spaced json))) stored
  | object distinct perm values =>
      exact congrArg (fun json => some (String.ofList (print .spaced json))) stored

theorem isEmptyArray_eq {a b : Json} (reordered : Reordered a b) :
    a.isEmptyArray = b.isEmptyArray := by
  cases reordered with
  | array items => cases items <;> rfl
  | _ => rfl

/-- The order of values does not see the order of keys. -/
theorem order_eq {a a' b b' : Json} (first : Reordered a a') (second : Reordered b b') :
    order a b = order a' b' := by
  rw [order, order, first.isEmptyArray_eq, second.isEmptyArray_eq, first.canonical_eq,
    second.canonical_eq]

theorem optionOrder_eq {a a' b b' : Option Json} (first : Option.Rel Reordered a a')
    (second : Option.Rel Reordered b b') : optionOrder a b = optionOrder a' b' := by
  cases first with
  | none => cases second <;> rfl
  | some first =>
      cases second with
      | none => rfl
      | some second => exact order_eq first second

end Reordered

/-! ## Equality and containment

Both compare objects by looking the keys of one up in the other. -/

/-- Whether the value under the key of the entry passes the test with the value of the entry. -/
def entryHolds (test : Json → Json → Bool) (entries : List (String × Json))
    (entry : String × Json) : Bool :=
  match entries.lookup entry.1 with
  | some value => test entry.2 value
  | none => false

theorem entriesIn_eq_all (as bs : List (String × Json)) :
    entriesIn as bs = as.all (entryHolds equal bs) := by
  induction as with
  | nil => rfl
  | cons entry rest ih =>
      rw [entriesIn, ih, List.all_cons]
      rfl

theorem entriesWithin_eq_all (wanted held : List (String × Json)) :
    entriesWithin wanted held = wanted.all (entryHolds within held) := by
  induction wanted with
  | nil => rfl
  | cons entry rest ih =>
      rw [entriesWithin, ih, List.all_cons]
      rfl

theorem itemsWithin_eq_all (wanted held : List Json) :
    itemsWithin wanted held = wanted.all fun item => held.any fun other => within item other := by
  induction wanted with
  | nil => rfl
  | cons item rest ih => rw [itemsWithin, ih, List.all_cons]

/-- No test on the right tells the values apart. -/
def SameLeft (test : Json → Json → Bool) (a b : Json) : Prop := ∀ other, test a other = test b other

/-- No test on the left tells the values apart. -/
def SameRight (test : Json → Json → Bool) (a b : Json) : Prop :=
  ∀ other, test other a = test other b

section Entries

variable {test : Json → Json → Bool} {as shuffled bs : List (String × Json)}

theorem all_entryHolds (perm : as.Perm shuffled)
    (values : List.Forall₂ (EntryRel (SameLeft test)) shuffled bs) (held : List (String × Json)) :
    as.all (entryHolds test held) = bs.all (entryHolds test held) := by
  rw [perm.all_eq]
  refine all_forall₂ (values.imp fun a b entry => ?_)
  obtain ⟨value⟩ := entry
  simp only [entryHolds]
  split
  · exact value _
  · rfl

theorem entryHolds_reordered (distinct : (as.map (·.1)).Nodup) (perm : as.Perm shuffled)
    (values : List.Forall₂ (EntryRel (SameRight test)) shuffled bs) (entry : String × Json) :
    entryHolds test as entry = entryHolds test bs entry := by
  have related := lookup_entries distinct perm values entry.1
  rw [entryHolds, entryHolds]
  generalize as.lookup entry.1 = found at related
  generalize bs.lookup entry.1 = other at related
  cases related with
  | none => rfl
  | some value => exact value entry.2

end Entries

theorem equalItems_left {as bs : List Json} (same : List.Forall₂ (SameLeft equal) as bs)
    (others : List Json) : equalItems as others = equalItems bs others := by
  induction same generalizing others with
  | nil => rfl
  | cons first rest ih =>
      cases others with
      | nil => rfl
      | cons other others => rw [equalItems, equalItems, first, ih]

theorem equalItems_right {as bs : List Json} (same : List.Forall₂ (SameRight equal) as bs)
    (others : List Json) : equalItems others as = equalItems others bs := by
  induction same generalizing others with
  | nil => rfl
  | cons first rest ih =>
      cases others with
      | nil => rfl
      | cons other others => rw [equalItems, equalItems, first, ih]

namespace Reordered

theorem sameLeft_equal {a b : Json} (reordered : Reordered a b) : SameLeft equal a b := by
  refine reordered.induction ?scalar ?array ?object
  case scalar => exact fun _ _ _ => rfl
  case array =>
    intro as bs items other
    cases other with
    | array others => exact equalItems_left items others
    | _ => rfl
  case object =>
    intro as shuffled bs distinct perm values other
    cases other with
    | object others =>
        rw [equal, equal, entriesIn_eq_all, entriesIn_eq_all, all_entryHolds perm values,
          length_reordered perm values]
    | _ => rfl

theorem sameRight_equal {a b : Json} (reordered : Reordered a b) : SameRight equal a b := by
  refine reordered.induction ?scalar ?array ?object
  case scalar => exact fun _ _ _ => rfl
  case array =>
    intro as bs items other
    cases other with
    | array others => exact equalItems_right items others
    | _ => rfl
  case object =>
    intro as shuffled bs distinct perm values other
    cases other with
    | object others =>
        rw [equal, equal, entriesIn_eq_all, entriesIn_eq_all, length_reordered perm values,
          funext (entryHolds_reordered distinct perm values)]
    | _ => rfl

theorem sameLeft_within {a b : Json} (reordered : Reordered a b) : SameLeft within a b := by
  refine reordered.induction ?scalar ?array ?object
  case scalar => exact fun _ _ _ => rfl
  case array =>
    intro as bs items other
    cases other with
    | array others =>
        rw [within, within, itemsWithin_eq_all, itemsWithin_eq_all]
        exact all_forall₂ (items.imp fun a b same => any_eq_any_of_mem fun other _ => same other)
    | _ => rfl
  case object =>
    intro as shuffled bs distinct perm values other
    cases other with
    | object others =>
        rw [within, within, entriesWithin_eq_all, entriesWithin_eq_all, all_entryHolds perm values]
    | _ => rfl

theorem sameRight_within {a b : Json} (reordered : Reordered a b) : SameRight within a b := by
  refine reordered.induction ?scalar ?array ?object
  case scalar => exact fun _ _ _ => rfl
  case array =>
    intro as bs items other
    cases other with
    | array others =>
        rw [within, within, itemsWithin_eq_all, itemsWithin_eq_all]
        exact all_eq_all_of_mem fun other _ => any_forall₂ (items.imp fun a b same => same other)
    | _ => rfl
  case object =>
    intro as shuffled bs distinct perm values other
    cases other with
    | object others =>
        rw [within, within, entriesWithin_eq_all, entriesWithin_eq_all,
          funext (entryHolds_reordered distinct perm values)]
    | _ => rfl

theorem isScalar_eq {a b : Json} (reordered : Reordered a b) : a.isScalar = b.isScalar := by
  cases reordered <;> rfl

theorem equal_eq {a a' b b' : Json} (first : Reordered a a') (second : Reordered b b') :
    equal a b = equal a' b' :=
  (first.sameLeft_equal b).trans (second.sameRight_equal a')

theorem within_eq {a a' b b' : Json} (first : Reordered a a') (second : Reordered b b') :
    within a b = within a' b' :=
  (first.sameLeft_within b).trans (second.sameRight_within a')

theorem contains_eq {a a' b b' : Json} (container : Reordered a a') (wanted : Reordered b b') :
    contains a b = contains a' b' := by
  have below := within_eq wanted container
  cases container with
  | scalar isScalar => cases a <;> first | exact below | cases isScalar
  | array items =>
      rw [contains, contains, wanted.isScalar_eq, below]
      congr 1
      refine any_forall₂ (items.imp fun item item' reordered => ?_)
      rw [reordered.isScalar_eq, reordered.equal_eq wanted]
  | object distinct perm values => exact below

end Reordered

end Json

/-! ## Paths -/

namespace FieldPath

open Json

theorem itemAt?_reordered {as bs : List Json} (items : List.Forall₂ Reordered as bs)
    (position : Int) : Option.Rel Reordered (itemAt? as position) (itemAt? bs position) := by
  rw [itemAt?, itemAt?, items.length_eq]
  generalize (if position < 0 then (bs.length : Int) + position else position) = index
  by_cases before : index < 0
  · simp only [if_pos before]
    exact .none
  · simp only [if_neg before]
    exact getElem?_forall₂ items index.toNat

theorem step_reordered {a b : Json} (reordered : Reordered a b) (segment : String) :
    Option.Rel Reordered (step a segment) (step b segment) := by
  cases reordered with
  | scalar isScalar => cases a <;> first | exact .none | cases isScalar
  | array items =>
      rw [step, step]
      cases Numeral.index? segment.toList with
      | none => exact .none
      | some position => exact itemAt?_reordered items position
  | object distinct perm values => exact lookup_entries distinct perm values segment

/-- A path finds values that differ in the order of keys only. -/
theorem lookup_reordered {a b : Json} (reordered : Reordered a b) (path : FieldPath) :
    Option.Rel Reordered (path.lookup a) (path.lookup b) := by
  obtain ⟨segments⟩ := path
  rw [lookup, lookup]
  induction segments generalizing a b with
  | nil => exact .some reordered
  | cons segment rest ih =>
      have stepped := step_reordered reordered segment
      rw [List.foldlM_cons, List.foldlM_cons]
      generalize step a segment = found at stepped
      generalize step b segment = other at stepped
      cases stepped with
      | none => exact .none
      | some value => exact ih value

end FieldPath

end DocStore
