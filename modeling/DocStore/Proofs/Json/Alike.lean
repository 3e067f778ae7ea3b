import DocStore.Proofs.Json.Reordered
import DocStore.Proofs.Json.SortKey

/-!
# Values alike

Two values are alike when they differ in the order of the keys of their objects only, and in what a
relation between numbers leaves open. Equality and the order of values both find out whether values
are alike. They differ in the numbers that they do not tell apart.
-/

namespace DocStore

namespace Json

/-- The numbers that a value contains. -/
inductive HasNumber (number : Number) : Json → Prop where
  | here : HasNumber number (.number number)
  | item {items : List Json} {item : Json} (member : item ∈ items)
      (inside : HasNumber number item) : HasNumber number (.array items)
  | entry {entries : List (String × Json)} {key : String} {value : Json}
      (member : (key, value) ∈ entries) (inside : HasNumber number value) :
      HasNumber number (.object entries)

/-- No object has a key twice. -/
inductive UniqueKeys : Json → Prop where
  | scalar {json : Json} (isScalar : json.isScalar = true) : UniqueKeys json
  | array {items : List Json} (each : ∀ item ∈ items, UniqueKeys item) : UniqueKeys (.array items)
  | object {entries : List (String × Json)} (distinct : (entries.map (·.1)).Nodup)
      (each : ∀ entry ∈ entries, UniqueKeys entry.2) : UniqueKeys (.object entries)

theorem UniqueKeys.of_array {items : List Json} (unique : UniqueKeys (.array items)) :
    ∀ item ∈ items, item.UniqueKeys := by
  cases unique with
  | scalar isScalar => cases isScalar
  | array each => exact each

theorem UniqueKeys.of_object {entries : List (String × Json)}
    (unique : UniqueKeys (.object entries)) :
    (entries.map (·.1)).Nodup ∧ ∀ entry ∈ entries, entry.2.UniqueKeys := by
  cases unique with
  | scalar isScalar => cases isScalar
  | object distinct each => exact ⟨distinct, each⟩

/-- Equal up to the order of keys and to what is left open between numbers. -/
inductive Alike (same : Number → Number → Prop) : Json → Json → Prop where
  | null : Alike same .null .null
  | bool (value : Bool) : Alike same (.bool value) (.bool value)
  | number {m n : Number} (numbers : same m n) : Alike same (.number m) (.number n)
  | string (value : String) : Alike same (.string value) (.string value)
  | array {as bs : List Json} (items : List.Forall₂ (Alike same) as bs) :
      Alike same (.array as) (.array bs)
  | object {as shuffled bs : List (String × Json)} (perm : as.Perm shuffled)
      (values : List.Forall₂ (EntryRel (Alike same)) shuffled bs) :
      Alike same (.object as) (.object bs)

section Alike

variable {same same' : Number → Number → Prop}

theorem alike_array_iff {as bs : List Json} :
    Alike same (.array as) (.array bs) ↔ List.Forall₂ (Alike same) as bs := by
  constructor
  · rintro ⟨⟩
    assumption
  · exact .array

theorem alike_object_iff {as bs : List (String × Json)} :
    Alike same (.object as) (.object bs) ↔
      ∃ shuffled, as.Perm shuffled ∧ List.Forall₂ (EntryRel (Alike same)) shuffled bs := by
  constructor
  · intro alike
    cases alike with
    | object perm values => exact ⟨_, perm, values⟩
  · rintro ⟨shuffled, perm, values⟩
    exact .object perm values

theorem Alike.refl (each : ∀ n, same n n) (json : Json) : Alike same json json := by
  induction json with
  | null => exact .null
  | bool value => exact .bool value
  | number value => exact .number (each value)
  | string value => exact .string value
  | array items ih => exact .array (List.forall₂_same.mpr ih)
  | object entries ih =>
      refine .object (.refl entries) (List.forall₂_same.mpr fun entry member => ?_)
      exact .value (ih entry member)

/-- A relation between the numbers of the values on both sides is enough. -/
theorem Alike.mono {a b : Json} (alike : Alike same a b)
    (implies : ∀ m n, a.HasNumber m → b.HasNumber n → same m n → same' m n) :
    Alike same' a b := by
  induction a generalizing b with
  | null =>
      cases alike
      exact .null
  | bool value =>
      cases alike
      exact .bool value
  | number value =>
      cases alike with
      | number numbers => exact .number (implies _ _ .here .here numbers)
  | string value =>
      cases alike
      exact .string value
  | array items ih =>
      cases alike with
      | array pairs =>
          refine .array (forall₂_imp_of_mem (fun a left b right alike => ?_) pairs)
          exact ih a left alike fun m n inLeft inRight =>
            implies m n (.item left inLeft) (.item right inRight)
  | object entries ih =>
      cases alike with
      | object perm values =>
          refine .object perm (forall₂_imp_of_mem (fun a left b right entry => ?_) values)
          obtain ⟨value⟩ := entry
          have member := perm.mem_iff.mpr left
          exact .value (ih _ member value fun m n inLeft inRight =>
            implies m n (.entry member inLeft) (.entry right inRight))

theorem Alike.symm {a b : Json} (alike : Alike same a b) : Alike (flip same) b a := by
  induction a generalizing b with
  | null =>
      cases alike
      exact .null
  | bool value =>
      cases alike
      exact .bool value
  | number value =>
      cases alike with
      | number numbers => exact .number numbers
  | string value =>
      cases alike
      exact .string value
  | array items ih =>
      cases alike with
      | array pairs =>
          exact .array (forall₂_imp_of_mem (q := flip (Alike (flip same)))
            (fun a member b _ alike => ih a member alike) pairs).flip
  | object entries ih =>
      cases alike with
      | object perm values =>
          -- The values may as well be related first and shuffled then.
          obtain ⟨moved, related, order⟩ := List.perm_comp_forall₂ perm values
          refine .object order.symm (forall₂_imp_of_mem (q := flip (EntryRel (Alike (flip same))))
            (fun a member b _ entry => ?_) related).flip
          obtain ⟨value⟩ := entry
          exact .value (ih _ member value)

theorem Alike.kind_eq {a b : Json} (alike : Alike same a b) : a.kind = b.kind := by
  cases alike <;> rfl

end Alike

theorem entryRel_iff {related : Json → Json → Prop} {entry other : String × Json} :
    EntryRel related entry other ↔ entry.1 = other.1 ∧ related entry.2 other.2 := by
  obtain ⟨key, a⟩ := entry
  obtain ⟨other, b⟩ := other
  constructor
  · rintro ⟨value⟩
    exact ⟨rfl, value⟩
  · rintro ⟨rfl, value⟩
    exact .value value

/-! ## Comparing in parallel -/

/-- A relation that takes values apart in parallel. The entries of an object with distinct keys may
be in any order. -/
structure TakesApart (same : Number → Number → Prop) (related : Json → Json → Prop) : Prop where
  kind {a b : Json} : related a b → a.kind = b.kind
  null : related .null .null
  bool (value other : Bool) : related (.bool value) (.bool other) ↔ value = other
  number (m n : Number) : related (.number m) (.number n) ↔ same m n
  string (value other : String) : related (.string value) (.string other) ↔ value = other
  array (as bs : List Json) : related (.array as) (.array bs) ↔ List.Forall₂ related as bs
  object {as : List (String × Json)} (distinct : (as.map (·.1)).Nodup) (bs : List (String × Json)) :
    related (.object as) (.object bs) ↔
      ∃ shuffled, as.Perm shuffled ∧ List.Forall₂ (EntryRel related) shuffled bs

section TakesApart

variable {same : Number → Number → Prop} {related : Json → Json → Prop}
  (takesApart : TakesApart same related)

include takesApart

theorem TakesApart.iff_of_kind_ne {a b : Json} (kinds : a.kind ≠ b.kind) :
    related a b ↔ Alike same a b :=
  iff_of_false (fun holds => kinds (takesApart.kind holds)) fun alike => kinds alike.kind_eq

/-- Such a relation decides whether values are alike. -/
theorem TakesApart.iff_alike {a : Json} (unique : a.UniqueKeys) (b : Json) :
    related a b ↔ Alike same a b := by
  induction a generalizing b with
  | null =>
      cases b with
      | null => exact iff_of_true takesApart.null .null
      | _ => exact takesApart.iff_of_kind_ne (by rintro ⟨⟩)
  | bool value =>
      cases b with
      | bool other =>
          rw [takesApart.bool]
          constructor
          · rintro rfl
            exact .bool value
          · rintro ⟨⟩
            rfl
      | _ => exact takesApart.iff_of_kind_ne (by rintro ⟨⟩)
  | number value =>
      cases b with
      | number other =>
          rw [takesApart.number]
          constructor
          · exact .number
          · rintro ⟨⟩
            assumption
      | _ => exact takesApart.iff_of_kind_ne (by rintro ⟨⟩)
  | string value =>
      cases b with
      | string other =>
          rw [takesApart.string]
          constructor
          · rintro rfl
            exact .string value
          · rintro ⟨⟩
            rfl
      | _ => exact takesApart.iff_of_kind_ne (by rintro ⟨⟩)
  | array items ih =>
      cases b with
      | array others =>
          rw [takesApart.array, alike_array_iff]
          exact forall₂_congr_of_mem fun item member other =>
            ih item member (unique.of_array item member) other
      | _ => exact takesApart.iff_of_kind_ne (by rintro ⟨⟩)
  | object entries ih =>
      cases b with
      | object others =>
          obtain ⟨distinct, each⟩ := unique.of_object
          rw [takesApart.object distinct, alike_object_iff]
          refine exists_congr fun shuffled => and_congr_right fun perm => ?_
          refine forall₂_congr_of_mem fun entry member other => ?_
          have among := perm.mem_iff.mpr member
          rw [entryRel_iff, entryRel_iff]
          exact and_congr_right fun _ => ih entry among (each entry among) other.2
      | _ => exact takesApart.iff_of_kind_ne (by rintro ⟨⟩)

end TakesApart

/-! ## Equality -/

/-- Values may be related first and shuffled then. -/
theorem shuffle_first {related : Json → Json → Prop} {as picked bs : List (String × Json)}
    (values : List.Forall₂ (EntryRel related) as picked) (perm : picked.Perm bs) :
    ∃ shuffled, as.Perm shuffled ∧ List.Forall₂ (EntryRel related) shuffled bs := by
  have composed : Relation.Comp List.Perm (List.Forall₂ (EntryRel related)) as bs := by
    rw [← List.forall₂_comp_perm_eq_perm_comp_forall₂]
    exact ⟨picked, values, perm⟩
  exact composed

theorem equalItems_iff {as bs : List Json} :
    equalItems as bs = true ↔ List.Forall₂ (fun a b => equal a b = true) as bs := by
  induction as generalizing bs with
  | nil => cases bs <;> simp [equalItems]
  | cons a as ih =>
      cases bs with
      | nil => simp [equalItems]
      | cons b bs => rw [equalItems, Bool.and_eq_true, List.forall₂_cons, ih]

/-- As many entries, each found under its key: the entries are the same up to their order. -/
theorem equalEntries_iff {as bs : List (String × Json)} (distinct : (as.map (·.1)).Nodup) :
    (as.length == bs.length && entriesIn as bs) = true ↔
      ∃ shuffled, as.Perm shuffled ∧
        List.Forall₂ (EntryRel fun a b => equal a b = true) shuffled bs := by
  rw [Bool.and_eq_true, beq_iff_eq, entriesIn_eq_all, List.all_eq_true]
  constructor
  · rintro ⟨lengths, each⟩
    have found : ∀ entry ∈ as, ∃ other,
        EntryRel (fun a b => equal a b = true) entry other ∧ other ∈ bs := by
      rintro ⟨key, a⟩ member
      have holds := each _ member
      rw [entryHolds] at holds
      split at holds
      · next b looked =>
          obtain ⟨before, behind, rfl, _⟩ := List.lookup_eq_some_iff.mp looked
          exact ⟨(key, b), .value holds, by simp⟩
      · cases holds
    obtain ⟨picked, pairs⟩ := exists_forall₂ found
    have values := pairs.imp fun _ _ pair => pair.1
    have inside : ∀ other ∈ picked, other ∈ bs :=
      forall_left (p := (· ∈ bs)) (pairs.imp fun _ _ pair => pair.2).flip
    -- The entries found have distinct keys, too, so none of them is found twice.
    have keys : (picked.map (·.1)).Nodup := by
      rw [← map_key_eq values]
      exact distinct
    have covered : bs.length ≤ picked.length := by rw [← lengths, values.length_eq]
    exact shuffle_first values
      ((List.subperm_of_subset (.of_map _ keys) inside).perm_of_length_le covered)
  · rintro ⟨shuffled, perm, values⟩
    refine ⟨length_reordered perm values, fun entry member => ?_⟩
    have looked := lookup_entries distinct perm values entry.1
    rw [Keyed.lookup_of_mem distinct member] at looked
    rw [entryHolds]
    cases found : bs.lookup entry.1 with
    | none =>
        rw [found] at looked
        cases looked
    | some value =>
        rw [found] at looked
        cases looked with
        | some holds => exact holds

theorem takesApart_equal :
    TakesApart (fun m n => m.equal n = true) (fun a b => equal a b = true) where
  kind {a b} holds := by cases a <;> cases b <;> first | rfl | cases holds
  null := rfl
  bool _ _ := beq_iff_eq
  number _ _ := Iff.rfl
  string _ _ := beq_iff_eq
  array _ _ := equalItems_iff
  object distinct _ := equalEntries_iff distinct

/-- Equality compares the numbers of values with one another and nothing else. -/
theorem equal_iff_alike {a : Json} (unique : a.UniqueKeys) (b : Json) :
    equal a b = true ↔ Alike (fun m n => m.equal n = true) a b :=
  takesApart_equal.iff_alike unique b

/-! ## Order -/

theorem storedOrder_items_iff {as bs : List Json} :
    storedOrder (.array as) (.array bs) = .eq ↔
      List.Forall₂ (fun a b => storedOrder a b = .eq) as bs := by
  rw [storedOrder, Ordering.then_eq_eq, Nat.compare_eq_eq]
  induction as generalizing bs with
  | nil => cases bs <;> simp [storedItemsOrder]
  | cons a as ih =>
      cases bs with
      | nil => simp
      | cons b bs =>
          rw [storedItemsOrder, Ordering.then_eq_eq, List.forall₂_cons, ← ih, List.length_cons,
            List.length_cons, Nat.succ_inj]
          exact and_left_comm

theorem keyOrder_eq_eq_iff {k l : String} : keyOrder k l = .eq ↔ k = l := by
  rw [keyOrder, Ordering.then_eq_eq, Std.compare_eq_iff_eq, Std.compare_eq_iff_eq]
  exact ⟨fun same => same.2, fun same => ⟨congrArg _ same, same⟩⟩

theorem storedOrder_entries_iff {as bs : List (String × Json)} :
    storedOrder (.object as) (.object bs) = .eq ↔
      List.Forall₂ (EntryRel fun a b => storedOrder a b = .eq) as bs := by
  rw [storedOrder, Ordering.then_eq_eq, Nat.compare_eq_eq]
  induction as generalizing bs with
  | nil => cases bs <;> simp [storedEntriesOrder]
  | cons a as ih =>
      cases bs with
      | nil => simp
      | cons b bs =>
          rw [storedEntriesOrder, Ordering.then_eq_eq, Ordering.then_eq_eq, keyOrder_eq_eq_iff,
            List.forall₂_cons, entryRel_iff, ← ih, List.length_cons, List.length_cons, Nat.succ_inj]
          exact and_left_comm

/-- Sorted by their keys, entries that are the same up to their order are matched in place. -/
theorem sortEntries_forall₂_iff {related : Json → Json → Prop} {as bs : List (String × Json)}
    (distinct : (as.map (·.1)).Nodup) :
    List.Forall₂ (EntryRel related) (sortEntries as) (sortEntries bs) ↔
      ∃ shuffled, as.Perm shuffled ∧ List.Forall₂ (EntryRel related) shuffled bs := by
  constructor
  · intro values
    have first : (sortEntries as).Perm as := stableSort_perm entryOrder as
    have second : (sortEntries bs).Perm bs := stableSort_perm entryOrder bs
    obtain ⟨shuffled, perm, values⟩ := shuffle_first values second
    exact ⟨shuffled, first.symm.trans perm, values⟩
  · rintro ⟨shuffled, perm, values⟩
    rw [sortEntries_perm distinct perm]
    refine stableSort_forall₂ (fun a a' b b' entry other => ?_) values
    obtain ⟨_⟩ := entry
    obtain ⟨_⟩ := other
    rfl

theorem sortEntries_map {f : Json → Json} (entries : List (String × Json)) :
    sortEntries (entries.map fun entry => (entry.1, f entry.2)) =
      (sortEntries entries).map fun entry => (entry.1, f entry.2) := by
  have moved : List.Forall₂ (fun entry other => (entry.1, f entry.2) = other) (sortEntries entries)
      (sortEntries (entries.map fun entry => (entry.1, f entry.2))) := by
    refine stableSort_forall₂ (fun a a' b b' entry other => ?_)
      (List.forall₂_map_right_iff.mpr (List.forall₂_same.mpr fun _ _ => rfl))
    rw [← entry, ← other]
  exact (List.forall₂_eq_eq_eq ▸ List.forall₂_map_left_iff.mpr moved).symm

theorem takesApart_storedOrder : TakesApart (fun m n => m.toDouble.same n.toDouble = true)
    (fun a b => storedOrder a.canonical b.canonical = .eq) where
  kind {a b} same := by cases a <;> cases b <;> first | rfl | cases same
  null := rfl
  bool _ _ := Std.compare_eq_iff_eq
  number m n := Number.order_eq_eq_iff m n
  string _ _ := Std.compare_eq_iff_eq
  array as bs := by
    rw [canonical, canonical, storedOrder_items_iff, canonicalItems_eq_map, canonicalItems_eq_map,
      List.forall₂_map_left_iff, List.forall₂_map_right_iff]
  object {as} distinct bs := by
    rw [← sortEntries_forall₂_iff distinct, canonical, canonical, storedOrder_entries_iff,
      canonicalEntries_eq_map, canonicalEntries_eq_map, sortEntries_map, sortEntries_map,
      List.forall₂_map_left_iff, List.forall₂_map_right_iff]
    exact forall₂_congr_of_mem fun _ _ _ => by rw [entryRel_iff, entryRel_iff]

/-- The stored forms are ordered by the doubles of their numbers. -/
theorem storedOrder_iff_alike {a : Json} (unique : a.UniqueKeys) (b : Json) :
    storedOrder a.canonical b.canonical = .eq ↔
      Alike (fun m n => m.toDouble.same n.toDouble = true) a b :=
  takesApart_storedOrder.iff_alike unique b

theorem eq_array_nil {json : Json} (empty : json.isEmptyArray = true) : json = .array [] := by
  rw [isEmptyArray.eq_def] at empty
  split at empty
  · rfl
  · cases empty

theorem storedOrder_nil_iff (json : Json) :
    (storedOrder (.array []) json.canonical = .eq ↔ json.isEmptyArray = true) ∧
      (storedOrder json.canonical (.array []) = .eq ↔ json.isEmptyArray = true) := by
  cases json with
  | array items =>
      rw [canonical, storedOrder_items_iff, storedOrder_items_iff, List.forall₂_nil_left_iff,
        List.forall₂_nil_right_iff]
      cases items <;> simp [canonicalItems, isEmptyArray]
  | _ => constructor <;> constructor <;> rintro ⟨⟩

/-- The place of the empty array at the top is no matter of equality. -/
theorem order_eq_eq_iff (a b : Json) :
    order a b = .eq ↔ storedOrder a.canonical b.canonical = .eq := by
  rw [order]
  split
  · next first second =>
      rw [eq_array_nil first, eq_array_nil second]
      exact iff_of_true rfl rfl
  · next first second =>
      rw [eq_array_nil first, canonical, canonicalItems, (storedOrder_nil_iff b).1, second]
      constructor <;> rintro ⟨⟩
  · next first second =>
      rw [eq_array_nil second, canonical, canonicalItems, (storedOrder_nil_iff a).2, first]
      constructor <;> rintro ⟨⟩
  · exact Iff.rfl

theorem order_iff_alike {a : Json} (unique : a.UniqueKeys) (b : Json) :
    order a b = .eq ↔ Alike (fun m n => m.toDouble.same n.toDouble = true) a b :=
  (order_eq_eq_iff a b).trans (storedOrder_iff_alike unique b)

/-! ## Equality and order -/

/-- No number of one value is conflated with a number of the other one. -/
def Apart (a b : Json) : Prop := ∀ m n, a.HasNumber m → b.HasNumber n → ¬ m.Conflated n

theorem apart_of_small {a : Json} (small : ∀ n : Int, a.HasNumber (.integer n) → n.natAbs < 2 ^ 53)
    (b : Json) : Apart a b := by
  rintro m n inside _ ⟨x, y, word, _, conflated⟩
  have great := conflated.great.1
  rw [Number.eq_of_word? word] at inside
  have less := small x inside
  omega

theorem order_eq_of_equal {a b : Json} (unique : a.UniqueKeys) (same : equal a b = true) :
    order a b = .eq := by
  have alike := (equal_iff_alike unique b).mp same
  exact (order_iff_alike unique b).mpr
    (alike.mono fun m n _ _ numbers => ((Number.equal_iff m n).mp numbers).1)

theorem equal_of_order_eq {a b : Json} (unique : a.UniqueKeys) (apart : Apart a b)
    (same : order a b = .eq) : equal a b = true := by
  have alike := (order_iff_alike unique b).mp same
  exact (equal_iff_alike unique b).mpr (alike.mono fun m n left right numbers =>
    (Number.equal_iff m n).mpr ⟨numbers, apart m n left right⟩)

theorem equal_symm {a b : Json} (unique : a.UniqueKeys) (unique' : b.UniqueKeys)
    (same : equal a b = true) : equal b a = true := by
  have alike := ((equal_iff_alike unique b).mp same).symm
  exact (equal_iff_alike unique' a).mpr
    (alike.mono fun m n _ _ numbers => (Number.equal_comm n m).mp numbers)

/-- Equal values have one place in the order, and values of one place are equal as long as no
conflated numbers stand in them. Equality is reflexive and symmetric; it is transitive up to
conflated numbers. -/
theorem equality_refines_order {a b : Json} (unique : a.UniqueKeys) (unique' : b.UniqueKeys) :
    (equal a b = true ↔ Alike (fun m n => m.equal n = true) a b) ∧
    (order a b = .eq ↔ Alike (fun m n => m.toDouble.same n.toDouble = true) a b) ∧
    (equal a b = true → order a b = .eq) ∧
    (Apart a b → (equal a b = true ↔ order a b = .eq)) ∧
    ((∀ n : Int, a.HasNumber (.integer n) → n.natAbs < 2 ^ 53) → Apart a b) ∧
    equal a a = true ∧
    (equal a b = true ↔ equal b a = true) ∧
    ∀ c, equal a b = true → equal b c = true →
      order a c = .eq ∧ (Apart a c → equal a c = true) := by
  refine ⟨equal_iff_alike unique b, order_iff_alike unique b, order_eq_of_equal unique, ?placed,
    fun small => apart_of_small small b, ?reflexive, ?symmetric, ?transitive⟩
  case placed =>
    exact fun apart => ⟨order_eq_of_equal unique, equal_of_order_eq unique apart⟩
  case reflexive =>
    exact (equal_iff_alike unique a).mpr (.refl Number.equal_self a)
  case symmetric =>
    exact ⟨equal_symm unique unique', equal_symm unique' unique⟩
  case transitive =>
    intro c first second
    have placed : order a c = .eq :=
      Std.TransCmp.eq_trans (order_eq_of_equal unique first) (order_eq_of_equal unique' second)
    exact ⟨placed, fun apart => equal_of_order_eq unique apart placed⟩

/-- Keys in another order, and a number as a double. -/
theorem equality_refines_order_sample :
    order (.object [("n", ofInt 2), ("tags", .array [.null, ofInt 1])])
      (.object [("tags", .array [.null, ofDouble (Double.ofInt 1)]), ("n", ofInt 2)]) = .eq := by
  have tags (n : Number) : UniqueKeys (.array [.null, .number n]) := by
    refine .array (List.forall_mem_cons.mpr ⟨.scalar rfl, ?_⟩)
    exact List.forall_mem_singleton.mpr (.scalar rfl)
  have unique : UniqueKeys (.object [("n", ofInt 2), ("tags", .array [.null, ofInt 1])]) := by
    refine .object (by decide) (List.forall_mem_cons.mpr ⟨.scalar rfl, ?_⟩)
    exact List.forall_mem_singleton.mpr (tags _)
  have unique' : UniqueKeys
      (.object [("tags", .array [.null, ofDouble (Double.ofInt 1)]), ("n", ofInt 2)]) := by
    refine .object (by decide) (List.forall_mem_cons.mpr ⟨tags _, ?_⟩)
    exact List.forall_mem_singleton.mpr (.scalar rfl)
  exact (equality_refines_order unique unique').2.2.1 (by decide)

/-- Of `2 ^ 53` and its successor, equality tells that they differ, the order does not, and the
double of both is equal to both. -/
theorem order_conflates_neighbours :
    order (ofInt 9007199254740992) (ofInt 9007199254740993) = .eq ∧
      equal (ofInt 9007199254740992) (ofInt 9007199254740993) = false ∧
      equal (ofInt 9007199254740992) (ofDouble (Double.ofInt 9007199254740992)) = true ∧
      equal (ofDouble (Double.ofInt 9007199254740992)) (ofInt 9007199254740993) = true := by
  decide

end Json

end DocStore
