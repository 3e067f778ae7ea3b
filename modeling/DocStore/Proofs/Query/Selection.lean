import DocStore.Proofs.Query.Order
import DocStore.Proofs.Query.Pages
import DocStore.Proofs.Text.Bytes

/-!
# What a table selects

A table selects a part of one list of rows: all that match, by their insertion or, if the query
sorts, by its terms and then by id. The table's contents and the query leave no choice in this list,
so a selection does not depend on how the rows are kept.
-/

namespace DocStore

/-! ## The order of rows, term by term -/

namespace Json

/-- The first value is smaller, where a missing value is greater than every other one. -/
def Smaller : Option Json → Option Json → Prop
  | some a, some b => order a b = .lt
  | some _, none => True
  | none, _ => False

/-- The order does not tell the values apart, or both are missing. -/
def Level : Option Json → Option Json → Prop
  | some a, some b => order a b = .eq
  | none, none => True
  | _, _ => False

theorem optionOrder_eq_lt_iff (a b : Option Json) : optionOrder a b = .lt ↔ Smaller a b := by
  cases a <;> cases b <;> simp [optionOrder, Smaller]

theorem optionOrder_eq_eq_iff (a b : Option Json) : optionOrder a b = .eq ↔ Level a b := by
  cases a <;> cases b <;> simp [optionOrder, Level]

end Json

/-- One row stands before another one: the first term that tells them apart says so, or, where no
term does, the bytes of their ids. -/
inductive Precedes : List SortTerm → StoredRow → StoredRow → Prop where
  | byId {a b : StoredRow} (less : Text.bytes a.id < Text.bytes b.id) : Precedes [] a b
  | upwards {path : FieldPath} {rest : List SortTerm} {a b : StoredRow}
      (smaller : Json.Smaller (a.data.lookup path) (b.data.lookup path)) :
      Precedes (⟨path, .asc⟩ :: rest) a b
  | downwards {path : FieldPath} {rest : List SortTerm} {a b : StoredRow}
      (greater : Json.Smaller (b.data.lookup path) (a.data.lookup path)) :
      Precedes (⟨path, .desc⟩ :: rest) a b
  | later {term : SortTerm} {rest : List SortTerm} {a b : StoredRow}
      (level : Json.Level (a.data.lookup term.path) (b.data.lookup term.path))
      (precedes : Precedes rest a b) : Precedes (term :: rest) a b

namespace CompiledQuery

theorem termOrder_eq_lt_iff (path : FieldPath) (direction : Direction) (a b : StoredRow) :
    termOrder a b ⟨path, direction⟩ = .lt ↔
      direction = .asc ∧ Json.Smaller (a.data.lookup path) (b.data.lookup path) ∨
        direction = .desc ∧ Json.Smaller (b.data.lookup path) (a.data.lookup path) := by
  unfold termOrder
  cases direction with
  | asc => simp [Direction.apply, Json.optionOrder_eq_lt_iff]
  | desc =>
      have swapped : Json.optionOrder (b.data.lookup path) (a.data.lookup path) =
          (Json.optionOrder (a.data.lookup path) (b.data.lookup path)).swap :=
        Std.OrientedCmp.eq_swap
      rw [← Json.optionOrder_eq_lt_iff (b.data.lookup path), swapped]
      simp [Direction.apply]

theorem termOrder_eq_eq_iff (a b : StoredRow) (term : SortTerm) :
    termOrder a b term = .eq ↔
      Json.Level (a.data.lookup term.path) (b.data.lookup term.path) := by
  unfold termOrder
  cases term.direction <;> simp [Direction.apply, Json.optionOrder_eq_eq_iff]

/-- Rows are sorted as the sort terms say. -/
theorem order_eq_lt_iff (query : CompiledQuery) (a b : StoredRow) :
    query.order a b = .lt ↔ Precedes query.sort a b := by
  obtain ⟨predicate, sort, skip, limit⟩ := query
  induction sort with
  | nil =>
      have ids : order ⟨predicate, [], skip, limit⟩ a b = .lt ↔
          Text.bytes a.id < Text.bytes b.id := by
        rw [← Text.lt_iff_bytes_lt]
        exact compareOfLessAndEq_eq_lt
      rw [ids]
      exact ⟨.byId, fun | .byId less => less⟩
  | cons term rest ih =>
      obtain ⟨path, direction⟩ := term
      rw [order_cons, Ordering.then_eq_lt, termOrder_eq_lt_iff, termOrder_eq_eq_iff, ih]
      constructor
      · rintro ((⟨rfl, smaller⟩ | ⟨rfl, greater⟩) | ⟨level, precedes⟩)
        · exact .upwards smaller
        · exact .downwards greater
        · exact .later level precedes
      · intro precedes
        cases precedes with
        | upwards smaller => exact .inl (.inl ⟨rfl, smaller⟩)
        | downwards greater => exact .inl (.inr ⟨rfl, greater⟩)
        | later level precedes => exact .inr ⟨level, precedes⟩

end CompiledQuery

/-! ## The list of all rows that match -/

namespace MemoryTable

/-- A row stands before another one: it was inserted earlier if nothing is sorted by. -/
def StandsBefore (table : MemoryTable) (sort : List SortTerm) (a b : StoredRow) : Prop :=
  match sort with
  | [] => ∃ earlier ∈ table.rows, ∃ later ∈ table.rows,
      earlier.stored = a ∧ later.stored = b ∧ earlier.seq < later.seq
  | term :: rest => Precedes (term :: rest) a b

/-- The rows are those of the table that match, each of them once, in order. -/
structure Lists (table : MemoryTable) (query : CompiledQuery) (rows : List StoredRow) : Prop where
  mem_iff : ∀ row, row ∈ rows ↔
    row ∈ table.rows.map MemoryRow.stored ∧ query.predicate.holds row.data.toJson = true
  once : rows.Nodup
  ordered : rows.Pairwise (table.StandsBefore query.sort)

variable {admits : StoredRow → Prop} {log : List String} {table : MemoryTable}
  {query : CompiledQuery} {rows others : List StoredRow}

theorem StandsBefore.asymm (kept : table.WellKept admits log) {sort : List SortTerm}
    {a b : StoredRow} (before : table.StandsBefore sort a b) : ¬ table.StandsBefore sort b a := by
  cases sort with
  | nil =>
      obtain ⟨first, member, second, memberSecond, rfl, rfl, less⟩ := before
      rintro ⟨third, memberThird, fourth, memberFourth, sameSecond, sameFirst, more⟩
      have second_eq := List.inj_on_of_nodup_map kept.distinctIds memberThird memberSecond
        (congrArg StoredRow.id sameSecond)
      have first_eq := List.inj_on_of_nodup_map kept.distinctIds memberFourth member
        (congrArg StoredRow.id sameFirst)
      subst second_eq first_eq
      exact Nat.lt_asymm less more
  | cons term rest =>
      let sorts : CompiledQuery := ⟨.const true, term :: rest, 0, none⟩
      intro after
      have less : sorts.order a b = .lt := (sorts.order_eq_lt_iff a b).mpr before
      have more : sorts.order b a = .lt := (sorts.order_eq_lt_iff b a).mpr after
      exact Std.OrientedCmp.not_lt_of_lt less more

/-- There is one such list at most. -/
theorem Lists.unique (kept : table.WellKept admits log) (lists : table.Lists query rows)
    (again : table.Lists query others) : rows = others := by
  have perm : rows.Perm others := (List.perm_ext_iff_of_nodup lists.once again.once).mpr fun row =>
    (lists.mem_iff row).trans (again.mem_iff row).symm
  refine perm.eq_of_pairwise (fun a b _ _ before after => ?_) lists.ordered again.ordered
  exact absurd after (before.asymm kept)

theorem WellKept.lists_arrange (kept : table.WellKept admits log) (query : CompiledQuery) :
    table.Lists query (query.arrange table.ordered) := by
  have ids := kept.nodup_arrange query
  refine ⟨fun row => ?_, ids.of_map _, ?_⟩
  · rw [(arrange_perm query _).mem_iff, List.mem_filter, table.ordered_perm.mem_iff]
    rfl
  · unfold CompiledQuery.arrange at ids ⊢
    rcases sort : query.sort with _ | ⟨term, rest⟩
    · have unsorted : query.isSorted = false := by simp [CompiledQuery.isSorted, sort]
      rw [unsorted, kept.ordered_eq_map]
      refine List.Pairwise.sublist List.filter_sublist (List.pairwise_map.mpr ?_)
      refine kept.ascending.imp_of_mem fun {a b} member memberOther less => ?_
      exact ⟨a, member, b, memberOther, rfl, rfl, less⟩
    · have sorted : query.isSorted = true := by simp [CompiledQuery.isSorted, sort]
      rw [sorted] at ids ⊢
      have apart := List.pairwise_map.mp ids
      refine ((pairwise_stableSort _).and apart).imp fun {a b} both => ?_
      obtain ⟨below, differ⟩ := both
      have less : query.order a b = .lt := by
        cases compared : query.order a b with
        | lt => rfl
        | eq => exact absurd (CompiledQuery.id_eq_of_order_eq compared) differ
        | gt => simp [compared] at below
      have precedes := (query.order_eq_lt_iff a b).mp less
      rwa [sort] at precedes

end MemoryTable

/-! ## Selections -/

theorem CompiledQuery.getElem?_page {α : Type} (query : CompiledQuery) (items : List α)
    (position : Nat) : (query.page items)[position]? =
      if query.limit.all (position < ·) then items[query.skip + position]? else none := by
  unfold page
  cases query.limit with
  | none => simp
  | some limit => simp [List.getElem?_take]

namespace MemoryStore

/-- After whatever calls, there is exactly one list of the rows that match in the order of the
query, and a selection is its part from `skip` on, up to `limit`, however the rows are kept. -/
theorem select_determined (calls : List StoreCall) {name : String} {table : MemoryTable}
    (found : (ofCalls calls).table? name = some table) (query : CompiledQuery) :
    ∃ rows, table.Lists query rows ∧ (∀ others, table.Lists query others → others = rows) ∧
      ∀ store, (ofCalls calls).Rearranged store → ∃ page,
        backend.select name query store = (.ok page, store) ∧
        ∀ position, page[position]? =
          if query.limit.all (position < ·) then rows[query.skip + position]? else none := by
  obtain ⟨logs, wellKept⟩ := exists_wellKept_ofCalls calls
  have kept := wellKept name table found
  have lists := kept.lists_arrange query
  refine ⟨query.arrange table.ordered, lists, fun others again => ?_, fun store rearranged => ?_⟩
  · exact again.unique kept lists
  · obtain ⟨moved, foundThere, same⟩ := rearranged.exists_table found
    refine ⟨query.page (query.arrange table.ordered), ?_, query.getElem?_page _⟩
    rw [kept.ordered_eq same]
    simp [backend, reading, foundThere, MemoryTable.select]

/-- Of three documents one is purged and inserted again, and one is updated. -/
def sampleCalls : List StoreCall :=
  let row (id : String) (more : List (String × Json)) : StoredRow :=
    ⟨id, ⟨("id", .string id) :: more⟩⟩
  let expired : List (String × Json) :=
    [("_deleted", .bool true), ("_meta", .object [("lwt", .ofNat 1)])]
  [.ensureTable "items", .insert "items" (row "a" expired), .insert "items" (row "c" []),
    .purge "items" (.ofInt 2), .insert "items" (row "b" [("n", .ofNat 1)]),
    .failNextWrites 1, .insert "items" (row "d" []), .insert "items" (row "a" []),
    .update "items" (row "c" [("n", .ofNat 2)]) none]

theorem select_determined_sample :
    let query : CompiledQuery := ⟨.const true, [⟨⟨["n"]⟩, .desc⟩], 1, some 1⟩
    ∃ table, (ofCalls sampleCalls).table? "items" = some table ∧ ∃ rows page,
      table.Lists query rows ∧ (∀ others, table.Lists query others → others = rows) ∧
      (backend.select "items" query (ofCalls sampleCalls).reversed).1 = .ok page ∧
      page.map StoredRow.id = ["c"] ∧ rows[1]? = page[0]? := by
  intro query
  have found : (ofCalls sampleCalls).table? "items" = some _ := rfl
  obtain ⟨rows, lists, unique, selects⟩ := select_determined sampleCalls found query
  obtain ⟨page, selected, parts⟩ := selects _ (ofCalls sampleCalls).rearranged_reversed
  refine ⟨_, rfl, rows, page, lists, unique, ?_, ?_, (parts 0).symm⟩
  · rw [selected]
  · have ids : (backend.select "items" query (ofCalls sampleCalls).reversed).1.map
        (·.map StoredRow.id) = .ok ["c"] := rfl
    rw [selected] at ids
    exact Except.ok.inj ids

end MemoryStore

end DocStore
