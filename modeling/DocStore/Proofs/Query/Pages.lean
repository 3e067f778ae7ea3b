import DocStore.Proofs.Session.Story

/-!
# Pages of a query

A table orders its rows anew for every page. Their order does not depend on how the rows are kept,
so the pages of a query are consecutive parts of one list, which is as long as the count says.
-/

namespace DocStore

section Pages

variable {α : Type}

theorem length_page (items : List α) (start size : Nat) :
    ((items.drop start).take size).length = min size (items.length - start) := by
  rw [List.length_take, List.length_drop]

theorem flatMap_pages (items : List α) (size count : Nat) :
    (List.range count).flatMap (fun k => (items.drop (k * size)).take size) =
      items.take (count * size) := by
  induction count with
  | zero => simp
  | succ count ih =>
      rw [List.range_succ, List.flatMap_append, ih, List.flatMap_singleton, Nat.succ_mul,
        List.take_add]

theorem QuerySpec.page_compile (spec : QuerySpec) (skip : Nat) {size : Nat} (positive : 0 < size)
    (items : List α) :
    ((spec.withSkip skip).withLimit size).compile.page items = (items.drop skip).take size := by
  have limit : ((spec.withSkip skip).withLimit size).compile.limit = some size :=
    if_neg (Nat.ne_of_gt positive)
  rw [CompiledQuery.page, limit]
  rfl

end Pages

/-! ## Rows that a query lists -/

namespace MemoryTable

variable {admits : StoredRow → Prop} {log : List String} {table other : MemoryTable}

theorem count_eq_length (table : MemoryTable) (query : CompiledQuery) :
    table.count query = (query.arrange table.ordered).length := by
  have counted : table.count query = (table.ordered.filter query.matchesRow).length := by
    rw [← List.countP_eq_length_filter, table.ordered_perm.countP_eq, List.countP_map]
    rfl
  rw [counted, CompiledQuery.arrange]
  split
  · exact (stableSort_perm _ _).length_eq.symm
  · rfl

theorem WellKept.count_eq (kept : table.WellKept admits log) (rearranged : table.Rearranged other)
    (query : CompiledQuery) : other.count query = (query.arrange table.ordered).length := by
  rw [count_eq_length, kept.ordered_eq rearranged]

theorem arrange_perm (query : CompiledQuery) (rows : List StoredRow) :
    (query.arrange rows).Perm (rows.filter query.matchesRow) := by
  rw [CompiledQuery.arrange]
  split
  · exact stableSort_perm _ _
  · exact .refl _

/-- A query arranges the stored rows that match. -/
theorem WellKept.mem_arrange_iff (kept : table.WellKept admits log) (query : CompiledQuery)
    (row : StoredRow) : row ∈ query.arrange table.ordered ↔
      table.document? row.id = some row.data ∧ query.matchesRow row = true := by
  have stored : row ∈ table.rows.map MemoryRow.stored ↔
      table.document? row.id = some row.data := by
    rw [document?, List.mem_map, Option.map_eq_some_iff]
    constructor
    · rintro ⟨found, member, rfl⟩
      exact ⟨found, (row?_eq_some_iff kept.distinctIds).mpr ⟨member, rfl⟩, rfl⟩
    · rintro ⟨found, known, same⟩
      obtain ⟨member, own⟩ := (row?_eq_some_iff kept.distinctIds).mp known
      exact ⟨found, member, by rw [MemoryRow.stored, own, same]⟩
  rw [(arrange_perm query _).mem_iff, List.mem_filter, table.ordered_perm.mem_iff, stored]

theorem WellKept.nodup_arrange (kept : table.WellKept admits log) (query : CompiledQuery) :
    ((query.arrange table.ordered).map StoredRow.id).Nodup := by
  have ids : (table.ordered.map StoredRow.id).Nodup := by
    rw [(table.ordered_perm.map StoredRow.id).nodup_iff, List.map_map]
    exact kept.distinctIds
  rw [((arrange_perm query _).map StoredRow.id).nodup_iff]
  exact ids.sublist (List.filter_sublist.map StoredRow.id)

end MemoryTable

namespace Story

/-- After whatever calls of a session, the pages of a query are the parts of the list of all rows
that match, each of the size asked for as long as there are rows; and the count is the length of
this list. It does not matter how the rows are kept when each of them is asked for. -/
theorem pages_partition_query (settings : Settings) (calls : List SessionCall) {inst : Instance}
    {table : MemoryTable} (isOpen : inst.closed = false)
    (found : ((start settings).run calls).session.state.table? inst.table = some table)
    (spec : QuerySpec) {size : Nat} (positive : 0 < size) :
    ∃ rows : List StoredRow, (rows.map StoredRow.id).Nodup ∧
      (∀ row, row ∈ rows ↔
        table.document? row.id = some row.data ∧ spec.compile.matchesRow row = true) ∧
      ∃ pages : Nat → List Document,
        (∀ k, (pages k).length = min size (rows.length - k * size)) ∧
        (∀ count, rows.length ≤ count * size →
          (List.range count).flatMap pages = rows.map StoredRow.data) ∧
        ∀ store, ((start settings).run calls).session.state.Rearranged store →
          (inst.query MemoryStore.backend ((spec.withSkip 0).withLimit 0) store).1 =
            .ok (rows.map StoredRow.data) ∧
          (inst.count MemoryStore.backend spec store).1 = .ok rows.length ∧
          ∀ k, (inst.query MemoryStore.backend ((spec.withSkip (k * size)).withLimit size)
            store).1 = .ok (pages k) := by
  have kept := (sound_run settings calls).wellKept inst.table table found
  let rows := spec.compile.arrange table.ordered
  let documents := rows.map StoredRow.data
  have size_documents : documents.length = rows.length := List.length_map StoredRow.data
  refine ⟨rows, kept.nodup_arrange _, kept.mem_arrange_iff _,
    fun k => (documents.drop (k * size)).take size, fun k => ?_, fun count enough => ?_,
    fun store rearranged => ?_⟩
  · rw [length_page, size_documents]
  · rw [flatMap_pages, List.take_of_length_le (size_documents ▸ enough)]
  · obtain ⟨moved, foundThere, same⟩ := rearranged.exists_table found
    have order := kept.ordered_eq same
    refine ⟨?_, ?_, fun k => ?_⟩
    · rw [Instance.query_eq isOpen foundThere, MemoryTable.select, ← order]
      rfl
    · rw [Instance.count_eq isOpen foundThere, kept.count_eq same]
    · rw [Instance.query_eq isOpen foundThere, MemoryTable.select, ← order,
        spec.page_compile _ positive, List.map_take, List.map_drop]
      rfl

theorem pages_partition_query_sample :
    let store := ((start .inMemory).run sampleCalls).session.state.reversed
    let inst := Instance.opened .inMemory sampleParams (.field "id") "shop_items_0"
    let spec : QuerySpec := QuerySpec.all.sortBy ⟨["n"]⟩ .desc
    inst.closed = false ∧ 0 < 2 ∧ ∃ first second : List Document,
      first.length = 2 ∧ second.length = 1 ∧
      (inst.query MemoryStore.backend ((spec.withSkip 0).withLimit 2) store).1 = .ok first ∧
      (inst.query MemoryStore.backend ((spec.withSkip 2).withLimit 2) store).1 = .ok second ∧
      (inst.query MemoryStore.backend ((spec.withSkip 0).withLimit 0) store).1 =
        .ok (first ++ second) := by
  intro store inst spec
  have isOpen : inst.closed = false := rfl
  obtain ⟨rows, _, _, pages, sizes, parts, answers⟩ :=
    pages_partition_query .inMemory sampleCalls isOpen rfl spec Nat.two_pos
  obtain ⟨all, count, each⟩ := answers store (MemoryStore.rearranged_reversed _)
  have three : rows.length = 3 := (Except.ok.inj count).symm
  refine ⟨isOpen, Nat.two_pos, pages 0, pages 1, ?_, ?_, each 0, each 1, ?_⟩
  · rw [sizes, three]
    rfl
  · rw [sizes, three]
    rfl
  · have together := parts 2 (by rw [three]; decide)
    simp only [List.range_succ, List.range_zero, List.nil_append, List.flatMap_append,
      List.flatMap_singleton] at together
    rw [all, ← together]

end Story

end DocStore
