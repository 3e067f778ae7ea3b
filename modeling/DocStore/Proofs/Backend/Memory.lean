import DocStore.Backend.Memory
import DocStore.Instance
import DocStore.Proofs.Keyed
import Mathlib.Data.List.Nodup

/-!
# What a table in memory stores

A table is seen as the documents under its ids. A conditional write that is let through changes the
document under its own id, and every other call of a write leaves all documents as they were. No
call stores a second row under an id, so purging a row uncovers no other one.
-/

namespace DocStore

namespace MemoryTable

/-- A row once another one is stored over all rows with its id. -/
def overwrite (row : StoredRow) (old : MemoryRow) : MemoryRow :=
  if old.id == row.id then { old with data := row.data } else old

theorem id_overwrite (row : StoredRow) (old : MemoryRow) : (overwrite row old).id = old.id := by
  rw [overwrite]
  split <;> rfl

theorem seq_overwrite (row : StoredRow) (old : MemoryRow) : (overwrite row old).seq = old.seq := by
  rw [overwrite]
  split <;> rfl

theorem rows_replace (table : MemoryTable) (row : StoredRow) :
    (table.replace row).rows = table.rows.map (overwrite row) := rfl

theorem map_id_replace (table : MemoryTable) (row : StoredRow) :
    (table.replace row).rows.map MemoryRow.id = table.rows.map MemoryRow.id := by
  rw [rows_replace, List.map_map]
  exact List.map_congr_left fun old _ => id_overwrite row old

/-- What an insert that is let through does. -/
theorem of_insert? {table inserted : MemoryTable} {row : StoredRow}
    (done : table.insert? row = some inserted) : row.id ∉ table.rows.map MemoryRow.id ∧
      inserted = ⟨table.nextSeq + 1, table.rows ++ [⟨row.id, table.nextSeq, row.data⟩]⟩ := by
  rw [insert?] at done
  split at done
  · cases done
  · next free =>
      cases done
      have absent : table.row? row.id = none := by simpa using free
      refine ⟨fun listed => ?_, rfl⟩
      obtain ⟨old, member, same⟩ := List.mem_map.mp listed
      exact List.find?_eq_none.mp absent old member (beq_iff_eq.mpr same)

/-- What an update that is let through does. -/
theorem of_update? {table updated : MemoryTable} {row : StoredRow} {expected : Option String}
    (done : table.update? row expected = some updated) :
    (table.row? row.id).isSome ∧ updated = table.replace row := by
  rw [update?] at done
  split at done
  · next old found =>
      simp only [Option.ite_none_right_eq_some] at done
      obtain ⟨_, replaced⟩ := done
      cases replaced
      rw [found]
      exact ⟨rfl, rfl⟩
  · cases done

theorem row?_of_notMem {table : MemoryTable} {id : String}
    (absent : id ∉ table.rows.map MemoryRow.id) : table.row? id = none :=
  List.find?_eq_none.mpr fun row member same =>
    absent (List.mem_map.mpr ⟨row, member, beq_iff_eq.mp same⟩)

/-- The document under an id. -/
def document? (table : MemoryTable) (id : String) : Option Document :=
  (table.row? id).map MemoryRow.data

theorem id_of_row? {table : MemoryTable} {id : String} {row : MemoryRow}
    (found : table.row? id = some row) : row.id = id := by
  have matching := List.find?_some found
  exact beq_iff_eq.mp matching

theorem document?_insert? {table inserted : MemoryTable} {row : StoredRow}
    (done : table.insert? row = some inserted) (id : String) :
    inserted.document? id = if id = row.id then some row.data else table.document? id := by
  obtain ⟨unused, rfl⟩ := of_insert? done
  by_cases same : id = row.id
  · subst same
    have absent := row?_of_notMem unused
    rw [row?] at absent
    simp [document?, row?, List.find?_append, absent]
  · simp [document?, row?, List.find?_append, same, Ne.symm same]

theorem document?_replace (table : MemoryTable) (row : StoredRow) (id : String) :
    (table.replace row).document? id =
      if id = row.id then (table.document? id).map (fun _ => row.data) else table.document? id := by
  have keepsIds : ((fun old => old.id == id) ∘ overwrite row) = fun old => old.id == id := by
    funext old
    rw [Function.comp_apply, id_overwrite]
  have moved : (table.replace row).row? id = (table.row? id).map (overwrite row) := by
    rw [row?, rows_replace, List.find?_map, keepsIds]
    rfl
  rw [document?, document?, moved]
  cases found : table.row? id with
  | none => simp
  | some old =>
      have own := id_of_row? found
      by_cases same : id = row.id
      · simp [overwrite, own, same]
      · simp [overwrite, own, same]

theorem document?_update? {table updated : MemoryTable} {row : StoredRow} {expected : Option String}
    (done : table.update? row expected = some updated) (id : String) :
    updated.document? id = if id = row.id then some row.data else table.document? id := by
  obtain ⟨known, rfl⟩ := of_update? done
  obtain ⟨old, found⟩ := Option.isSome_iff_exists.mp known
  rw [document?_replace]
  by_cases same : id = row.id
  · subst same
    simp [document?, found]
  · simp [same]

/-- An insert is let through exactly when nothing is stored under the id. -/
theorem isSome_insert? (table : MemoryTable) (row : StoredRow) :
    (table.insert? row).isSome ↔ table.document? row.id = none := by
  rw [insert?, document?]
  cases table.row? row.id <;> simp

/-- An update is let through exactly when the stored document has the expected revision. -/
theorem isSome_update? (table : MemoryTable) (row : StoredRow) (expected : Option String) :
    (table.update? row expected).isSome ↔
      ∃ document, table.document? row.id = some document ∧ document.revision? = expected := by
  rw [update?, document?]
  cases table.row? row.id with
  | none => simp
  | some old => simp

theorem mem_find_iff {table : MemoryTable} {ids : List String} {withDeleted : Bool}
    {row : StoredRow} : row ∈ table.find ids withDeleted ↔
      row.id ∈ ids ∧ table.document? row.id = some row.data ∧
        (withDeleted = true ∨ row.data.isDeleted = false) := by
  rw [find, List.mem_filterMap]
  constructor
  · rintro ⟨old, listed, kept⟩
    simp only [Option.ite_none_right_eq_some, Bool.or_eq_true, Bool.not_eq_true'] at kept
    obtain ⟨wanted, stored⟩ := kept
    cases stored
    obtain ⟨id, member, found⟩ := List.mem_filterMap.mp listed
    have own := id_of_row? found
    subst own
    exact ⟨(Keyed.mem_distinct ids _).mp member, congrArg (Option.map MemoryRow.data) found, wanted⟩
  · rintro ⟨member, stored, wanted⟩
    obtain ⟨old, found, same⟩ := Option.map_eq_some_iff.mp stored
    have own := id_of_row? found
    refine ⟨old, List.mem_filterMap.mpr ⟨row.id, (Keyed.mem_distinct ids _).mpr member, found⟩, ?_⟩
    rw [same, if_pos (by simpa using wanted), MemoryRow.stored, own, same]

theorem mem_find {table : MemoryTable} {ids : List String} {row : StoredRow} :
    row ∈ table.find ids true ↔ row.id ∈ ids ∧ table.document? row.id = some row.data := by
  rw [mem_find_iff]
  simp

/-- A lookup finds what is stored under the given ids. -/
theorem lookup_find (table : MemoryTable) (ids : List String) (id : String) :
    (Instance.byId (table.find ids true)).lookup id =
      if id ∈ ids then table.document? id else none := by
  have read : ∀ entry ∈ (table.find ids true).map fun row => (row.id, row.data),
      table.document? entry.1 = some entry.2 := by
    intro entry member
    obtain ⟨row, inside, rfl⟩ := List.mem_map.mp member
    exact (mem_find.mp inside).2
  rw [Instance.byId, Keyed.lookup_ofList read]
  cases stored : table.document? id with
  | none => simp
  | some document =>
      have listed : id ∈ ((table.find ids true).map fun row => (row.id, row.data)).map (·.1) ↔
          id ∈ ids := by
        rw [List.map_map, List.mem_map]
        constructor
        · rintro ⟨row, inside, rfl⟩
          exact (mem_find.mp inside).1
        · intro member
          exact ⟨⟨id, document⟩, mem_find.mpr ⟨member, stored⟩, rfl⟩
      simp only [listed]

theorem head?_find (table : MemoryTable) (id : String) :
    (table.find [id] true).head?.map StoredRow.data = table.document? id := by
  have single : Keyed.distinct [id] = [id] := rfl
  rw [find, single, document?]
  cases found : table.row? id with
  | none => simp [found]
  | some row => simp [found, MemoryRow.stored]

end MemoryTable

namespace MemoryStore

/-- The document under an id of a table. -/
def document? (store : MemoryStore) (name id : String) : Option Document :=
  (store.table? name).bind fun table => table.document? id

theorem document?_of_table? {store : MemoryStore} {name : String} {table : MemoryTable}
    (found : store.table? name = some table) (id : String) :
    store.document? name id = table.document? id := by
  rw [document?, found]
  rfl

/-- A lookup in a table that exists cannot fail. -/
theorem findByIds_of_table? {store : MemoryStore} {name : String} {table : MemoryTable}
    (found : store.table? name = some table) (ids : List String) {withDeleted : Bool} :
    backend.findByIds name ids withDeleted store = (.ok (table.find ids withDeleted), store) := by
  simp [backend, reading, found]

theorem table?_setTable (store : MemoryStore) (name : String) (table : MemoryTable) :
    (store.setTable name table).table? name = some table := by
  rw [table?, setTable, Keyed.lookup_put, if_pos rfl]

theorem setTable_setTable (store : MemoryStore) (name : String) (first second : MemoryTable) :
    (store.setTable name first).setTable name second = store.setTable name second := by
  rw [setTable, setTable, setTable, Keyed.put_put]

/-- What a conditional write can come to in a table that exists. -/
theorem writing_cases {store : MemoryStore} {name : String} {table : MemoryTable}
    (found : store.table? name = some table) (write? : MemoryTable → Option MemoryTable) :
    (∃ fault left, writing name write? store = (.error fault, store.failNextWrites left)) ∨
    (∃ written, write? table = some written ∧
      writing name write? store = (.ok true, store.setTable name written)) ∨
    (write? table = none ∧ writing name write? store = (.ok false, store)) := by
  rw [writing]
  cases store.failingWrites with
  | succ left => exact .inl ⟨_, left, rfl⟩
  | zero =>
      simp only [found]
      cases written : write? table with
      | some table => exact .inr (.inl ⟨table, rfl, rfl⟩)
      | none => exact .inr (.inr ⟨rfl, rfl⟩)

end MemoryStore

/-! ## One row for each id -/

namespace MemoryTable

def DistinctIds (table : MemoryTable) : Prop := (table.rows.map MemoryRow.id).Nodup

theorem distinctIds_insert? {table inserted : MemoryTable} {row : StoredRow}
    (distinct : table.DistinctIds) (done : table.insert? row = some inserted) :
    inserted.DistinctIds := by
  obtain ⟨unused, rfl⟩ := of_insert? done
  rw [DistinctIds, List.map_append]
  exact distinct.append (List.nodup_singleton _) (List.disjoint_singleton.mpr unused)

theorem distinctIds_update? {table updated : MemoryTable} {row : StoredRow}
    {expected : Option String} (distinct : table.DistinctIds)
    (done : table.update? row expected = some updated) : updated.DistinctIds := by
  obtain ⟨_, rfl⟩ := of_update? done
  rw [DistinctIds, map_id_replace]
  exact distinct

theorem distinctIds_purge {table : MemoryTable} (distinct : table.DistinctIds) (cutoff : Binary64) :
    (table.purge cutoff).DistinctIds :=
  distinct.sublist (List.filter_sublist.map MemoryRow.id)

theorem row?_eq_some_iff {table : MemoryTable} (distinct : table.DistinctIds) {id : String}
    {row : MemoryRow} : table.row? id = some row ↔ row ∈ table.rows ∧ row.id = id := by
  constructor
  · intro found
    exact ⟨List.mem_of_find?_eq_some found, id_of_row? found⟩
  · rintro ⟨member, rfl⟩
    have known : (table.row? row.id).isSome :=
      List.find?_isSome.mpr ⟨row, member, beq_self_eq_true row.id⟩
    obtain ⟨other, found⟩ := Option.isSome_iff_exists.mp known
    have same := List.inj_on_of_nodup_map distinct (List.mem_of_find?_eq_some found) member
      (id_of_row? found)
    rw [found, same]

theorem row?_purge {table : MemoryTable} (distinct : table.DistinctIds) (cutoff : Binary64)
    (id : String) : (table.purge cutoff).row? id =
      (table.row? id).filter fun row => !isExpired cutoff row := by
  ext row
  rw [row?_eq_some_iff (distinctIds_purge distinct cutoff), Option.filter_eq_some_iff,
    row?_eq_some_iff distinct, purge, List.mem_filter]
  exact and_right_comm

/-- A purge removes exactly the documents that are expired. -/
theorem document?_purge {table : MemoryTable} (distinct : table.DistinctIds) (cutoff : Binary64)
    (id : String) : (table.purge cutoff).document? id =
      (table.document? id).filter fun document =>
        !(document.isDeleted &&
          document.lastWrite?.any fun lwt : Double => Binary64.le lwt cutoff) := by
  rw [document?, document?, row?_purge distinct]
  cases table.row? id with
  | none => rfl
  | some row =>
      rw [Option.filter_some, Option.map_some, Option.filter_some, isExpired]
      split <;> rfl

end MemoryTable

namespace MemoryStore

/-- No table has two rows under one id. -/
def DistinctIds (store : MemoryStore) : Prop :=
  ∀ name table, store.table? name = some table → table.DistinctIds

theorem distinctIds_setTable {store : MemoryStore} (distinct : store.DistinctIds) (name : String)
    {table : MemoryTable} (kept : table.DistinctIds) : (store.setTable name table).DistinctIds := by
  intro other found stored
  rw [table?, setTable, Keyed.lookup_put] at stored
  split at stored
  · cases stored
    exact kept
  · exact distinct other found stored

theorem distinctIds_dropTable {store : MemoryStore} (distinct : store.DistinctIds)
    (name : String) : (dropTable name store).2.DistinctIds := by
  intro other found stored
  rw [table?, dropTable, Keyed.lookup_erase] at stored
  split at stored
  · cases stored
  · exact distinct other found stored

end MemoryStore

end DocStore
