import DocStore.Proofs.Backend.Alteration
import DocStore.Proofs.StableSort
import DocStore.Query.Compiled
import Mathlib.Data.List.Dedup
import Mathlib.Data.List.Induction

/-!
# The order of insertion

The ids that were ever inserted into a table make up its log. The rows of the table stand in the
order of their last insertions, and their sequence numbers ascend below the next one.
-/

namespace DocStore

section Log

variable {α : Type} [DecidableEq α]

/-- What is logged again moves to the end. -/
theorem dedup_concat (log : List α) (id : α) :
    (log ++ [id]).dedup = log.dedup.filter (fun other => decide (other ≠ id)) ++ [id] := by
  induction log with
  | nil => rfl
  | cons first rest ih =>
      by_cases again : first ∈ rest
      · have later : first ∈ rest ++ [id] := List.mem_append_left [id] again
        rw [List.cons_append, List.dedup_cons_of_mem later, List.dedup_cons_of_mem again, ih]
      · rw [List.cons_append, List.dedup_cons_of_notMem again]
        by_cases same : first = id
        · have later : first ∈ rest ++ [id] := by simp [same]
          rw [List.dedup_cons_of_mem later, ih, List.filter_cons_of_neg (by simpa using same)]
        · have last : first ∉ rest ++ [id] := by simp [again, same]
          rw [List.dedup_cons_of_notMem last, ih, List.filter_cons_of_pos (by simpa using same)]
          rfl

omit [DecidableEq α] in
/-- A function that knows only some names of a list reads off these names in their order. -/
theorem filterMap_of_sublist {β : Type} {names all : List α} (sublist : names.Sublist all)
    (unique : all.Nodup) {f : α → Option β}
    (unknown : ∀ name ∈ all, name ∉ names → f name = none) :
    all.filterMap f = names.filterMap f := by
  induction sublist with
  | slnil => rfl
  | cons name kept ih =>
      obtain ⟨fresh, rest⟩ := List.nodup_cons.mp unique
      have absent : f name = none := unknown name (.head _) fun member => fresh (kept.mem member)
      rw [List.filterMap_cons, absent]
      exact ih rest fun other member => unknown other (.tail name member)
  | cons_cons name kept ih =>
      obtain ⟨fresh, rest⟩ := List.nodup_cons.mp unique
      have others := ih rest fun other member left => unknown other (.tail name member) (by
        rintro (_ | ⟨_, listed⟩)
        · exact fresh member
        · exact left listed)
      rw [List.filterMap_cons, List.filterMap_cons, others]

end Log

namespace MemoryTable

theorem ordered_perm (table : MemoryTable) :
    table.ordered.Perm (table.rows.map MemoryRow.stored) :=
  (stableSort_perm _ table.rows).map MemoryRow.stored

/-- An unsorted query for everything lists all rows in order. -/
theorem select_all (table : MemoryTable) : table.select QuerySpec.all.compile = table.ordered :=
  List.filter_eq_self.mpr fun _ _ => rfl

/-- How the rows of a table stand to the log of its insertions. -/
structure WellKept (admits : StoredRow → Prop) (log : List String) (table : MemoryTable) :
    Prop where
  ascending : table.rows.Pairwise fun a b => a.seq < b.seq
  below : ∀ row ∈ table.rows, row.seq < table.nextSeq
  admitted : ∀ row ∈ table.rows, admits row.stored
  logged : (table.rows.map MemoryRow.id).Sublist log.dedup

variable {admits : StoredRow → Prop} {log : List String} {table written : MemoryTable}
  {row : StoredRow}

theorem WellKept.empty (admits : StoredRow → Prop) (log : List String) :
    WellKept admits log .empty where
  ascending := .nil
  below _ member := nomatch member
  admitted _ member := nomatch member
  logged := List.nil_sublist _

theorem WellKept.imp {fewer : StoredRow → Prop} (implies : ∀ row, fewer row → admits row)
    (kept : table.WellKept fewer log) : table.WellKept admits log :=
  { kept with admitted := fun row member => implies _ (kept.admitted row member) }

theorem WellKept.insert? (kept : table.WellKept admits log) (admitted : admits row)
    (done : table.insert? row = some written) : written.WellKept admits (log ++ [row.id]) := by
  obtain ⟨unused, rfl⟩ := of_insert? done
  refine ⟨?_, ?_, ?_, ?_⟩
  · refine List.pairwise_append.mpr ⟨kept.ascending, List.pairwise_singleton _ _, ?_⟩
    rintro old member new (_ | ⟨_, ⟨⟩⟩)
    exact kept.below old member
  · intro other member
    rcases List.mem_append.mp member with old | new
    · exact Nat.lt_succ_of_lt (kept.below other old)
    · cases List.mem_singleton.mp new
      exact Nat.lt_succ_self _
  · intro other member
    rcases List.mem_append.mp member with old | new
    · exact kept.admitted other old
    · cases List.mem_singleton.mp new
      exact admitted
  -- The id can stand in the log from a former row, but not among the rows that are there: where it
  -- moves to the end of the log, these keep their order.
  · have others : (table.rows.map MemoryRow.id).filter (fun id => decide (id ≠ row.id)) =
        table.rows.map MemoryRow.id :=
      List.filter_eq_self.mpr fun id listed =>
        decide_eq_true fun same : id = row.id => unused (same ▸ listed)
    have moved := kept.logged.filter fun id => decide (id ≠ row.id)
    rw [others] at moved
    rw [dedup_concat, List.map_append]
    exact moved.append (.refl _)

/-- An update moves no row. -/
theorem WellKept.update? {expected : Option String} (kept : table.WellKept admits log)
    (admitted : admits row) (done : table.update? row expected = some written) :
    written.WellKept admits log := by
  obtain ⟨_, rfl⟩ := of_update? done
  refine ⟨?_, ?_, ?_, ?_⟩
  · rw [rows_replace, List.pairwise_map]
    simp only [seq_overwrite]
    exact kept.ascending
  · intro other member
    rw [rows_replace] at member
    obtain ⟨old, inside, rfl⟩ := List.mem_map.mp member
    rw [seq_overwrite]
    exact kept.below old inside
  · intro other member
    rw [rows_replace] at member
    obtain ⟨old, inside, rfl⟩ := List.mem_map.mp member
    by_cases same : old.id = row.id
    · have stored : (overwrite row old).stored = row := by
        rw [overwrite, if_pos (beq_iff_eq.mpr same), MemoryRow.stored, same]
      rw [stored]
      exact admitted
    · rw [overwrite, if_neg (by simpa using same)]
      exact kept.admitted old inside
  · rw [map_id_replace]
    exact kept.logged

theorem WellKept.purge (kept : table.WellKept admits log) (cutoff : Binary64) :
    (table.purge cutoff).WellKept admits log where
  ascending := kept.ascending.sublist List.filter_sublist
  below row member := kept.below row (List.mem_of_mem_filter member)
  admitted row member := kept.admitted row (List.mem_of_mem_filter member)
  logged := (List.filter_sublist.map MemoryRow.id).trans kept.logged

theorem WellKept.distinctIds (kept : table.WellKept admits log) : table.DistinctIds :=
  (List.nodup_dedup log).sublist kept.logged

theorem WellKept.distinctSeqs (kept : table.WellKept admits log) :
    (table.rows.map MemoryRow.seq).Nodup :=
  List.pairwise_map.mpr (kept.ascending.imp Nat.ne_of_lt)

/-- The rows are kept in the order of their insertion. -/
theorem WellKept.ordered_eq_map (kept : table.WellKept admits log) :
    table.ordered = table.rows.map MemoryRow.stored := by
  have descends : ∀ a b : MemoryRow, a.seq < b.seq → compare b.seq a.seq ≠ .lt := by
    intro a b less more
    exact Nat.lt_asymm less (Nat.compare_eq_lt.mp more)
  rw [MemoryTable.ordered, stableSort_of_pairwise (kept.ascending.imp (descends _ _))]

/-- The rows in the order of their insertion are those that the log lists, by the last insertion of
each id. -/
theorem WellKept.documents_ordered (kept : table.WellKept admits log) :
    table.ordered.map StoredRow.data = log.dedup.filterMap table.document? := by
  have unknown : ∀ id ∈ log.dedup, id ∉ table.rows.map MemoryRow.id →
      table.document? id = none := by
    intro id _ absent
    rw [document?, row?_of_notMem absent]
    rfl
  have documents : ∀ row ∈ table.rows, table.document? row.id = some row.data := by
    intro row member
    rw [document?, (row?_eq_some_iff kept.distinctIds).mpr ⟨member, rfl⟩]
    rfl
  calc table.ordered.map StoredRow.data = table.rows.map MemoryRow.data := ?_
    _ = table.rows.filterMap (fun row => table.document? row.id) := ?_
    _ = (table.rows.map MemoryRow.id).filterMap table.document? := ?_
    _ = log.dedup.filterMap table.document? := ?_
  · rw [kept.ordered_eq_map, List.map_map]
    rfl
  · rw [← List.filterMap_eq_map]
    exact List.filterMap_congr fun row member => (documents row member).symm
  · rw [List.filterMap_map]
    rfl
  · exact (filterMap_of_sublist kept.logged (List.nodup_dedup log) unknown).symm

end MemoryTable

namespace MemoryStore

/-- The logs of all tables after more insertions into one of them. -/
def extendLog (name : String) (ids : List String) (logs : String → List String) :
    String → List String :=
  fun other => if other = name then logs other ++ ids else logs other

theorem extendLog_nil (name : String) (logs : String → List String) :
    extendLog name [] logs = logs := by
  funext other
  rw [extendLog, List.append_nil, ite_self]

theorem extendLog_append (name : String) (ids more : List String) (logs : String → List String) :
    extendLog name (ids ++ more) logs = extendLog name more (extendLog name ids logs) := by
  funext other
  by_cases own : other = name <;> simp [extendLog, own]

/-- All tables stand so to their logs. -/
def WellKept (admits : String → StoredRow → Prop) (logs : String → List String)
    (store : MemoryStore) : Prop :=
  ∀ name table, store.table? name = some table → table.WellKept (admits name) (logs name)

variable {admits : String → StoredRow → Prop} {fewer : StoredRow → Prop}
  {logs : String → List String} {store final : MemoryStore} {name : String} {ids : List String}

theorem WellKept.imp {fewer : String → StoredRow → Prop}
    (implies : ∀ name row, fewer name row → admits name row) (kept : store.WellKept fewer logs) :
    store.WellKept admits logs :=
  fun name table found => (kept name table found).imp (implies name)

theorem WellKept.setTable (kept : store.WellKept admits logs) {table : MemoryTable}
    (changed : table.WellKept (admits name) (logs name ++ ids)) :
    (store.setTable name table).WellKept admits (extendLog name ids logs) := by
  intro other found stored
  rw [table?, MemoryStore.setTable, Keyed.lookup_put] at stored
  rw [extendLog]
  split at stored
  · next own =>
      cases stored
      rw [if_pos own, own]
      exact changed
  · next apart =>
      rw [if_neg apart]
      exact kept other found stored

theorem Alteration.wellKept (alteration : Alteration name fewer store ids final)
    (implies : ∀ row, fewer row → admits name row) (kept : store.WellKept admits logs) :
    final.WellKept admits (extendLog name ids logs) := by
  cases alteration with
  | created => exact kept.setTable (.empty (admits name) _)
  | inserted found admitted done =>
      exact kept.setTable ((kept name _ found).insert? (implies _ admitted) done)
  | updated found admitted done =>
      refine kept.setTable ?_
      rw [List.append_nil]
      exact (kept name _ found).update? (implies _ admitted) done
  | purged found cutoff =>
      refine kept.setTable ?_
      rw [List.append_nil]
      exact (kept name _ found).purge cutoff
  | dropped =>
      intro other table stored
      rw [table?_dropTable] at stored
      split at stored
      · cases stored
      · rw [extendLog_nil]
        exact kept other table stored
  | failed =>
      rw [extendLog_nil]
      exact kept

theorem Altered.wellKept (altered : Altered name fewer store ids final)
    (implies : ∀ row, fewer row → admits name row) (kept : store.WellKept admits logs) :
    final.WellKept admits (extendLog name ids logs) := by
  induction altered generalizing logs with
  | refl =>
      rw [extendLog_nil]
      exact kept
  | step first _ ih =>
      rw [extendLog_append]
      exact ih (first.wellKept implies kept)

/-! ## Whatever calls a store gets -/

/-- A call of the backend that writes, or a request that writes fail. -/
inductive StoreCall where
  | ensureTable (name : String)
  | dropTable (name : String)
  | insert (name : String) (row : StoredRow)
  | update (name : String) (row : StoredRow) (expected : Option String)
  | purge (name : String) (cutoff : Binary64)
  | failNextWrites (count : Nat)

def perform (store : MemoryStore) : StoreCall → MemoryStore
  | .ensureTable name => (backend.ensureTable name store).2
  | .dropTable name => (backend.dropTable name store).2
  | .insert name row => (backend.insert name row store).2
  | .update name row expected => (backend.update name row expected store).2
  | .purge name cutoff => (backend.purge name cutoff store).2
  | .failNextWrites count => store.failNextWrites count

/-- The store that calls make of an empty one. -/
def ofCalls (calls : List StoreCall) : MemoryStore := calls.foldl perform empty

theorem exists_altered_writing {admits : StoredRow → Prop}
    {write? : MemoryTable → Option MemoryTable}
    (alters : ∀ table written, store.table? name = some table → write? table = some written →
      ∃ ids, Alteration name admits store ids (store.setTable name written)) :
    ∃ ids, Altered name admits store ids (writing name write? store).2 := by
  unfold writing
  cases pending : store.failingWrites with
  | succ left => exact ⟨[], .single (.failed pending)⟩
  | zero =>
      cases found : store.table? name with
      | none => exact ⟨[], .refl store⟩
      | some table =>
          cases done : write? table with
          | none =>
              simp only [done]
              exact ⟨[], .refl store⟩
          | some written =>
              obtain ⟨ids, alteration⟩ := alters table written found done
              simp only [done]
              exact ⟨ids, .single alteration⟩

theorem exists_wellKept_perform {logs : String → List String}
    (kept : store.WellKept (fun _ _ => True) logs) (call : StoreCall) :
    ∃ logs, (store.perform call).WellKept (fun _ _ => True) logs := by
  have of_altered (name : String) {final : MemoryStore}
      (altered : ∃ ids, Altered name (fun _ => True) store ids final) :
      ∃ logs, final.WellKept (fun _ _ => True) logs := by
    obtain ⟨ids, altered⟩ := altered
    exact ⟨_, altered.wellKept (fun _ admitted => admitted) kept⟩
  cases call with
  | ensureTable name =>
      apply of_altered name
      cases found : store.table? name with
      | some table =>
          simp only [perform, backend, ensureTable, found]
          exact ⟨[], .refl store⟩
      | none =>
          simp only [perform, backend, ensureTable, found]
          exact ⟨[], .single (.created found)⟩
  | dropTable name => exact of_altered name ⟨[], .single .dropped⟩
  | insert name row =>
      apply of_altered name
      apply exists_altered_writing
      exact fun table written found done => ⟨[row.id], .inserted found trivial done⟩
  | update name row expected =>
      apply of_altered name
      apply exists_altered_writing
      exact fun table written found done => ⟨[], .updated found trivial done⟩
  | purge name cutoff =>
      apply of_altered name
      cases found : store.table? name with
      | some table =>
          simp only [perform, backend, purge, found]
          exact ⟨[], .single (.purged found cutoff)⟩
      | none =>
          simp only [perform, backend, purge, found]
          exact ⟨[], .refl store⟩
  | failNextWrites count => exact ⟨logs, kept⟩

theorem exists_wellKept_ofCalls (calls : List StoreCall) :
    ∃ logs, (ofCalls calls).WellKept (fun _ _ => True) logs := by
  induction calls using List.reverseRecOn with
  | nil => exact ⟨fun _ => [], fun _ _ found => nomatch found⟩
  | append_singleton before call ih =>
      obtain ⟨logs, kept⟩ := ih
      rw [ofCalls, List.foldl_append]
      exact exists_wellKept_perform kept call

end MemoryStore

end DocStore
