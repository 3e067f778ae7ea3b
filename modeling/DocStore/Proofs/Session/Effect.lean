import DocStore.Proofs.Backend.Alteration
import DocStore.Proofs.Backend.Purge
import DocStore.Proofs.Write.Batch
import DocStore.Session

/-!
# What operations do to the tables in memory

Whatever an operation on an instance does to the store, it does by statements on the table of the
instance, and the rows that it writes have the ids that the primary key composes. Of the instance
itself only the feed and the closed flag change. The inserted ids are those that the response
reports as inserted, in the order of the batch.
-/

namespace DocStore

namespace WriteOutcome

/-- The id of a row that was inserted. -/
def inserted? : WriteOutcome → Option String
  | inserted id => some id
  | _ => none

end WriteOutcome

/-- The ids that an answer reports as inserted. -/
def insertedIds : Except StoreError Answer → List String
  | .ok (.response response) => response.outcomes.filterMap WriteOutcome.inserted?
  | _ => []

/-- Only a response reports inserted ids. -/
theorem insertedIds_map {α : Type} {report : α → Answer}
    (other : ∀ value, insertedIds (.ok (report value)) = []) (answer : Except StoreError α) :
    insertedIds (answer.map report) = [] := by
  cases answer with
  | error fault => rfl
  | ok value => exact other value

namespace Instance

open MemoryStore

/-! ## A bulk write -/

section Writes

variable {admits : StoredRow → Prop}

theorem altered_change? {name : String} {store : MemoryStore} {table changed : MemoryTable}
    {write : PlannedWrite} (found : store.table? name = some table) (admitted : admits write.row)
    (done : change? write table = some changed) :
    Altered name admits store write.outcome.inserted?.toList (store.setTable name changed) := by
  rw [change?] at done
  rw [PlannedWrite.outcome]
  cases kind : write.kind with
  | insert =>
      rw [kind] at done
      exact .single (.inserted found admitted done)
  | update =>
      rw [kind] at done
      exact .single (.updated found admitted done)

theorem altered_applyWrite (name : String) {write : PlannedWrite} (admitted : admits write.row)
    (store : MemoryStore) :
    Altered name admits store
      (applyWrite MemoryStore.backend name write store).1.inserted?.toList
      (applyWrite MemoryStore.backend name write store).2 := by
  rw [applyWrite, submit_memory, writing]
  cases pending : store.failingWrites with
  | succ left => exact .single (.failed pending)
  | zero =>
      cases found : store.table? name with
      | none => exact .refl store
      | some table =>
          cases done : change? write table with
          | some changed =>
              simp only [done]
              exact altered_change? found admitted done
          | none =>
              have unchanged : (reread MemoryStore.backend name write store).2 = store :=
                reread_memory write store
              simp only [done, unchanged]
              exact .refl store

theorem altered_applyWrites (name : String) {writes : List PlannedWrite}
    (admitted : ∀ write ∈ writes, admits write.row) (store : MemoryStore) :
    Altered name admits store
      ((applyWrites MemoryStore.backend name writes store).1.filterMap
        fun entry => entry.outcome.inserted?)
      (applyWrites MemoryStore.backend name writes store).2 := by
  induction writes generalizing store with
  | nil => exact .refl store
  | cons write rest ih =>
      have first := altered_applyWrite name (admitted write (.head rest)) store
      have others := ih (fun other member => admitted other (.tail write member))
        (applyWrite MemoryStore.backend name write store).2
      have run := first.trans others
      rw [applyWrites, List.filterMap_cons]
      cases inserted : (applyWrite MemoryStore.backend name write store).1.inserted? with
      | none =>
          rw [inserted] at run
          exact run
      | some id =>
          rw [inserted] at run
          exact run

end Writes

variable {inst : Instance} {rows : List WriteRow} {context : String} {store : MemoryStore}

/-- The response lists the inserted rows in the order in which they were inserted. -/
theorem PlansRows.inserted {stored : List (String × Document)} {ids : List String}
    {plan : WritePlan} (plans : PlansRows inst rows context store stored ids plan) :
    (runPlan MemoryStore.backend inst plan store).1.response.outcomes.filterMap
        WriteOutcome.inserted? =
      (applyWrites MemoryStore.backend inst.table plan.writes store).1.filterMap
        fun entry => entry.outcome.inserted? := by
  obtain ⟨current, response⟩ := response_runPlan MemoryStore.backend inst store plan
  have perm := perm_run MemoryStore.backend inst (perm_planned plans.composed plans.planned) store
    current
  have ascending := ascending_applyWrites MemoryStore.backend inst.table plans.ascending store
  rw [response, BulkWriteResponse.ofIndexed, List.filterMap_map, positioned]
  rw [positioned] at perm
  rw [filterMap_stableSort perm, List.filterMap_map]
  · rfl
  · exact List.pairwise_map.mpr ascending
  · intro entry member
    obtain ⟨conflict, _, rfl⟩ := List.mem_map.mp member
    rfl

/-- The rows that an instance writes are those with the ids that its primary key composes. -/
def Writes (inst : Instance) (row : StoredRow) : Prop :=
  inst.primaryKey.compose row.data = .ok row.id

theorem PlansRows.writes {stored : List (String × Document)} {ids : List String}
    {plan : WritePlan} (plans : PlansRows inst rows context store stored ids plan) :
    ∀ write ∈ plan.writes, inst.Writes write.row := by
  intro write member
  obtain ⟨row, _, composes, isOf⟩ := plans.isOf member
  rw [Writes, isOf.stores]
  exact composes

theorem altered_bulkWrite (inst : Instance) (rows : List WriteRow) (context bulkId : String)
    (store : MemoryStore) :
    Altered inst.table inst.Writes store
      (insertedIds ((inst.bulkWrite MemoryStore.backend rows context bulkId store).1.map .response))
      (inst.bulkWrite MemoryStore.backend rows context bulkId store).2.2 := by
  rcases bulkWrite_cases inst rows context bulkId store with
    ⟨answer, done, _, nothing⟩ | ⟨stored, ids, plan, plans, done, _⟩
  · rw [done]
    cases answer with
    | error fault => exact .refl store
    | ok response =>
        obtain ⟨_, rfl⟩ := nothing response rfl
        exact .refl store
  · have run := altered_applyWrites inst.table plans.writes store
    rw [← plans.inserted] at run
    rw [done, (runPlan_memory plans.planned plans.snapshot plans.present).1]
    exact run

/-! ## Other operations -/

/-- A call that reads a table, unless it has nothing to look for. -/
theorem store_checked_reading {α : Type} (check : Except StoreError Unit) (idle : Bool) (answer : α)
    (name : String) (read : MemoryTable → α) (store : MemoryStore) :
    (checked check (if idle then settled answer else reading name read) store).2 = store := by
  cases check with
  | error fault => rfl
  | ok _ =>
      cases idle with
      | true => rfl
      | false =>
          rw [checked, if_neg Bool.false_ne_true, reading]
          cases store.table? name <;> rfl

theorem store_find (inst : Instance) (ids : List String) (withDeleted : Bool)
    (store : MemoryStore) :
    (inst.find MemoryStore.backend ids withDeleted store).2 = store :=
  store_checked_reading inst.requireOpen ids.isEmpty [] inst.table (·.find ids withDeleted) store

theorem store_query (inst : Instance) (spec : QuerySpec) (store : MemoryStore) :
    (inst.query MemoryStore.backend spec store).2 = store :=
  store_checked_reading inst.requireOpen spec.compile.predicate.isAlwaysFalse [] inst.table
    (·.select spec.compile) store

theorem store_queryMango (inst : Instance) (mango : MangoQuery) (store : MemoryStore) :
    (inst.queryMango MemoryStore.backend mango store).2 = store := by
  rw [queryMango]
  cases QuerySpec.ofMango mango with
  | error fault => rfl
  | ok spec => exact store_query inst spec store

theorem store_count (inst : Instance) (spec : QuerySpec) (store : MemoryStore) :
    (inst.count MemoryStore.backend spec store).2 = store :=
  store_checked_reading inst.requireOpen spec.compile.predicate.isAlwaysFalse 0 inst.table
    (·.count spec.compile) store

/-- A cleanup purges the table of the instance, or it does nothing. -/
theorem cleanup_cases (inst : Instance) (olderThan : Binary64) (store : MemoryStore) :
    (∃ answer, inst.cleanup MemoryStore.backend olderThan store = (answer, store)) ∨
      ∃ table removed, store.table? inst.table = some table ∧
        inst.cleanup MemoryStore.backend olderThan store =
          (.ok removed, store.setTable inst.table (table.purge olderThan)) := by
  rw [cleanup]
  cases inst.requireWritable with
  | error fault => exact .inl ⟨.error fault, rfl⟩
  | ok _ =>
      cases found : store.table? inst.table with
      | none =>
          refine .inl ⟨.error (.backend (.missingTable inst.table)), ?_⟩
          simp [checked, MemoryStore.backend, MemoryStore.purge, found, Except.map]
      | some table =>
          rw [checked, MemoryStore.purge_of_table? found]
          exact .inr ⟨table, _, rfl, rfl⟩

theorem altered_cleanup (inst : Instance) (admits : StoredRow → Prop) (olderThan : Binary64)
    (store : MemoryStore) :
    Altered inst.table admits store []
      (inst.cleanup MemoryStore.backend olderThan store).2 := by
  rcases cleanup_cases inst olderThan store with ⟨answer, done⟩ | ⟨table, removed, found, done⟩
  · rw [done]
    exact .refl store
  · rw [done]
    exact .single (.purged found olderThan)

/-- A removal drops the table of the instance and closes the instance, or it does nothing. -/
theorem remove_cases (inst : Instance) (store : MemoryStore) :
    (∃ fault, inst.remove MemoryStore.backend store = (.error fault, inst, store)) ∨
      inst.remove MemoryStore.backend store =
        (.ok (), inst.close, (dropTable inst.table store).2) := by
  cases writable : inst.requireWritable with
  | error fault =>
      refine .inl ⟨fault, ?_⟩
      rw [remove, writable]
      rfl
  | ok _ =>
      refine .inr ?_
      rw [remove, writable]
      rfl

theorem subscribe_cases (inst : Instance) (reader : String) :
    (∃ fault, inst.subscribe reader = .error fault) ∨
      ∃ feed, inst.subscribe reader = .ok { inst with feed } := by
  rw [subscribe]
  cases inst.requireOpen with
  | error fault => exact .inl ⟨fault, rfl⟩
  | ok _ =>
      cases inst.feed.subscribe? reader with
      | none => exact .inl ⟨.closed, rfl⟩
      | some feed => exact .inr ⟨feed, rfl⟩

/-- Whatever an operation does to the store, it does by statements on the table of the instance. -/
theorem altered_perform (inst : Instance) (operation : Operation) (store : MemoryStore) :
    Altered inst.table inst.Writes store
      (insertedIds (inst.perform MemoryStore.backend store operation).1)
      (inst.perform MemoryStore.backend store operation).2.2 := by
  cases operation with
  | bulkWrite rows context bulkId => exact altered_bulkWrite inst rows context bulkId store
  | find ids withDeleted =>
      rw [perform, store_find, insertedIds_map fun _ => rfl]
      exact .refl store
  | query spec =>
      rw [perform, store_query, insertedIds_map fun _ => rfl]
      exact .refl store
  | queryMango mango =>
      rw [perform, store_queryMango, insertedIds_map fun _ => rfl]
      exact .refl store
  | count spec =>
      rw [perform, store_count, insertedIds_map fun _ => rfl]
      exact .refl store
  | cleanup olderThan =>
      rw [perform, insertedIds_map fun _ => rfl]
      exact altered_cleanup inst inst.Writes olderThan store
  | attachment => exact .refl store
  | subscribe reader =>
      rw [perform]
      cases inst.subscribe reader <;> exact .refl store
  | remove =>
      rw [perform]
      rcases remove_cases inst store with ⟨fault, done⟩ | done
      · rw [done]
        exact .refl store
      · rw [done]
        exact .single .dropped
  | close => exact .refl store

/-- Of an instance, an operation changes the feed and the closed flag at most. -/
theorem exists_perform {σ : Type} (backend : Backend σ) (inst : Instance) (operation : Operation)
    (state : σ) :
    ∃ feed closed, (inst.perform backend state operation).2.1 = { inst with feed, closed } := by
  cases operation with
  | bulkWrite rows context bulkId =>
      obtain ⟨feed, changed⟩ := exists_feed_bulkWrite backend inst rows context bulkId state
      exact ⟨feed, inst.closed, changed⟩
  | subscribe reader =>
      rw [perform]
      rcases subscribe_cases inst reader with ⟨fault, done⟩ | ⟨feed, done⟩
      · rw [done]
        exact ⟨inst.feed, inst.closed, rfl⟩
      · rw [done]
        exact ⟨feed, inst.closed, rfl⟩
  | remove =>
      rw [perform, remove]
      rcases checked inst.requireWritable (backend.dropTable inst.table) state with ⟨answer, after⟩
      cases answer with
      | error fault => exact ⟨inst.feed, inst.closed, rfl⟩
      | ok _ => exact ⟨inst.feed.close.2, true, rfl⟩
  | close => exact ⟨inst.feed.close.2, true, rfl⟩
  | find => exact ⟨inst.feed, inst.closed, rfl⟩
  | query => exact ⟨inst.feed, inst.closed, rfl⟩
  | queryMango => exact ⟨inst.feed, inst.closed, rfl⟩
  | count => exact ⟨inst.feed, inst.closed, rfl⟩
  | cleanup => exact ⟨inst.feed, inst.closed, rfl⟩
  | attachment => exact ⟨inst.feed, inst.closed, rfl⟩

/-! ## Opening -/

/-- A table is made sure of by leaving the store as it is, or by creating the table. -/
theorem prepareTable_cases (settings : Settings) (table : String) (store : MemoryStore) :
    (∃ answer, prepareTable MemoryStore.backend settings table store = (answer, store)) ∨
      store.table? table = none ∧
        prepareTable MemoryStore.backend settings table store =
          (.ok (), store.setTable table .empty) := by
  rw [prepareTable]
  cases settings.autoCreate && !settings.readOnly with
  | true =>
      cases found : store.table? table with
      | none =>
          refine .inr ⟨rfl, ?_⟩
          simp [MemoryStore.backend, ensureTable, found]
      | some present =>
          refine .inl ⟨.ok (), ?_⟩
          simp [MemoryStore.backend, ensureTable, found]
  | false =>
      cases present : (store.table? table).isSome with
      | true => exact .inl ⟨.ok (), by simp [MemoryStore.backend, tableExists, present]⟩
      | false =>
          exact .inl ⟨.error (.noTable table), by simp [MemoryStore.backend, tableExists, present]⟩

/-- An instance is opened on the table of its collection, which may be created for it. -/
theorem create_cases (settings : Settings) (params : InstanceParams) (store : MemoryStore) :
    (∃ fault, create MemoryStore.backend settings params store = (.error fault, store)) ∨
    ∃ key version after, params.schema.validate = .ok (key, version) ∧
      let table := Schema.tableName params.databaseName params.collectionName version
      create MemoryStore.backend settings params store =
          (.ok (opened settings params key table), after) ∧
        ∀ admits, Altered table admits store [] after := by
  rw [create]
  cases params.schema.validate with
  | error fault => exact .inl ⟨_, rfl⟩
  | ok valid =>
      obtain ⟨key, version⟩ := valid
      rcases prepareTable_cases settings
          (Schema.tableName params.databaseName params.collectionName version) store with
        ⟨answer, prepared⟩ | ⟨absent, prepared⟩
      · cases answer with
        | error fault => exact .inl ⟨.schemaInit fault, by simp only [prepared]⟩
        | ok _ =>
            refine .inr ⟨key, version, store, rfl, by simp only [prepared], fun _ => .refl store⟩
      · exact .inr ⟨key, version, _, rfl, by simp only [prepared],
          fun _ => .single (.created absent)⟩

/-- Opening an instance creates a table at most. -/
theorem altered_create (settings : Settings) (params : InstanceParams) (store : MemoryStore) :
    ∃ name, ∀ admits, Altered name admits store []
      (create MemoryStore.backend settings params store).2 := by
  rcases create_cases settings params store with
    ⟨fault, done⟩ | ⟨_, version, after, _, done, altered⟩
  · rw [done]
    exact ⟨"", fun admits => .refl store⟩
  · rw [done]
    exact ⟨_, altered⟩

end Instance

end DocStore
