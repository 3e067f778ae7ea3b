import DocStore.Proofs.Write.Course

/-!
# A bulk write in memory, as a whole

A bulk write either leaves everything as it was, or it makes a plan against the documents stored
before it, runs the plan, and publishes the events of the run in one batch.
-/

namespace DocStore

namespace Instance

/-- The batch of events that a bulk write hands to the feed of its instance. -/
def published {σ : Type} (backend : Backend σ) (inst : Instance) (rows : List WriteRow)
    (context bulkId : String) (state : σ) : Option EventBulk :=
  match inst.requireWritable with
  | .error _ => none
  | .ok _ =>
      if rows.isEmpty then none
      else
        match writeBatch backend inst rows context state with
        | (.error _, _) => none
        | (.ok result, _) => result.bulk? bulkId

/-- The feed of an instance changes by what its bulk writes publish. -/
theorem publish_published {σ : Type} (backend : Backend σ) (inst : Instance)
    (rows : List WriteRow) (context bulkId : String) (state : σ) :
    (inst.bulkWrite backend rows context bulkId state).2.1 =
      inst.publish (inst.published backend rows context bulkId state) := by
  rw [bulkWrite, published]
  cases inst.requireWritable with
  | error fault => rfl
  | ok _ =>
      cases rows.isEmpty with
      | true => rfl
      | false =>
          rcases writeBatch backend inst rows context state with ⟨answer, after⟩
          cases answer <;> rfl

theorem table_publish (inst : Instance) (bulk : Option EventBulk) :
    (inst.publish bulk).table = inst.table := by
  cases bulk <;> rfl

/-- Of its instance, a bulk write changes the feed at most. -/
theorem exists_feed_bulkWrite {σ : Type} (backend : Backend σ) (inst : Instance)
    (rows : List WriteRow) (context bulkId : String) (state : σ) :
    ∃ feed, (inst.bulkWrite backend rows context bulkId state).2.1 = { inst with feed } := by
  rw [publish_published]
  cases inst.published backend rows context bulkId state with
  | none => exact ⟨inst.feed, rfl⟩
  | some bulk => exact ⟨(inst.feed.publish bulk).2, rfl⟩

/-- The plan for the rows of a batch, made against the documents that a table stores. -/
def IsPlan (inst : Instance) (rows : List WriteRow) (context : String) (store : MemoryStore)
    (plan : WritePlan) : Prop :=
  ∃ stored, (∀ row ∈ rows, ∀ id, inst.primaryKey.compose row.document = .ok id →
      stored.lookup id = store.document? inst.table id) ∧
    WritePlan.ofRows inst.primaryKey stored rows context = .ok plan

/-- A plan is made for rows, which have the given ids, on what a lookup of these ids has found. -/
structure PlansRows (inst : Instance) (rows : List WriteRow) (context : String)
    (store : MemoryStore) (stored : List (String × Document)) (ids : List String)
    (plan : WritePlan) : Prop where
  composed : rows.mapM (fun row => inst.primaryKey.compose row.document) = .ok ids
  planned : plan = .ofVerdicts (WritePlan.verdicts stored rows ids 0) context
  snapshot : ∀ id ∈ ids, stored.lookup id = store.document? inst.table id
  present : (store.table? inst.table).isSome

/-- Where all keys compose and the table exists, a batch runs its plan. -/
theorem writeBatch_of_composed {inst : Instance} {rows : List WriteRow} {ids : List String}
    (composed : rows.mapM (fun row => inst.primaryKey.compose row.document) = .ok ids)
    {store : MemoryStore} {table : MemoryTable} (found : store.table? inst.table = some table)
    (context : String) :
    ∃ stored plan, PlansRows inst rows context store stored ids plan ∧
      writeBatch MemoryStore.backend inst rows context store =
        (.ok (runPlan MemoryStore.backend inst plan store).1,
          (runPlan MemoryStore.backend inst plan store).2) := by
  have snapshot : ∀ id ∈ ids, (byId (table.find (Keyed.distinct ids) true)).lookup id =
      store.document? inst.table id := by
    intro id member
    rw [MemoryTable.lookup_find, if_pos ((Keyed.mem_distinct ids id).mpr member),
      MemoryStore.document?_of_table? found]
  have present : (store.table? inst.table).isSome := by rw [found]; rfl
  refine ⟨_, _, ⟨composed, rfl, snapshot, present⟩, ?_⟩
  simp [writeBatch, WritePlan.documentIds_eq composed, WritePlan.ofRows_eq composed,
    MemoryStore.findByIds_of_table? found]

theorem writeBatch_of_missing {inst : Instance} {rows : List WriteRow} {ids : List String}
    (composed : rows.mapM (fun row => inst.primaryKey.compose row.document) = .ok ids)
    {store : MemoryStore} (missing : store.table? inst.table = none) (context : String) :
    writeBatch MemoryStore.backend inst rows context store =
      (.error (.backend (.missingTable inst.table)), store) := by
  simp [writeBatch, WritePlan.documentIds_eq composed, MemoryStore.backend, MemoryStore.reading,
    missing]

theorem writeBatch_cases (inst : Instance) (rows : List WriteRow) (context : String)
    (store : MemoryStore) :
    (∃ fault, writeBatch MemoryStore.backend inst rows context store = (.error fault, store)) ∨
    ∃ stored ids plan, PlansRows inst rows context store stored ids plan ∧
      writeBatch MemoryStore.backend inst rows context store =
        (.ok (runPlan MemoryStore.backend inst plan store).1,
          (runPlan MemoryStore.backend inst plan store).2) := by
  cases composed : rows.mapM fun row => inst.primaryKey.compose row.document with
  | error fault =>
      refine .inl ⟨.engine fault, ?_⟩
      simp [writeBatch, WritePlan.documentIds, composed, Except.map]
  | ok ids =>
      cases found : store.table? inst.table with
      | none => exact .inl ⟨_, writeBatch_of_missing composed found context⟩
      | some table =>
          obtain ⟨stored, plan, plans, batch⟩ := writeBatch_of_composed composed found context
          exact .inr ⟨stored, ids, plan, plans, batch⟩

/-- All that a bulk write can come to. -/
theorem bulkWrite_cases (inst : Instance) (rows : List WriteRow) (context bulkId : String)
    (store : MemoryStore) :
    (∃ answer, inst.bulkWrite MemoryStore.backend rows context bulkId store =
        (answer, inst, store) ∧
      inst.published MemoryStore.backend rows context bulkId store = none ∧
        ∀ response, answer = .ok response → rows = [] ∧ response = ⟨[]⟩) ∨
    ∃ stored ids plan, PlansRows inst rows context store stored ids plan ∧
      inst.bulkWrite MemoryStore.backend rows context bulkId store =
        (.ok (runPlan MemoryStore.backend inst plan store).1.response,
          inst.publish ((runPlan MemoryStore.backend inst plan store).1.bulk? bulkId),
          (runPlan MemoryStore.backend inst plan store).2) ∧
      inst.published MemoryStore.backend rows context bulkId store =
        (runPlan MemoryStore.backend inst plan store).1.bulk? bulkId := by
  cases writable : inst.requireWritable with
  | error fault =>
      refine .inl ⟨.error fault, ?_, ?_, fun _ same => by cases same⟩
      · rw [bulkWrite, writable]
      · rw [published, writable]
  | ok _ =>
      cases noRows : rows.isEmpty with
      | true =>
          refine .inl ⟨.ok ⟨[]⟩, ?_, ?_, fun _ same => ?_⟩
          · simp [bulkWrite, writable, noRows]
          · simp [published, writable, noRows]
          · cases same
            exact ⟨List.isEmpty_iff.mp noRows, rfl⟩
      | false =>
          rcases writeBatch_cases inst rows context store with
            ⟨fault, batch⟩ | ⟨stored, ids, plan, plans, batch⟩
          · refine .inl ⟨.error fault, ?_, ?_, fun _ same => by cases same⟩
            · simp [bulkWrite, writable, noRows, batch]
            · simp [published, writable, noRows, batch]
          · refine .inr ⟨stored, ids, plan, plans, ?_, ?_⟩
            · simp [bulkWrite, writable, noRows, batch]
            · simp [published, writable, noRows, batch]

theorem events_bulk? (result : WriteResult) (bulkId : String) :
    ((result.bulk? bulkId).map EventBulk.events).getD [] = result.events := by
  rw [WriteResult.bulk?]
  cases result.events <;> rfl

namespace PlansRows

variable {inst : Instance} {rows : List WriteRow} {context : String} {store : MemoryStore}
  {stored : List (String × Document)} {ids : List String} {plan : WritePlan}

theorem isPlan (plans : PlansRows inst rows context store stored ids plan) :
    inst.IsPlan rows context store plan := by
  refine ⟨stored, fun row member id composes => ?_, ?_⟩
  · obtain ⟨position, rowAt⟩ := List.getElem?_of_mem member
    have idAt := (WritePlan.compose_iff_getElem? plans.composed rowAt id).mp composes
    exact plans.snapshot id (List.mem_of_getElem? idAt)
  · rw [plans.planned]
    exact WritePlan.ofRows_eq plans.composed stored context

/-- Every write of the plan is made from the row at its position and from what is stored. -/
theorem isOf (plans : PlansRows inst rows context store stored ids plan) {write : PlannedWrite}
    (member : write ∈ plan.writes) :
    ∃ row, rows[write.index]? = some row ∧
      inst.primaryKey.compose row.document = .ok write.row.id ∧
      write.IsOf write.index write.row.id row (store.document? inst.table write.row.id) := by
  rw [plans.planned] at member
  obtain ⟨row, rowAt, idAt, isOf⟩ := WritePlan.isOf_of_mem_writes member
  rw [plans.snapshot _ (List.mem_of_getElem? idAt)] at isOf
  exact ⟨row, rowAt, (WritePlan.compose_iff_getElem? plans.composed rowAt _).mpr idAt, isOf⟩

theorem ascending (plans : PlansRows inst rows context store stored ids plan) :
    plan.writes.Pairwise (·.index < ·.index) := by
  rw [plans.planned]
  exact WritePlan.ascending_writes
    (WritePlan.map_index_verdicts stored (WritePlan.length_of_composed plans.composed)) context

theorem plannedOn (plans : PlansRows inst rows context store stored ids plan) :
    ∀ write ∈ plan.writes, PlannedOn (store.document? inst.table) write := by
  intro write member
  obtain ⟨row, _, _, isOf⟩ := plans.isOf member
  exact ⟨write.index, row, isOf⟩

/-- The outcome of a planned write stands in the response at the position of its row. -/
theorem outcome (plans : PlansRows inst rows context store stored ids plan) {number : Nat}
    {write : PlannedWrite} (found : plan.writes[number]? = some write) :
    (runPlan MemoryStore.backend inst plan store).1.response.outcomes[write.index]? =
      some (outcomeOf inst.table plan.writes store number write) := by
  have applied : (applyWrites MemoryStore.backend inst.table plan.writes store).1[number]? =
      some ⟨write, outcomeOf inst.table plan.writes store number write⟩ :=
    getElem?_applyWrites found store
  exact outcome_of_applied MemoryStore.backend inst (perm_planned plans.composed plans.planned)
    store (List.mem_of_getElem? applied)

end PlansRows

end Instance

end DocStore
