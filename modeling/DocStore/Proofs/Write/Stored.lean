import DocStore.Proofs.Backend.Memory
import DocStore.Proofs.Write.Settlement

/-!
# What a bulk write leaves in memory

A planned write is let through as long as the stored document is like the one that the plan saw.
Once it is not, no row of the batch can write under this id any more, so a conflict that is found
while the batch is applied already carries what will be stored at the end.
-/

namespace DocStore

namespace Instance

/-- Whether a stored document is like the one that a plan saw: present or absent as it was, and of
the same revision. -/
def Fits (planned stored : Option Document) : Prop :=
  planned.isSome = stored.isSome ∧ planned.bind Document.revision? = stored.bind Document.revision?

/-- What one planned write can come to in a table that exists. -/
inductive WriteStep (name : String) (planned : Option Document) (write : PlannedWrite)
    (store : MemoryStore) : WriteOutcome → MemoryStore → Prop where
  | written {after : MemoryStore} (table : (after.table? name).isSome)
      (fits : Fits planned (store.document? name write.row.id))
      (stored : ∀ id, after.document? name id =
        if id = write.row.id then some write.row.data else store.document? name id) :
      WriteStep name planned write store write.outcome after
  | lost (table : (store.table? name).isSome)
      (misfits : ¬ Fits planned (store.document? name write.row.id)) :
      WriteStep name planned write store
        (.conflict (write.conflict (store.document? name write.row.id))) store
  | failed {after : MemoryStore} (table : (after.table? name).isSome) (failure : WriteFailure)
      (stored : ∀ id, after.document? name id = store.document? name id) :
      WriteStep name planned write store (.failed failure) after

/-- The write of a plan, as a change of its table. -/
def change? (write : PlannedWrite) (table : MemoryTable) : Option MemoryTable :=
  match write.kind with
  | .insert => table.insert? write.row
  | .update => table.update? write.row write.expectedRevision

theorem submit_memory (name : String) (write : PlannedWrite) :
    submit MemoryStore.backend name write = MemoryStore.writing name (change? write) := by
  have changes : change? write = match write.kind with
      | .insert => (·.insert? write.row)
      | .update => (·.update? write.row write.expectedRevision) := by
    funext table
    rw [change?]
    cases write.kind <;> rfl
  rw [changes]
  funext store
  rw [submit]
  cases write.kind <;> rfl

theorem document?_change? {write : PlannedWrite} {table changed : MemoryTable}
    (done : change? write table = some changed) (id : String) :
    changed.document? id =
      if id = write.row.id then some write.row.data else table.document? id := by
  rw [change?] at done
  split at done
  · exact MemoryTable.document?_insert? done id
  · exact MemoryTable.document?_update? done id

/-- A planned write is let through exactly when what is stored fits what the plan saw. -/
theorem isSome_change? {write : PlannedWrite} {index : Nat} {id : String} {row : WriteRow}
    {planned : Option Document} (isOf : write.IsOf index id row planned) (table : MemoryTable) :
    (change? write table).isSome ↔ Fits planned (table.document? id) := by
  have stores : write.row.id = id := congrArg StoredRow.id isOf.stores
  have present := WriteKind.isSome_of_classify isOf.kind
  rw [change?, Fits, ← isOf.expected]
  cases kind : write.kind with
  | insert =>
      rw [kind] at present
      have absent : planned = none := Option.not_isSome_iff_eq_none.mp (by rw [present]; decide)
      have expected : write.expectedRevision = none := by rw [isOf.expected, absent]; rfl
      simp only [MemoryTable.isSome_insert?, stores, absent, expected]
      cases table.document? id <;> simp
  | update =>
      rw [kind] at present
      simp only [MemoryTable.isSome_update?, stores]
      rw [present]
      cases table.document? id with
      | none => simp
      | some document => simp [eq_comm]

/-- A step of a batch in a table that exists. -/
theorem writeStep_applyWrite {name : String} {store : MemoryStore} {write : PlannedWrite}
    {index : Nat} {row : WriteRow} {planned : Option Document}
    (present : (store.table? name).isSome) (isOf : write.IsOf index write.row.id row planned) :
    WriteStep name planned write store (applyWrite MemoryStore.backend name write store).1
      (applyWrite MemoryStore.backend name write store).2 := by
  obtain ⟨table, found⟩ := Option.isSome_iff_exists.mp present
  have current := MemoryStore.document?_of_table? found write.row.id
  rcases MemoryStore.writing_cases found (change? write) with
    ⟨fault, left, answered⟩ | ⟨changed, done, answered⟩ | ⟨refused, answered⟩
  · rw [applyWrite, submit_memory, answered]
    have kept : ((store.failNextWrites left).table? name).isSome := present
    exact .failed kept _ fun id => rfl
  · rw [applyWrite, submit_memory, answered]
    refine .written ?_ ?_ fun id => ?_
    · rw [MemoryStore.table?_setTable]
      rfl
    · rw [current, ← isSome_change? isOf, done]
      rfl
    · rw [MemoryStore.document?_of_table? (MemoryStore.table?_setTable store name changed),
        MemoryStore.document?_of_table? found]
      exact document?_change? done id
  · have misfits : ¬ Fits planned (store.document? name write.row.id) := by
      rw [current, ← isSome_change? isOf, refused]
      simp
    have reread : reread MemoryStore.backend name write store =
        (store.document? name write.row.id, store) := by
      simp only [Instance.reread, MemoryStore.findByIds_of_table? found, MemoryTable.head?_find,
        current]
    rw [applyWrite, submit_memory, answered]
    simp only [reread]
    exact .lost present misfits

/-! ## A run of planned writes -/

theorem isSuccess_outcome (write : PlannedWrite) : write.outcome.isSuccess = true := by
  rw [PlannedWrite.outcome]
  cases write.kind <;> rfl

/-- A run of writes that were planned on a snapshot of the documents. -/
inductive Run (name : String) (snapshot : String → Option Document) :
    List PlannedWrite → MemoryStore → List Applied → MemoryStore → Prop where
  | nil (store : MemoryStore) : Run name snapshot [] store [] store
  | cons {write : PlannedWrite} {rest : List PlannedWrite} {store after final : MemoryStore}
      {outcome : WriteOutcome} {applied : List Applied}
      (step : WriteStep name (snapshot write.row.id) write store outcome after)
      (run : Run name snapshot rest after applied final) :
      Run name snapshot (write :: rest) store (⟨write, outcome⟩ :: applied) final

def PlannedOn (snapshot : String → Option Document) (write : PlannedWrite) : Prop :=
  ∃ index row, write.IsOf index write.row.id row (snapshot write.row.id)

namespace WriteStep

variable {name : String} {planned : Option Document} {write : PlannedWrite}
    {store after : MemoryStore} {outcome : WriteOutcome}

theorem table_after (step : WriteStep name planned write store outcome after) :
    (after.table? name).isSome := by
  cases step with
  | written table => exact table
  | lost table => exact table
  | failed table => exact table

/-- Only a write that succeeds changes a document, the one under its own id. -/
theorem document?_of_unsuccessful (step : WriteStep name planned write store outcome after)
    {id : String} (unsuccessful : write.row.id = id → outcome.isSuccess = false) :
    after.document? name id = store.document? name id := by
  cases step with
  | written _ _ stored =>
      rw [stored id, if_neg]
      rintro rfl
      exact absurd (unsuccessful rfl) (by simp [isSuccess_outcome])
  | lost => rfl
  | failed _ _ stored => exact stored id

/-- A document that does not fit what the plan saw stays as it is. -/
theorem document?_of_misfits {snapshot : String → Option Document}
    (step : WriteStep name (snapshot write.row.id) write store outcome after) {id : String}
    (misfits : ¬ Fits (snapshot id) (store.document? name id)) :
    after.document? name id = store.document? name id := by
  cases step with
  | written _ fits stored =>
      rw [stored id, if_neg]
      rintro rfl
      exact misfits fits
  | lost => rfl
  | failed _ _ stored => exact stored id

end WriteStep

theorem run_applyWrites {name : String} {snapshot : String → Option Document}
    {writes : List PlannedWrite} (planned : ∀ write ∈ writes, PlannedOn snapshot write)
    {store : MemoryStore} (present : (store.table? name).isSome) :
    Run name snapshot writes store (applyWrites MemoryStore.backend name writes store).1
      (applyWrites MemoryStore.backend name writes store).2 := by
  induction writes generalizing store with
  | nil => exact .nil store
  | cons write rest ih =>
      obtain ⟨index, row, isOf⟩ := planned write (.head rest)
      have step := writeStep_applyWrite present isOf
      have others := fun other member => planned other (.tail write member)
      exact .cons step (ih others step.table_after)

namespace Run

variable {name : String} {snapshot : String → Option Document} {writes : List PlannedWrite}
    {store final : MemoryStore} {applied : List Applied}

theorem table_final (run : Run name snapshot writes store applied final)
    (present : (store.table? name).isSome) : (final.table? name).isSome := by
  induction run with
  | nil => exact present
  | cons step _ ih => exact ih step.table_after

/-- Without a successful write under an id, the document stays as it was. -/
theorem document?_of_unsuccessful (run : Run name snapshot writes store applied final) {id : String}
    (unsuccessful : ∀ entry ∈ applied, entry.write.row.id = id → entry.outcome.isSuccess = false) :
    final.document? name id = store.document? name id := by
  induction run with
  | nil => rfl
  | cons step _ ih =>
      rw [ih fun entry member => unsuccessful entry (.tail _ member)]
      exact step.document?_of_unsuccessful (unsuccessful _ (.head _))

/-- Once the stored document does not fit the snapshot, it is final. -/
theorem document?_of_misfits (run : Run name snapshot writes store applied final) {id : String}
    (misfits : ¬ Fits (snapshot id) (store.document? name id)) :
    final.document? name id = store.document? name id := by
  induction run with
  | nil => rfl
  | cons step _ ih =>
      have kept := step.document?_of_misfits misfits
      rw [← kept] at misfits
      rw [ih misfits, kept]

/-- The last successful write under an id leaves its document. -/
theorem document?_of_last (run : Run name snapshot writes store applied final)
    {before behind : List Applied} {entry : Applied} (split : applied = before ++ entry :: behind)
    (successful : entry.outcome.isSuccess = true)
    (last : ∀ later ∈ behind, later.write.row.id = entry.write.row.id →
      later.outcome.isSuccess = false) :
    final.document? name entry.write.row.id = some entry.write.row.data := by
  induction run generalizing before with
  | nil => simp at split
  | cons step run ih =>
      cases before with
      | cons first others => exact ih (List.cons_eq_cons.mp split).2
      | nil =>
          cases split
          rw [run.document?_of_unsuccessful last]
          cases step with
          | written _ _ stored => rw [stored, if_pos rfl]
          | lost => cases successful
          | failed => cases successful

/-- A conflict that was found during a run carries what is stored when the run ends. -/
theorem documentInDb_of_conflict (run : Run name snapshot writes store applied final)
    {entry : Applied} (member : entry ∈ applied) {conflict : WriteConflict}
    (lost : entry.outcome = .conflict conflict) :
    conflict.documentInDb = final.document? name conflict.documentId := by
  induction run with
  | nil => cases member
  | @cons write _ _ _ _ _ _ step run ih =>
      rcases List.mem_cons.mp member with rfl | later
      · cases step with
        | written =>
            have same : write.outcome = .conflict conflict := lost
            have success := isSuccess_outcome write
            rw [same] at success
            cases success
        | lost _ misfits =>
            cases lost
            exact (run.document?_of_misfits misfits).symm
        | failed => cases lost
      · exact ih later

end Run

/-! ## Conflicts that were found before the run -/

theorem mem_staleIds {written : List String} {conflicts : List (Nat × WriteConflict)}
    {id : String} :
    id ∈ staleIds written conflicts ↔
      (∃ entry ∈ conflicts, entry.2.documentId = id) ∧ id ∈ written := by
  rw [staleIds, Keyed.mem_distinct, (stableSort_perm compare _).mem_iff, List.mem_filter,
    List.mem_map, List.contains_iff_mem]

/-- A conflict of which the id was written carries what is stored now. -/
def refreshed (name : String) (store : MemoryStore) (written : List String)
    (entry : Nat × WriteConflict) : Nat × WriteConflict :=
  if entry.2.documentId ∈ written then
    (entry.1, { entry.2 with documentInDb := store.document? name entry.2.documentId })
  else entry

/-- A lookup in a table in memory cannot fail, so all stale conflicts are refreshed. -/
theorem refreshConflicts_memory {name : String} {store : MemoryStore}
    (present : (store.table? name).isSome) (written : List String)
    (conflicts : List (Nat × WriteConflict)) :
    refreshConflicts MemoryStore.backend name written conflicts store =
      (conflicts.map (refreshed name store written), store) := by
  obtain ⟨table, found⟩ := Option.isSome_iff_exists.mp present
  rw [refreshConflicts]
  split
  · next noneStale =>
      have fresh : ∀ entry ∈ conflicts, entry.2.documentId ∉ written := by
        intro entry member inside
        have stale := mem_staleIds.mpr ⟨⟨entry, member, rfl⟩, inside⟩
        rw [noneStale] at stale
        cases stale
      have kept : conflicts.map (refreshed name store written) = conflicts.map id :=
        List.map_congr_left fun entry member => if_neg (fresh entry member)
      rw [kept, List.map_id]
  · rw [MemoryStore.findByIds_of_table? found]
    refine Prod.ext (List.map_congr_left fun entry member => ?_) rfl
    by_cases inside : entry.2.documentId ∈ written
    · have stale := mem_staleIds.mpr ⟨⟨entry, member, rfl⟩, inside⟩
      simp only [refreshed, List.contains_iff_mem, inside, if_true, MemoryTable.lookup_find, stale,
        MemoryStore.document?_of_table? found]
    · simp only [refreshed, List.contains_iff_mem, inside, if_false]

theorem documentInDb_refreshed {name : String} {store : MemoryStore} {written : List String}
    {entry : Nat × WriteConflict}
    (fresh : entry.2.documentId ∉ written →
      entry.2.documentInDb = store.document? name entry.2.documentId) :
    (refreshed name store written entry).2.documentInDb =
      store.document? name (refreshed name store written entry).2.documentId := by
  by_cases inside : entry.2.documentId ∈ written
  · simp [refreshed, inside]
  · simpa [refreshed, inside] using fresh inside

/-! ## A whole bulk write -/

/-- The row at a position has the id and was written. -/
def IsWritten (inst : Instance) (rows : List WriteRow) (response : BulkWriteResponse)
    (position : Nat) (id : String) (row : WriteRow) : Prop :=
  rows[position]? = some row ∧ inst.primaryKey.compose row.document = .ok id ∧
    ∃ outcome, response.outcomes[position]? = some outcome ∧ outcome.isSuccess = true

section Batch

variable {inst : Instance} {rows : List WriteRow} {ids : List String} {plan : WritePlan}
  {stored : List (String × Document)} {context : String} {store : MemoryStore}
  (composed : rows.mapM (fun row => inst.primaryKey.compose row.document) = .ok ids)
  (planned : plan = .ofVerdicts (WritePlan.verdicts stored rows ids 0) context)
  (snapshot : ∀ id ∈ ids, stored.lookup id = store.document? inst.table id)
  (present : (store.table? inst.table).isSome)

include composed planned in
theorem perm_planned : (plan.writes.map PlannedWrite.index ++ plan.conflicts.map (·.1)).Perm
    (List.range rows.length) := by
  rw [planned]
  exact WritePlan.perm_positions
    (WritePlan.map_index_verdicts stored (WritePlan.length_of_composed composed)) context

include planned snapshot present in
theorem run_planned : Run inst.table (store.document? inst.table) plan.writes store
    (applyWrites MemoryStore.backend inst.table plan.writes store).1
    (applyWrites MemoryStore.backend inst.table plan.writes store).2 := by
  refine run_applyWrites (fun write member => ?_) present
  rw [planned] at member
  obtain ⟨row, _, idAt, isOf⟩ := WritePlan.isOf_of_mem_writes member
  rw [snapshot _ (List.mem_of_getElem? idAt)] at isOf
  exact ⟨write.index, row, isOf⟩

include composed planned in
/-- The writes that a run applies with success are the written rows. -/
theorem isWritten_of_applied {entry : Applied}
    (member : entry ∈ (applyWrites MemoryStore.backend inst.table plan.writes store).1)
    (successful : entry.outcome.isSuccess = true) :
    ∃ row, entry.write.row.data = row.document ∧
      inst.IsWritten rows (runPlan MemoryStore.backend inst plan store).1.response
        entry.write.index entry.write.row.id row := by
  have write := mem_of_mem_applyWrites member
  rw [planned] at write
  obtain ⟨row, rowAt, idAt, isOf⟩ := WritePlan.isOf_of_mem_writes write
  have found := outcome_of_applied MemoryStore.backend inst (perm_planned composed planned) store
    member
  exact ⟨row, congrArg StoredRow.data isOf.stores, rowAt,
    (WritePlan.compose_iff_getElem? composed rowAt _).mpr idAt, entry.outcome, found, successful⟩

include composed planned in
theorem applied_of_isWritten {position : Nat} {id : String} {row : WriteRow}
    (written : inst.IsWritten rows (runPlan MemoryStore.backend inst plan store).1.response
      position id row) :
    ∃ entry ∈ (applyWrites MemoryStore.backend inst.table plan.writes store).1,
      entry.write.index = position ∧ entry.write.row = ⟨id, row.document⟩ ∧
        entry.outcome.isSuccess = true := by
  have perm := perm_planned composed planned
  obtain ⟨rowAt, composes, outcome, found, successful⟩ := written
  have idAt := (WritePlan.compose_iff_getElem? composed rowAt id).mp composes
  rcases WritePlan.row_cases stored rowAt idAt context with ⟨write, member, isOf⟩ | member
  · rw [← planned] at member
    obtain ⟨_, settled, _, applied, _⟩ :=
      exists_answered MemoryStore.backend inst.table member store
    have same := outcome_of_applied MemoryStore.backend inst perm store applied
    rw [isOf.index, found] at same
    cases same
    exact ⟨_, applied, isOf.index, isOf.stores, successful⟩
  · rw [← planned] at member
    obtain ⟨inDb, same⟩ := outcome_of_conflict MemoryStore.backend inst perm store member
    rw [found] at same
    cases same
    cases successful

include planned snapshot present in
/-- Refreshing the conflicts is all that follows the writes, and it changes nothing. -/
theorem runPlan_memory :
    let run := applyWrites MemoryStore.backend inst.table plan.writes store
    let written := (successes run.1).map fun write => write.row.id
    (runPlan MemoryStore.backend inst plan store).2 = run.2 ∧
      (runPlan MemoryStore.backend inst plan store).1.response =
        .ofIndexed
          (positioned run.1 (plan.conflicts.map (refreshed inst.table run.2 written))) := by
  intro run written
  have final := (run_planned planned snapshot present).table_final present
  have refreshes := refreshConflicts_memory final written plan.conflicts
  constructor
  · exact congrArg Prod.snd refreshes
  · exact congrArg (fun result => BulkWriteResponse.ofIndexed (positioned run.1 result.1)) refreshes

include composed planned snapshot present in
/-- The last written row of an id leaves its document. -/
theorem document?_of_isWritten {position : Nat} {id : String} {row : WriteRow}
    (written : inst.IsWritten rows (runPlan MemoryStore.backend inst plan store).1.response
      position id row)
    (last : ∀ later other, position < later → ¬ inst.IsWritten rows
      (runPlan MemoryStore.backend inst plan store).1.response later id other) :
    (runPlan MemoryStore.backend inst plan store).2.document? inst.table id =
      some row.document := by
  obtain ⟨entry, member, rfl, stores, successful⟩ := applied_of_isWritten composed planned written
  obtain ⟨before, behind, split⟩ := List.append_of_mem member
  have own : entry.write.row.id = id := congrArg StoredRow.id stores
  have run := run_planned planned snapshot present
  have ascending : (before ++ entry :: behind).Pairwise
      fun first second => first.write.index < second.write.index := by
    rw [← split]
    apply ascending_applyWrites
    rw [planned]
    exact WritePlan.ascending_writes
      (WritePlan.map_index_verdicts stored (WritePlan.length_of_composed composed)) context
  have unsuccessful : ∀ later ∈ behind, later.write.row.id = entry.write.row.id →
      later.outcome.isSuccess = false := by
    intro later inside same
    refine Bool.eq_false_iff.mpr fun success => ?_
    have applied : later ∈ (applyWrites MemoryStore.backend inst.table plan.writes store).1 :=
      split ▸ List.mem_append_right before (.tail entry inside)
    obtain ⟨other, _, written⟩ := isWritten_of_applied composed planned applied success
    rw [same, own] at written
    have fromEntry := (List.pairwise_append.mp ascending).2.1
    have further := (List.pairwise_cons.mp fromEntry).1 later inside
    exact last _ other further written
  have final := run.document?_of_last split successful unsuccessful
  rw [(runPlan_memory planned snapshot present).1, ← own, final, stores]

include composed planned snapshot present in
/-- An id without a written row keeps its document. -/
theorem document?_of_not_isWritten {id : String}
    (unwritten : ∀ position row, ¬ inst.IsWritten rows
      (runPlan MemoryStore.backend inst plan store).1.response position id row) :
    (runPlan MemoryStore.backend inst plan store).2.document? inst.table id =
      store.document? inst.table id := by
  rw [(runPlan_memory planned snapshot present).1]
  have run := run_planned planned snapshot present
  refine run.document?_of_unsuccessful fun entry member same => ?_
  refine Bool.eq_false_iff.mpr fun success => ?_
  obtain ⟨row, _, written⟩ := isWritten_of_applied composed planned member success
  rw [same] at written
  exact unwritten _ row written

include planned snapshot present in
theorem documentInDb_of_mem_outcomes {conflict : WriteConflict}
    (member : .conflict conflict ∈
      (runPlan MemoryStore.backend inst plan store).1.response.outcomes) :
    conflict.documentInDb =
      (runPlan MemoryStore.backend inst plan store).2.document? inst.table conflict.documentId := by
  have run := run_planned planned snapshot present
  have result := runPlan_memory planned snapshot present
  rw [result.1]
  rw [result.2, BulkWriteResponse.ofIndexed] at member
  obtain ⟨⟨position, outcome⟩, sorted, rfl⟩ := List.mem_map.mp member
  have found := (stableSort_perm _ _).mem_iff.mp sorted
  rcases List.mem_append.mp found with applied | refused
  · obtain ⟨entry, inside, same⟩ := List.mem_map.mp applied
    exact run.documentInDb_of_conflict inside (congrArg Prod.snd same)
  · obtain ⟨_, inside, same⟩ := List.mem_map.mp refused
    obtain ⟨entry, conflicted, rfl⟩ := List.mem_map.mp inside
    cases same
    apply documentInDb_refreshed
    intro unwritten
    rw [planned] at conflicted
    obtain ⟨row, id, _, idAt, made⟩ := WritePlan.eq_ofRow_of_mem_conflicts conflicted
    rw [made] at unwritten ⊢
    have kept : ∀ entry ∈ (applyWrites MemoryStore.backend inst.table plan.writes store).1,
        entry.write.row.id = id → entry.outcome.isSuccess = false := by
      intro entry applied own
      refine Bool.eq_false_iff.mpr fun success => ?_
      have succeeded : entry.write ∈ successes
          (applyWrites MemoryStore.backend inst.table plan.writes store).1 :=
        List.mem_map_of_mem (List.mem_filter.mpr ⟨applied, success⟩)
      exact unwritten (List.mem_map.mpr ⟨entry.write, succeeded, own⟩)
    exact (snapshot id (List.mem_of_getElem? idAt)).trans
      (run.document?_of_unsuccessful kept).symm

end Batch

/-- After a bulk write each id stores the document of its last written row, or what it stored before
if no row of it was written, and every conflict carries what is stored. -/
theorem bulkWrite_stores {inst after : Instance} {rows : List WriteRow} {context bulkId : String}
    {store final : MemoryStore} {response : BulkWriteResponse}
    (present : (store.table? inst.table).isSome)
    (done : inst.bulkWrite MemoryStore.backend rows context bulkId store =
      (.ok response, after, final)) :
    (∀ id position row, inst.IsWritten rows response position id row →
      (∀ later other, position < later → ¬ inst.IsWritten rows response later id other) →
        final.document? inst.table id = some row.document) ∧
    (∀ id, (∀ position row, ¬ inst.IsWritten rows response position id row) →
      final.document? inst.table id = store.document? inst.table id) ∧
    ∀ conflict, .conflict conflict ∈ response.outcomes →
      conflict.documentInDb = final.document? inst.table conflict.documentId := by
  rcases bulkWrite_ok done with
    ⟨rfl, rfl, rfl⟩ | ⟨ids, read, looked, plan, composed, lookup, planned, rfl, rfl⟩
  · refine ⟨?_, fun _ _ => rfl, fun conflict member => by cases member⟩
    rintro id position row ⟨rowAt, _⟩
    cases rowAt
  · obtain ⟨table, found⟩ := Option.isSome_iff_exists.mp present
    rw [MemoryStore.findByIds_of_table? found] at lookup
    cases lookup
    have snapshot : ∀ id ∈ ids, (byId (table.find (Keyed.distinct ids) true)).lookup id =
        store.document? inst.table id := by
      intro id member
      rw [MemoryTable.lookup_find, if_pos ((Keyed.mem_distinct ids id).mpr member),
        MemoryStore.document?_of_table? found]
    exact ⟨fun id position row => document?_of_isWritten composed planned snapshot present,
      fun id => document?_of_not_isWritten composed planned snapshot present,
      fun conflict => documentInDb_of_mem_outcomes planned snapshot present⟩

/-- One new document three times: the first statement fails, the last one finds its id taken. -/
def repeatedRows : List WriteRow :=
  List.replicate 3 ⟨⟨[("id", .string "a")]⟩, none⟩

theorem bulkWrite_stores_sample :
    (sampleStore.table? sample.table).isSome ∧ ∃ response after final,
      sample.bulkWrite MemoryStore.backend repeatedRows "import" "batch" sampleStore =
        (.ok response, after, final) ∧
      (∀ id position row, sample.IsWritten repeatedRows response position id row →
        (∀ later other, position < later →
          ¬ sample.IsWritten repeatedRows response later id other) →
          final.document? sample.table id = some row.document) ∧
      (∀ id, (∀ position row, ¬ sample.IsWritten repeatedRows response position id row) →
        final.document? sample.table id = sampleStore.document? sample.table id) ∧
      ∀ conflict, .conflict conflict ∈ response.outcomes →
        conflict.documentInDb = final.document? sample.table conflict.documentId := by
  have done : sample.bulkWrite MemoryStore.backend repeatedRows "import" "batch" sampleStore =
      (.ok _, _, _) := rfl
  exact ⟨rfl, _, _, _, done, bulkWrite_stores rfl done⟩

end Instance

end DocStore
