import DocStore.Backend.Memory
import DocStore.Instance
import DocStore.Proofs.StableSort
import DocStore.Proofs.Write.Plan

/-!
# Every row of a batch is settled

Whatever a backend answers, a bulk write whose lookup succeeds settles each row once: the plan and
the answer to the row's own statement decide what becomes of it. The events of the rows that were
written are published together, in the order of the rows.
-/

namespace DocStore

namespace Instance

variable {σ : Type}

/-- The answer to the statement of a planned write: a conditional insert, or an update of the row
with the revision that the plan saw. -/
def answer (backend : Backend σ) (table : String) (write : PlannedWrite) (state : σ) :
    Except BackendError Bool :=
  match write.kind with
  | .insert => (backend.insert table write.row state).1
  | .update => (backend.update table write.row write.expectedRevision state).1

theorem answer_eq (backend : Backend σ) (table : String) (write : PlannedWrite) (state : σ) :
    answer backend table write state = (submit backend table write state).1 := by
  rw [answer, submit]
  cases write.kind <;> rfl

/-- The answers to the statements of planned writes, by the positions of their rows. A statement is
sent in the state that the rows before it leave behind. -/
def answers (backend : Backend σ) (table : String) :
    List PlannedWrite → σ → List (Nat × Except BackendError Bool)
  | [], _ => []
  | write :: rest, state =>
      (write.index, answer backend table write state) ::
        answers backend table rest (applyWrite backend table write state).2

/-- What the answer to its statement makes of a planned write. -/
inductive Answered (write : PlannedWrite) : Except BackendError Bool → WriteOutcome → Prop where
  | applied : Answered write (.ok true) write.outcome
  | lost (current : Option Document) :
      Answered write (.ok false) (.conflict (write.conflict current))
  | failed (fault : BackendError) :
      Answered write (.error fault) (.failed (write.failure fault.message))

theorem answered_applyWrite (backend : Backend σ) (table : String) (write : PlannedWrite)
    (state : σ) :
    Answered write (answer backend table write state)
      (applyWrite backend table write state).1 := by
  rw [applyWrite, answer_eq]
  cases submit backend table write state with
  | mk answer after =>
      cases answer with
      | error fault => exact .failed fault
      | ok done =>
          cases done with
          | true => exact .applied
          | false => exact .lost _

theorem map_index_answers (backend : Backend σ) (table : String) (writes : List PlannedWrite)
    (state : σ) :
    (answers backend table writes state).map (·.1) = writes.map PlannedWrite.index := by
  induction writes generalizing state with
  | nil => rfl
  | cons write rest ih => exact congrArg (write.index :: ·) (ih _)

theorem map_write_applyWrites (backend : Backend σ) (table : String) (writes : List PlannedWrite)
    (state : σ) : (applyWrites backend table writes state).1.map Applied.write = writes := by
  induction writes generalizing state with
  | nil => rfl
  | cons write rest ih => exact congrArg (write :: ·) (ih _)

theorem mem_of_mem_applyWrites {backend : Backend σ} {table : String} {writes : List PlannedWrite}
    {state : σ} {entry : Applied} (member : entry ∈ (applyWrites backend table writes state).1) :
    entry.write ∈ writes := by
  rw [← map_write_applyWrites backend table writes state]
  exact List.mem_map_of_mem member

theorem ascending_applyWrites (backend : Backend σ) (table : String) {writes : List PlannedWrite}
    (ascending : writes.Pairwise (·.index < ·.index)) (state : σ) :
    (applyWrites backend table writes state).1.Pairwise
      fun first second => first.write.index < second.write.index := by
  rw [← map_write_applyWrites backend table writes state] at ascending
  have applied := List.pairwise_map.mp ascending
  exact applied

/-- Each planned write has one answer and the outcome that goes with it. -/
theorem exists_answered (backend : Backend σ) (table : String) {writes : List PlannedWrite}
    {write : PlannedWrite} (member : write ∈ writes) (state : σ) :
    ∃ answer outcome, (write.index, answer) ∈ answers backend table writes state ∧
      ⟨write, outcome⟩ ∈ (applyWrites backend table writes state).1 ∧
        Answered write answer outcome := by
  induction writes generalizing state with
  | nil => cases member
  | cons first rest ih =>
      rcases List.mem_cons.mp member with rfl | later
      · exact ⟨_, _, .head _, .head _, answered_applyWrite backend table write state⟩
      · obtain ⟨answer, outcome, answered, applied, same⟩ :=
          ih later (applyWrite backend table first state).2
        exact ⟨answer, outcome, .tail _ answered, .tail _ applied, same⟩

/-- A refreshed conflict differs in the stored document at most. -/
theorem refreshConflicts_eq (backend : Backend σ) (table : String) (written : List String)
    (conflicts : List (Nat × WriteConflict)) (state : σ) :
    ∃ current : WriteConflict → Option Document,
      (refreshConflicts backend table written conflicts state).1 =
        conflicts.map fun entry => (entry.1, { entry.2 with documentInDb := current entry.2 }) := by
  rw [refreshConflicts]
  split
  · exact ⟨WriteConflict.documentInDb, (List.map_id' conflicts).symm⟩
  · split
    · exact ⟨WriteConflict.documentInDb, (List.map_id' conflicts).symm⟩
    · next rows after _ =>
        refine ⟨fun conflict => if written.contains conflict.documentId then
          (byId rows).lookup conflict.documentId else conflict.documentInDb, ?_⟩
        refine List.map_congr_left fun entry _ => ?_
        split
        · next known => simp only [known, if_true]
        · next unknown => simp only [unknown, Bool.false_eq_true, if_false]

end Instance

/-- The kind of write that a plan accepts the row at a position as. -/
def WritePlan.kind? (plan : WritePlan) (position : Nat) : Option WriteKind :=
  (plan.writes.map fun write => (write.index, write.kind)).lookup position

/-- What becomes of a row with an id, given the kind of write it was accepted as and the answer to
its statement. -/
structure RowSettled (id : String) (kind? : Option WriteKind)
    (answer? : Option (Except BackendError Bool)) (outcome : WriteOutcome) : Prop where
  documentId : outcome.documentId = id
  inserted : outcome = .inserted id ↔ kind? = some .insert ∧ answer? = some (.ok true)
  updated : outcome = .updated id ↔ kind? = some .update ∧ answer? = some (.ok true)
  failed : (∃ failure, outcome = .failed failure ∧ failure.status = 503) ↔
    kind?.isSome ∧ ∃ fault, answer? = some (.error fault)
  conflict : (∃ conflict, outcome = .conflict conflict ∧ conflict.status = 409) ↔
    ¬ (kind?.isSome ∧ (answer? = some (.ok true) ∨ ∃ fault, answer? = some (.error fault)))

namespace RowSettled

theorem of_answered {write : PlannedWrite} {answer : Except BackendError Bool}
    {outcome : WriteOutcome} (answered : Instance.Answered write answer outcome) :
    RowSettled write.row.id (some write.kind) (some answer) outcome := by
  cases answered with
  | applied =>
      cases kind : write.kind with
      | insert => constructor <;> simp [PlannedWrite.outcome, kind, WriteOutcome.documentId]
      | update => constructor <;> simp [PlannedWrite.outcome, kind, WriteOutcome.documentId]
  | lost current =>
      constructor <;> simp [PlannedWrite.conflict, WriteConflict.ofRow, WriteOutcome.documentId]
  | failed fault =>
      constructor <;> simp [PlannedWrite.failure, WriteFailure.ofRow, WriteOutcome.documentId]

theorem of_refused (id : String) (row : WriteRow) (inDb : Option Document) :
    RowSettled id none none (.conflict (.ofRow id row inDb)) := by
  constructor <;> simp [WriteConflict.ofRow, WriteOutcome.documentId]

end RowSettled

namespace Instance

variable {σ : Type}

/-- The events of the rows of a plan that were written, in the order of the rows. -/
def writtenEvents (plan : WritePlan) (response : BulkWriteResponse) : List ChangeEvent :=
  (plan.writes.filter fun write =>
    (response.outcomes[write.index]?).any WriteOutcome.isSuccess).filterMap PlannedWrite.event

/-- The outcomes of a run with the positions of their rows, in the order in which they are found. -/
def positioned (applied : List Applied) (conflicts : List (Nat × WriteConflict)) :
    List (Nat × WriteOutcome) :=
  (applied.map fun entry => (entry.write.index, entry.outcome)) ++
    conflicts.map fun entry => (entry.1, WriteOutcome.conflict entry.2)

/-- A run finds one outcome for each position. -/
theorem perm_positioned {plan : WritePlan} {n : Nat}
    (positions : (plan.writes.map PlannedWrite.index ++ plan.conflicts.map (·.1)).Perm
      (List.range n)) {applied : List Applied} {conflicts : List (Nat × WriteConflict)}
    (writes : applied.map Applied.write = plan.writes)
    (refused : conflicts.map (·.1) = plan.conflicts.map (·.1)) :
    ((positioned applied conflicts).map (·.1)).Perm (List.range n) := by
  have keys : (positioned applied conflicts).map (·.1) =
      plan.writes.map PlannedWrite.index ++ plan.conflicts.map (·.1) := by
    rw [positioned, List.map_append, List.map_map, List.map_map, ← writes, ← refused, List.map_map]
    rfl
  exact keys ▸ positions

section Run

variable (backend : Backend σ) (inst : Instance) {plan : WritePlan} {n : Nat}
    (positions : (plan.writes.map PlannedWrite.index ++ plan.conflicts.map (·.1)).Perm
      (List.range n)) (state : σ)

/-- The response of a run, in terms of the applied writes and the conflicts, of which only the
stored documents may have changed. -/
theorem response_runPlan (plan : WritePlan) :
    ∃ current : WriteConflict → Option Document,
      (runPlan backend inst plan state).1.response =
        .ofIndexed (positioned (applyWrites backend inst.table plan.writes state).1
          (plan.conflicts.map fun entry =>
            (entry.1, { entry.2 with documentInDb := current entry.2 }))) := by
  obtain ⟨current, refreshed⟩ := refreshConflicts_eq backend inst.table
    ((successes (applyWrites backend inst.table plan.writes state).1).map fun write => write.row.id)
    plan.conflicts (applyWrites backend inst.table plan.writes state).2
  refine ⟨current, ?_⟩
  exact congrArg (fun conflicts => BulkWriteResponse.ofIndexed (positioned _ conflicts)) refreshed

include positions

theorem perm_run (current : WriteConflict → Option Document) :
    ((positioned (applyWrites backend inst.table plan.writes state).1
      (plan.conflicts.map fun entry =>
        (entry.1, { entry.2 with documentInDb := current entry.2 }))).map (·.1)).Perm
          (List.range n) := by
  apply perm_positioned positions (map_write_applyWrites backend inst.table plan.writes state)
  rw [List.map_map]
  rfl

theorem length_runPlan : (runPlan backend inst plan state).1.response.outcomes.length = n := by
  obtain ⟨current, response⟩ := response_runPlan backend inst state plan
  have keys := keys_stableSort (perm_run backend inst positions state current)
  rw [response, BulkWriteResponse.ofIndexed, List.length_map, ← List.length_map (f := Prod.fst)]
  rw [keys, List.length_range]

theorem outcome_of_applied {entry : Applied}
    (member : entry ∈ (applyWrites backend inst.table plan.writes state).1) :
    (runPlan backend inst plan state).1.response.outcomes[entry.write.index]? =
      some entry.outcome := by
  obtain ⟨current, response⟩ := response_runPlan backend inst state plan
  have found := getElem?_stableSort (perm_run backend inst positions state current)
    (List.mem_append_left _ (List.mem_map_of_mem member))
  rw [response, BulkWriteResponse.ofIndexed, List.getElem?_map, found]
  rfl

theorem outcome_of_conflict {position : Nat} {conflict : WriteConflict}
    (member : (position, conflict) ∈ plan.conflicts) :
    ∃ inDb, (runPlan backend inst plan state).1.response.outcomes[position]? =
      some (.conflict { conflict with documentInDb := inDb }) := by
  obtain ⟨current, response⟩ := response_runPlan backend inst state plan
  have found := getElem?_stableSort (perm_run backend inst positions state current)
    (List.mem_append_right _ (List.mem_map_of_mem (List.mem_map_of_mem member)))
  refine ⟨current conflict, ?_⟩
  rw [response, BulkWriteResponse.ofIndexed, List.getElem?_map, found]
  rfl

theorem events_runPlan :
    (runPlan backend inst plan state).1.events =
      writtenEvents plan (runPlan backend inst plan state).1.response := by
  have filtered : (applyWrites backend inst.table plan.writes state).1.filter
        (fun entry => entry.outcome.isSuccess) =
      (applyWrites backend inst.table plan.writes state).1.filter
        ((fun write : PlannedWrite =>
          ((runPlan backend inst plan state).1.response.outcomes[write.index]?).any
            WriteOutcome.isSuccess) ∘ Applied.write) := by
    refine List.filter_congr fun entry member => ?_
    rw [Function.comp_apply, outcome_of_applied backend inst positions state member]
    rfl
  have succeeded : successes (applyWrites backend inst.table plan.writes state).1 =
      plan.writes.filter fun write =>
        ((runPlan backend inst plan state).1.response.outcomes[write.index]?).any
          WriteOutcome.isSuccess := by
    rw [successes, filtered, ← List.filter_map, map_write_applyWrites]
  rw [writtenEvents, ← succeeded]
  rfl

end Run

section Rows

variable {plan : WritePlan} {n : Nat} (positions : (plan.writes.map PlannedWrite.index ++
  plan.conflicts.map (·.1)).Perm (List.range n)) (backend : Backend σ) (inst : Instance) (state : σ)

include positions

theorem settled_write {write : PlannedWrite} (member : write ∈ plan.writes) :
    ∃ outcome, (runPlan backend inst plan state).1.response.outcomes[write.index]? = some outcome ∧
      RowSettled write.row.id (plan.kind? write.index)
        ((answers backend inst.table plan.writes state).lookup write.index) outcome := by
  have once : (plan.writes.map PlannedWrite.index).Nodup :=
    (List.nodup_append.mp (positions.nodup_iff.mpr List.nodup_range)).1
  obtain ⟨answer, outcome, answered, applied, settled⟩ :=
    exists_answered backend inst.table member state
  have kind : plan.kind? write.index = some write.kind := by
    refine Keyed.lookup_of_mem ?_ (List.mem_map.mpr ⟨write, member, rfl⟩)
    rw [List.map_map]
    exact once
  have sent : (answers backend inst.table plan.writes state).lookup write.index = some answer := by
    apply Keyed.lookup_of_mem _ answered
    rw [map_index_answers]
    exact once
  refine ⟨outcome, outcome_of_applied backend inst positions state applied, ?_⟩
  rw [kind, sent]
  exact .of_answered settled

theorem settled_conflict {position : Nat} {id : String} {row : WriteRow} {stored : Option Document}
    (member : (position, WriteConflict.ofRow id row stored) ∈ plan.conflicts) :
    ∃ outcome, (runPlan backend inst plan state).1.response.outcomes[position]? = some outcome ∧
      RowSettled id (plan.kind? position)
        ((answers backend inst.table plan.writes state).lookup position) outcome := by
  have apart := (List.nodup_append.mp (positions.nodup_iff.mpr List.nodup_range)).2.2
  have refused : position ∉ plan.writes.map PlannedWrite.index := fun inside =>
    apart position inside position (List.mem_map_of_mem member) rfl
  have kind : plan.kind? position = none := by
    apply Keyed.lookup_of_notMem
    rw [List.map_map]
    exact refused
  have sent : (answers backend inst.table plan.writes state).lookup position = none := by
    apply Keyed.lookup_of_notMem
    rw [map_index_answers]
    exact refused
  obtain ⟨inDb, found⟩ := outcome_of_conflict backend inst positions state member
  refine ⟨_, found, ?_⟩
  rw [kind, sent]
  exact .of_refused id row inDb

end Rows

/-- What a bulk write comes to once its lookup has succeeded: `answers` are those to the statements
of the plan, and `after` is the instance that is left. -/
structure BatchSettled (plan : WritePlan) (answers : List (Nat × Except BackendError Bool))
    (ids : List String) (bulkId : String) (inst : Instance) (response : BulkWriteResponse)
    (after : Instance) : Prop where
  length : response.outcomes.length = ids.length
  ascending : plan.writes.Pairwise (·.index < ·.index)
  sent : answers.map (·.1) = plan.writes.map PlannedWrite.index
  rows : ∀ position id, ids[position]? = some id → ∃ outcome,
    response.outcomes[position]? = some outcome ∧
      RowSettled id (plan.kind? position) (answers.lookup position) outcome
  unpublished : writtenEvents plan response = [] → after = inst
  published : writtenEvents plan response ≠ [] → ∃ bulk : EventBulk, bulk.id = bulkId ∧
    bulk.events = writtenEvents plan response ∧ bulk.context = plan.context ∧
      after = { inst with feed := (inst.feed.publish bulk).2 }

/-- No events are not published, and some as one batch. -/
theorem publish_bulk? (inst : Instance) (result : WriteResult) (bulkId : String) :
    (result.events = [] → inst.publish (result.bulk? bulkId) = inst) ∧
      (result.events ≠ [] → ∃ bulk : EventBulk, bulk.id = bulkId ∧ bulk.events = result.events ∧
        bulk.context = result.context ∧ inst.publish (result.bulk? bulkId) =
          { inst with feed := (inst.feed.publish bulk).2 }) := by
  rw [WriteResult.bulk?]
  cases result.events with
  | nil => exact ⟨fun _ => rfl, fun some => absurd rfl some⟩
  | cons first rest =>
      exact ⟨fun none => (List.cons_ne_nil _ _ none).elim,
        fun _ => ⟨.ofEvents bulkId (first :: rest) result.context, rfl, rfl, rfl, rfl⟩⟩

/-- A run of a plan settles the rows of the plan. -/
theorem batchSettled_runPlan (backend : Backend σ) (inst : Instance)
    {stored : List (String × Document)} {rows : List WriteRow} {ids : List String}
    (same : ids.length = rows.length) {plan : WritePlan} {context : String}
    (planned : plan = .ofVerdicts (WritePlan.verdicts stored rows ids 0) context)
    (bulkId : String) (state : σ) :
    BatchSettled plan (answers backend inst.table plan.writes state) ids bulkId inst
      (runPlan backend inst plan state).1.response
      (inst.publish ((runPlan backend inst plan state).1.bulk? bulkId)) := by
  have positions := WritePlan.map_index_verdicts stored same
  have perm := WritePlan.perm_positions positions context
  rw [← planned] at perm
  have publishes := publish_bulk? inst (runPlan backend inst plan state).1 bulkId
  rw [events_runPlan backend inst perm state] at publishes
  refine ⟨?_, ?_, map_index_answers backend inst.table plan.writes state,
    fun position id idAt => ?_, publishes.1, publishes.2⟩
  · rw [length_runPlan backend inst perm state, same]
  · rw [planned]
    exact WritePlan.ascending_writes positions context
  · obtain ⟨bound, _⟩ := List.getElem?_eq_some_iff.mp idAt
    have rowAt : rows[position]? = some rows[position] := List.getElem?_eq_getElem (same ▸ bound)
    rcases WritePlan.row_cases stored rowAt idAt context with ⟨write, member, isOf⟩ | member
    · rw [← planned] at member
      have settled := settled_write perm backend inst state member
      rwa [isOf.index, isOf.stores] at settled
    · rw [← planned] at member
      exact settled_conflict perm backend inst state member

/-- A bulk write whose lookup succeeds runs its plan. -/
theorem bulkWrite_eq_runPlan {backend : Backend σ} {inst : Instance} (isOpen : inst.closed = false)
    (writable : inst.readOnly = false) {rows : List WriteRow} (nonempty : rows ≠ [])
    {ids : List String}
    (composed : rows.mapM (fun row => inst.primaryKey.compose row.document) = .ok ids)
    {context : String} {state looked : σ} {found : List StoredRow}
    (lookup : backend.findByIds inst.table (Keyed.distinct ids) true state = (.ok found, looked))
    {plan : WritePlan}
    (planned : WritePlan.ofRows inst.primaryKey (byId found) rows context = .ok plan)
    (bulkId : String) :
    inst.bulkWrite backend rows context bulkId state =
      (.ok (runPlan backend inst plan looked).1.response,
        inst.publish ((runPlan backend inst plan looked).1.bulk? bulkId),
        (runPlan backend inst plan looked).2) := by
  have proceeds : inst.requireWritable = .ok () := by simp [requireWritable, isOpen, writable]
  have notEmpty : rows.isEmpty = false := by simpa using nonempty
  simp [bulkWrite, proceeds, notEmpty, writeBatch, WritePlan.documentIds_eq composed, lookup,
    planned]

/-- A bulk write that returns a response had no rows, or it ran a plan. -/
theorem bulkWrite_ok {backend : Backend σ} {inst after : Instance} {rows : List WriteRow}
    {context bulkId : String} {state final : σ} {response : BulkWriteResponse}
    (done : inst.bulkWrite backend rows context bulkId state = (.ok response, after, final)) :
    (rows = [] ∧ response = ⟨[]⟩ ∧ final = state) ∨
    ∃ ids found looked plan,
      rows.mapM (fun row => inst.primaryKey.compose row.document) = .ok ids ∧
      backend.findByIds inst.table (Keyed.distinct ids) true state = (.ok found, looked) ∧
      plan = .ofVerdicts (WritePlan.verdicts (byId found) rows ids 0) context ∧
      response = (runPlan backend inst plan looked).1.response ∧
      final = (runPlan backend inst plan looked).2 := by
  rw [bulkWrite] at done
  split at done
  · cases done
  · split at done
    · next noRows =>
        cases done
        exact .inl ⟨List.isEmpty_iff.mp noRows, rfl, rfl⟩
    · refine .inr ?_
      cases composed : rows.mapM fun row => inst.primaryKey.compose row.document with
      | error fault => simp [writeBatch, WritePlan.documentIds, composed, Except.map] at done
      | ok ids =>
          simp only [writeBatch, WritePlan.documentIds_eq composed] at done
          cases lookup : backend.findByIds inst.table (Keyed.distinct ids) true state with
          | mk answer looked =>
              cases answer with
              | error fault => simp [lookup] at done
              | ok found =>
                  simp only [lookup, WritePlan.ofRows_eq composed] at done
                  cases done
                  exact ⟨ids, found, looked, _, rfl, lookup, rfl, rfl, rfl⟩

/-- A batch whose keys compose fails as a whole if its lookup does, and then nothing else is sent;
otherwise every row is settled and the events of the written rows are published together. -/
theorem bulkWrite_settles (backend : Backend σ) (inst : Instance) (isOpen : inst.closed = false)
    (writable : inst.readOnly = false) {rows : List WriteRow} (nonempty : rows ≠ [])
    {ids : List String}
    (composed : rows.mapM (fun row => inst.primaryKey.compose row.document) = .ok ids)
    (context bulkId : String) (state : σ) :
    match backend.findByIds inst.table (Keyed.distinct ids) true state with
    | (.error fault, looked) =>
        inst.bulkWrite backend rows context bulkId state = (.error (.backend fault), inst, looked)
    | (.ok found, looked) => ∃ plan response after final,
        WritePlan.ofRows inst.primaryKey (byId found) rows context = .ok plan ∧
        inst.bulkWrite backend rows context bulkId state = (.ok response, after, final) ∧
        BatchSettled plan (answers backend inst.table plan.writes looked) ids bulkId inst response
          after := by
  split
  · next fault looked lookup =>
      have proceeds : inst.requireWritable = .ok () := by simp [requireWritable, isOpen, writable]
      have notEmpty : rows.isEmpty = false := by simpa using nonempty
      simp [bulkWrite, proceeds, notEmpty, writeBatch, WritePlan.documentIds_eq composed, lookup]
  · next found looked lookup =>
      have planned := WritePlan.ofRows_eq composed (byId found) context
      have same := WritePlan.length_of_composed composed
      exact ⟨_, _, _, _, planned,
        bulkWrite_eq_runPlan isOpen writable nonempty composed lookup planned bulkId,
        batchSettled_runPlan backend inst same rfl bulkId looked⟩

/-- A collection of documents that are keyed by a field. -/
def sample : Instance :=
  { params := ⟨"shop", "items", ⟨none, none, []⟩⟩, primaryKey := .field "id", table := "items"
    readOnly := false, feed := .ofCapacity 4, closed := false }

/-- Two new documents; the statement for the first one fails. -/
def sampleRows : List WriteRow :=
  [⟨⟨[("id", .string "a")]⟩, none⟩, ⟨⟨[("id", .string "b")]⟩, none⟩]

def sampleStore : MemoryStore := ⟨[("items", .empty)], 1⟩

theorem bulkWrite_settles_sample :
    sample.closed = false ∧ sample.readOnly = false ∧ sampleRows ≠ [] ∧
      sampleRows.mapM (fun row => sample.primaryKey.compose row.document) = .ok ["a", "b"] ∧
      ∃ plan response after final,
        WritePlan.ofRows sample.primaryKey (byId []) sampleRows "import" = .ok plan ∧
        sample.bulkWrite MemoryStore.backend sampleRows "import" "batch" sampleStore =
          (.ok response, after, final) ∧
        BatchSettled plan (answers MemoryStore.backend "items" plan.writes sampleStore) ["a", "b"]
          "batch" sample response after := by
  have nonempty : sampleRows ≠ [] := List.cons_ne_nil _ _
  have composed : sampleRows.mapM (fun row => sample.primaryKey.compose row.document) =
      .ok ["a", "b"] := rfl
  exact ⟨rfl, rfl, nonempty, composed,
    bulkWrite_settles MemoryStore.backend sample rfl rfl nonempty composed "import" "batch"
      sampleStore⟩

end Instance

end DocStore
