import DocStore.Proofs.Session.Effect
import DocStore.Proofs.Write.Classification
import DocStore.Proofs.Write.Winner

/-!
# A batch in parts

Rows with different ids have nothing to do with each other. Without pending failures each of them
gets what its own expectation and the document stored under its id decide, so it does not matter in
which order the rows come, nor how they are divided into bulk writes.
-/

namespace DocStore

/-- What a row with its id gets if nothing interferes, given the document stored under the id. -/
def WriteOutcome.ofRow (id : String) (row : WriteRow) (stored : Option Document) : WriteOutcome :=
  match WriteKind.classify stored row.previous with
  | some .insert => .inserted id
  | some .update => .updated id
  | none => .conflict (.ofRow id row stored)

namespace PlannedWrite

theorem outcome_ofRow {kind : WriteKind} {row : WriteRow} {stored : Option Document}
    (classified : WriteKind.classify stored row.previous = some kind) (index : Nat) (id : String) :
    (ofRow index kind id row stored).outcome = .ofRow id row stored := by
  rw [WriteOutcome.ofRow, classified, outcome]
  cases kind <;> rfl

end PlannedWrite

namespace Instance

/-! ## Rows of different ids in one bulk write -/

namespace PlansRows

variable {inst : Instance} {rows : List WriteRow} {context : String} {store : MemoryStore}
  {stored : List (String × Document)} {ids : List String} {plan : WritePlan}
  (plans : PlansRows inst rows context store stored ids plan) (distinct : ids.Nodup)

include plans distinct

/-- Only one row composes an id. -/
theorem position_eq {position other : Nat} {row otherRow : WriteRow} {id : String}
    (rowAt : rows[position]? = some row) (otherAt : rows[other]? = some otherRow)
    (composes : inst.primaryKey.compose row.document = .ok id)
    (otherComposes : inst.primaryKey.compose otherRow.document = .ok id) : position = other := by
  have idAt := (WritePlan.compose_iff_getElem? plans.composed rowAt id).mp composes
  have otherIdAt := (WritePlan.compose_iff_getElem? plans.composed otherAt id).mp otherComposes
  obtain ⟨bound, _⟩ := List.getElem?_eq_some_iff.mp idAt
  exact (List.getElem?_inj bound distinct).mp (idAt.trans otherIdAt.symm)

/-- Only one write is planned under an id. -/
theorem number_eq {number other : Nat} {write otherWrite : PlannedWrite}
    (found : plan.writes[number]? = some write) (otherFound : plan.writes[other]? = some otherWrite)
    (same : otherWrite.row.id = write.row.id) : number = other := by
  obtain ⟨row, rowAt, composes, _⟩ := plans.isOf (List.mem_of_getElem? found)
  obtain ⟨otherRow, otherAt, otherComposes, _⟩ := plans.isOf (List.mem_of_getElem? otherFound)
  rw [same] at otherComposes
  have sameIndex := plans.position_eq distinct rowAt otherAt composes otherComposes
  have indices : (plan.writes.map PlannedWrite.index).Nodup :=
    List.pairwise_map.mpr (plans.ascending.imp Nat.ne_of_lt)
  obtain ⟨bound, _⟩ := List.getElem?_eq_some_iff.mp found
  refine (List.getElem?_inj (by rwa [List.length_map]) indices).mp ?_
  rw [List.getElem?_map, List.getElem?_map, found, otherFound]
  exact congrArg some sameIndex

theorem outcomeOf_eq (unfailing : store.failingWrites = 0) {number : Nat} {write : PlannedWrite}
    (found : plan.writes[number]? = some write) :
    outcomeOf inst.table plan.writes store number write = write.outcome := by
  have alone : ∀ earlier < number,
      ¬ Succeeds inst.table plan.writes store earlier write.row.id := by
    rintro earlier less ⟨other, otherFound, same, _⟩
    exact absurd (plans.number_eq distinct found otherFound same) (Nat.ne_of_gt less)
  have unstopped : store.failingWrites ≤ number := unfailing ▸ Nat.zero_le number
  obtain ⟨again, foundAgain, _, success⟩ :=
    succeeds_of_unsuccessful plans.plannedOn plans.present found unstopped alone
  rw [found, Option.some.injEq] at foundAgain
  subst foundAgain
  exact ((step_reached plans.plannedOn plans.present found).of_success success).1

section Row

variable (unfailing : store.failingWrites = 0) {position : Nat} {row : WriteRow} {id : String}
  (rowAt : rows[position]? = some row)
  (composes : inst.primaryKey.compose row.document = .ok id)

include rowAt composes

/-- The document under the id of a row that is not written stays. -/
theorem document?_of_unwritten {outcome : WriteOutcome}
    (settled : (runPlan MemoryStore.backend inst plan store).1.response.outcomes[position]? =
      some outcome) (unwritten : outcome.isSuccess = false) :
    (runPlan MemoryStore.backend inst plan store).2.document? inst.table id =
      store.document? inst.table id := by
  refine document?_of_not_isWritten plans.composed plans.planned plans.snapshot plans.present ?_
  rintro other otherRow ⟨otherAt, otherComposes, otherOutcome, otherSettled, success⟩
  have same := plans.position_eq distinct rowAt otherAt composes otherComposes
  rw [← same, settled, Option.some.injEq] at otherSettled
  rw [← otherSettled, unwritten] at success
  cases success

include unfailing

/-- Each row gets what the document stored under its id before the batch decides. -/
theorem outcome_of_distinct :
    (runPlan MemoryStore.backend inst plan store).1.response.outcomes[position]? =
      some (.ofRow id row (store.document? inst.table id)) := by
  have idAt := (WritePlan.compose_iff_getElem? plans.composed rowAt id).mp composes
  have snapshot := plans.snapshot id (List.mem_of_getElem? idAt)
  cases classified : WriteKind.classify (store.document? inst.table id) row.previous with
  | some kind =>
      have member : .ofRow position kind id row (store.document? inst.table id) ∈ plan.writes := by
        rw [plans.planned, ← snapshot, WritePlan.ofRow_mem_writes_iff rowAt idAt, snapshot]
        exact classified
      obtain ⟨number, found⟩ := List.getElem?_of_mem member
      have settled := plans.outcome found
      rw [plans.outcomeOf_eq distinct unfailing found,
        PlannedWrite.outcome_ofRow classified] at settled
      exact settled
  | none =>
      have member : (position, .ofRow id row (store.document? inst.table id)) ∈ plan.conflicts := by
        rw [plans.planned, WritePlan.mem_conflicts_iff rowAt idAt, snapshot]
        exact ⟨classified, rfl⟩
      obtain ⟨inDb, settled⟩ := outcome_of_conflict MemoryStore.backend inst
        (perm_planned plans.composed plans.planned) store member
      -- The conflict carries what is stored at the end, which is what was stored before.
      have current := documentInDb_of_mem_outcomes plans.planned plans.snapshot plans.present
        (List.mem_of_getElem? settled)
      have kept := plans.document?_of_unwritten distinct rowAt composes settled rfl
      have same : inDb = store.document? inst.table id := current.trans kept
      rw [settled, same, WriteOutcome.ofRow, classified]
      rfl

/-- A row that succeeds leaves its document, and any other one leaves what was there. -/
theorem document?_of_distinct :
    (runPlan MemoryStore.backend inst plan store).2.document? inst.table id =
      if (WriteOutcome.ofRow id row (store.document? inst.table id)).isSuccess
      then some row.document else store.document? inst.table id := by
  have settled := plans.outcome_of_distinct distinct unfailing rowAt composes
  cases success : (WriteOutcome.ofRow id row (store.document? inst.table id)).isSuccess with
  | true =>
      have written : inst.IsWritten rows
          (runPlan MemoryStore.backend inst plan store).1.response position id row :=
        ⟨rowAt, composes, _, settled, success⟩
      refine document?_of_isWritten plans.composed plans.planned plans.snapshot plans.present
        written fun later other behind otherWritten => ?_
      exact absurd (plans.position_eq distinct rowAt otherWritten.1 composes otherWritten.2.1)
        (Nat.ne_of_lt behind)
  | false => exact plans.document?_of_unwritten distinct rowAt composes settled success

end Row

end PlansRows

/-! ## What rows of different ids get -/

/-- What a row gets from a bulk write that has no other row with its id. -/
def resultOf (inst : Instance) (store : MemoryStore) (row : WriteRow) :
    Except StoreError WriteOutcome :=
  match inst.requireWritable, inst.primaryKey.compose row.document with
  | .error fault, _ => .error fault
  | .ok _, .error fault => .error (.engine fault)
  | .ok _, .ok id =>
      if (store.table? inst.table).isSome then .ok (.ofRow id row (store.document? inst.table id))
      else .error (.backend (.missingTable inst.table))

def succeeded : Except StoreError WriteOutcome → Bool
  | .ok outcome => outcome.isSuccess
  | .error _ => false

/-- What the rows of a bulk write get from its answer. A call that fails fails each of its rows. -/
def resultsOf (rows : List WriteRow) :
    Except StoreError BulkWriteResponse → List (Except StoreError WriteOutcome)
  | .ok response => response.outcomes.map .ok
  | .error fault => rows.map fun _ => .error fault

/-- Rows got their own results, and the final store has the documents of those that are written. All
other documents are still there. -/
structure Settles (inst : Instance) (store : MemoryStore) (rows : List WriteRow)
    (results : List (Except StoreError WriteOutcome)) (final : MemoryStore) : Prop where
  results : results = rows.map (inst.resultOf store)
  stored : ∀ row ∈ rows, ∀ id, inst.primaryKey.compose row.document = .ok id →
    final.document? inst.table id =
      if succeeded (inst.resultOf store row) then some row.document
      else store.document? inst.table id
  kept : ∀ name id,
    (name = inst.table → ∀ row ∈ rows, inst.primaryKey.compose row.document ≠ .ok id) →
      final.document? name id = store.document? name id
  present : (final.table? inst.table).isSome = (store.table? inst.table).isSome
  unfailing : final.failingWrites = 0

/-- The keys of rows compose, and no two of them are equal. -/
structure Apart (key : PrimaryKey) (rows : List WriteRow) : Prop where
  composes : ∀ row ∈ rows, ∃ id, key.compose row.document = .ok id
  distinct : (rows.map fun row => key.compose row.document).Nodup

theorem Apart.exists_ids {key : PrimaryKey} {rows : List WriteRow} (apart : Apart key rows) :
    ∃ ids, rows.mapM (fun row => key.compose row.document) = .ok ids ∧ ids.Nodup := by
  cases composed : rows.mapM fun row => key.compose row.document with
  | error fault =>
      obtain ⟨before, row, behind, rfl, _, fails⟩ := mapM_eq_error_iff.mp composed
      obtain ⟨id, composes⟩ := apart.composes row (List.mem_append_right before (.head behind))
      cases composes.symm.trans fails
  | ok ids =>
      have distinct := apart.distinct
      rw [WritePlan.map_compose composed] at distinct
      exact ⟨ids, rfl, distinct.of_map _⟩

section Call

variable {inst : Instance} {store : MemoryStore} {rows : List WriteRow}

theorem Settles.of_fault {fault : StoreError} (unfailing : store.failingWrites = 0)
    (fails : ∀ row ∈ rows, inst.resultOf store row = .error fault) :
    Settles inst store rows (rows.map fun _ => .error fault) store where
  results := List.map_congr_left fun row member => (fails row member).symm
  stored row member id _ := by
    rw [fails row member]
    rfl
  kept _ _ _ := rfl
  present := rfl
  unfailing := unfailing

theorem Settles.nil (inst : Instance) (unfailing : store.failingWrites = 0) :
    Settles inst store [] [] store :=
  ⟨rfl, fun _ member => (nomatch member), fun _ _ _ => rfl, rfl, unfailing⟩

theorem resultOf_of_present (writable : inst.requireWritable = .ok ())
    (present : (store.table? inst.table).isSome) {row : WriteRow} {id : String}
    (composes : inst.primaryKey.compose row.document = .ok id) :
    inst.resultOf store row = .ok (.ofRow id row (store.document? inst.table id)) := by
  simp only [resultOf, writable, composes, present, if_true]

theorem resultOf_of_missing (writable : inst.requireWritable = .ok ())
    (missing : store.table? inst.table = none) {row : WriteRow} {id : String}
    (composes : inst.primaryKey.compose row.document = .ok id) :
    inst.resultOf store row = .error (.backend (.missingTable inst.table)) := by
  simp [resultOf, writable, composes, missing]

/-- A run of a plan settles rows of different ids. -/
theorem settles_runPlan {context : String} {stored : List (String × Document)} {ids : List String}
    {plan : WritePlan} (plans : PlansRows inst rows context store stored ids plan)
    (distinct : ids.Nodup) (unfailing : store.failingWrites = 0)
    (writable : inst.requireWritable = .ok ()) :
    Settles inst store rows
      (resultsOf rows (.ok (runPlan MemoryStore.backend inst plan store).1.response))
      (runPlan MemoryStore.backend inst plan store).2 := by
  have final := (runPlan_memory plans.planned plans.snapshot plans.present).1
  have altered := altered_applyWrites inst.table plans.writes store
  rw [← final] at altered
  refine ⟨List.ext_getElem? fun position => ?_, fun row member id composes => ?_,
    fun name id untouched => ?_, ?_, altered.unfailing unfailing⟩
  · rw [resultsOf, List.getElem?_map, List.getElem?_map]
    cases rowAt : rows[position]? with
    | none =>
        have beyond := List.getElem?_eq_none_iff.mp rowAt
        rw [← length_runPlan MemoryStore.backend inst (perm_planned plans.composed plans.planned)
          store] at beyond
        rw [List.getElem?_eq_none_iff.mpr beyond]
        rfl
    | some row =>
        obtain ⟨id, _, composes⟩ := WritePlan.exists_id plans.composed rowAt
        rw [plans.outcome_of_distinct distinct unfailing rowAt composes, Option.map_some,
          Option.map_some, resultOf_of_present writable plans.present composes]
  · obtain ⟨position, rowAt⟩ := List.getElem?_of_mem member
    rw [plans.document?_of_distinct distinct unfailing rowAt composes,
      resultOf_of_present writable plans.present composes]
    rfl
  · by_cases own : name = inst.table
    · subst own
      refine document?_of_not_isWritten plans.composed plans.planned plans.snapshot plans.present ?_
      rintro position row ⟨rowAt, composes, _⟩
      exact untouched rfl row (List.mem_of_getElem? rowAt) composes
    · rw [MemoryStore.document?, MemoryStore.document?, altered.table?_of_ne own]
  · rw [final, plans.present]
    exact (run_planned plans.planned plans.snapshot plans.present).table_final plans.present

/-- One bulk write settles rows of different ids. -/
theorem settles_bulkWrite (apart : Apart inst.primaryKey rows)
    (unfailing : store.failingWrites = 0) (context bulkId : String) :
    Settles inst store rows
      (resultsOf rows (inst.bulkWrite MemoryStore.backend rows context bulkId store).1)
      (inst.bulkWrite MemoryStore.backend rows context bulkId store).2.2 := by
  cases writable : inst.requireWritable with
  | error fault =>
      unfold bulkWrite
      rw [writable]
      apply Settles.of_fault unfailing
      intro row _
      rw [resultOf, writable]
  | ok _ =>
      cases noRows : rows.isEmpty with
      | true =>
          unfold bulkWrite
          rw [writable, if_pos noRows, List.isEmpty_iff.mp noRows]
          exact .nil inst unfailing
      | false =>
          obtain ⟨ids, composed, distinct⟩ := apart.exists_ids
          cases found : store.table? inst.table with
          | none =>
              have batch := writeBatch_of_missing composed found context
              simp only [bulkWrite, writable, noRows, Bool.false_eq_true, if_false, batch]
              apply Settles.of_fault unfailing
              intro row member
              obtain ⟨id, composes⟩ := apart.composes row member
              exact resultOf_of_missing writable found composes
          | some table =>
              obtain ⟨stored, plan, plans, batch⟩ := writeBatch_of_composed composed found context
              simp only [bulkWrite, writable, noRows, Bool.false_eq_true, if_false, batch]
              exact settles_runPlan plans distinct unfailing writable

end Call

/-! ## One bulk write after the other -/

section Calls

variable {inst : Instance} {store between final : MemoryStore} {rows others : List WriteRow}
  {results otherResults : List (Except StoreError WriteOutcome)}

/-- A result depends on the table and on the document under the id of the row, and not on the
feed. -/
theorem resultOf_congr {row : WriteRow} {feed : Feed EventBulk}
    (present : (between.table? inst.table).isSome = (store.table? inst.table).isSome)
    (kept : ∀ id, inst.primaryKey.compose row.document = .ok id →
      between.document? inst.table id = store.document? inst.table id) :
    resultOf { inst with feed } between row = inst.resultOf store row := by
  have same : requireWritable { inst with feed } = inst.requireWritable := rfl
  unfold resultOf
  rw [same]
  cases inst.requireWritable with
  | error fault => rfl
  | ok _ =>
      cases composed : inst.primaryKey.compose row.document with
      | error fault => rfl
      | ok id => simp only [present, kept id composed]

/-- Rows of different ids may be settled in two steps. -/
theorem Settles.append {feed : Feed EventBulk} (first : Settles inst store rows results between)
    (second : Settles { inst with feed } between others otherResults final)
    (apart : Apart inst.primaryKey (rows ++ others)) :
    Settles inst store (rows ++ others) (results ++ otherResults) final := by
  have unequal := apart.distinct
  rw [List.map_append, List.nodup_append] at unequal
  have differ : ∀ row ∈ rows, ∀ other ∈ others,
      inst.primaryKey.compose row.document ≠ inst.primaryKey.compose other.document :=
    fun row member other otherMember =>
      unequal.2.2 _ (List.mem_map_of_mem member) _ (List.mem_map_of_mem otherMember)
  -- The first step does not reach the documents that decide about the rows of the second one.
  have untouched : ∀ other ∈ others, ∀ id, inst.primaryKey.compose other.document = .ok id →
      between.document? inst.table id = store.document? inst.table id := by
    intro other member id composes
    refine first.kept inst.table id fun _ row inside same => ?_
    exact differ row inside other member (same.trans composes.symm)
  have same : ∀ other ∈ others,
      resultOf { inst with feed } between other = inst.resultOf store other :=
    fun other member => resultOf_congr first.present (untouched other member)
  refine ⟨?_, fun row member id composes => ?_, fun name id absent => ?_,
    second.present.trans first.present, second.unfailing⟩
  · rw [first.results, second.results, List.map_append, List.map_congr_left same]
  · rcases List.mem_append.mp member with early | late
    · rw [← first.stored row early id composes]
      refine second.kept inst.table id fun _ other otherMember otherComposes => ?_
      exact differ row early other otherMember (composes.trans otherComposes.symm)
    · rw [second.stored row late id composes, same row late, untouched row late id composes]
  · rw [second.kept name id fun own row member => absent own row (List.mem_append_right _ member),
      first.kept name id fun own row member => absent own row (List.mem_append_left _ member)]

/-- What rows of different ids leave does not depend on their order. -/
theorem Settles.document?_eq {otherFinal : MemoryStore}
    (one : Settles inst store rows results final)
    (other : Settles inst store others otherResults otherFinal) (perm : others.Perm rows)
    (name id : String) : otherFinal.document? name id = final.document? name id := by
  by_cases touched : name = inst.table ∧
      ∃ row ∈ rows, inst.primaryKey.compose row.document = .ok id
  · obtain ⟨rfl, row, member, composes⟩ := touched
    rw [one.stored row member id composes, other.stored row (perm.mem_iff.mpr member) id composes]
  · have absent : name = inst.table → ∀ row ∈ rows,
        inst.primaryKey.compose row.document ≠ .ok id :=
      fun own row member composes => touched ⟨own, row, member, composes⟩
    rw [one.kept name id absent,
      other.kept name id fun own row member => absent own row (perm.mem_iff.mp member)]

theorem Apart.of_perm {key : PrimaryKey} (apart : Apart key rows) (perm : others.Perm rows) :
    Apart key others :=
  ⟨fun row member => apart.composes row (perm.mem_iff.mp member),
    ((perm.map _).nodup_iff).mpr apart.distinct⟩

theorem Apart.of_sublist {key : PrimaryKey} (apart : Apart key rows)
    (part : others.Sublist rows) : Apart key others :=
  ⟨fun row member => apart.composes row (part.subset member),
    apart.distinct.sublist (part.map _)⟩

end Calls

/-- Bulk writes of batches with their contexts and ids, each on what the ones before it left: what
all rows get, in this order, and the final store. -/
def bulkWrites (inst : Instance) : List (List WriteRow × String × String) → MemoryStore →
    List (Except StoreError WriteOutcome) × MemoryStore
  | [], store => ([], store)
  | (rows, context, bulkId) :: rest, store =>
      let (answer, next, between) := inst.bulkWrite MemoryStore.backend rows context bulkId store
      let (results, final) := next.bulkWrites rest between
      (resultsOf rows answer ++ results, final)

/-- Bulk writes settle rows of different ids, whatever their batches are. -/
theorem settles_bulkWrites {inst : Instance} {store : MemoryStore}
    {batches : List (List WriteRow × String × String)}
    (apart : Apart inst.primaryKey (batches.flatMap Prod.fst))
    (unfailing : store.failingWrites = 0) :
    Settles inst store (batches.flatMap Prod.fst) (inst.bulkWrites batches store).1
      (inst.bulkWrites batches store).2 := by
  induction batches generalizing inst store with
  | nil => exact .nil inst unfailing
  | cons batch rest ih =>
      obtain ⟨rows, context, bulkId⟩ := batch
      rw [List.flatMap_cons] at apart ⊢
      have apartFirst := apart.of_sublist (List.sublist_append_left rows _)
      have apartRest := apart.of_sublist (List.sublist_append_right rows _)
      have first := settles_bulkWrite apartFirst unfailing context bulkId
      -- The instance that is left has another feed, on which no result depends.
      obtain ⟨feed, next⟩ :=
        exists_feed_bulkWrite MemoryStore.backend inst rows context bulkId store
      have second : Settles { inst with feed } _ (rest.flatMap Prod.fst) _ _ :=
        ih apartRest first.unfailing
      have whole := first.append second apart
      rw [← next] at whole
      exact whole

/-- Without pending failures, rows whose keys compose and differ get the same from one bulk write as
from any bulk writes into which they are divided, in whatever order, and the documents left behind
are the same. -/
theorem bulkWrites_eq_bulkWrite {inst : Instance} {store : MemoryStore} {rows : List WriteRow}
    (unfailing : store.failingWrites = 0)
    (composes : ∀ row ∈ rows, ∃ id, inst.primaryKey.compose row.document = .ok id)
    (distinct : (rows.map fun row => inst.primaryKey.compose row.document).Nodup)
    (context bulkId : String) :
    let whole := inst.bulkWrite MemoryStore.backend rows context bulkId store
    ∃ result : WriteRow → Except StoreError WriteOutcome,
      resultsOf rows whole.1 = rows.map result ∧
      (inst.requireWritable = .ok () → (store.table? inst.table).isSome →
        ∀ row ∈ rows, ∃ outcome, result row = .ok outcome) ∧
      ∀ batches, (batches.flatMap Prod.fst).Perm rows →
        (inst.bulkWrites batches store).1 = (batches.flatMap Prod.fst).map result ∧
        ∀ name id, (inst.bulkWrites batches store).2.document? name id =
          whole.2.2.document? name id := by
  have apart : Apart inst.primaryKey rows := ⟨composes, distinct⟩
  have whole := settles_bulkWrite apart unfailing context bulkId
  refine ⟨inst.resultOf store, whole.results, fun writable present row member => ?_,
    fun batches perm => ?_⟩
  · obtain ⟨id, composed⟩ := composes row member
    exact ⟨_, resultOf_of_present writable present composed⟩
  · have parts := settles_bulkWrites (apart.of_perm perm) unfailing
    exact ⟨parts.results, whole.document?_eq parts perm⟩

/-- One stored document, and no pending failures. -/
def calmStore : MemoryStore := { revisedStore with failingWrites := 0 }

/-- An update of the stored document, a new document, and an update of one that is not stored. -/
def apartRows : List WriteRow :=
  [revise "2-b", ⟨⟨[("id", .string "b")]⟩, none⟩,
    ⟨⟨[("id", .string "c")]⟩, some ⟨[("id", .string "c")]⟩⟩]

theorem bulkWrites_eq_bulkWrite_apartRows :
    calmStore.failingWrites = 0 ∧
      (∀ row ∈ apartRows, ∃ id, sample.primaryKey.compose row.document = .ok id) ∧
      (apartRows.map fun row => sample.primaryKey.compose row.document).Nodup ∧
      ∃ result, (∀ row ∈ apartRows, ∃ outcome, result row = .ok outcome) ∧
        resultsOf apartRows
            (sample.bulkWrite MemoryStore.backend apartRows "import" "whole" calmStore).1 =
          apartRows.map result ∧
        (sample.bulkWrites
          [(apartRows.drop 1, "import", "second"), (apartRows.take 1, "import", "first")]
          calmStore).1 = (apartRows.drop 1 ++ apartRows.take 1).map result := by
  have calm : calmStore.failingWrites = 0 := rfl
  have composed : apartRows.mapM (fun row => sample.primaryKey.compose row.document) =
      .ok ["a", "b", "c"] := rfl
  have composes : ∀ row ∈ apartRows, ∃ id, sample.primaryKey.compose row.document = .ok id := by
    intro row member
    obtain ⟨position, rowAt⟩ := List.getElem?_of_mem member
    obtain ⟨id, _, composes⟩ := WritePlan.exists_id composed rowAt
    exact ⟨id, composes⟩
  have distinct : (apartRows.map fun row => sample.primaryKey.compose row.document).Nodup := by
    rw [WritePlan.map_compose composed]
    decide
  have perm : (apartRows.drop 1 ++ apartRows.take 1).Perm apartRows :=
    List.perm_append_comm.trans (.of_eq (List.take_append_drop 1 apartRows))
  obtain ⟨result, whole, outcomes, parts⟩ :=
    bulkWrites_eq_bulkWrite calm composes distinct "import" "whole"
  have divided := parts
    [(apartRows.drop 1, "import", "second"), (apartRows.take 1, "import", "first")] perm
  exact ⟨calm, composes, distinct, result, outcomes rfl rfl, whole, divided.1⟩

end Instance

end DocStore
