import DocStore.Proofs.Write.Stored

/-!
# The course of a batch

The planned writes of a batch are applied one after the other, so there is a state that each of them
finds. Pending failures stop the first statements of the batch. As long as no write under an id
succeeds, its document is the one that the plan saw.
-/

namespace DocStore

namespace Instance

section Reached

variable {σ : Type}

/-- The state after the first writes of a plan, as many as `count`. -/
def reached (backend : Backend σ) (table : String) (writes : List PlannedWrite) (count : Nat)
    (state : σ) : σ :=
  (applyWrites backend table (writes.take count) state).2

variable {backend : Backend σ} {table : String} {writes : List PlannedWrite} {number : Nat}
  {write : PlannedWrite}

theorem reached_succ (found : writes[number]? = some write) (state : σ) :
    reached backend table writes (number + 1) state =
      (applyWrite backend table write (reached backend table writes number state)).2 := by
  induction writes generalizing number state with
  | nil => cases found
  | cons first rest ih =>
      cases number with
      | zero =>
          cases found
          rfl
      | succ number => exact ih found (applyWrite backend table first state).2

/-- Each write is applied to the state that the writes before it have reached. -/
theorem getElem?_applyWrites (found : writes[number]? = some write) (state : σ) :
    (applyWrites backend table writes state).1[number]? =
      some ⟨write, (applyWrite backend table write
        (reached backend table writes number state)).1⟩ := by
  induction writes generalizing number state with
  | nil => cases found
  | cons first rest ih =>
      cases number with
      | zero =>
          cases found
          rfl
      | succ number => exact ih found (applyWrite backend table first state).2

theorem exists_number {entry : Applied} {state : σ}
    (member : entry ∈ (applyWrites backend table writes state).1) :
    ∃ number, writes[number]? = some entry.write ∧
      entry.outcome = (applyWrite backend table entry.write
        (reached backend table writes number state)).1 := by
  obtain ⟨number, applied⟩ := List.getElem?_of_mem member
  have found : writes[number]? = some entry.write := by
    rw [← map_write_applyWrites backend table writes state, List.getElem?_map, applied]
    rfl
  rw [getElem?_applyWrites found, Option.some.injEq] at applied
  exact ⟨number, found, congrArg Applied.outcome applied.symm⟩

end Reached

/-! ## Pending failures -/

section Failures

variable {name : String}

/-- A lookup leaves the store as it is. -/
theorem reread_memory (write : PlannedWrite) (store : MemoryStore) :
    (reread MemoryStore.backend name write store).2 = store := by
  cases found : store.table? name with
  | none => simp [reread, MemoryStore.backend, MemoryStore.reading, found]
  | some table => simp [reread, MemoryStore.findByIds_of_table? found]

/-- A statement meets a pending failure, or there is none left. -/
theorem failingWrites_applyWrite (name : String) (write : PlannedWrite) (store : MemoryStore) :
    (applyWrite MemoryStore.backend name write store).2.failingWrites =
      store.failingWrites - 1 := by
  rw [applyWrite, submit_memory, MemoryStore.writing]
  cases failing : store.failingWrites with
  | succ left => rfl
  | zero =>
      cases store.table? name with
      | none => exact failing
      | some table =>
          cases written : change? write table with
          | some changed => simp [written, MemoryStore.setTable, failing]
          | none => simp [written, reread_memory, failing]

theorem failingWrites_reached {writes : List PlannedWrite} {number : Nat}
    (bounded : number ≤ writes.length) (store : MemoryStore) :
    (reached MemoryStore.backend name writes number store).failingWrites =
      store.failingWrites - number := by
  induction number with
  | zero => rfl
  | succ number ih =>
      have found : writes[number]? = some writes[number] := List.getElem?_eq_getElem bounded
      rw [reached_succ found, failingWrites_applyWrite, ih (Nat.le_of_lt bounded), Nat.sub_sub]

theorem failed_applyWrite_iff {store : MemoryStore} (present : (store.table? name).isSome)
    (write : PlannedWrite) :
    (∃ failure, (applyWrite MemoryStore.backend name write store).1 = .failed failure) ↔
      0 < store.failingWrites := by
  obtain ⟨table, found⟩ := Option.isSome_iff_exists.mp present
  rw [applyWrite, submit_memory, MemoryStore.writing]
  cases failing : store.failingWrites with
  | succ left => simp
  | zero =>
      have notFailed : ∀ failure, write.outcome ≠ .failed failure := by
        intro failure same
        have success := isSuccess_outcome write
        rw [same] at success
        cases success
      rw [found]
      cases written : change? write table with
      | some changed => simp [written, notFailed]
      | none => simp [written]

end Failures

/-! ## What the document that is found makes of a write -/

namespace WriteStep

variable {name : String} {planned : Option Document} {write : PlannedWrite}
  {store after : MemoryStore} {outcome : WriteOutcome}

/-- A write that succeeds found a document like the planned one, and replaced it by its own. -/
theorem of_success (step : WriteStep name planned write store outcome after)
    (success : outcome.isSuccess = true) :
    outcome = write.outcome ∧ Fits planned (store.document? name write.row.id) ∧
      after.document? name write.row.id = some write.row.data := by
  cases step with
  | written _ fits stored => exact ⟨rfl, fits, by rw [stored, if_pos rfl]⟩
  | lost => cases success
  | failed => cases success

theorem isSuccess_of_fits (step : WriteStep name planned write store outcome after)
    (unfailed : ¬ ∃ failure, outcome = .failed failure)
    (fits : Fits planned (store.document? name write.row.id)) : outcome.isSuccess = true := by
  cases step with
  | written => exact isSuccess_outcome write
  | lost _ misfits => exact absurd fits misfits
  | failed _ failure => exact absurd ⟨failure, rfl⟩ unfailed

theorem conflict_of_misfits (step : WriteStep name planned write store outcome after)
    (unfailed : ¬ ∃ failure, outcome = .failed failure)
    (misfits : ¬ Fits planned (store.document? name write.row.id)) :
    ∃ conflict, outcome = .conflict conflict := by
  cases step with
  | written _ fits => exact absurd fits misfits
  | lost => exact ⟨_, rfl⟩
  | failed _ failure => exact absurd ⟨failure, rfl⟩ unfailed

end WriteStep

/-! ## The steps of a batch -/

/-- What becomes of the write with a number. -/
def outcomeOf (name : String) (writes : List PlannedWrite) (store : MemoryStore) (number : Nat)
    (write : PlannedWrite) : WriteOutcome :=
  (applyWrite MemoryStore.backend name write
    (reached MemoryStore.backend name writes number store)).1

/-- The write with a number is under an id, and it is applied with success. -/
def Succeeds (name : String) (writes : List PlannedWrite) (store : MemoryStore) (number : Nat)
    (id : String) : Prop :=
  ∃ write, writes[number]? = some write ∧ write.row.id = id ∧
    (outcomeOf name writes store number write).isSuccess = true

section Course

variable {name : String} {writes : List PlannedWrite} {store : MemoryStore} {number : Nat}
  {write : PlannedWrite}
  (planned : ∀ write ∈ writes, PlannedOn (store.document? name) write)
  (present : (store.table? name).isSome)

include planned present

theorem table_reached (number : Nat) :
    ((reached MemoryStore.backend name writes number store).table? name).isSome := by
  have taken : ∀ write ∈ writes.take number, PlannedOn (store.document? name) write :=
    fun write member => planned write (List.mem_of_mem_take member)
  exact (run_applyWrites taken present).table_final present

/-- One step of the course of a batch. -/
theorem step_reached (found : writes[number]? = some write) :
    WriteStep name (store.document? name write.row.id) write
      (reached MemoryStore.backend name writes number store)
      (outcomeOf name writes store number write)
      (reached MemoryStore.backend name writes (number + 1) store) := by
  obtain ⟨index, row, isOf⟩ := planned write (List.mem_of_getElem? found)
  rw [reached_succ found]
  exact writeStep_applyWrite (table_reached planned present number) isOf

/-- The pending failures stop the first writes of the batch. -/
theorem failed_outcomeOf_iff (found : writes[number]? = some write) :
    (∃ failure, outcomeOf name writes store number write = .failed failure) ↔
      number < store.failingWrites := by
  obtain ⟨bounded, _⟩ := List.getElem?_eq_some_iff.mp found
  have reachedTable := table_reached planned present number
  rw [outcomeOf, failed_applyWrite_iff reachedTable, failingWrites_reached (Nat.le_of_lt bounded)]
  exact Nat.sub_pos_iff_lt

/-- Without an earlier success under an id, its document is the one from before the batch. -/
theorem document?_reached_of_unsuccessful (bounded : number ≤ writes.length) {id : String}
    (unsuccessful : ∀ earlier < number, ¬ Succeeds name writes store earlier id) :
    (reached MemoryStore.backend name writes number store).document? name id =
      store.document? name id := by
  induction number with
  | zero => rfl
  | succ number ih =>
      have found : writes[number]? = some writes[number] := List.getElem?_eq_getElem bounded
      have before := ih (Nat.le_of_lt bounded) fun earlier less =>
        unsuccessful earlier (Nat.lt_succ_of_lt less)
      rw [← before]
      refine (step_reached planned present found).document?_of_unsuccessful fun own => ?_
      refine Bool.eq_false_iff.mpr fun success => ?_
      exact unsuccessful number (Nat.lt_succ_self number) ⟨writes[number], found, own, success⟩

end Course

end Instance

end DocStore
