import DocStore.Proofs.Write.Events
import DocStore.Proofs.Write.Replay
import Mathlib.Data.List.Induction

/-!
# Checkpoints of published batches

The checkpoint of a batch of events is that of its last row with the greatest write time. Rows
without a time do not count, and neither do those that store a new document as deleted: they are
written, but there is no event for them.
-/

namespace DocStore

namespace Checkpoint

/-- Of the checkpoints that stand at positions, the last one with the greatest time. -/
def IsNewest (stamped : Nat → Checkpoint → Prop) (checkpoint : Checkpoint) : Prop :=
  ∃ position, stamped position checkpoint ∧ ∀ other next, stamped other next →
    next.lwt.le checkpoint.lwt = true ∧ (position < other → next.lwt.lt checkpoint.lwt = true)

theorem IsNewest.unique {stamped : Nat → Checkpoint → Prop} {checkpoint other : Checkpoint}
    (single : ∀ position first second, stamped position first → stamped position second →
      first = second) (newest : IsNewest stamped checkpoint) (again : IsNewest stamped other) :
    checkpoint = other := by
  obtain ⟨position, stands, greatest⟩ := newest
  obtain ⟨place, standsOther, greatestOther⟩ := again
  have below := greatest place other standsOther
  have above := greatestOther position checkpoint stands
  simp only [Double.le, Double.lt, decide_eq_true_eq] at below above
  rcases Nat.lt_trichotomy position place with before | rfl | behind
  · exact absurd above.1 (Int.not_le.mpr (below.2 before))
  · exact single position checkpoint other stands standsOther
  · exact absurd below.1 (Int.not_le.mpr (above.2 behind))

theorem later_cases (best : Option Checkpoint) (next : Checkpoint) :
    (later best next = some next ∧ ∀ earlier, best = some earlier →
      earlier.lwt.le next.lwt = true) ∨
    ∃ earlier, best = some earlier ∧ later best next = some earlier ∧
      next.lwt.lt earlier.lwt = true := by
  cases best with
  | none => exact .inl ⟨rfl, fun _ same => nomatch same⟩
  | some earlier =>
      rw [later]
      split
      · next less => exact .inr ⟨earlier, rfl, rfl, less⟩
      · next notLess =>
          refine .inl ⟨rfl, fun _ same => ?_⟩
          cases same
          simpa [Double.le, Double.lt] using notLess

variable {stamps : List (Nat × Checkpoint)}

theorem eq_nil_of_foldl_later (nothing : (stamps.map (·.2)).foldl later none = none) :
    stamps = [] := by
  rcases List.eq_nil_or_concat stamps with rfl | ⟨before, last, rfl⟩
  · rfl
  · simp only [List.concat_eq_append, List.map_append, List.foldl_append] at nothing
    rcases later_cases ((before.map (·.2)).foldl later none) last.2 with
      ⟨some, _⟩ | ⟨_, _, some, _⟩
    · exact absurd (some.symm.trans nothing) (Option.some_ne_none _)
    · exact absurd (some.symm.trans nothing) (Option.some_ne_none _)

theorem isNewest_of_foldl_later (ascending : stamps.Pairwise (·.1 < ·.1)) {checkpoint : Checkpoint}
    (folded : (stamps.map (·.2)).foldl later none = some checkpoint) :
    IsNewest (fun position stamp => (position, stamp) ∈ stamps) checkpoint := by
  induction stamps using List.reverseRecOn generalizing checkpoint with
  | nil => cases folded
  | append_singleton before last ih =>
      obtain ⟨inOrder, _, apart⟩ := List.pairwise_append.mp ascending
      rw [List.map_append, List.foldl_append] at folded
      change later ((before.map (·.2)).foldl later none) last.2 = some checkpoint at folded
      rcases later_cases ((before.map (·.2)).foldl later none) last.2 with
        ⟨taken, notLater⟩ | ⟨earlier, best, kept, less⟩
      · rw [taken] at folded
        cases folded
        refine ⟨last.1, List.mem_append_right _ (.head _), fun other next member => ?_⟩
        rcases List.mem_append.mp member with early | same
        · refine ⟨?_, fun behind => absurd behind (Nat.lt_asymm (apart _ early last (.head _)))⟩
          cases best : (before.map (·.2)).foldl later none with
          | none =>
              rw [eq_nil_of_foldl_later best] at early
              cases early
          | some earlier =>
              -- The one that is replaced was the newest, so no other is newer than the last one.
              obtain ⟨_, _, greatest⟩ := ih inOrder best
              have below := (greatest other next early).1
              have above := notLater earlier best
              simp only [Double.le, decide_eq_true_eq] at below above ⊢
              exact Int.le_trans below above
        · rw [List.mem_singleton] at same
          subst same
          exact ⟨decide_eq_true (Int.le_refl _), fun behind => absurd behind (Nat.lt_irrefl _)⟩
      · rw [kept] at folded
        cases folded
        obtain ⟨position, stands, greatest⟩ := ih inOrder best
        refine ⟨position, List.mem_append_left _ stands, fun other next member => ?_⟩
        rcases List.mem_append.mp member with early | same
        · exact greatest other next early
        · rw [List.mem_singleton] at same
          subst same
          exact ⟨decide_eq_true (Int.le_of_lt (of_decide_eq_true less)), fun _ => less⟩

/-- Folding checkpoints at ascending positions finds the newest one. -/
theorem foldl_later_eq_some_iff (ascending : stamps.Pairwise (·.1 < ·.1))
    (checkpoint : Checkpoint) :
    (stamps.map (·.2)).foldl later none = some checkpoint ↔
      IsNewest (fun position stamp => (position, stamp) ∈ stamps) checkpoint := by
  refine ⟨isNewest_of_foldl_later ascending, fun newest => ?_⟩
  cases folded : (stamps.map (·.2)).foldl later none with
  | none =>
      obtain ⟨position, stands, _⟩ := newest
      rw [eq_nil_of_foldl_later folded] at stands
      cases stands
  | some found =>
      have single : ∀ position first second, (position, first) ∈ stamps →
          (position, second) ∈ stamps → first = second := by
        have unique : (stamps.map (·.1)).Nodup :=
          (List.pairwise_map.mpr ascending).imp Nat.ne_of_lt
        intro position first second stands again
        have one := Keyed.lookup_of_mem unique stands
        rw [Keyed.lookup_of_mem unique again] at one
        exact (Option.some.inj one).symm
      exact congrArg some (IsNewest.unique single (isNewest_of_foldl_later ascending folded) newest)

end Checkpoint

namespace Instance

variable {inst : Instance} {rows : List WriteRow} {context : String} {store : MemoryStore}

/-- The row at a position was written, its document has a time, and there is an event for it, which
is missing where a new document is stored as deleted. -/
def Stamps (inst : Instance) (rows : List WriteRow) (response : BulkWriteResponse)
    (position : Nat) (checkpoint : Checkpoint) : Prop :=
  ∃ row, inst.IsWritten rows response position checkpoint.id row ∧
    row.document.lastWrite? = some checkpoint.lwt ∧
    ¬ (response.outcomes[position]? = some (.inserted checkpoint.id) ∧
      row.document.isDeleted = true)

/-- The position of a row that was written with a time and an event, and its checkpoint. -/
def Applied.stamp? (entry : Applied) : Option (Nat × Checkpoint) :=
  entry.event?.bind fun event =>
    event.documentData.lastWrite?.map fun lwt => (entry.write.index, ⟨event.documentId, lwt⟩)

theorem newest_eventsOf (applied : List Applied) :
    Checkpoint.newest ((eventsOf applied).map fun event => (event.documentId, event.documentData)) =
      ((applied.filterMap Applied.stamp?).map (·.2)).foldl Checkpoint.later none := by
  rw [Checkpoint.newest, eventsOf_eq_filterMap, List.map_filterMap, List.filterMap_filterMap,
    List.map_filterMap]
  congr 2
  funext entry
  rw [Applied.stamp?]
  cases entry.event? with
  | none => rfl
  | some event =>
      rw [Option.map_some, Option.bind_some, Option.bind_some, Option.map_map]
      rfl

theorem ascending_stamps {applied : List Applied}
    (ascending : applied.Pairwise fun first second => first.write.index < second.write.index) :
    (applied.filterMap Applied.stamp?).Pairwise (·.1 < ·.1) := by
  have position : ∀ {entry : Applied} {stamp}, entry.stamp? = some stamp →
      stamp.1 = entry.write.index := by
    intro entry stamp stamped
    obtain ⟨event, _, timed⟩ := Option.bind_eq_some_iff.mp stamped
    obtain ⟨lwt, _, rfl⟩ := Option.map_eq_some_iff.mp timed
    rfl
  refine List.Pairwise.filterMap _ (fun first second less stamp stamped other otherStamped => ?_)
    ascending
  rw [position stamped, position otherStamped]
  exact less

namespace PlansRows

variable {stored : List (String × Document)} {ids : List String} {plan : WritePlan}
  (plans : PlansRows inst rows context store stored ids plan)

include plans

/-- A write that succeeds is an insertion if nothing was stored under its id before the batch. -/
theorem inserted_iff {entry : Applied}
    (applied : entry ∈ (applyWrites MemoryStore.backend inst.table plan.writes store).1)
    (success : entry.outcome.isSuccess = true) :
    entry.outcome = .inserted entry.write.row.id ↔
      store.document? inst.table entry.write.row.id = none := by
  obtain ⟨number, found, outcome⟩ := exists_number applied
  obtain ⟨row, _, _, isOf⟩ := plans.isOf (List.mem_of_getElem? found)
  have kind := WriteKind.isSome_of_classify isOf.kind
  have own : entry.outcome = entry.write.outcome := by
    rw [outcome] at success ⊢
    exact ((step_reached plans.plannedOn plans.present found).of_success success).1
  rw [own, PlannedWrite.outcome]
  cases was : entry.write.kind with
  | insert =>
      rw [was] at kind
      exact ⟨fun _ => Option.not_isSome_iff_eq_none.mp (by rw [kind]; decide), fun _ => rfl⟩
  | update =>
      rw [was] at kind
      refine ⟨fun same => by (cases same), fun nothing => ?_⟩
      rw [nothing] at kind
      cases kind

section Written

variable {entry : Applied} {row : WriteRow}
  (applied : entry ∈ (applyWrites MemoryStore.backend inst.table plan.writes store).1)
  (written : inst.IsWritten rows (runPlan MemoryStore.backend inst plan store).1.response
    entry.write.index entry.write.row.id row)

include applied written

theorem outcome_of_isWritten :
    (runPlan MemoryStore.backend inst plan store).1.response.outcomes[entry.write.index]? =
      some entry.outcome ∧ entry.outcome.isSuccess = true := by
  have outcome := outcome_of_applied MemoryStore.backend inst
    (perm_planned plans.composed plans.planned) store applied
  obtain ⟨_, _, settled, found, success⟩ := written
  rw [outcome, Option.some.injEq] at found
  exact ⟨outcome, found ▸ success⟩

theorem event?_eq :
    entry.event? = ChangeEvent.ofWrite? entry.write.row.id row.document
      (store.document? inst.table entry.write.row.id) := by
  obtain ⟨again, found, _, isOf⟩ := plans.isOf (mem_of_mem_applyWrites applied)
  rw [written.1, Option.some.injEq] at found
  subst found
  rw [Applied.event?, if_pos (plans.outcome_of_isWritten applied written).2, isOf.event]

/-- A written row has no event exactly if it is an insertion of a deleted document. -/
theorem event?_eq_none_iff :
    entry.event? = none ↔
      (runPlan MemoryStore.backend inst plan store).1.response.outcomes[entry.write.index]? =
          some (.inserted entry.write.row.id) ∧ row.document.isDeleted = true := by
  obtain ⟨outcome, success⟩ := plans.outcome_of_isWritten applied written
  rw [plans.event?_eq applied written, ChangeEvent.ofWrite?_eq_none_iff, outcome,
    Option.some.injEq, plans.inserted_iff applied success]

end Written

/-- The stamps of a run are those of its rows. -/
theorem mem_stamps (position : Nat) (checkpoint : Checkpoint) :
    (position, checkpoint) ∈ (applyWrites MemoryStore.backend inst.table plan.writes
        store).1.filterMap Applied.stamp? ↔
      inst.Stamps rows (runPlan MemoryStore.backend inst plan store).1.response position
        checkpoint := by
  rw [List.mem_filterMap]
  constructor
  · rintro ⟨entry, applied, stamped⟩
    obtain ⟨event, published, timed⟩ := Option.bind_eq_some_iff.mp stamped
    obtain ⟨lwt, time, same⟩ := Option.map_eq_some_iff.mp timed
    cases same
    have success : entry.outcome.isSuccess = true := by
      rw [Applied.event?] at published
      split at published
      · next success => exact success
      · cases published
    obtain ⟨row, _, written⟩ := isWritten_of_applied plans.composed plans.planned applied success
    have made := plans.event?_eq applied written
    have announced := mt (plans.event?_eq_none_iff applied written).mpr
      (by rw [published]; exact Option.some_ne_none event)
    rw [published] at made
    obtain ⟨own, data, _⟩ := ChangeEvent.of_ofWrite? made.symm
    rw [← own] at written announced
    exact ⟨row, written, data ▸ time, announced⟩
  · rintro ⟨row, written, time, announced⟩
    obtain ⟨entry, applied, rfl, stores, _⟩ :=
      applied_of_isWritten plans.composed plans.planned written
    have own : entry.write.row.id = checkpoint.id := congrArg StoredRow.id stores
    rw [← own] at written announced
    obtain ⟨event, published⟩ := Option.ne_none_iff_exists'.mp
      (mt (plans.event?_eq_none_iff applied written).mp announced)
    have made := plans.event?_eq applied written
    rw [published] at made
    obtain ⟨same, data, _⟩ := ChangeEvent.of_ofWrite? made.symm
    refine ⟨entry, applied, ?_⟩
    rw [Applied.stamp?, published, Option.bind_some, data, time, Option.map_some, same, own]

end PlansRows

theorem checkpoint_of_bulk? {result : WriteResult} {bulkId : String} {bulk : EventBulk}
    (made : result.bulk? bulkId = some bulk) :
    bulk.checkpoint = Checkpoint.newest
      (result.events.map fun event => (event.documentId, event.documentData)) := by
  rw [WriteResult.bulk?] at made
  split at made
  · cases made
  · cases made
    rfl

/-- The checkpoint of a published batch is that of the last row with the greatest time, among the
rows that are written and have an event. -/
theorem checkpoint_of_published {bulkId : String} {bulk : EventBulk}
    (publishes : inst.published MemoryStore.backend rows context bulkId store = some bulk) :
    ∃ response, (inst.bulkWrite MemoryStore.backend rows context bulkId store).1 = .ok response ∧
      (∀ checkpoint, bulk.checkpoint = some checkpoint ↔
        Checkpoint.IsNewest (inst.Stamps rows response) checkpoint) ∧
      (bulk.checkpoint = none ↔ ∀ position checkpoint,
        ¬ inst.Stamps rows response position checkpoint) := by
  rcases bulkWrite_cases inst rows context bulkId store with
    ⟨_, _, unpublished, _⟩ | ⟨stored, ids, plan, plans, done, published⟩
  · rw [unpublished] at publishes
    cases publishes
  have ascending := ascending_stamps
    (ascending_applyWrites MemoryStore.backend inst.table plans.ascending store)
  have stamps := plans.mem_stamps
  rw [published] at publishes
  have folded := checkpoint_of_bulk? publishes
  rw [runPlan, newest_eventsOf] at folded
  generalize (applyWrites MemoryStore.backend inst.table plan.writes store).1.filterMap
    Applied.stamp? = found at ascending stamps folded
  have same : (fun position stamp => (position, stamp) ∈ found) =
      inst.Stamps rows (runPlan MemoryStore.backend inst plan store).1.response :=
    funext fun position => funext fun stamp => propext (stamps position stamp)
  refine ⟨_, congrArg Prod.fst done, fun checkpoint => ?_, fun nothing => ?_, fun nothing => ?_⟩
  · rw [folded, Checkpoint.foldl_later_eq_some_iff ascending, same]
  · rw [folded] at nothing
    intro position stamp
    rw [← stamps, Checkpoint.eq_nil_of_foldl_later nothing]
    exact List.not_mem_nil
  · have empty : found = [] := List.eq_nil_iff_forall_not_mem.mpr fun stamp member =>
      nothing stamp.1 stamp.2 ((stamps _ _).mp member)
    rw [folded, empty]
    rfl

/-- A document with an id, a time, and maybe more. -/
def timed (id : String) (lwt : Nat) (more : List (String × Json)) : Document :=
  ⟨("id", .string id) :: ("_meta", .object [("lwt", .ofNat lwt)]) :: more⟩

/-- Two new documents; the one with the greater time is deleted. -/
def timedRows : List WriteRow :=
  [⟨timed "a" 1 [], none⟩, ⟨timed "b" 5 [("_deleted", .bool true)], none⟩]

def timedStore : MemoryStore := ⟨[("items", .empty)], 0⟩

theorem checkpoint_of_published_sample :
    ∃ bulk,
      sample.published MemoryStore.backend timedRows "import" "batch" timedStore = some bulk ∧
      ∃ response,
        (sample.bulkWrite MemoryStore.backend timedRows "import" "batch" timedStore).1 =
          .ok response ∧
        (∀ checkpoint, bulk.checkpoint = some checkpoint ↔
          Checkpoint.IsNewest (sample.Stamps timedRows response) checkpoint) ∧
        (bulk.checkpoint = none ↔ ∀ position checkpoint,
          ¬ sample.Stamps timedRows response position checkpoint) :=
  ⟨_, rfl, checkpoint_of_published rfl⟩

/-- The checkpoint need not be that of the written row with the greatest time. -/
theorem checkpoint_misses_deletion :
    ∃ bulk response row,
      sample.published MemoryStore.backend timedRows "import" "batch" timedStore = some bulk ∧
      (sample.bulkWrite MemoryStore.backend timedRows "import" "batch" timedStore).1 =
        .ok response ∧
      bulk.checkpoint = some ⟨"a", .ofInt 1⟩ ∧
      sample.IsWritten timedRows response 1 "b" row ∧
      row.document.lastWrite? = some (.ofInt 5) ∧ (Double.ofInt 1).lt (.ofInt 5) = true := by
  refine ⟨_, _, _, rfl, rfl, ?_, ⟨rfl, rfl, _, rfl, rfl⟩, ?_, ?_⟩
  · rfl
  · rfl
  · decide

end Instance

end DocStore
