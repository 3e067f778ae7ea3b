import DocStore.Proofs.Session.Effect

/-!
# Replaying published events

Whoever copies the documents of a table once, and from then on sets the document of every published
event, has the documents of the table up to those that are flagged as deleted. The copy can lack a
deleted document, which is stored without an event where there was none, and it can keep one that a
cleanup has removed.
-/

namespace DocStore

/-- The documents that are not flagged as deleted. -/
def live (documents : String → Option Document) (id : String) : Option Document :=
  (documents id).filter fun document => !document.isDeleted

namespace ChangeEvent

/-- Sets the document of an event. -/
def set (documents : String → Option Document) (event : ChangeEvent) : String → Option Document :=
  fun id => if id = event.documentId then some event.documentData else documents id

def replay (events : List ChangeEvent) (documents : String → Option Document) :
    String → Option Document :=
  events.foldl set documents

theorem replay_append (before behind : List ChangeEvent) (documents : String → Option Document) :
    replay (before ++ behind) documents = replay behind (replay before documents) :=
  List.foldl_append

/-- A write has no event exactly if it stores a deleted document where there was none. -/
theorem ofWrite?_eq_none_iff {id : String} {document : Document} {previous : Option Document} :
    ofWrite? id document previous = none ↔ previous = none ∧ document.isDeleted = true := by
  rw [ofWrite?, Option.map_eq_none_iff]
  cases previous with
  | none => simp [ChangeOperation.ofWrite?]
  | some previous =>
      rw [ChangeOperation.ofWrite?]
      split <;> simp

/-- The event of a write does to a copy of the live documents what the write does to them. -/
theorem live_replay_ofWrite? {documents stored : String → Option Document}
    (copy : live documents = live stored) {id : String} (document : Document)
    {previous : Option Document} (found : previous.isSome = (stored id).isSome) :
    live (replay (ofWrite? id document previous).toList documents) =
      live fun other => if other = id then some document else stored other := by
  funext other
  cases made : ofWrite? id document previous with
  | none =>
      obtain ⟨rfl, deleted⟩ := ofWrite?_eq_none_iff.mp made
      have absent : stored id = none := Option.not_isSome_iff_eq_none.mp (by rw [← found]; simp)
      have unset : replay (none : Option ChangeEvent).toList documents = documents := rfl
      -- Where the write stores its deleted document, nothing was stored before.
      rw [unset, copy, live, live]
      by_cases own : other = id
      · rw [if_pos own, own, absent, Option.filter_some, deleted]
        rfl
      · rw [if_neg own]
  | some event =>
      obtain ⟨operation, _, rfl⟩ := Option.map_eq_some_iff.mp made
      have copied := congrFun copy other
      simp only [Option.toList_some, replay, List.foldl_cons, List.foldl_nil, live, set] at copied ⊢
      by_cases own : other = id
      · rw [if_pos own, if_pos own]
      · rw [if_neg own, if_neg own]
        exact copied

end ChangeEvent

open ChangeEvent

namespace Instance

/-! ## A bulk write -/

/-- The event of a write that was applied. -/
def Applied.event? (entry : Applied) : Option ChangeEvent :=
  if entry.outcome.isSuccess then entry.write.event else none

theorem eventsOf_eq_filterMap (applied : List Applied) :
    eventsOf applied = applied.filterMap Applied.event? := by
  rw [eventsOf, successes, List.filterMap_map, List.filterMap_filter]
  rfl

section Steps

variable {name : String} {snapshot documents : String → Option Document} {store after : MemoryStore}

/-- A step keeps a copy of the live documents a copy, if the event of the step is replayed on it. -/
theorem WriteStep.live_replay {write : PlannedWrite} {outcome : WriteOutcome}
    (step : WriteStep name (snapshot write.row.id) write store outcome after)
    (planned : PlannedOn snapshot write) (copy : live documents = live (store.document? name)) :
    live (replay (Applied.event? ⟨write, outcome⟩).toList documents) =
      live (after.document? name) := by
  cases step with
  | lost => exact copy
  | failed _ _ stored =>
      have same : after.document? name = store.document? name := funext stored
      rw [same]
      exact copy
  | written _ fits stored =>
      -- The event was made for the snapshot, but only its being present decides whether there is
      -- one.
      obtain ⟨index, row, isOf⟩ := planned
      have data : write.row.data = row.document := congrArg StoredRow.data isOf.stores
      have event : Applied.event? ⟨write, write.outcome⟩ =
          ofWrite? write.row.id write.row.data (snapshot write.row.id) := by
        rw [Applied.event?, isSuccess_outcome, isOf.event, data]
        rfl
      rw [event, live_replay_ofWrite? copy write.row.data fits.1]
      exact congrArg live (funext stored).symm

theorem Run.live_replay {writes : List PlannedWrite} {applied : List Applied}
    (run : Run name snapshot writes store applied after)
    (planned : ∀ write ∈ writes, PlannedOn snapshot write)
    (copy : live documents = live (store.document? name)) :
    live (replay (eventsOf applied) documents) = live (after.document? name) := by
  rw [eventsOf_eq_filterMap]
  induction run generalizing documents with
  | nil => exact copy
  | @cons write rest _ _ _ outcome applied step _ ih =>
      have stepped := step.live_replay (planned write (.head rest)) copy
      have others := ih (fun other member => planned other (.tail write member)) stepped
      rw [← replay_append] at others
      rw [← others, List.filterMap_cons]
      cases Applied.event? ⟨write, outcome⟩ <;> rfl

end Steps

section Bulk

variable {inst : Instance} {rows : List WriteRow} {context bulkId : String} {store : MemoryStore}

/-- The events that a bulk write publishes. -/
def publishedEvents (inst : Instance) (rows : List WriteRow) (context bulkId : String)
    (store : MemoryStore) : List ChangeEvent :=
  ((inst.published MemoryStore.backend rows context bulkId store).map EventBulk.events).getD []

theorem live_replay_bulkWrite {documents : String → Option Document}
    (copy : live documents = live (store.document? inst.table)) :
    live (replay (inst.publishedEvents rows context bulkId store) documents) =
      live ((inst.bulkWrite MemoryStore.backend rows context bulkId store).2.2.document?
        inst.table) := by
  rw [publishedEvents]
  rcases bulkWrite_cases inst rows context bulkId store with
    ⟨_, done, nothing, _⟩ | ⟨stored, ids, plan, plans, done, published⟩
  · rw [done, nothing]
    exact copy
  · rw [done, published, events_bulk?,
      (runPlan_memory plans.planned plans.snapshot plans.present).1]
    exact (run_applyWrites plans.plannedOn plans.present).live_replay plans.plannedOn copy

end Bulk

/-- A cleanup removes no live document. -/
theorem live_cleanup {store : MemoryStore} (distinct : store.DistinctIds) (inst : Instance)
    (olderThan : Binary64) :
    live ((inst.cleanup MemoryStore.backend olderThan store).2.document? inst.table) =
      live (store.document? inst.table) := by
  rcases cleanup_cases inst olderThan store with ⟨answer, kept⟩ | ⟨table, removed, found, purged⟩
  · rw [kept]
  -- With one row for each id, no older row comes to light where one is purged.
  · funext id
    rw [purged, live, live,
      MemoryStore.document?_of_table? (MemoryStore.table?_setTable store inst.table _),
      MemoryStore.document?_of_table? found,
      MemoryTable.document?_purge (distinct inst.table table found)]
    cases table.document? id with
    | none => rfl
    | some document => cases deleted : document.isDeleted <;> simp [Option.filter_some, deleted]

end Instance

/-! ## A whole history -/

/-- What the owner of an instance does to its table; a number of the next writes may fail. -/
inductive TableCall where
  | bulkWrite (rows : List WriteRow) (context bulkId : String)
  | cleanup (olderThan : Binary64)
  | failNextWrites (count : Nat)

/-- An instance with its tables in memory, and the batches of events that it has published. -/
structure History where
  inst : Instance
  store : MemoryStore
  published : List EventBulk

namespace History

def start (inst : Instance) (store : MemoryStore) : History := ⟨inst, store, []⟩

def extend (history : History) : TableCall → History
  | .bulkWrite rows context bulkId =>
      let written := history.inst.bulkWrite MemoryStore.backend rows context bulkId history.store
      let bulk := history.inst.published MemoryStore.backend rows context bulkId history.store
      ⟨written.2.1, written.2.2, history.published ++ bulk.toList⟩
  | .cleanup olderThan =>
      { history with store := (history.inst.cleanup MemoryStore.backend olderThan history.store).2 }
  | .failNextWrites count => { history with store := history.store.failNextWrites count }

def run (history : History) (calls : List TableCall) : History := calls.foldl extend history

def documents (history : History) : String → Option Document :=
  history.store.document? history.inst.table

def events (history : History) : List ChangeEvent := history.published.flatMap EventBulk.events

/-- The history goes on from an instance and some documents: its batches are all that the feed of
the instance got, and with their events a copy of the live documents has stayed one. -/
structure Follows (history : History) (inst : Instance) (documents : String → Option Document) :
    Prop where
  distinct : history.store.DistinctIds
  feed : history.inst = history.published.foldl (fun inst bulk => inst.publish (some bulk)) inst
  copy : live (replay history.events documents) = live history.documents

theorem Follows.extend {history : History} {inst : Instance} {documents : String → Option Document}
    (follows : history.Follows inst documents) (call : TableCall) :
    (history.extend call).Follows inst documents := by
  cases call with
  | failNextWrites count => exact ⟨follows.distinct, follows.feed, follows.copy⟩
  | cleanup olderThan =>
      refine ⟨?_, follows.feed, ?_⟩
      · exact (Instance.altered_cleanup history.inst history.inst.Writes olderThan
          history.store).distinctIds follows.distinct
      · exact follows.copy.trans
          (Instance.live_cleanup follows.distinct history.inst olderThan).symm
  | bulkWrite rows context bulkId =>
      refine ⟨?_, ?_, ?_⟩
      · exact (Instance.altered_bulkWrite history.inst rows context bulkId
          history.store).distinctIds follows.distinct
      · rw [History.extend, Instance.publish_published, List.foldl_append, ← follows.feed]
        cases history.inst.published MemoryStore.backend rows context bulkId history.store <;> rfl
      · have events : (history.extend (.bulkWrite rows context bulkId)).events = history.events ++
            history.inst.publishedEvents rows context bulkId history.store := by
          rw [History.events, History.extend, List.flatMap_append, Instance.publishedEvents]
          cases history.inst.published MemoryStore.backend rows context bulkId history.store with
          | none => rfl
          | some bulk => exact congrArg (history.events ++ ·) (List.append_nil bulk.events)
        have table :
            (history.extend (.bulkWrite rows context bulkId)).inst.table = history.inst.table := by
          rw [History.extend, Instance.publish_published, Instance.table_publish]
        rw [events, replay_append, History.documents, table]
        exact Instance.live_replay_bulkWrite follows.copy

theorem Follows.run {history : History} {inst : Instance} {documents : String → Option Document}
    (follows : history.Follows inst documents) (calls : List TableCall) :
    (history.run calls).Follows inst documents := by
  induction calls generalizing history with
  | nil => exact follows
  | cons call rest ih => exact ih (follows.extend call)

/-- Whatever calls an instance gets, after them the live documents of its table are those that its
events, replayed from the start, leave in a copy. -/
theorem live_replay_events {inst : Instance} {store : MemoryStore} (distinct : store.DistinctIds)
    (calls : List TableCall) :
    let history := (start inst store).run calls
    history.inst = history.published.foldl (fun inst bulk => inst.publish (some bulk)) inst ∧
      live (replay history.events (start inst store).documents) = live history.documents := by
  have begun : (start inst store).Follows inst (start inst store).documents :=
    ⟨distinct, rfl, rfl⟩
  have follows := begun.run calls
  exact ⟨follows.feed, follows.copy⟩

theorem distinctIds_sampleStore : Instance.sampleStore.DistinctIds := by
  intro name table found
  rw [MemoryStore.table?, Instance.sampleStore, List.lookup_cons] at found
  split at found
  · cases found
    exact List.nodup_nil
  · cases found

/-- Flags the document with an id as deleted. -/
def deletion (id : String) (previous : Option Document) : WriteRow :=
  ⟨⟨[("id", .string id), ("_deleted", .bool true), ("_meta", .object [("lwt", .ofNat 1)])]⟩,
    previous⟩

/-- Of two new documents one is stored, and then deleted; another one is stored as deleted. -/
def sampleCalls : List TableCall :=
  [.bulkWrite Instance.sampleRows "import" "first",
    .bulkWrite [deletion "b" (some ⟨[("id", .string "b")]⟩), deletion "c" none] "delete" "second",
    .cleanup (.ofInt 2)]

theorem live_replay_events_sample :
    Instance.sampleStore.DistinctIds ∧
      let history := (start Instance.sample Instance.sampleStore).run sampleCalls
      history.events.map (fun event => (event.operation, event.documentId)) =
        [(.insert, "b"), (.delete, "b")] ∧
      history.inst =
        history.published.foldl (fun inst bulk => inst.publish (some bulk)) Instance.sample ∧
      live (replay history.events (start Instance.sample Instance.sampleStore).documents) =
        live history.documents :=
  ⟨distinctIds_sampleStore, rfl, live_replay_events distinctIds_sampleStore sampleCalls⟩

end History

end DocStore
