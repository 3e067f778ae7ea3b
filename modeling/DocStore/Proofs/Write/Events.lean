import DocStore.Proofs.Write.Winner

/-!
# What published events tell

An event is prepared when its row is planned, from the document stored before the batch. It tells
what the row did as long as no earlier row of the batch was written under the same id, which fresh
revisions ensure. Where revisions repeat or are missing, a second row can be written, and its event
still tells of the document from before the batch.
-/

namespace DocStore

/-- The event is the change that storing its document makes to some documents. -/
structure ChangeEvent.Describes (event : ChangeEvent) (documents : String → Option Document) :
    Prop where
  previous : event.previousDocumentData = documents event.documentId
  operation : some event.operation =
    ChangeOperation.ofWrite? event.documentData (documents event.documentId)

theorem ChangeEvent.Describes.of_eq {event : ChangeEvent}
    {documents other : String → Option Document} (describes : event.Describes documents)
    (same : documents event.documentId = other event.documentId) : event.Describes other := by
  constructor
  · rw [← same]
    exact describes.previous
  · rw [← same]
    exact describes.operation

theorem ChangeEvent.of_ofWrite? {id : String} {document : Document} {previous : Option Document}
    {event : ChangeEvent} (made : ofWrite? id document previous = some event) :
    event.documentId = id ∧ event.documentData = document ∧
      event.previousDocumentData = previous ∧
        ChangeOperation.ofWrite? document previous = some event.operation := by
  obtain ⟨operation, changes, rfl⟩ := Option.map_eq_some_iff.mp made
  exact ⟨rfl, rfl, rfl, changes⟩

namespace Instance

theorem mem_eventsOf {applied : List Applied} {event : ChangeEvent} :
    event ∈ eventsOf applied ↔
      ∃ entry ∈ applied, entry.outcome.isSuccess = true ∧ entry.write.event = some event := by
  simp only [eventsOf, successes, List.mem_filterMap, List.mem_map, List.mem_filter]
  constructor
  · rintro ⟨_, ⟨entry, ⟨member, success⟩, rfl⟩, made⟩
    exact ⟨entry, member, success, made⟩
  · rintro ⟨entry, member, success, made⟩
    exact ⟨entry.write, ⟨entry, ⟨member, success⟩, rfl⟩, made⟩

theorem events_of_published {inst : Instance} {plan : WritePlan} {store : MemoryStore}
    {bulkId : String} {bulk : EventBulk}
    (publishes : (runPlan MemoryStore.backend inst plan store).1.bulk? bulkId = some bulk) :
    bulk.events = eventsOf (applyWrites MemoryStore.backend inst.table plan.writes store).1 := by
  have same := events_bulk? (runPlan MemoryStore.backend inst plan store).1 bulkId
  rw [publishes] at same
  exact same

/-- A published event is that of a write that succeeds, planned on the documents from before the
batch. -/
theorem PlansRows.write_of_event {inst : Instance} {rows : List WriteRow} {context : String}
    {store : MemoryStore} {stored : List (String × Document)} {ids : List String} {plan : WritePlan}
    (plans : PlansRows inst rows context store stored ids plan) {bulkId : String}
    {bulk : EventBulk}
    (publishes : (runPlan MemoryStore.backend inst plan store).1.bulk? bulkId = some bulk)
    {event : ChangeEvent} (member : event ∈ bulk.events) :
    ∃ number write, plan.writes[number]? = some write ∧ write.event = some event ∧
      write.row = ⟨event.documentId, event.documentData⟩ ∧
      Succeeds inst.table plan.writes store number event.documentId ∧
      event.Describes (store.document? inst.table) := by
  rw [events_of_published publishes] at member
  obtain ⟨entry, applied, success, made⟩ := mem_eventsOf.mp member
  obtain ⟨number, found, outcome⟩ := exists_number applied
  obtain ⟨row, _, _, isOf⟩ := plans.isOf (List.mem_of_getElem? found)
  have written := made
  rw [isOf.event] at written
  obtain ⟨own, data, previous, operation⟩ := ChangeEvent.of_ofWrite? written
  rw [outcome] at success
  refine ⟨number, entry.write, found, made, ?_, ⟨entry.write, found, own.symm, success⟩, ?_, ?_⟩
  · rw [own, data]
    exact isOf.stores
  · rw [previous, own]
  · rw [own, data, operation]

/-- A published event describes what its row changes in the documents from before the batch. It
describes what the row found, too, if no earlier row of the batch was written under the id. -/
theorem published_describes_plan {inst : Instance} {rows : List WriteRow}
    {context bulkId : String} {store : MemoryStore} {bulk : EventBulk}
    (publishes : inst.published MemoryStore.backend rows context bulkId store = some bulk) :
    ∃ plan, inst.IsPlan rows context store plan ∧ ∀ event ∈ bulk.events,
      ∃ number write, plan.writes[number]? = some write ∧ write.event = some event ∧
        write.row = ⟨event.documentId, event.documentData⟩ ∧
        Succeeds inst.table plan.writes store number event.documentId ∧
        event.Describes (store.document? inst.table) ∧
        (inst.FreshRevisions rows store ∨ (∀ earlier < number,
            ¬ Succeeds inst.table plan.writes store earlier event.documentId) →
          event.Describes ((reached MemoryStore.backend inst.table plan.writes number
            store).document? inst.table)) := by
  rcases bulkWrite_cases inst rows context bulkId store with
    ⟨_, _, unpublished, _⟩ | ⟨stored, ids, plan, plans, _, published⟩
  · rw [unpublished] at publishes
    cases publishes
  rw [published] at publishes
  refine ⟨plan, plans.isPlan, fun event member => ?_⟩
  obtain ⟨number, write, found, made, stores, succeeds, before⟩ :=
    plans.write_of_event publishes member
  refine ⟨number, write, found, made, stores, succeeds, before, fun undisturbed => ?_⟩
  have alone : ∀ earlier < number,
      ¬ Succeeds inst.table plan.writes store earlier event.documentId := by
    rcases undisturbed with fresh | alone
    · exact unsuccessful_of_succeeds plans.plannedOn plans.present (plans.misfits_of_fresh fresh)
        succeeds
    · exact alone
  obtain ⟨bounded, _⟩ := List.getElem?_eq_some_iff.mp found
  -- Nothing was written under the id so far, so the snapshot of the plan is still what is stored.
  have same := document?_reached_of_unsuccessful plans.plannedOn plans.present
    (Nat.le_of_lt bounded) alone
  exact before.of_eq same.symm

theorem published_describes_plan_sample :
    ∃ bulk,
      sample.published MemoryStore.backend revisions "import" "batch" revisedStore = some bulk ∧
      ∃ plan, sample.IsPlan revisions "import" revisedStore plan ∧ ∀ event ∈ bulk.events,
        ∃ number write, plan.writes[number]? = some write ∧ write.event = some event ∧
          write.row = ⟨event.documentId, event.documentData⟩ ∧
          Succeeds sample.table plan.writes revisedStore number event.documentId ∧
          event.Describes (revisedStore.document? sample.table) ∧
          (sample.FreshRevisions revisions revisedStore ∨ (∀ earlier < number,
              ¬ Succeeds sample.table plan.writes revisedStore earlier event.documentId) →
            event.Describes ((reached MemoryStore.backend sample.table plan.writes number
              revisedStore).document? sample.table)) := by
  have publishes : sample.published MemoryStore.backend revisions "import" "batch" revisedStore =
      some (.ofEvents "batch" [⟨.update, "a", (revise "2-c").document, (revise "2-c").previous⟩]
        "import") := rfl
  exact ⟨_, publishes, published_describes_plan publishes⟩

/-- A stored document without a revision. -/
def unrevisedStore : MemoryStore := ⟨[("items", ⟨1, [⟨"a", 0, ⟨[("id", .string "a")]⟩⟩]⟩)], 0⟩

/-- The document is deleted, and stored anew by a row that expects it as it was. -/
def unrevisedRows : List WriteRow :=
  [⟨⟨[("id", .string "a"), ("_deleted", .bool true)]⟩, some ⟨[("id", .string "a")]⟩⟩,
    ⟨⟨[("id", .string "a"), ("n", .ofNat 1)]⟩, some ⟨[("id", .string "a")]⟩⟩]

/-- The plan for the two rows. -/
def unrevisedPlan : WritePlan :=
  .ofVerdicts (WritePlan.verdicts [("a", ⟨[("id", .string "a")]⟩)] unrevisedRows ["a", "a"] 0)
    "import"

theorem isPlan_unrevisedPlan :
    sample.IsPlan unrevisedRows "import" unrevisedStore unrevisedPlan := by
  refine ⟨[("a", ⟨[("id", .string "a")]⟩)], fun row member id composes => ?_, rfl⟩
  simp only [unrevisedRows, List.mem_cons, List.not_mem_nil, or_false] at member
  rcases member with rfl | rfl <;> cases composes <;> rfl

/-- Without revisions, the event of a second row under an id misses what the first one did. -/
theorem published_misses_deletion :
    ∃ bulk, sample.published MemoryStore.backend unrevisedRows "import" "batch" unrevisedStore =
        some bulk ∧
      sample.IsPlan unrevisedRows "import" unrevisedStore unrevisedPlan ∧
      ∃ event ∈ bulk.events, ∃ write, unrevisedPlan.writes[1]? = some write ∧
        write.event = some event ∧
        Succeeds sample.table unrevisedPlan.writes unrevisedStore 1 event.documentId ∧
        ¬ event.Describes ((reached MemoryStore.backend sample.table unrevisedPlan.writes 1
          unrevisedStore).document? sample.table) := by
  refine ⟨_, rfl, isPlan_unrevisedPlan, _, .tail _ (.head _), _, rfl, rfl, ⟨_, rfl, rfl, rfl⟩, ?_⟩
  intro describes
  exact absurd describes.operation (by decide)

end Instance

end DocStore
