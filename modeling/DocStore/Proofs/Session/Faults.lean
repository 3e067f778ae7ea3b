import DocStore.Proofs.Session.Story

/-!
# Calls that fail

Every call on a session checks all that can be wrong before its first effect. A call that reports a
fault has changed nothing: no table, no pending failure, no instance and no feed.
-/

namespace DocStore

namespace Instance

/-- An operation that fails leaves its instance and the tables as they were. -/
theorem unchanged_of_error {inst changed : Instance} {operation : Operation}
    {store after : MemoryStore} {fault : StoreError}
    (failed : inst.perform MemoryStore.backend store operation = (.error fault, changed, after)) :
    changed = inst ∧ after = store := by
  have kept : (inst.perform MemoryStore.backend store operation).2 = (inst, store) := by
    cases operation with
    | bulkWrite rows context bulkId =>
        rw [perform] at failed ⊢
        rcases bulkWrite_cases inst rows context bulkId store with
          ⟨answer, done, _⟩ | ⟨_, _, _, _, done, _⟩
        · rw [done]
        · rw [done] at failed
          cases failed
    | find ids withDeleted => exact congrArg (Prod.mk inst) (store_find inst ids withDeleted store)
    | query spec => exact congrArg (Prod.mk inst) (store_query inst spec store)
    | queryMango mango => exact congrArg (Prod.mk inst) (store_queryMango inst mango store)
    | count spec => exact congrArg (Prod.mk inst) (store_count inst spec store)
    | cleanup olderThan =>
        rw [perform] at failed ⊢
        rcases cleanup_cases inst olderThan store with ⟨answer, done⟩ | ⟨_, removed, _, done⟩
        · rw [done]
        · rw [done] at failed
          cases failed
    | attachment => rfl
    | subscribe stream =>
        rw [perform] at failed ⊢
        cases opened : inst.subscribe stream with
        | error other => rfl
        | ok subscribed =>
            rw [opened] at failed
            cases failed
    | remove =>
        rw [perform] at failed ⊢
        rcases remove_cases inst store with ⟨other, done⟩ | done
        · rw [done]
        · rw [done] at failed
          cases failed
    | close => cases failed
  rw [failed] at kept
  cases kept
  exact ⟨rfl, rfl⟩

end Instance

namespace Session

theorem setInstance_self {session : Session MemoryStore} {handle : String} {inst : Instance}
    (found : session.instance? handle = some inst) :
    session.setInstance handle inst = session := by
  rw [setInstance, Keyed.put_of_lookup found]

/-- Whatever call on a session fails, opening an instance or an operation on one: after it the
session is as it was. -/
theorem unchanged_of_fault (session : Session MemoryStore) (handle : String) :
    (∀ params fault after,
      session.create MemoryStore.backend handle params = (.error fault, after) →
        after = session) ∧
    ∀ operation fault after,
      session.perform? MemoryStore.backend handle operation = some (.error fault, after) →
        after = session := by
  refine ⟨fun params fault after failed => ?_, fun operation fault after failed => ?_⟩
  · rw [create] at failed
    rcases Instance.create_cases session.settings params session.state with
      ⟨other, done⟩ | ⟨key, version, state, _, done, _⟩
    · rw [done] at failed
      cases failed
      rfl
    · rw [done] at failed
      cases failed
  · obtain ⟨inst, changed, state, found, performed, ended⟩ := perform?_cases failed
    obtain ⟨rfl, rfl⟩ := Instance.unchanged_of_error performed
    rcases ended with ⟨_, _, rfl⟩ | ⟨_, same, _⟩
    · exact setInstance_self found
    · cases same

/-- A schema without a version cannot be opened, and a batch with a document that has no id cannot
be written, even behind one that could. -/
theorem unchanged_of_fault_sample :
    let session := ((Story.start .inMemory).run Story.sampleCalls).session
    let unversioned : InstanceParams := ⟨"shop", "items", ⟨none, some (.field "id"), []⟩⟩
    let batch : List WriteRow := [⟨Story.sampleDocument "e" [], none⟩, ⟨⟨[]⟩, none⟩]
    (∃ fault after, session.create MemoryStore.backend "main" unversioned =
      (.error fault, after) ∧ after = session) ∧
    ∃ fault after, session.perform? MemoryStore.backend "main" (.bulkWrite batch "sample" "batch") =
      some (.error fault, after) ∧ after = session := by
  intro session unversioned batch
  obtain ⟨opening, operating⟩ := session.unchanged_of_fault "main"
  have written := operating (.bulkWrite batch "sample" "batch")
  exact ⟨⟨_, _, rfl, opening unversioned _ _ rfl⟩, _, _, rfl, written _ _ rfl⟩

end Session

end DocStore
