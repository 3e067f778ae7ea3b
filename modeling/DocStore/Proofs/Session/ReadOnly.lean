import DocStore.Proofs.Session.Faults

/-!
# Sessions that only read

A session whose settings allow reading only leaves the tables as it found them, with the failures
that are pending, and it publishes nothing: opening an instance creates no table, and an open
instance refuses every operation that writes. Direct calls on the tables are not calls of a session.
-/

namespace DocStore

/-- Nothing was ever published on a feed. -/
structure Feed.IsSilent {α : Type} (feed : Feed α) : Prop where
  sent : feed.sent = 0
  kept : feed.kept = []

namespace Feed.IsSilent

variable {α : Type} {feed after : Feed α}

theorem available (silent : feed.IsSilent) (position : Nat) : feed.available position = [] := by
  rw [Feed.available, silent.kept, List.drop_nil]

theorem subscribe? (silent : feed.IsSilent) {reader : String}
    (done : feed.subscribe? reader = some after) : after.IsSilent := by
  rw [Feed.subscribe?] at done
  split at done
  · cases done
  · cases done
    exact ⟨silent.sent, silent.kept⟩

theorem receive? (silent : feed.IsSilent) {reader : String} {received : Received α}
    (done : feed.receive? reader = some (received, after)) :
    received = feed.idle ∧ after = feed := by
  obtain ⟨position, _, got⟩ := Option.map_eq_some_iff.mp done
  rw [silent.available] at got
  cases got
  exact ⟨rfl, rfl⟩

theorem drain? (silent : feed.IsSilent) {reader : String} {batches : List α} {last : Received α}
    (done : feed.drain? reader = some (batches, last, after)) :
    batches = [] ∧ last = feed.idle ∧ after.IsSilent := by
  obtain ⟨position, _, got⟩ := Option.map_eq_some_iff.mp done
  rw [silent.available] at got
  cases got
  exact ⟨rfl, rfl, silent.sent, silent.kept⟩

end Feed.IsSilent

/-- The operations that write. -/
def Operation.isWrite : Operation → Bool
  | .bulkWrite .. => true
  | .cleanup _ => true
  | .remove => true
  | _ => false

namespace Instance

/-- An instance that must not write, and has published nothing. -/
structure OnlyReads (inst : Instance) : Prop where
  readOnly : inst.readOnly = true
  silent : inst.feed.IsSilent

theorem onlyReads_opened {settings : Settings} (readOnly : settings.readOnly = true)
    (params : InstanceParams) (key : PrimaryKey) (table : String) :
    (opened settings params key table).OnlyReads := ⟨readOnly, rfl, rfl⟩

/-- Where nothing must be written, a table is looked for and not created. -/
theorem prepareTable_of_readOnly {settings : Settings} (readOnly : settings.readOnly = true)
    (table : String) (store : MemoryStore) :
    ∃ answer, prepareTable MemoryStore.backend settings table store = (answer, store) := by
  have looks : (settings.autoCreate && !settings.readOnly) = false := by
    rw [readOnly, Bool.not_true, Bool.and_false]
  rw [prepareTable, looks]
  cases present : (store.table? table).isSome with
  | true => exact ⟨.ok (), by simp [MemoryStore.backend, MemoryStore.tableExists, present]⟩
  | false =>
      exact ⟨.error (.noTable table),
        by simp [MemoryStore.backend, MemoryStore.tableExists, present]⟩

theorem create_of_readOnly {settings : Settings} (readOnly : settings.readOnly = true)
    (params : InstanceParams) (store : MemoryStore) :
    (create MemoryStore.backend settings params store).2 = store ∧
      ∀ inst, (create MemoryStore.backend settings params store).1 = .ok inst →
        inst.OnlyReads := by
  rw [create]
  cases params.schema.validate with
  | error fault =>
      refine ⟨rfl, fun inst made => ?_⟩
      cases made
  | ok valid =>
      obtain ⟨key, version⟩ := valid
      obtain ⟨answer, prepared⟩ := prepareTable_of_readOnly readOnly
        (Schema.tableName params.databaseName params.collectionName version) store
      simp only [prepared]
      cases answer with
      | error fault =>
          refine ⟨rfl, fun inst made => ?_⟩
          cases made
      | ok _ =>
          refine ⟨rfl, fun inst made => ?_⟩
          cases made
          exact onlyReads_opened readOnly params key _

namespace OnlyReads

variable {inst : Instance} (reads : inst.OnlyReads)

include reads

theorem requireWritable :
    inst.requireWritable = .error (if inst.closed then .closed else .readOnly) := by
  rw [Instance.requireWritable, reads.readOnly]
  cases inst.closed <;> rfl

theorem published (rows : List WriteRow) (context bulkId : String) (store : MemoryStore) :
    inst.published MemoryStore.backend rows context bulkId store = none := by
  rw [Instance.published, reads.requireWritable]

/-- What writes is refused, the empty batch included. -/
theorem perform_of_isWrite {operation : Operation} (writes : operation.isWrite = true)
    (store : MemoryStore) :
    inst.perform MemoryStore.backend store operation =
      (.error (if inst.closed then .closed else .readOnly), inst, store) := by
  cases operation with
  | bulkWrite rows context bulkId => rw [perform, bulkWrite, reads.requireWritable]; rfl
  | cleanup olderThan => rw [perform, cleanup, reads.requireWritable]; rfl
  | remove => rw [perform, remove, reads.requireWritable]; rfl
  | _ => cases writes

/-- No operation changes the store, and the instance goes on reading only. -/
theorem perform (operation : Operation) (store : MemoryStore) :
    (inst.perform MemoryStore.backend store operation).2.1.OnlyReads ∧
      (inst.perform MemoryStore.backend store operation).2.2 = store := by
  cases operation with
  | bulkWrite rows context bulkId => rw [reads.perform_of_isWrite rfl]; exact ⟨reads, rfl⟩
  | cleanup olderThan => rw [reads.perform_of_isWrite rfl]; exact ⟨reads, rfl⟩
  | remove => rw [reads.perform_of_isWrite rfl]; exact ⟨reads, rfl⟩
  | find ids withDeleted => exact ⟨reads, store_find inst ids withDeleted store⟩
  | query spec => exact ⟨reads, store_query inst spec store⟩
  | queryMango mango => exact ⟨reads, store_queryMango inst mango store⟩
  | count spec => exact ⟨reads, store_count inst spec store⟩
  | attachment => exact ⟨reads, rfl⟩
  | subscribe stream =>
      rw [Instance.perform, subscribe]
      cases inst.requireOpen with
      | error fault => exact ⟨reads, rfl⟩
      | ok _ =>
          cases done : inst.feed.subscribe? stream with
          | none => exact ⟨reads, rfl⟩
          | some feed => exact ⟨⟨reads.readOnly, reads.silent.subscribe? done⟩, rfl⟩
  | close => exact ⟨⟨reads.readOnly, reads.silent.sent, reads.silent.kept⟩, rfl⟩

end OnlyReads

end Instance

namespace Session

/-- A session that must not write, on a store that it found. -/
structure OnlyReads (store : MemoryStore) (session : Session MemoryStore) : Prop where
  readOnly : session.settings.readOnly = true
  state : session.state = store
  instances : ∀ entry ∈ session.instances, entry.2.OnlyReads
  retired : ∀ feed ∈ session.retired, feed.IsSilent

theorem onlyReads_start {settings : Settings} (readOnly : settings.readOnly = true)
    (store : MemoryStore) : (start settings store).OnlyReads store :=
  ⟨readOnly, rfl, List.forall_mem_nil _, List.forall_mem_nil _⟩

namespace OnlyReads

variable {store : MemoryStore} {session : Session MemoryStore} (reads : session.OnlyReads store)

include reads

theorem instance? {handle : String} {inst : Instance}
    (found : session.instance? handle = some inst) : inst.OnlyReads :=
  reads.instances (handle, inst) (Keyed.mem_of_lookup found)

theorem feeds : ∀ feed ∈ session.feeds, feed.IsSilent := by
  intro feed member
  rcases List.mem_append.mp member with own | retired
  · obtain ⟨entry, inside, rfl⟩ := List.mem_map.mp own
    exact (reads.instances entry inside).silent
  · exact reads.retired feed retired

theorem setInstance (handle : String) {inst : Instance} (own : inst.OnlyReads) :
    (session.setInstance handle inst).OnlyReads store where
  readOnly := reads.readOnly
  state := reads.state
  instances entry member := by
    rcases Keyed.mem_of_mem_put member with same | other
    · rw [same]
      exact own
    · exact reads.instances entry other
  retired := reads.retired

theorem mapFeeds {change : Feed EventBulk → Feed EventBulk}
    (silent : ∀ feed, feed.IsSilent → (change feed).IsSilent) :
    (session.mapFeeds change).OnlyReads store where
  readOnly := reads.readOnly
  state := reads.state
  instances entry member := by
    obtain ⟨before, inside, rfl⟩ := List.mem_map.mp member
    have own := reads.instances before inside
    exact ⟨own.readOnly, silent _ own.silent⟩
  retired feed member := by
    obtain ⟨before, inside, rfl⟩ := List.mem_map.mp member
    exact silent before (reads.retired before inside)

theorem dropStream (stream : String) : (session.dropStream stream).OnlyReads store :=
  reads.mapFeeds fun _ silent => ⟨silent.sent, silent.kept⟩

theorem setStreamFeed (stream : String) {feed : Feed EventBulk} (silent : feed.IsSilent) :
    (session.setStreamFeed stream feed).OnlyReads store := by
  refine reads.mapFeeds fun old unpublished => ?_
  split
  · exact silent
  · exact unpublished

theorem retire (handle : String) : (session.retire handle).OnlyReads store := by
  rw [Session.retire]
  split
  · next inst found =>
      refine ⟨reads.readOnly, reads.state, reads.instances, fun feed member => ?_⟩
      rcases List.mem_append.mp member with other | own
      · exact reads.retired feed other
      · rw [List.mem_singleton.mp own]
        exact ⟨(reads.instance? found).silent.sent, (reads.instance? found).silent.kept⟩
  · exact reads

theorem streamFeed? {stream : String} {feed : Feed EventBulk}
    (found : session.streamFeed? stream = some feed) : feed.IsSilent :=
  reads.feeds feed (List.mem_of_find?_eq_some found)

/-! ## Calls -/

theorem create (handle : String) (params : InstanceParams) :
    (session.create MemoryStore.backend handle params).2.OnlyReads store := by
  obtain ⟨kept, made⟩ := Instance.create_of_readOnly reads.readOnly params session.state
  rw [Session.create]
  rcases result : Instance.create MemoryStore.backend session.settings params session.state with
    ⟨fault | inst, state⟩
  all_goals
    rw [result] at kept made
    cases kept
  · exact ⟨reads.readOnly, reads.state, reads.instances, reads.retired⟩
  · have same : session.OnlyReads store := reads
    exact (same.retire handle).setInstance handle (made inst rfl)

theorem perform? {handle : String} {operation : Operation} {answer : Except StoreError Answer}
    {after : Session MemoryStore}
    (done : session.perform? MemoryStore.backend handle operation = some (answer, after)) :
    after.OnlyReads store := by
  obtain ⟨inst, changed, state, found, performed, ended⟩ := perform?_cases done
  obtain ⟨own, kept⟩ := (reads.instance? found).perform operation session.state
  rw [performed] at own kept
  cases kept
  rcases ended with ⟨_, _, rfl⟩ | ⟨_, _, rfl⟩
  · exact reads.setInstance handle own
  · have released : (session.released operation).OnlyReads store := by
      cases operation with
      | subscribe stream => exact reads.dropStream stream
      | _ => exact reads
    have restored : Session.OnlyReads store
        { session.released operation with state := session.state } :=
      ⟨released.readOnly, reads.state, released.instances, released.retired⟩
    exact restored.setInstance handle own

/-- A write on an open instance is refused as one on what can only be read. -/
theorem perform?_of_isWrite {handle : String} {inst : Instance}
    (found : session.instance? handle = some inst) (isOpen : inst.closed = false)
    {operation : Operation} (writes : operation.isWrite = true) :
    session.perform? MemoryStore.backend handle operation = some (.error .readOnly, session) := by
  have refused := (reads.instance? found).perform_of_isWrite writes session.state
  rw [isOpen, if_neg Bool.false_ne_true] at refused
  simp only [Session.perform?, found, Option.map_some, refused]
  exact congrArg (fun after => some (Except.error StoreError.readOnly, after))
    (setInstance_self found)

theorem receive? {stream : String} {received : Received EventBulk} {after : Session MemoryStore}
    (done : session.receive? stream = some (received, after)) :
    after.OnlyReads store ∧ ∀ batch, received ≠ .batch batch := by
  obtain ⟨feed, found, taken⟩ := Option.bind_eq_some_iff.mp done
  obtain ⟨⟨_, left⟩, got, same⟩ := Option.map_eq_some_iff.mp taken
  cases same
  have silent := reads.streamFeed? found
  obtain ⟨rfl, rfl⟩ := silent.receive? got
  refine ⟨reads.setStreamFeed stream silent, fun batch => ?_⟩
  rw [Feed.idle]
  split <;> exact fun same => nomatch same

theorem drain? {stream : String} {batches : List EventBulk} {last : Received EventBulk}
    {after : Session MemoryStore} (done : session.drain? stream = some (batches, last, after)) :
    after.OnlyReads store ∧ batches = [] := by
  obtain ⟨feed, found, taken⟩ := Option.bind_eq_some_iff.mp done
  obtain ⟨⟨_, _, left⟩, got, same⟩ := Option.map_eq_some_iff.mp taken
  cases same
  obtain ⟨none, _, silent⟩ := (reads.streamFeed? found).drain? got
  exact ⟨reads.setStreamFeed stream silent, none⟩

end OnlyReads

end Session

/-! ## Runs -/

/-- The calls that are made on the tables directly. -/
def SessionCall.isDirect : SessionCall → Bool
  | .ensureTable _ => true
  | .failNextWrites _ => true
  | _ => false

namespace Story

/-- A story that begins with tables. -/
def startOn (settings : Settings) (store : MemoryStore) : Story :=
  ⟨.start settings store, [], fun _ => []⟩

variable {store : MemoryStore} {story : Story}

theorem onlyReads_withSession (reads : story.session.OnlyReads store)
    {session? : Option (Session MemoryStore)}
    (kept : ∀ session, session? = some session → session.OnlyReads store) :
    (story.withSession session?).session.OnlyReads store := by
  cases session? with
  | none => exact reads
  | some session => exact kept session rfl

theorem onlyReads_extend (reads : story.session.OnlyReads store) {call : SessionCall}
    (indirect : call.isDirect = false) : (story.extend call).session.OnlyReads store := by
  cases call with
  | create handle params =>
      have created := reads.create handle params
      rw [extend]
      rcases result : story.session.create MemoryStore.backend handle params with
        ⟨fault | inst, after⟩
      · rw [result] at created
        exact created
      · rw [result] at created
        exact created
  | perform handle operation =>
      rw [extend]
      split
      · next inst answer after found done => exact reads.perform? done
      · exact reads
  | receive stream =>
      refine onlyReads_withSession reads fun session taken => ?_
      obtain ⟨⟨received, after⟩, done, rfl⟩ := Option.map_eq_some_iff.mp taken
      exact (reads.receive? done).1
  | drain stream =>
      refine onlyReads_withSession reads fun session taken => ?_
      obtain ⟨⟨batches, last, after⟩, done, rfl⟩ := Option.map_eq_some_iff.mp taken
      exact (reads.drain? done).1
  | unsubscribe stream =>
      refine onlyReads_withSession reads fun session dropped => ?_
      obtain ⟨_, _, rfl⟩ := Option.map_eq_some_iff.mp dropped
      exact reads.dropStream stream
  | ensureTable name => cases indirect
  | failNextWrites count => cases indirect

theorem onlyReads_run (reads : story.session.OnlyReads store) {calls : List SessionCall}
    (indirect : ∀ call ∈ calls, call.isDirect = false) :
    (story.run calls).session.OnlyReads store := by
  induction calls generalizing story with
  | nil => exact reads
  | cons call rest ih =>
      have extended := onlyReads_extend reads (indirect call (.head rest))
      exact ih extended fun other member => indirect other (.tail call member)

/-- A session that must not write keeps the tables it was started on, publishes nothing, and refuses
every write on an open instance, whatever was called before. -/
theorem read_only_run {settings : Settings} (readOnly : settings.readOnly = true)
    (store : MemoryStore) {calls : List SessionCall}
    (indirect : ∀ call ∈ calls, call.isDirect = false) :
    let session := ((startOn settings store).run calls).session
    session.state = store ∧
      (∀ feed ∈ session.feeds, feed.sent = 0 ∧ feed.kept = []) ∧
      (∀ stream received after, session.receive? stream = some (received, after) →
        ∀ batch, received ≠ .batch batch) ∧
      ∀ handle inst, session.instance? handle = some inst →
        (∀ rows context bulkId,
          inst.published MemoryStore.backend rows context bulkId store = none) ∧
        (inst.closed = false → ∀ operation, operation.isWrite = true →
          session.perform? MemoryStore.backend handle operation =
            some (.error .readOnly, session)) := by
  intro session
  have started : (startOn settings store).session.OnlyReads store :=
    Session.onlyReads_start readOnly store
  have reads : session.OnlyReads store := onlyReads_run started indirect
  refine ⟨reads.state, fun feed member => ?_, fun _ _ _ done => (reads.receive? done).2,
    fun handle inst found => ⟨fun rows context bulkId => ?_, fun isOpen operation writes => ?_⟩⟩
  · exact ⟨(reads.feeds feed member).sent, (reads.feeds feed member).kept⟩
  · exact (reads.instance? found).published rows context bulkId store
  · exact reads.perform?_of_isWrite found isOpen writes

/-- A table with a deleted document, and a pending failure. -/
def keptStore : MemoryStore :=
  ⟨[("shop_items_0", ⟨1, [⟨"a", 0, ⟨[("id", .string "a"), ("_deleted", .bool true),
    ("_meta", .object [("lwt", .ofNat 1)])]⟩⟩]⟩)], 1⟩

theorem read_only_run_sample :
    let settings := { Settings.inMemory with readOnly := true }
    let calls : List SessionCall := [.create "main" sampleParams, .perform "main" (.subscribe "s"),
      .perform "main" (.bulkWrite [⟨sampleDocument "b" [], none⟩] "sample" "batch"),
      .perform "main" (.cleanup (.ofInt 2)), .perform "main" .remove, .receive "s"]
    let session := ((startOn settings keptStore).run calls).session
    settings.readOnly = true ∧ (∀ call ∈ calls, call.isDirect = false) ∧
      ∃ inst, session.instance? "main" = some inst ∧ inst.closed = false ∧
        session.state = keptStore ∧
        session.perform? MemoryStore.backend "main" (.bulkWrite [] "sample" "batch") =
          some (.error .readOnly, session) := by
  intro settings calls session
  have indirect : ∀ call ∈ calls, call.isDirect = false := by decide
  have opened : (session.instance? "main").map Instance.closed = some false := by decide +kernel
  obtain ⟨inst, found, isOpen⟩ := Option.map_eq_some_iff.mp opened
  have readOnly : settings.readOnly = true := rfl
  obtain ⟨state, _, _, instances⟩ := read_only_run readOnly keptStore indirect
  exact ⟨readOnly, indirect, inst, found, isOpen, state,
    (instances "main" inst found).2 isOpen _ rfl⟩

end Story

end DocStore
