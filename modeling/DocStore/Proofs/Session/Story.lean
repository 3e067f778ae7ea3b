import DocStore.Proofs.Backend.Rearranged
import DocStore.Proofs.Query.Shortcut
import DocStore.Proofs.Session.Effect

/-!
# Stories of sessions

A story is a session on tables in memory together with what one could have noted on the way: which
instances were opened, and which ids the responses of the bulk writes report as inserted. After
whatever calls, each row is one that an instance opened on its table would write, and the rows stand
in the order of their last insertions.
-/

namespace DocStore

def Instance.mapFeed (change : Feed EventBulk → Feed EventBulk) (inst : Instance) : Instance :=
  { inst with feed := change inst.feed }

namespace Session

/-- Every instance of a session is one of those opened, up to its feed and its closed flag. -/
def Knows (session : Session MemoryStore) (opened : List Instance) : Prop :=
  ∀ handle inst, session.instance? handle = some inst →
    ∃ original ∈ opened, original.table = inst.table ∧ original.primaryKey = inst.primaryKey

variable {session : Session MemoryStore} {opened : List Instance} {inst : Instance}
  {handle : String}

theorem Knows.mono {more : List Instance} (knows : session.Knows opened)
    (included : opened ⊆ more) : session.Knows more := by
  intro handle inst found
  obtain ⟨original, member, same⟩ := knows handle inst found
  exact ⟨original, included member, same⟩

theorem Knows.setInstance (knows : session.Knows opened)
    (known : ∃ original ∈ opened, original.table = inst.table ∧
      original.primaryKey = inst.primaryKey) :
    (session.setInstance handle inst).Knows opened := by
  intro other found stored
  rw [instance?, Session.setInstance, Keyed.lookup_put] at stored
  split at stored
  · cases stored
    exact known
  · exact knows other found stored

theorem instance?_mapFeeds (session : Session MemoryStore)
    (change : Feed EventBulk → Feed EventBulk) (handle : String) :
    (session.mapFeeds change).instance? handle =
      (session.instance? handle).map (Instance.mapFeed change) :=
  Keyed.lookup_map (Instance.mapFeed change) session.instances handle

theorem Knows.mapFeeds (knows : session.Knows opened) (change : Feed EventBulk → Feed EventBulk) :
    (session.mapFeeds change).Knows opened := by
  intro handle inst found
  rw [instance?_mapFeeds] at found
  obtain ⟨before, stored, rfl⟩ := Option.map_eq_some_iff.mp found
  exact knows handle before stored

theorem Knows.withState (knows : session.Knows opened) (state : MemoryStore) :
    Session.Knows { session with state } opened := knows

theorem Knows.retire (knows : session.Knows opened) (handle : String) :
    (session.retire handle).Knows opened := by
  rw [Session.retire]
  split <;> exact knows

theorem Knows.released (knows : session.Knows opened) (operation : Operation) :
    (session.released operation).Knows opened := by
  cases operation with
  | subscribe stream => exact knows.mapFeeds _
  | _ => exact knows

theorem state_create {σ : Type} (backend : Backend σ) (session : Session σ) (handle : String)
    (params : InstanceParams) :
    (session.create backend handle params).2.state =
      (Instance.create backend session.settings params session.state).2 := by
  rw [Session.create]
  rcases Instance.create backend session.settings params session.state with ⟨fault | inst, state⟩
  · rfl
  · simp only [Session.retire]
    split <;> rfl

theorem Knows.create_error (knows : session.Knows opened) {params : InstanceParams}
    {fault : StoreError} {after : Session MemoryStore}
    (done : session.create MemoryStore.backend handle params = (.error fault, after)) :
    after.Knows opened := by
  rw [Session.create] at done
  rcases result : Instance.create MemoryStore.backend session.settings params session.state with
    ⟨fault | created, state⟩
  · rw [result] at done
    cases done
    exact knows
  · rw [result] at done
    cases done

theorem Knows.create (knows : session.Knows opened) {params : InstanceParams} {inst : Instance}
    {after : Session MemoryStore}
    (done : session.create MemoryStore.backend handle params = (.ok inst, after)) :
    after.Knows (opened ++ [inst]) := by
  rw [Session.create] at done
  rcases result : Instance.create MemoryStore.backend session.settings params session.state with
    ⟨fault | created, state⟩
  · rw [result] at done
    cases done
  · rw [result] at done
    cases done
    have others : session.Knows (opened ++ [inst]) := knows.mono (List.subset_append_left _ _)
    exact ((others.withState state).retire handle).setInstance
      ⟨inst, List.mem_append_right _ (.head _), rfl, rfl⟩

/-- An operation on a handle is performed on its instance; only one that succeeds may drop the
stream that it opens anew. -/
theorem perform?_cases {operation : Operation} {answer : Except StoreError Answer}
    {after : Session MemoryStore}
    (done : session.perform? MemoryStore.backend handle operation = some (answer, after)) :
    ∃ inst changed state, session.instance? handle = some inst ∧
      inst.perform MemoryStore.backend session.state operation = (answer, changed, state) ∧
      ((∃ fault, answer = .error fault ∧
        after = { session with state }.setInstance handle changed) ∨
      ∃ reply, answer = .ok reply ∧
        after = { session.released operation with state }.setInstance handle changed) := by
  obtain ⟨inst, found, performed⟩ := Option.map_eq_some_iff.mp done
  rcases result : inst.perform MemoryStore.backend session.state operation with
    ⟨fault | reply, changed, state⟩
  · rw [result] at performed
    cases performed
    exact ⟨inst, changed, state, found, result, .inl ⟨fault, rfl, rfl⟩⟩
  · rw [result] at performed
    cases performed
    exact ⟨inst, changed, state, found, result, .inr ⟨reply, rfl, rfl⟩⟩

theorem Knows.perform? (knows : session.Knows opened) {operation : Operation}
    {answer : Except StoreError Answer} {after : Session MemoryStore}
    (done : session.perform? MemoryStore.backend handle operation = some (answer, after)) :
    after.Knows opened := by
  obtain ⟨inst, changed, state, found, performed, ended⟩ := perform?_cases done
  obtain ⟨feed, closed, result⟩ :=
    inst.exists_perform MemoryStore.backend operation session.state
  simp only [performed] at result
  subst result
  have known := knows handle inst found
  rcases ended with ⟨_, _, rfl⟩ | ⟨_, _, rfl⟩
  · exact (knows.withState state).setInstance known
  · exact ((knows.released operation).withState state).setInstance known

end Session

/-! ## Stories -/

/-- What is done with a session; a number of the next writes may be made to fail. -/
inductive SessionCall where
  | create (handle : String) (params : InstanceParams)
  | perform (handle : String) (operation : Operation)
  | receive (stream : String)
  | drain (stream : String)
  | unsubscribe (stream : String)
  | ensureTable (name : String)
  | failNextWrites (count : Nat)

/-- A session with the instances that were opened so far, and the ids inserted into each table. -/
structure Story where
  session : Session MemoryStore
  opened : List Instance
  inserted : String → List String

namespace Story

def start (settings : Settings) : Story := ⟨.start settings .empty, [], fun _ => []⟩

def withSession (story : Story) (session? : Option (Session MemoryStore)) : Story :=
  { story with session := session?.getD story.session }

def extend (story : Story) : SessionCall → Story
  | .create handle params =>
      match story.session.create MemoryStore.backend handle params with
      | (.ok inst, session) => { story with session, opened := story.opened ++ [inst] }
      | (.error _, session) => { story with session }
  | .perform handle operation =>
      match story.session.instance? handle,
          story.session.perform? MemoryStore.backend handle operation with
      | some inst, some (answer, session) =>
          { story with
            session
            inserted := MemoryStore.extendLog inst.table (insertedIds answer) story.inserted }
      | _, _ => story
  | .receive stream => story.withSession ((story.session.receive? stream).map (·.2))
  | .drain stream => story.withSession ((story.session.drain? stream).map (·.2.2))
  | .unsubscribe stream => story.withSession (story.session.unsubscribe? stream)
  | .ensureTable name =>
      story.withSession (some { story.session with
        state := (MemoryStore.ensureTable name story.session.state).2 })
  | .failNextWrites count =>
      story.withSession (some { story.session with
        state := story.session.state.failNextWrites count })

def run (story : Story) (calls : List SessionCall) : Story := calls.foldl extend story

/-- A row of a table that an instance on it would write. -/
def Admits (opened : List Instance) (name : String) (row : StoredRow) : Prop :=
  ∃ inst ∈ opened, inst.table = name ∧ inst.Writes row

structure Sound (story : Story) : Prop where
  knows : story.session.Knows story.opened
  wellKept : story.session.state.WellKept (Admits story.opened) story.inserted

variable {story : Story}

theorem sound_start (settings : Settings) : (start settings).Sound where
  knows _ _ found := nomatch found
  wellKept _ _ found := nomatch found

theorem Admits.mono {opened more : List Instance} {name : String} {row : StoredRow}
    (admits : Admits opened name row) (included : opened ⊆ more) : Admits more name row := by
  obtain ⟨inst, member, own, writes⟩ := admits
  exact ⟨inst, included member, own, writes⟩

theorem Sound.create (sound : story.Sound) (handle : String) (params : InstanceParams) :
    (story.extend (.create handle params)).Sound := by
  obtain ⟨name, altered⟩ := Instance.altered_create story.session.settings params
    story.session.state
  have state := Session.state_create MemoryStore.backend story.session handle params
  have kept := (altered (Admits story.opened name)).wellKept (fun _ admitted => admitted)
    sound.wellKept
  rw [MemoryStore.extendLog_nil, ← state] at kept
  rw [extend]
  rcases result : story.session.create MemoryStore.backend handle params with
    ⟨fault | inst, session⟩
  · rw [result] at kept
    exact ⟨sound.knows.create_error result, kept⟩
  · rw [result] at kept
    refine ⟨sound.knows.create result, kept.imp fun name row admits => ?_⟩
    exact admits.mono (List.subset_append_left _ _)

theorem Sound.perform (sound : story.Sound) (handle : String) (operation : Operation) :
    (story.extend (.perform handle operation)).Sound := by
  rw [extend]
  split
  · next inst answer session found done =>
      obtain ⟨_, changed, state, same, performed, ended⟩ := Session.perform?_cases done
      rw [found] at same
      cases same
      have reached : session.state = state := by
        rcases ended with ⟨_, _, rfl⟩ | ⟨_, _, rfl⟩ <;> rfl
      have altered := inst.altered_perform operation story.session.state
      simp only [performed, ← reached] at altered
      refine ⟨sound.knows.perform? done, altered.wellKept (fun row writes => ?_) sound.wellKept⟩
      -- The instance may have been closed or subscribed to since it was opened, but it still writes
      -- what the opened one would.
      obtain ⟨original, member, table, key⟩ := sound.knows handle inst found
      refine ⟨original, member, table, ?_⟩
      rw [Instance.Writes, key]
      exact writes
  · exact sound

/-- What changes neither the tables nor the instances, up to their feeds. -/
theorem Sound.withSession (sound : story.Sound) {session? : Option (Session MemoryStore)}
    (mapped : ∀ session ∈ session?, ∃ change, session = story.session.mapFeeds change) :
    (story.withSession session?).Sound := by
  cases session? with
  | none => exact sound
  | some session =>
      obtain ⟨change, rfl⟩ := mapped session rfl
      exact ⟨sound.knows.mapFeeds change, sound.wellKept⟩

theorem Sound.extend (sound : story.Sound) (call : SessionCall) : (story.extend call).Sound := by
  cases call with
  | create handle params => exact sound.create handle params
  | perform handle operation => exact sound.perform handle operation
  | receive stream =>
      refine sound.withSession fun session received => ?_
      obtain ⟨_, done, rfl⟩ := Option.map_eq_some_iff.mp received
      obtain ⟨_, _, taken⟩ := Option.bind_eq_some_iff.mp done
      obtain ⟨⟨_, feed⟩, _, rfl⟩ := Option.map_eq_some_iff.mp taken
      exact ⟨fun old => if Session.isReader stream old then feed else old, rfl⟩
  | drain stream =>
      refine sound.withSession fun session drained => ?_
      obtain ⟨_, done, rfl⟩ := Option.map_eq_some_iff.mp drained
      obtain ⟨_, _, taken⟩ := Option.bind_eq_some_iff.mp done
      obtain ⟨⟨_, _, feed⟩, _, rfl⟩ := Option.map_eq_some_iff.mp taken
      exact ⟨fun old => if Session.isReader stream old then feed else old, rfl⟩
  | unsubscribe stream =>
      refine sound.withSession fun session dropped => ?_
      obtain ⟨_, _, rfl⟩ := Option.map_eq_some_iff.mp dropped
      exact ⟨_, rfl⟩
  | ensureTable name =>
      have altered : MemoryStore.Altered name (Admits story.opened name) story.session.state []
          (MemoryStore.ensureTable name story.session.state).2 := by
        rw [MemoryStore.ensureTable]
        split
        · exact .refl _
        · next absent => exact .single (.created absent)
      have kept := altered.wellKept (fun _ admitted => admitted) sound.wellKept
      rw [MemoryStore.extendLog_nil] at kept
      exact ⟨sound.knows, kept⟩
  | failNextWrites count => exact ⟨sound.knows, sound.wellKept⟩

theorem Sound.run (sound : story.Sound) (calls : List SessionCall) : (story.run calls).Sound := by
  induction calls generalizing story with
  | nil => exact sound
  | cons call rest ih => exact ih (sound.extend call)

theorem sound_run (settings : Settings) (calls : List SessionCall) :
    ((start settings).run calls).Sound :=
  (sound_start settings).run calls

/-! ## What the notes tell of the tables -/

/-- All instances on a table were opened with the same primary key. -/
def OneKey (opened : List Instance) : Prop :=
  ∀ a ∈ opened, ∀ b ∈ opened, a.table = b.table → a.primaryKey = b.primaryKey

theorem Admits.composed {opened : List Instance} {name : String} {row : StoredRow}
    (admits : Admits opened name row) (oneKey : OneKey opened) {inst : Instance}
    (member : inst ∈ opened) (own : inst.table = name) :
    inst.primaryKey.compose row.data = .ok row.id := by
  obtain ⟨other, among, same, writes⟩ := admits
  rw [oneKey inst member other among (own.trans same.symm)]
  exact writes

/-- After whatever calls, a table has one row for each id, with the id that the primary key
composes, and sequence numbers that are distinct and below the next one. A query for everything
lists the documents by the last insertion of their ids, in whatever order the rows are kept: an
update moves nothing, and what is inserted again comes last. -/
theorem run_keeps_tables (settings : Settings) (calls : List SessionCall) :
    let story := (start settings).run calls
    OneKey story.opened → ∀ name table, story.session.state.table? name = some table →
      (table.rows.map MemoryRow.id).Nodup ∧
      (∀ row ∈ table.rows, (∃ inst ∈ story.opened, inst.table = name) ∧
        ∀ inst ∈ story.opened, inst.table = name →
          inst.primaryKey.compose row.data = .ok row.id) ∧
      (table.rows.map MemoryRow.seq).Nodup ∧ (∀ row ∈ table.rows, row.seq < table.nextSeq) ∧
      ∀ store, story.session.state.Rearranged store →
        ∀ inst : Instance, inst.table = name → inst.closed = false →
          (inst.query MemoryStore.backend .all store).1 =
            .ok ((story.inserted name).dedup.filterMap table.document?) := by
  intro story oneKey name table found
  have kept := (sound_run settings calls).wellKept name table found
  refine ⟨kept.distinctIds, fun row member => ⟨?_, ?_⟩, kept.distinctSeqs, kept.below, ?_⟩
  · obtain ⟨inst, among, own, _⟩ := kept.admitted row member
    exact ⟨inst, among, own⟩
  · intro inst among own
    exact (kept.admitted row member).composed oneKey among own
  · rintro store rearranged inst rfl isOpen
    obtain ⟨moved, foundThere, same⟩ := rearranged.exists_table found
    rw [Instance.query_eq isOpen foundThere, MemoryTable.select_all, ← kept.ordered_eq same,
      kept.documents_ordered]

/-- A document of a sample collection. -/
def sampleDocument (id : String) (more : List (String × Json)) : Document :=
  ⟨("id", .string id) :: more⟩

def sampleParams : InstanceParams := ⟨"shop", "items", ⟨some 0, some (.field "id"), []⟩⟩

/-- Of two documents the first is updated, and the second deleted, purged and inserted again behind
a third one. One insertion fails. -/
def sampleCalls : List SessionCall :=
  let expired := [("_deleted", .bool true), ("_meta", .object [("lwt", .ofNat 1)])]
  let write (bulkId : String) (rows : List WriteRow) : SessionCall :=
    .perform "main" (.bulkWrite rows "sample" bulkId)
  [.create "main" sampleParams,
    write "first" [⟨sampleDocument "a" [], none⟩, ⟨sampleDocument "b" [], none⟩],
    write "second" [⟨sampleDocument "a" [("n", .ofNat 1)], some (sampleDocument "a" [])⟩,
      ⟨sampleDocument "b" expired, some (sampleDocument "b" [])⟩],
    .perform "main" (.cleanup (.ofInt 2)), .failNextWrites 1,
    write "third" [⟨sampleDocument "d" [], none⟩, ⟨sampleDocument "c" [], none⟩],
    write "fourth" [⟨sampleDocument "b" [], none⟩]]

theorem run_keeps_tables_sample :
    let story := (start .inMemory).run sampleCalls
    OneKey story.opened ∧ story.inserted "shop_items_0" = ["a", "b", "c", "b"] ∧
      ∃ table, story.session.state.table? "shop_items_0" = some table ∧
        (table.rows.map MemoryRow.id).Nodup ∧ (table.rows.map MemoryRow.seq).Nodup ∧
        ∀ inst ∈ story.opened,
          (inst.query MemoryStore.backend .all story.session.state.reversed).1 =
            .ok [sampleDocument "a" [("n", .ofNat 1)], sampleDocument "c" [],
              sampleDocument "b" []] := by
  intro story
  have opened : story.opened = [Instance.opened .inMemory sampleParams (.field "id")
    "shop_items_0"] := rfl
  have oneKey : OneKey story.opened := by
    rw [opened]
    rintro a (_ | ⟨_, ⟨⟩⟩) b (_ | ⟨_, ⟨⟩⟩) _
    rfl
  refine ⟨oneKey, rfl, _, rfl, ?_⟩
  obtain ⟨ids, _, seqs, _, lists⟩ :=
    run_keeps_tables .inMemory sampleCalls oneKey "shop_items_0" _ rfl
  refine ⟨ids, seqs, fun inst member => ?_⟩
  rw [opened] at member
  cases List.mem_singleton.mp member
  exact lists _ (MemoryStore.rearranged_reversed _) _ rfl rfl

end Story

end DocStore
