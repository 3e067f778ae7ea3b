import DocStore.Instance

/-!
# Sessions

One storage with its open instances, each under a handle, and the streams opened on their feeds,
each under a name. Opening a handle again lets go of its instance; the streams on that instance's
feed read what is left and end.
-/

namespace DocStore

/-- An operation on an open instance. -/
inductive Operation where
  | bulkWrite (rows : List WriteRow) (context : String) (bulkId : String)
  | find (ids : List String) (withDeleted : Bool)
  | query (spec : QuerySpec)
  | queryMango (mango : MangoQuery)
  | count (spec : QuerySpec)
  | cleanup (olderThan : Binary64)
  | attachment
  | subscribe (stream : String)
  | remove
  | close

inductive Answer where
  | response (response : BulkWriteResponse)
  | documents (documents : List Document)
  | count (count : Nat)
  | flag (value : Bool)
  | done

def Instance.perform {σ : Type} (backend : Backend σ) (inst : Instance) (state : σ) :
    Operation → Except StoreError Answer × Instance × σ
  | .bulkWrite rows context bulkId =>
      let (answer, written, after) := inst.bulkWrite backend rows context bulkId state
      (answer.map .response, written, after)
  | .find ids withDeleted =>
      let (answer, after) := inst.find backend ids withDeleted state
      (answer.map .documents, inst, after)
  | .query spec =>
      let (answer, after) := inst.query backend spec state
      (answer.map .documents, inst, after)
  | .queryMango mango =>
      let (answer, after) := inst.queryMango backend mango state
      (answer.map .documents, inst, after)
  | .count spec =>
      let (answer, after) := inst.count backend spec state
      (answer.map .count, inst, after)
  | .cleanup olderThan =>
      let (answer, after) := inst.cleanup backend olderThan state
      (answer.map .flag, inst, after)
  | .attachment => (.error .attachments, inst, state)
  | .subscribe stream =>
      match inst.subscribe stream with
      | .ok subscribed => (.ok .done, subscribed, state)
      | .error fault => (.error fault, inst, state)
  | .remove =>
      let (answer, removed, after) := inst.remove backend state
      (answer.map fun _ => .done, removed, after)
  | .close => (.ok .done, inst.close, state)

/-- `retired` holds the feeds of instances that were let go. -/
structure Session (σ : Type) where
  settings : Settings
  state : σ
  instances : List (String × Instance)
  retired : List (Feed EventBulk)

namespace Session

variable {σ : Type}

def start (settings : Settings) (state : σ) : Session σ := ⟨settings, state, [], []⟩

def instance? (session : Session σ) (handle : String) : Option Instance :=
  session.instances.lookup handle

def setInstance (session : Session σ) (handle : String) (inst : Instance) : Session σ :=
  { session with instances := Keyed.put handle inst session.instances }

/-- Applies a change to every feed. -/
def mapFeeds (session : Session σ) (change : Feed EventBulk → Feed EventBulk) : Session σ :=
  { session with
    instances := session.instances.map fun entry =>
      (entry.1, { entry.2 with feed := change entry.2.feed })
    retired := session.retired.map change }

def dropStream (session : Session σ) (stream : String) : Session σ :=
  session.mapFeeds (·.unsubscribe stream)

def feeds (session : Session σ) : List (Feed EventBulk) :=
  session.instances.map (fun entry => entry.2.feed) ++ session.retired

def isReader (stream : String) (feed : Feed EventBulk) : Bool :=
  (feed.readers.lookup stream).isSome

def streamFeed? (session : Session σ) (stream : String) : Option (Feed EventBulk) :=
  session.feeds.find? (isReader stream)

/-- Replaces the feed that a stream reads. -/
def setStreamFeed (session : Session σ) (stream : String) (feed : Feed EventBulk) : Session σ :=
  session.mapFeeds fun old => if isReader stream old then feed else old

def retire (session : Session σ) (handle : String) : Session σ :=
  match session.instance? handle with
  | some inst => { session with retired := session.retired ++ [inst.feed.close.2] }
  | none => session

def create (backend : Backend σ) (session : Session σ) (handle : String)
    (params : InstanceParams) : Except StoreError Instance × Session σ :=
  match Instance.create backend session.settings params session.state with
  | (.error fault, state) => (.error fault, { session with state })
  | (.ok inst, state) =>
      (.ok inst, ({ session with state }.retire handle).setInstance handle inst)

/-- A stream that is opened anew is dropped wherever it was. -/
def released (session : Session σ) : Operation → Session σ
  | .subscribe stream => session.dropStream stream
  | _ => session

/-- `none` for a handle without an instance. -/
def perform? (backend : Backend σ) (session : Session σ) (handle : String)
    (operation : Operation) : Option (Except StoreError Answer × Session σ) :=
  (session.instance? handle).map fun inst =>
    match inst.perform backend session.state operation with
    | (.error fault, changed, state) =>
        (.error fault, { session with state }.setInstance handle changed)
    | (.ok answer, changed, state) =>
        (.ok answer, { session.released operation with state }.setInstance handle changed)

def receive? (session : Session σ) (stream : String) :
    Option (Received EventBulk × Session σ) :=
  (session.streamFeed? stream).bind fun feed =>
    (feed.receive? stream).map fun (received, after) =>
      (received, session.setStreamFeed stream after)

def drain? (session : Session σ) (stream : String) :
    Option (List EventBulk × Received EventBulk × Session σ) :=
  (session.streamFeed? stream).bind fun feed =>
    (feed.drain? stream).map fun (batches, last, after) =>
      (batches, last, session.setStreamFeed stream after)

def unsubscribe? (session : Session σ) (stream : String) : Option (Session σ) :=
  (session.streamFeed? stream).map fun _ => session.dropStream stream

end Session

end DocStore
