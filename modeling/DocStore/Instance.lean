import DocStore.Feed
import DocStore.StoreError
import DocStore.Text.Visible
import DocStore.Write.Plan

/-!
# Storage instances

An instance is one open collection: its table and its change feed. A bulk write is planned against
the documents found by one lookup and then applied row by row with conditional writes, so a row can
still lose to another writer; it then carries what is stored instead. Only applied rows have events,
and the events of a batch are published together.
-/

namespace DocStore

structure InstanceParams where
  databaseName : String
  collectionName : String
  schema : Schema

namespace InstanceParams

def toJson (params : InstanceParams) : Json :=
  .object [("databaseName", .string params.databaseName),
    ("collectionName", .string params.collectionName), ("schema", params.schema.toJson)]

def ofJson? (json : Json) : Option InstanceParams := do
  match ← json.members? ["databaseName", "collectionName", "schema"] 3 with
  | [some database, some collection, some schema] =>
      return ⟨← database.string?, ← collection.string?, ← Schema.ofJson? schema⟩
  | _ => none

end InstanceParams

structure Instance where
  params : InstanceParams
  primaryKey : PrimaryKey
  table : String
  readOnly : Bool
  feed : Feed EventBulk
  closed : Bool

/-- What applying a batch comes to: the outcomes of its rows and the events of those applied. -/
structure WriteResult where
  response : BulkWriteResponse
  events : List ChangeEvent
  context : String

/-- The events as one batch to publish, under an id of its own. -/
def WriteResult.bulk? (result : WriteResult) (bulkId : String) : Option EventBulk :=
  match result.events with
  | [] => none
  | events => some (.ofEvents bulkId events result.context)

namespace Instance

variable {σ : Type}

def requireOpen (inst : Instance) : Except StoreError Unit :=
  if inst.closed then .error .closed else .ok ()

def requireWritable (inst : Instance) : Except StoreError Unit :=
  if inst.closed then .error .closed
  else if inst.readOnly then .error .readOnly
  else .ok ()

def byId (rows : List StoredRow) : List (String × Document) :=
  Keyed.ofList (rows.map fun row => (row.id, row.data))

/-- What is stored where a conditional write found its condition unmet; what the plan saw if the
lookup fails. -/
def reread (backend : Backend σ) (table : String) (write : PlannedWrite) (state : σ) :
    Option Document × σ :=
  match backend.findByIds table [write.row.id] true state with
  | (.ok rows, after) => (rows.head?.map StoredRow.data, after)
  | (.error _, after) => (write.documentInDb, after)

def submit (backend : Backend σ) (table : String) (write : PlannedWrite) : BackendCall σ Bool :=
  match write.kind with
  | .insert => backend.insert table write.row
  | .update => backend.update table write.row write.expectedRevision

def applyWrite (backend : Backend σ) (table : String) (write : PlannedWrite) (state : σ) :
    WriteOutcome × σ :=
  match submit backend table write state with
  | (.ok true, after) => (write.outcome, after)
  | (.ok false, after) =>
      let (current, reread) := reread backend table write after
      (.conflict (write.conflict current), reread)
  | (.error fault, after) => (.failed (write.failure fault.message), after)

/-- A planned write and what became of it. -/
structure Applied where
  write : PlannedWrite
  outcome : WriteOutcome

def applyWrites (backend : Backend σ) (table : String) : List PlannedWrite → σ → List Applied × σ
  | [], state => ([], state)
  | write :: rest, state =>
      let (outcome, after) := applyWrite backend table write state
      let (applied, final) := applyWrites backend table rest after
      (⟨write, outcome⟩ :: applied, final)

def successes (applied : List Applied) : List PlannedWrite :=
  (applied.filter fun entry => entry.outcome.isSuccess).map Applied.write

/-- The ids of conflicts that rows of the same batch have since written, ascending. -/
def staleIds (written : List String) (conflicts : List (Nat × WriteConflict)) : List String :=
  Keyed.distinct (stableSort compare
    ((conflicts.map fun entry => entry.2.documentId).filter fun id => written.contains id))

/-- Conflicts were found before the batch was applied; those that are stale get what is stored now,
unless the lookup fails. -/
def refreshConflicts (backend : Backend σ) (table : String) (written : List String)
    (conflicts : List (Nat × WriteConflict)) (state : σ) : List (Nat × WriteConflict) × σ :=
  match staleIds written conflicts with
  | [] => (conflicts, state)
  | stale =>
      match backend.findByIds table stale true state with
      | (.error _, after) => (conflicts, after)
      | (.ok rows, after) =>
          let current := byId rows
          (conflicts.map fun entry =>
            if written.contains entry.2.documentId then
              (entry.1, { entry.2 with documentInDb := current.lookup entry.2.documentId })
            else entry, after)

def eventsOf (applied : List Applied) : List ChangeEvent :=
  (successes applied).filterMap PlannedWrite.event

/-- Applies a plan. -/
def runPlan (backend : Backend σ) (inst : Instance) (plan : WritePlan) (state : σ) :
    WriteResult × σ :=
  let (applied, after) := applyWrites backend inst.table plan.writes state
  let written := (successes applied).map fun write => write.row.id
  let (conflicts, final) := refreshConflicts backend inst.table written plan.conflicts after
  let outcomes := applied.map fun entry => (entry.write.index, entry.outcome)
  let refused := conflicts.map fun entry => (entry.1, WriteOutcome.conflict entry.2)
  ({ response := .ofIndexed (outcomes ++ refused)
     events := eventsOf applied
     context := plan.context }, final)

/-- Plans and applies a batch that is not empty. -/
def writeBatch (backend : Backend σ) (inst : Instance) (rows : List WriteRow) (context : String)
    (state : σ) : Except StoreError WriteResult × σ :=
  match WritePlan.documentIds inst.primaryKey rows with
  | .error fault => (.error (.engine fault), state)
  | .ok ids =>
      match backend.findByIds inst.table ids true state with
      | (.error fault, after) => (.error (.backend fault), after)
      | (.ok found, after) =>
          match WritePlan.ofRows inst.primaryKey (byId found) rows context with
          | .error fault => (.error (.engine fault), after)
          | .ok plan =>
              let (result, final) := runPlan backend inst plan after
              (.ok result, final)

def publish (inst : Instance) : Option EventBulk → Instance
  | some bulk => { inst with feed := (inst.feed.publish bulk).2 }
  | none => inst

/-- Events are published under the id that was drawn for the batch. -/
def bulkWrite (backend : Backend σ) (inst : Instance) (rows : List WriteRow) (context : String)
    (bulkId : String) (state : σ) : Except StoreError BulkWriteResponse × Instance × σ :=
  match inst.requireWritable with
  | .error fault => (.error fault, inst, state)
  | .ok _ =>
      if rows.isEmpty then (.ok ⟨[]⟩, inst, state)
      else
        match writeBatch backend inst rows context state with
        | (.error fault, after) => (.error fault, inst, after)
        | (.ok result, after) => (.ok result.response, inst.publish (result.bulk? bulkId), after)

/-- A backend call made once the instance's state has been checked. -/
def checked {α : Type} (check : Except StoreError Unit) (call : BackendCall σ α) (state : σ) :
    Except StoreError α × σ :=
  match check with
  | .error fault => (.error fault, state)
  | .ok _ =>
      match call state with
      | (.ok answer, after) => (.ok answer, after)
      | (.error fault, after) => (.error (.backend fault), after)

/-- An answer that needs no backend. -/
def settled {α : Type} (answer : α) : BackendCall σ α := fun state => (.ok answer, state)

def find (backend : Backend σ) (inst : Instance) (ids : List String) (withDeleted : Bool)
    (state : σ) : Except StoreError (List Document) × σ :=
  let call := if ids.isEmpty then settled [] else backend.findByIds inst.table ids withDeleted
  let (answer, after) := checked inst.requireOpen call state
  (answer.map (·.map StoredRow.data), after)

/-- A query that can match nothing is answered without the backend. -/
def query (backend : Backend σ) (inst : Instance) (spec : QuerySpec) (state : σ) :
    Except StoreError (List Document) × σ :=
  let compiled := spec.compile
  let call :=
    if compiled.predicate.isAlwaysFalse then settled [] else backend.select inst.table compiled
  let (answer, after) := checked inst.requireOpen call state
  (answer.map (·.map StoredRow.data), after)

/-- A fault of the query is reported before the instance is asked whether it is open. -/
def queryMango (backend : Backend σ) (inst : Instance) (mango : MangoQuery) (state : σ) :
    Except StoreError (List Document) × σ :=
  match QuerySpec.ofMango mango with
  | .error fault => (.error (.engine fault), state)
  | .ok spec => inst.query backend spec state

def count (backend : Backend σ) (inst : Instance) (spec : QuerySpec) (state : σ) :
    Except StoreError Nat × σ :=
  let compiled := spec.compile
  let call :=
    if compiled.predicate.isAlwaysFalse then settled 0 else backend.count inst.table compiled
  checked inst.requireOpen call state

/-- Whether anything was removed. -/
def cleanup (backend : Backend σ) (inst : Instance) (olderThan : Binary64) (state : σ) :
    Except StoreError Bool × σ :=
  let (answer, after) := checked inst.requireWritable (backend.purge inst.table olderThan) state
  (answer.map fun removed => 0 < removed, after)

def subscribe (inst : Instance) (reader : String) : Except StoreError Instance :=
  match inst.requireOpen with
  | .error fault => .error fault
  | .ok _ =>
      match inst.feed.subscribe? reader with
      | some feed => .ok { inst with feed }
      | none => .error .closed

def close (inst : Instance) : Instance :=
  { inst with closed := true, feed := inst.feed.close.2 }

/-- Drops the table; the instance is closed afterwards. -/
def remove (backend : Backend σ) (inst : Instance) (state : σ) :
    Except StoreError Unit × Instance × σ :=
  match checked inst.requireWritable (backend.dropTable inst.table) state with
  | (.ok _, after) => (.ok (), inst.close, after)
  | (.error fault, after) => (.error fault, inst, after)

def opened (settings : Settings) (params : InstanceParams) (key : PrimaryKey) (table : String) :
    Instance :=
  { params, table, primaryKey := key, readOnly := settings.readOnly
    feed := .ofCapacity settings.changeBuffer, closed := false }

/-- Makes sure of the table, by creating it where the settings allow that. -/
def prepareTable (backend : Backend σ) (settings : Settings) (table : String) (state : σ) :
    Except OpenFault Unit × σ :=
  if settings.autoCreate && !settings.readOnly then
    match backend.ensureTable table state with
    | (.ok _, after) => (.ok (), after)
    | (.error fault, after) => (.error (.table table fault), after)
  else
    match backend.tableExists table state with
    | (.ok true, after) => (.ok (), after)
    | (.ok false, after) => (.error (.noTable table), after)
    | (.error fault, after) => (.error (.table table fault), after)

def create (backend : Backend σ) (settings : Settings) (params : InstanceParams) (state : σ) :
    Except StoreError Instance × σ :=
  match params.schema.validate with
  | .error fault => (.error (.schemaInit (.schema fault)), state)
  | .ok (key, version) =>
      let table := Schema.tableName params.databaseName params.collectionName version
      match prepareTable backend settings table state with
      | (.error fault, after) => (.error (.schemaInit fault), after)
      | (.ok _, after) => (.ok (opened settings params key table), after)

def flagText (flag : Bool) : String := if flag then "true" else "false"

def debugText (backend : Backend σ) (inst : Instance) : String :=
  "StorageInstance \x7b backend: " ++ Text.visible backend.name ++ ", table: " ++
    Text.visible inst.table ++ ", read_only: " ++ flagText inst.readOnly ++ ", closed: " ++
    flagText inst.closed ++ ", subscribers: " ++ toString inst.feed.readerCount ++ " \x7d"

end Instance

end DocStore
