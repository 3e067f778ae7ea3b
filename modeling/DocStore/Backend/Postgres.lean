import DocStore.Backend
import DocStore.Json.Reader
import DocStore.Json.Text
import DocStore.Sql.Statement

/-!
# The conversation with a database

Each backend call sends statements with their arguments and reads one reply for each. The state is
the conversation: the statements sent so far and the replies still to come. Where none is left, a
statement finds no rows and affects none. Documents travel as text in both directions.
-/

namespace DocStore

inductive Reply where
  | rows (rows : List (String × Json))
  | flag (value : Bool)
  | total (value : Int)
  | affected (count : Nat)
  | failure (text : String)

/-- What arrives where a value is sent as text: its doubles are read anew from their digits. -/
def Json.sent (json : Json) : Json := (read? json.compact).getD json

/-- An argument as the database receives it. -/
def Sql.Arg.received : Sql.Arg → Sql.Arg
  | .param (.json value) => .json value.sent
  | other => other

structure Conversation where
  sent : List Sql.Call
  replies : List Reply

namespace Conversation

def empty : Conversation := ⟨[], []⟩

def send (call : Sql.Call) (conversation : Conversation) : Option Reply × Conversation :=
  (conversation.replies.head?, ⟨conversation.sent ++ [call], conversation.replies.tail⟩)

/-- The number of rows that a statement affected. -/
def execute (call : Sql.Call) : BackendCall Conversation Nat := fun conversation =>
  match conversation.send call with
  | (some (.affected count), after) => (.ok count, after)
  | (some (.failure text), after) => (.error (.database (.reported text)), after)
  | (_, after) => (.ok 0, after)

def storedRow (entry : String × Json) : Except BackendError StoredRow :=
  match Document.ofJson entry.2.sent with
  | .ok data => .ok ⟨entry.1, data⟩
  | .error reason => .error (.invalidRow entry.1 reason)

def fetchRows (call : Sql.Call) : BackendCall Conversation (List StoredRow) := fun conversation =>
  match conversation.send call with
  | (some (.rows rows), after) => (rows.mapM storedRow, after)
  | (some (.failure text), after) => (.error (.database (.reported text)), after)
  | (_, after) => (.ok [], after)

def fetchFlag (call : Sql.Call) : BackendCall Conversation Bool := fun conversation =>
  match conversation.send call with
  | (some (.flag value), after) => (.ok value, after)
  | (some (.failure text), after) => (.error (.database (.reported text)), after)
  | (_, after) => (.error (.database .noRow), after)

/-- A negative total reads as zero. -/
def fetchTotal (call : Sql.Call) : BackendCall Conversation Nat := fun conversation =>
  match conversation.send call with
  | (some (.total value), after) => (.ok value.toNat, after)
  | (some (.failure text), after) => (.error (.database (.reported text)), after)
  | (_, after) => (.error (.database .noRow), after)

def ensureTable (table : String) : BackendCall Conversation Unit := fun conversation =>
  match execute ⟨.createTable table, []⟩ conversation with
  | (.error fault, after) => (.error fault, after)
  | (.ok _, created) =>
      let (answer, after) := execute ⟨.createIndex table, []⟩ created
      (answer.map fun _ => (), after)

def tableExists (table : String) : BackendCall Conversation Bool :=
  fetchFlag ⟨.tableExists, [.text (Sql.identifier table)]⟩

def dropTable (table : String) : BackendCall Conversation Unit := fun conversation =>
  let (answer, after) := execute ⟨.dropTable table, []⟩ conversation
  (answer.map fun _ => (), after)

def findByIds (table : String) (ids : List String) (withDeleted : Bool) :
    BackendCall Conversation (List StoredRow) :=
  fetchRows ⟨.lookup table withDeleted, [.texts ids]⟩

def select (table : String) (query : CompiledQuery) : BackendCall Conversation (List StoredRow) :=
  fetchRows ⟨query.selectStatement table, query.params.map Sql.Arg.param⟩

def count (table : String) (query : CompiledQuery) : BackendCall Conversation Nat :=
  fetchTotal ⟨query.countStatement table, query.params.map Sql.Arg.param⟩

/-- A conditional write has happened when it affected exactly one row. -/
def executeOne (call : Sql.Call) : BackendCall Conversation Bool := fun conversation =>
  let (answer, after) := execute call conversation
  (answer.map fun affected => affected == 1, after)

def insert (table : String) (row : StoredRow) : BackendCall Conversation Bool :=
  executeOne ⟨.insert table, [.text row.id, .json row.data.toJson]⟩

def update (table : String) (row : StoredRow) (expected : Option String) :
    BackendCall Conversation Bool :=
  executeOne ⟨.update table, [.text row.id, .json row.data.toJson, .ofText? expected]⟩

def purge (table : String) (cutoff : Binary64) : BackendCall Conversation Nat :=
  execute ⟨.purge table, [.float cutoff]⟩

def backend : Backend Conversation where
  name := "postgres"
  ensureTable
  tableExists
  dropTable
  findByIds
  select
  count
  insert
  update
  purge

end Conversation

end DocStore
