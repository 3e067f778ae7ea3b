import DocStore.Backend
import DocStore.Lists

/-!
# Tables in memory

Each row carries the sequence number of its insertion and keeps it when it is replaced. A number of
writes can be made to fail before they reach their table.
-/

namespace DocStore

structure MemoryRow where
  id : String
  seq : Nat
  data : Document

def MemoryRow.stored (row : MemoryRow) : StoredRow := ⟨row.id, row.data⟩

/-- Sequence numbers are never used twice. They are unbounded here; a counter of 64 bits does not
overflow before 2 ^ 64 rows have been inserted into the table. -/
structure MemoryTable where
  nextSeq : Nat
  rows : List MemoryRow

namespace MemoryTable

def empty : MemoryTable := ⟨0, []⟩

def row? (table : MemoryTable) (id : String) : Option MemoryRow :=
  table.rows.find? fun row => row.id == id

/-- The rows in the order of their insertion. -/
def ordered (table : MemoryTable) : List StoredRow :=
  (stableSort (fun a b => compare a.seq b.seq) table.rows).map MemoryRow.stored

def find (table : MemoryTable) (ids : List String) (withDeleted : Bool) : List StoredRow :=
  ((Keyed.distinct ids).filterMap table.row?).filterMap fun row =>
    if withDeleted || !row.data.isDeleted then some row.stored else none

def select (table : MemoryTable) (query : CompiledQuery) : List StoredRow :=
  query.page (query.arrange table.ordered)

def count (table : MemoryTable) (query : CompiledQuery) : Nat :=
  table.rows.countP fun row => query.matchesRow row.stored

/-- `none` when the id is taken. -/
def insert? (table : MemoryTable) (row : StoredRow) : Option MemoryTable :=
  if (table.row? row.id).isSome then none
  else some ⟨table.nextSeq + 1, table.rows ++ [⟨row.id, table.nextSeq, row.data⟩]⟩

def replace (table : MemoryTable) (row : StoredRow) : MemoryTable :=
  { table with
    rows := table.rows.map fun old =>
      if old.id == row.id then { old with data := row.data } else old }

/-- `none` when nothing is stored under the id, or another revision. -/
def update? (table : MemoryTable) (row : StoredRow) (expected : Option String) :
    Option MemoryTable :=
  match table.row? row.id with
  | some old => if old.data.revision? == expected then some (table.replace row) else none
  | none => none

def isExpired (cutoff : Binary64) (row : MemoryRow) : Bool :=
  row.data.isDeleted && row.data.lastWrite?.any fun lwt : Double => Binary64.le lwt cutoff

def purge (table : MemoryTable) (cutoff : Binary64) : MemoryTable :=
  { table with rows := table.rows.filter fun row => !isExpired cutoff row }

end MemoryTable

structure MemoryStore where
  tables : List (String × MemoryTable)
  failingWrites : Nat

namespace MemoryStore

def empty : MemoryStore := ⟨[], 0⟩

def table? (store : MemoryStore) (name : String) : Option MemoryTable := store.tables.lookup name

def setTable (store : MemoryStore) (name : String) (table : MemoryTable) : MemoryStore :=
  { store with tables := Keyed.put name table store.tables }

def failNextWrites (store : MemoryStore) (count : Nat) : MemoryStore :=
  { store with failingWrites := count }

def rowCount (store : MemoryStore) (name : String) : Nat :=
  ((store.table? name).map fun table => table.rows.length).getD 0

def ensureTable (name : String) : BackendCall MemoryStore Unit := fun store =>
  match store.table? name with
  | some _ => (.ok (), store)
  | none => (.ok (), store.setTable name .empty)

def tableExists (name : String) : BackendCall MemoryStore Bool := fun store =>
  (.ok (store.table? name).isSome, store)

def dropTable (name : String) : BackendCall MemoryStore Unit := fun store =>
  (.ok (), { store with tables := Keyed.erase name store.tables })

/-- An answer read off a table. -/
def reading {α : Type} (name : String) (read : MemoryTable → α) : BackendCall MemoryStore α :=
  fun store =>
    match store.table? name with
    | some table => (.ok (read table), store)
    | none => (.error (.missingTable name), store)

/-- A write that may find its condition unmet, and that a pending failure stops first. -/
def writing (name : String) (write? : MemoryTable → Option MemoryTable) :
    BackendCall MemoryStore Bool :=
  fun store =>
    match store.failingWrites with
    | left + 1 => (.error (.unavailable "injected write failure"), store.failNextWrites left)
    | 0 =>
        match store.table? name with
        | none => (.error (.missingTable name), store)
        | some table =>
            match write? table with
            | some written => (.ok true, store.setTable name written)
            | none => (.ok false, store)

def purge (name : String) (cutoff : Binary64) : BackendCall MemoryStore Nat := fun store =>
  match store.table? name with
  | none => (.error (.missingTable name), store)
  | some table =>
      let kept := table.purge cutoff
      (.ok (table.rows.length - kept.rows.length), store.setTable name kept)

def backend : Backend MemoryStore where
  name := "memory"
  ensureTable
  tableExists
  dropTable
  findByIds name ids withDeleted := reading name (·.find ids withDeleted)
  select name query := reading name (·.select query)
  count name query := reading name (·.count query)
  insert name row := writing name (·.insert? row)
  update name row expected := writing name (·.update? row expected)
  purge

end MemoryStore

end DocStore
