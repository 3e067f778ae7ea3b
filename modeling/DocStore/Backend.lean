import DocStore.Query.Compiled

/-!
# Backends

A backend keeps tables of rows. Every call runs on the backend's state and answers with a value or
an error; a call that fails may still have changed the state.
-/

namespace DocStore

inductive DatabaseFault where
  | reported (text : String)
  | noRow
  deriving DecidableEq

def DatabaseFault.message : DatabaseFault → String
  | reported text => "error returned from database: " ++ text
  | noRow => "no rows returned by a query that expected to return at least one row"

inductive BackendError where
  | database (fault : DatabaseFault)
  | missingTable (table : String)
  | invalidRow (id : String) (reason : Error)
  | unavailable (reason : String)
  deriving DecidableEq

def BackendError.message : BackendError → String
  | database fault => "Database error: " ++ fault.message
  | missingTable table => "Table " ++ table ++ " does not exist"
  | invalidRow id reason => "Row " ++ id ++ " does not hold a document: " ++ reason.message
  | unavailable reason => "Backend unavailable: " ++ reason

/-- A call on states `σ`. -/
abbrev BackendCall (σ α : Type) := σ → Except BackendError α × σ

structure Backend (σ : Type) where
  name : String
  /-- Creates the table and its index if they are missing. -/
  ensureTable : String → BackendCall σ Unit
  tableExists : String → BackendCall σ Bool
  dropTable : String → BackendCall σ Unit
  /-- The rows with the given ids; those flagged as deleted only on demand. -/
  findByIds : String → List String → Bool → BackendCall σ (List StoredRow)
  select : String → CompiledQuery → BackendCall σ (List StoredRow)
  count : String → CompiledQuery → BackendCall σ Nat
  /-- Stores a row unless its id is taken, and tells whether it did. -/
  insert : String → StoredRow → BackendCall σ Bool
  /-- Replaces a row if its stored revision is the expected one, and tells whether it did. -/
  update : String → StoredRow → Option String → BackendCall σ Bool
  /-- Removes rows flagged as deleted and last written at or before a time. -/
  purge : String → Binary64 → BackendCall σ Nat

end DocStore
