import DocStore.Change
import DocStore.Lists
import DocStore.Schema
import DocStore.Write

/-!
# Write plans

Each row of a bulk write is classified against the documents stored before it: an insert where
nothing is stored or expected, an update where the stored revision is the expected one, and a
conflict otherwise.
-/

namespace DocStore

inductive WriteKind where
  | insert
  | update
  deriving DecidableEq

namespace WriteKind

def name : WriteKind → String
  | insert => "insert"
  | update => "update"

/-- Two absent revisions are equal. -/
def classify (stored previous : Option Document) : Option WriteKind :=
  match stored, previous with
  | none, none => some insert
  | some stored, some previous =>
      if stored.revision? == previous.revision? then some update else none
  | _, _ => none

end WriteKind

/-- An accepted row, with the stored document and the event of the write. -/
structure PlannedWrite where
  index : Nat
  kind : WriteKind
  row : StoredRow
  expectedRevision : Option String
  documentInDb : Option Document
  event : Option ChangeEvent
  writeRow : WriteRow

namespace PlannedWrite

def outcome (write : PlannedWrite) : WriteOutcome :=
  match write.kind with
  | .insert => .inserted write.row.id
  | .update => .updated write.row.id

def conflict (write : PlannedWrite) (documentInDb : Option Document) : WriteConflict :=
  .ofRow write.row.id write.writeRow documentInDb

def failure (write : PlannedWrite) (message : String) : WriteFailure :=
  .ofRow write.row.id write.writeRow message

end PlannedWrite

inductive Verdict where
  | accepted (write : PlannedWrite)
  | refused (index : Nat) (conflict : WriteConflict)

namespace Verdict

def accepted? : Verdict → Option PlannedWrite
  | accepted write => some write
  | refused _ _ => none

def refused? : Verdict → Option (Nat × WriteConflict)
  | accepted _ => none
  | refused index conflict => some (index, conflict)

/-- The verdict on a row with its id, given the document stored under that id. -/
def ofRow (index : Nat) (id : String) (writeRow : WriteRow) (stored : Option Document) : Verdict :=
  match WriteKind.classify stored writeRow.previous with
  | none => refused index (.ofRow id writeRow stored)
  | some kind =>
      accepted {
        index, kind, writeRow
        row := ⟨id, writeRow.document⟩
        expectedRevision := stored.bind Document.revision?
        documentInDb := stored
        event := ChangeEvent.ofWrite? id writeRow.document stored }

end Verdict

structure WritePlan where
  writes : List PlannedWrite
  conflicts : List (Nat × WriteConflict)
  context : String

namespace WritePlan

/-- The ids of a batch in row order, each one once. -/
def documentIds (key : PrimaryKey) (rows : List WriteRow) : Except Error (List String) :=
  (rows.mapM fun row => key.compose row.document).map Keyed.distinct

def verdict (key : PrimaryKey) (stored : List (String × Document)) (entry : WriteRow × Nat) :
    Except Error Verdict :=
  (key.compose entry.1.document).map fun id =>
    Verdict.ofRow entry.2 id entry.1 (stored.lookup id)

def ofRows (key : PrimaryKey) (stored : List (String × Document)) (rows : List WriteRow)
    (context : String) : Except Error WritePlan :=
  (rows.zipIdx.mapM (verdict key stored)).map fun verdicts =>
    ⟨verdicts.filterMap Verdict.accepted?, verdicts.filterMap Verdict.refused?, context⟩

end WritePlan

end DocStore
