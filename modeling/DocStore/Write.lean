import DocStore.Document
import DocStore.Lists

/-!
# Bulk writes

The rows of a bulk write and their outcomes. A row names the document it expects to replace; a row
whose expectation fails is a conflict, and one that the backend could not apply is a failure.
-/

namespace DocStore

/-- Without a previous document, nothing is expected to be stored. -/
structure WriteRow where
  document : Document
  previous : Option Document

namespace WriteRow

def toJson (row : WriteRow) : Json :=
  .object [("document", row.document.toJson),
    ("previous", Json.ofOptional Document.toJson row.previous)]

def ofJson? (json : Json) : Option WriteRow := do
  match ← json.members? ["document", "previous"] 1 with
  | [some document, previous] =>
      return ⟨← Document.ofJson? document, ← Json.optional? Document.ofJson? previous⟩
  | _ => none

end WriteRow

structure WriteConflict where
  status : UInt16
  documentId : String
  writeRow : WriteRow
  documentInDb : Option Document

structure WriteFailure where
  status : UInt16
  documentId : String
  writeRow : WriteRow
  message : String

def statusJson (status : UInt16) : Json := .ofNat status.toNat

def status? (json : Json) : Option UInt16 := (json.natural? UInt16.size).map UInt16.ofNat

namespace WriteConflict

def ofRow (id : String) (row : WriteRow) (documentInDb : Option Document) : WriteConflict :=
  ⟨409, id, row, documentInDb⟩

def members (conflict : WriteConflict) : List (String × Json) :=
  [("status", statusJson conflict.status), ("documentId", .string conflict.documentId),
    ("writeRow", conflict.writeRow.toJson),
    ("documentInDb", Json.ofOptional Document.toJson conflict.documentInDb)]

def toJson (conflict : WriteConflict) : Json := .object conflict.members

def ofJson? (json : Json) : Option WriteConflict := do
  match ← json.members? ["status", "documentId", "writeRow", "documentInDb"] 4 with
  | [some status, some id, some row, inDb] =>
      return ⟨← status? status, ← id.string?, ← WriteRow.ofJson? row,
        ← Json.optional? Document.ofJson? inDb⟩
  | _ => none

end WriteConflict

namespace WriteFailure

def ofRow (id : String) (row : WriteRow) (message : String) : WriteFailure :=
  ⟨503, id, row, message⟩

def members (failure : WriteFailure) : List (String × Json) :=
  [("status", statusJson failure.status), ("documentId", .string failure.documentId),
    ("writeRow", failure.writeRow.toJson), ("message", .string failure.message)]

def ofJson? (json : Json) : Option WriteFailure := do
  match ← json.members? ["status", "documentId", "writeRow", "message"] 4 with
  | [some status, some id, some row, some message] =>
      return ⟨← status? status, ← id.string?, ← WriteRow.ofJson? row, ← message.string?⟩
  | _ => none

end WriteFailure

inductive WriteOutcome where
  | inserted (documentId : String)
  | updated (documentId : String)
  | conflict (details : WriteConflict)
  | failed (details : WriteFailure)

namespace WriteOutcome

def documentId : WriteOutcome → String
  | inserted id => id
  | updated id => id
  | conflict details => details.documentId
  | failed details => details.documentId

def isSuccess : WriteOutcome → Bool
  | inserted _ => true
  | updated _ => true
  | _ => false

def conflict? : WriteOutcome → Option WriteConflict
  | conflict details => some details
  | _ => none

def failure? : WriteOutcome → Option WriteFailure
  | failed details => some details
  | _ => none

def toJson : WriteOutcome → Json
  | inserted id => .object [("result", .string "inserted"), ("documentId", .string id)]
  | updated id => .object [("result", .string "updated"), ("documentId", .string id)]
  | conflict details => .object (("result", .string "conflict") :: details.members)
  | failed details => .object (("result", .string "failed") :: details.members)

def documentId? (json : Json) : Option String := do
  match ← json.members? ["documentId"] 1 with
  | [some id] => id.string?
  | _ => none

def ofJson? (json : Json) : Option WriteOutcome := do
  match ← json.tagged? "result" with
  | ("inserted", record) => (documentId? record).map inserted
  | ("updated", record) => (documentId? record).map updated
  | ("conflict", record) => (WriteConflict.ofJson? record).map conflict
  | ("failed", record) => (WriteFailure.ofJson? record).map failed
  | _ => none

end WriteOutcome

/-- One outcome for each row, in the order of the rows. -/
structure BulkWriteResponse where
  outcomes : List WriteOutcome

namespace BulkWriteResponse

def ofIndexed (outcomes : List (Nat × WriteOutcome)) : BulkWriteResponse :=
  ⟨(stableSort (fun a b => compare a.1 b.1) outcomes).map (·.2)⟩

def conflicts (response : BulkWriteResponse) : List WriteConflict :=
  response.outcomes.filterMap WriteOutcome.conflict?

def failures (response : BulkWriteResponse) : List WriteFailure :=
  response.outcomes.filterMap WriteOutcome.failure?

def successCount (response : BulkWriteResponse) : Nat :=
  response.outcomes.countP WriteOutcome.isSuccess

def isSuccess (response : BulkWriteResponse) : Bool :=
  response.outcomes.all WriteOutcome.isSuccess

def toJson (response : BulkWriteResponse) : Json :=
  .object [("outcomes", .array (response.outcomes.map WriteOutcome.toJson))]

def ofJson? (json : Json) : Option BulkWriteResponse := do
  match ← json.members? ["outcomes"] 1 with
  | [some outcomes] => return ⟨← Json.listOf? WriteOutcome.ofJson? outcomes⟩
  | _ => none

end BulkWriteResponse

end DocStore
