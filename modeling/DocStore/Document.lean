import DocStore.FieldPath
import DocStore.Json.Record

/-!
# Documents

A document is a JSON object. Reserved fields hold its revision, its soft-delete flag, its metadata
with the time of the last write, and its attachments.
-/

namespace DocStore

structure Document where
  entries : List (String × Json)

namespace Document

def revisionField : String := "_rev"

def deletedField : String := "_deleted"

def metaField : String := "_meta"

def lastWriteField : String := "lwt"

def attachmentsField : String := "_attachments"

def reserved : List String := [deletedField, revisionField, metaField, attachmentsField]

def ofJson : Json → Except Error Document
  | .object entries => .ok ⟨entries⟩
  | other => .error (.invalidDocument other.kind)

def toJson (document : Document) : Json := .object document.entries

def ofJson? (json : Json) : Option Document := (ofJson json).toOption

def field? (document : Document) (name : String) : Option Json := document.entries.lookup name

def lookup (document : Document) (path : FieldPath) : Option Json := path.lookup document.toJson

def revision? (document : Document) : Option String :=
  (document.field? revisionField).bind Json.string?

def isDeleted (document : Document) : Bool :=
  ((document.field? deletedField).bind Json.bool?).getD false

def lastWrite? (document : Document) : Option Double :=
  ((document.field? metaField).bind (·.field? lastWriteField)).bind Json.double?

/-- The document without its reserved fields. -/
def content (document : Document) : List (String × Json) :=
  document.entries.filter fun entry => !reserved.contains entry.1

end Document

/-- A row of a collection's table. -/
structure StoredRow where
  id : String
  data : Document

namespace StoredRow

def toJson (row : StoredRow) : Json :=
  .object [("id", .string row.id), ("data", row.data.toJson)]

def ofJson? (json : Json) : Option StoredRow := do
  match ← json.members? ["id", "data"] 2 with
  | [some id, some data] => return ⟨← id.string?, ← Document.ofJson? data⟩
  | _ => none

end StoredRow

end DocStore
