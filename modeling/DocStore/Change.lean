import DocStore.Document

/-!
# Change events

What a write did to a document, seen through its deleted flag. Storing a deleted document where
there was none is no change. A checkpoint is the latest write time of a list of documents; of equal
times the last one counts.
-/

namespace DocStore

inductive ChangeOperation where
  | insert
  | update
  | delete
  deriving DecidableEq

namespace ChangeOperation

def name : ChangeOperation → String
  | insert => "INSERT"
  | update => "UPDATE"
  | delete => "DELETE"

def ofName? : String → Option ChangeOperation
  | "INSERT" => some insert
  | "UPDATE" => some update
  | "DELETE" => some delete
  | _ => none

/-- How storing `document` over `previous` changes what is visible. -/
def ofWrite? (document : Document) : Option Document → Option ChangeOperation
  | none => if document.isDeleted then none else some insert
  | some previous =>
      match previous.isDeleted, document.isDeleted with
      | false, true => some delete
      | true, false => some insert
      | _, _ => some update

end ChangeOperation

structure ChangeEvent where
  operation : ChangeOperation
  documentId : String
  documentData : Document
  previousDocumentData : Option Document

namespace ChangeEvent

def ofWrite? (id : String) (document : Document) (previous : Option Document) :
    Option ChangeEvent :=
  (ChangeOperation.ofWrite? document previous).map fun operation =>
    ⟨operation, id, document, previous⟩

def toJson (event : ChangeEvent) : Json :=
  .object [("operation", .string event.operation.name), ("documentId", .string event.documentId),
    ("documentData", event.documentData.toJson),
    ("previousDocumentData", Json.ofOptional Document.toJson event.previousDocumentData)]

def ofJson? (json : Json) : Option ChangeEvent := do
  match ← json.members?
      ["operation", "documentId", "documentData", "previousDocumentData"] 4 with
  | [some operation, some id, some data, previous] =>
      let operation ← operation.string?.bind ChangeOperation.ofName?
      return ⟨operation, ← id.string?, ← Document.ofJson? data,
        ← Json.optional? Document.ofJson? previous⟩
  | _ => none

end ChangeEvent

structure Checkpoint where
  id : String
  lwt : Double
  deriving DecidableEq

namespace Checkpoint

/-- The later of two, the second one on equal times. -/
def later (best : Option Checkpoint) (next : Checkpoint) : Option Checkpoint :=
  match best with
  | some best => if next.lwt.lt best.lwt then some best else some next
  | none => some next

def newest (documents : List (String × Document)) : Option Checkpoint :=
  (documents.filterMap fun (id, document) =>
    document.lastWrite?.map fun lwt => ⟨id, lwt⟩).foldl later none

def toJson (checkpoint : Checkpoint) : Json :=
  .object [("id", .string checkpoint.id), ("lwt", .ofDouble checkpoint.lwt)]

def ofJson? (json : Json) : Option Checkpoint := do
  match ← json.members? ["id", "lwt"] 2 with
  | [some id, some lwt] => return ⟨← id.string?, ← lwt.double?⟩
  | _ => none

end Checkpoint

/-- The events of one bulk write, under the caller's label for it. -/
structure EventBulk where
  id : String
  events : List ChangeEvent
  checkpoint : Option Checkpoint
  context : String

namespace EventBulk

def ofEvents (id : String) (events : List ChangeEvent) (context : String) : EventBulk :=
  { id, events, context
    checkpoint := Checkpoint.newest
      (events.map fun event => (event.documentId, event.documentData)) }

def toJson (bulk : EventBulk) : Json :=
  .object [("id", .string bulk.id), ("events", .array (bulk.events.map ChangeEvent.toJson)),
    ("checkpoint", Json.ofOptional Checkpoint.toJson bulk.checkpoint),
    ("context", .string bulk.context)]

def ofJson? (json : Json) : Option EventBulk := do
  match ← json.members? ["id", "events", "checkpoint", "context"] 4 with
  | [some id, some events, checkpoint, some context] =>
      let id ← id.string?
      let events ← Json.listOf? ChangeEvent.ofJson? events
      let checkpoint ← Json.optional? Checkpoint.ofJson? checkpoint
      return ⟨id, events, checkpoint, ← context.string?⟩
  | _ => none

end EventBulk

end DocStore
