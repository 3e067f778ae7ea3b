import DocStore.Instance
import DocStore.Proofs.Json.Record
import DocStore.Query.Mango

/-!
# Records sent and received

Queries, schemas, rows, outcomes and events are written as JSON values and read back as they were.
The documents in them keep the order of their keys and the kinds of their numbers.
-/

namespace DocStore

open Json

/-! ## Rows -/

theorem Document.roundTrips : RoundTrips toJson ofJson? where
  reads _ := rfl
  notNull _ := nofun

theorem StoredRow.roundTrips : RoundTrips toJson ofJson? :=
  .record (fun _ => rfl) (fun _ => rfl) (by decide) fun row => by
    simp [roundTrips_string.reads, Document.roundTrips.reads]

theorem WriteRow.roundTrips : RoundTrips toJson ofJson? :=
  .record (fun _ => rfl) (fun _ => rfl) (by decide) fun row => by
    simp [Document.roundTrips.reads, Document.roundTrips.optional]

/-! ## Queries and schemas -/

theorem MangoQuery.roundTrips_word : RoundTrips wordJson word? :=
  Json.roundTrips_word UInt64.ofNat UInt64.toNat_lt fun _ => UInt64.ofNat_toNat

theorem MangoQuery.roundTrips : RoundTrips toJson ofJson? :=
  .record (fun _ => rfl) (fun _ => rfl) (by decide) fun query => by
    simp [roundTrips_word.optional, withDefault?, items?, ofOption]

/-- A name is written as a string and the parts of a composite key as an object, so no tag is
needed to tell them apart. -/
theorem PrimaryKey.roundTrips : RoundTrips toJson ofJson? where
  reads key := by
    cases key with
    | field name => rfl
    | composite key fields separator =>
        have listed := roundTrips_string.listOf fields
        simp [toJson, ofJson?, strings, List.lookup_cons, roundTrips_string.reads, listed]
  notNull key := by cases key <;> nofun

theorem Schema.roundTrips_version :
    RoundTrips (fun version : UInt32 => .ofNat version.toNat) version? :=
  roundTrips_word UInt32.ofNat UInt32.toNat_lt fun _ => UInt32.ofNat_toNat

theorem Schema.roundTrips : RoundTrips toJson ofJson? :=
  .record (fun _ => rfl) (fun _ => rfl) (by decide) fun schema => by
    simp [roundTrips_version.optional, PrimaryKey.roundTrips.optional, withDefault?, entries?]

theorem InstanceParams.roundTrips : RoundTrips toJson ofJson? :=
  .record (fun _ => rfl) (fun _ => rfl) (by decide) fun params => by
    simp [roundTrips_string.reads, Schema.roundTrips.reads]

/-! ## Outcomes -/

theorem roundTrips_status : RoundTrips statusJson status? :=
  roundTrips_word UInt16.ofNat UInt16.toNat_lt fun _ => UInt16.ofNat_toNat

theorem WriteConflict.roundTrips : RoundTrips toJson ofJson? :=
  .record (fun _ => rfl) (fun _ => rfl) (by decide) fun conflict => by
    simp [members, roundTrips_status.reads, roundTrips_string.reads, WriteRow.roundTrips.reads,
      Document.roundTrips.optional]

theorem WriteFailure.roundTrips : RoundTrips (fun failure => .object failure.members) ofJson? :=
  .record (fun _ => rfl) (fun _ => rfl) (by decide) fun failure => by
    simp [members, roundTrips_status.reads, roundTrips_string.reads, WriteRow.roundTrips.reads]

/-- The details of an outcome are read without its tag, which stands among their members. -/
theorem WriteConflict.ofJson?_tagged (tag : Json) (entries : List (String × Json)) :
    ofJson? (.object (("result", tag) :: entries)) = ofJson? (.object entries) := by
  rw [ofJson?, ofJson?, members?_cons (by decide)]

theorem WriteFailure.ofJson?_tagged (tag : Json) (entries : List (String × Json)) :
    ofJson? (.object (("result", tag) :: entries)) = ofJson? (.object entries) := by
  rw [ofJson?, ofJson?, members?_cons (by decide)]

namespace WriteOutcome

def tag : WriteOutcome → String
  | inserted _ => "inserted"
  | updated _ => "updated"
  | conflict _ => "conflict"
  | failed _ => "failed"

theorem roundTrips : RoundTrips toJson ofJson? where
  reads outcome := by
    cases outcome with
    | inserted id => rfl
    | updated id => rfl
    | conflict details =>
        have content : WriteConflict.ofJson? (.object details.members) = some details :=
          WriteConflict.roundTrips.reads details
        simp [toJson, ofJson?, tagged?, string?, WriteConflict.ofJson?_tagged, content]
    | failed details =>
        have content := WriteFailure.roundTrips.reads details
        simp [toJson, ofJson?, tagged?, string?, WriteFailure.ofJson?_tagged, content]
  notNull outcome := by cases outcome <;> nofun

/-- The tag stands in one object with the other members. -/
theorem field?_toJson (outcome : WriteOutcome) :
    outcome.toJson.field? "result" = some (.string outcome.tag) ∧
      outcome.toJson.field? "documentId" = some (.string outcome.documentId) := by
  cases outcome <;> exact ⟨rfl, rfl⟩

end WriteOutcome

theorem BulkWriteResponse.roundTrips : RoundTrips toJson ofJson? :=
  .record (fun _ => rfl) (fun _ => rfl) (by decide) fun response => by
    simp [WriteOutcome.roundTrips.listOf]

/-! ## Events -/

theorem ChangeOperation.ofName?_name (operation : ChangeOperation) :
    ofName? operation.name = some operation := by
  cases operation <;> rfl

theorem ChangeEvent.roundTrips : RoundTrips toJson ofJson? :=
  .record (fun _ => rfl) (fun _ => rfl) (by decide) fun event => by
    simp [roundTrips_string.reads, ChangeOperation.ofName?_name, Document.roundTrips.reads,
      Document.roundTrips.optional]

theorem Checkpoint.roundTrips : RoundTrips toJson ofJson? :=
  .record (fun _ => rfl) (fun _ => rfl) (by decide) fun _ => rfl

theorem EventBulk.roundTrips : RoundTrips toJson ofJson? :=
  .record (fun _ => rfl) (fun _ => rfl) (by decide) fun bulk => by
    simp [roundTrips_string.reads, ChangeEvent.roundTrips.listOf, Checkpoint.roundTrips.optional]

/-- Everything that is written as a JSON value is read back from this value as it was, null stands
for the options without a value, and an outcome carries its tag beside its other members. This is
about the values: a reader of JSON text may round the doubles in it. -/
theorem records_round_trip :
    (RoundTrips Document.toJson Document.ofJson? ∧
      RoundTrips MangoQuery.toJson MangoQuery.ofJson? ∧
      RoundTrips PrimaryKey.toJson PrimaryKey.ofJson? ∧
      RoundTrips Schema.toJson Schema.ofJson? ∧
      RoundTrips InstanceParams.toJson InstanceParams.ofJson? ∧
      RoundTrips StoredRow.toJson StoredRow.ofJson? ∧
      RoundTrips WriteRow.toJson WriteRow.ofJson? ∧
      RoundTrips WriteOutcome.toJson WriteOutcome.ofJson? ∧
      RoundTrips BulkWriteResponse.toJson BulkWriteResponse.ofJson? ∧
      RoundTrips ChangeEvent.toJson ChangeEvent.ofJson? ∧
      RoundTrips Checkpoint.toJson Checkpoint.ofJson? ∧
      RoundTrips EventBulk.toJson EventBulk.ofJson?) ∧
    (MarksAbsent MangoQuery.toJson "skip" MangoQuery.skip ∧
      MarksAbsent MangoQuery.toJson "limit" MangoQuery.limit ∧
      MarksAbsent Schema.toJson "version" Schema.version ∧
      MarksAbsent Schema.toJson "primaryKey" Schema.primaryKey ∧
      MarksAbsent WriteRow.toJson "previous" WriteRow.previous ∧
      MarksAbsent (WriteOutcome.toJson ∘ .conflict) "documentInDb" WriteConflict.documentInDb ∧
      MarksAbsent ChangeEvent.toJson "previousDocumentData" ChangeEvent.previousDocumentData ∧
      MarksAbsent EventBulk.toJson "checkpoint" EventBulk.checkpoint) ∧
    ∀ outcome : WriteOutcome, outcome.toJson.field? "result" = some (.string outcome.tag) ∧
      outcome.toJson.field? "documentId" = some (.string outcome.documentId) := by
  refine ⟨⟨Document.roundTrips, MangoQuery.roundTrips, PrimaryKey.roundTrips, Schema.roundTrips,
    InstanceParams.roundTrips, StoredRow.roundTrips, WriteRow.roundTrips, WriteOutcome.roundTrips,
    BulkWriteResponse.roundTrips, ChangeEvent.roundTrips, Checkpoint.roundTrips,
    EventBulk.roundTrips⟩, ⟨?_, ?_, ?_, ?_, ?_, ?_, ?_, ?_⟩, WriteOutcome.field?_toJson⟩
  · exact MangoQuery.roundTrips_word.marksAbsent fun _ => rfl
  · exact MangoQuery.roundTrips_word.marksAbsent fun _ => rfl
  · exact Schema.roundTrips_version.marksAbsent fun _ => rfl
  · exact PrimaryKey.roundTrips.marksAbsent fun _ => rfl
  · exact Document.roundTrips.marksAbsent fun _ => rfl
  · exact Document.roundTrips.marksAbsent fun _ => rfl
  · exact Document.roundTrips.marksAbsent fun _ => rfl
  · exact Checkpoint.roundTrips.marksAbsent fun _ => rfl

end DocStore
