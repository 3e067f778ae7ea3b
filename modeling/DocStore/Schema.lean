import DocStore.Document
import DocStore.Json.Record

/-!
# Collection schemas

A schema has a version and a primary key; its properties are carried along unread. The primary key
gives a document its id, and database, collection and version give the table its name.
-/

namespace DocStore

inductive PrimaryKey where
  | field (name : String)
  | composite (key : String) (fields : List String) (separator : String)

namespace PrimaryKey

/-- The field that holds the id. -/
def path : PrimaryKey → String
  | field name => name
  | composite key _ _ => key

/-- A string or a number can be a part of a composite id. -/
def part (document : Document) (name : String) : Except Error String :=
  match document.field? name with
  | some (.string value) => .ok value
  | some (.number value) => .ok value.text
  | _ => .error (.missingPrimaryKeyValue name)

def compose (document : Document) : PrimaryKey → Except Error String
  | field name =>
      match (document.field? name).bind Json.string? with
      | some id => if id.isEmpty then .error (.missingPrimaryKeyValue name) else .ok id
      | none => .error (.missingPrimaryKeyValue name)
  | composite _ fields separator =>
      (fields.mapM (part document)).map (String.intercalate separator)

def row (key : PrimaryKey) (document : Document) : Except Error StoredRow :=
  (key.compose document).map fun id => ⟨id, document⟩

def toJson : PrimaryKey → Json
  | field name => .string name
  | composite key fields separator =>
      .object [("key", .string key), ("fields", Json.strings fields),
        ("separator", .string separator)]

def ofJson? : Json → Option PrimaryKey
  | .string name => some (field name)
  | .object entries => do
      let key ← (← entries.lookup "key").string?
      let fields ← Json.listOf? Json.string? (← entries.lookup "fields")
      let separator ← (← entries.lookup "separator").string?
      return composite key fields separator
  | _ => none

end PrimaryKey

structure Schema where
  version : Option UInt32
  primaryKey : Option PrimaryKey
  properties : List (String × Json)

namespace Schema

def requirePrimaryKey (schema : Schema) : Except Error PrimaryKey :=
  match schema.primaryKey with
  | some key => .ok key
  | none => .error .missingPrimaryKey

def requireVersion (schema : Schema) : Except Error UInt32 :=
  match schema.version with
  | some version => .ok version
  | none => .error .missingSchemaVersion

/-- The primary key and the version of a schema that has all a table needs. -/
def validate (schema : Schema) : Except Error (PrimaryKey × UInt32) := do
  let key ← schema.requirePrimaryKey
  if key.path.isEmpty then .error .missingPrimaryKey
  else return (key, ← schema.requireVersion)

def tableName (database collection : String) (version : UInt32) : String :=
  database ++ "_" ++ collection ++ "_" ++ toString version.toNat

def version? (json : Json) : Option UInt32 := (json.natural? UInt32.size).map UInt32.ofNat

def toJson (schema : Schema) : Json :=
  .object [("version", Json.ofOptional (fun version => .ofNat version.toNat) schema.version),
    ("primaryKey", Json.ofOptional PrimaryKey.toJson schema.primaryKey),
    ("properties", .object schema.properties)]

def ofJson? (json : Json) : Option Schema := do
  match ← json.members? ["version", "primaryKey", "properties"] 0 with
  | [version, primaryKey, properties] =>
      let version ← Json.optional? version? version
      let primaryKey ← Json.optional? PrimaryKey.ofJson? primaryKey
      let properties ← Json.withDefault? Json.entries? [] properties
      return ⟨version, primaryKey, properties⟩
  | _ => none

end Schema

end DocStore
