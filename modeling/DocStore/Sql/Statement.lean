import DocStore.Direction
import DocStore.Document
import DocStore.Sql.Filter

/-!
# Statements

The statements on a document table, with the conditions that guard single rows, and their text.
A statement is sent with the arguments of its parameters.
-/

namespace DocStore.Sql

inductive Arg where
  | param (value : Param)
  | texts (values : List String)
  | null

def Arg.text (value : String) : Arg := .param (.text value)

def Arg.json (value : Json) : Arg := .param (.json value)

def Arg.float (value : Binary64) : Arg := .param (.float value)

def Arg.ofText? : Option String → Arg
  | some value => .text value
  | none => .null

/-- What a select statement asks for: a filter, the order of its rows, and a page of them. -/
structure Selection where
  filter : Expr
  order : List (Expr × Direction)
  limit : Option Nat
  skip : Nat

inductive Statement where
  | createTable (table : String)
  | createIndex (table : String)
  | tableExists
  | dropTable (table : String)
  | lookup (table : String) (withDeleted : Bool)
  | select (table : String) (selection : Selection)
  | count (table : String) (filter : Expr)
  | insert (table : String)
  | update (table : String)
  | purge (table : String)

structure Call where
  statement : Statement
  args : List Arg

def trueJson : Expr := .cast (.string "true") .jsonb

def deletedFlag : Expr := .paren (.binary .key .data (.string Document.deletedField))

def lastWritePath : Expr := .pathString [Document.metaField, Document.lastWriteField]

namespace Statement

/-- Holds of the rows with one of the given ids that are not flagged as deleted, or of all. -/
def lookupCondition (withDeleted : Bool) : Expr :=
  let listed := .binary .eq .id (.anyOf (.param 1))
  if withDeleted then listed
  else .binary .and listed (.binary .distinct deletedFlag trueJson)

/-- Holds of the row with the given id whose revision is the expected one. -/
def updateCondition : Expr :=
  .binary .and (.binary .eq .id (.param 1))
    (.binary .notDistinct (.paren (.binary .keyText .data (.string Document.revisionField)))
      (.cast (.param 3) .text))

/-- Holds of the rows flagged as deleted and last written at or before the cutoff. -/
def purgeCondition : Expr :=
  .binary .and (.binary .eq deletedFlag trueJson)
    (.paren (.cases
      (.binary .eq (.typeOf (.binary .path .data lastWritePath)) (.string Json.Kind.number.name))
      (.binary .lte
        (.cast (.paren (.binary .pathText .data lastWritePath)) .float8) (.param 1))
      (.truth false)))

end Statement

namespace Selection

/-- Rows that the terms leave equal are put in the order of their ids. -/
def orderText (selection : Selection) : String :=
  if selection.order.isEmpty then ""
  else
    " ORDER BY " ++ String.intercalate ", "
      (selection.order.map (fun term => term.1.text ++ " " ++ term.2.keyword) ++
        ["id COLLATE \"C\" ASC"])

def pageText (selection : Selection) : String :=
  (match selection.limit with
    | some limit => " LIMIT " ++ toString limit
    | none => "") ++
  (if 0 < selection.skip then " OFFSET " ++ toString selection.skip else "")

end Selection

namespace Statement

def text : Statement → String
  | createTable table =>
      "CREATE TABLE IF NOT EXISTS " ++ identifier table ++
        " (id TEXT PRIMARY KEY, data JSONB NOT NULL DEFAULT '\x7b\x7d'::jsonb)"
  | createIndex table =>
      "CREATE INDEX IF NOT EXISTS " ++ identifier (table ++ "_data_idx") ++ " ON " ++
        identifier table ++ " USING GIN (data)"
  | tableExists => "SELECT to_regclass($1) IS NOT NULL"
  | dropTable table => "DROP TABLE IF EXISTS " ++ identifier table
  | lookup table withDeleted =>
      "SELECT id, data FROM " ++ identifier table ++ " WHERE " ++
        (lookupCondition withDeleted).text
  | select table selection =>
      "SELECT id, data FROM " ++ identifier table ++ " WHERE " ++ selection.filter.text ++
        selection.orderText ++ selection.pageText
  | count table filter =>
      "SELECT COUNT(*) FROM " ++ identifier table ++ " WHERE " ++ filter.text
  | insert table =>
      "INSERT INTO " ++ identifier table ++
        " (id, data) VALUES ($1, $2) ON CONFLICT (id) DO NOTHING"
  | update table =>
      "UPDATE " ++ identifier table ++ " SET data = $2 WHERE " ++ updateCondition.text
  | purge table =>
      "DELETE FROM " ++ identifier table ++ " WHERE " ++ purgeCondition.text

end Statement

end DocStore.Sql
