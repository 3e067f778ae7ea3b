/-!
# Expressions of statements

The expressions on a row of a document table, and their text. Parentheses are part of the
expression, so the text is the plain concatenation of its parts. A mark inside a quoted text is
written twice.
-/

namespace DocStore.Sql

def doubled (mark : Char) (text : List Char) : List Char :=
  text.flatMap fun c => if c = mark then [mark, mark] else [c]

def quoted (mark : Char) (text : String) : String :=
  String.ofList (mark :: doubled mark text.toList ++ [mark])

def literal (text : String) : String := quoted '\'' text

def identifier (name : String) : String := quoted '\"' name

inductive CastType where
  | jsonb
  | float8
  | text
  | textArray
  deriving DecidableEq

def CastType.name : CastType → String
  | jsonb => "jsonb"
  | float8 => "float8"
  | text => "text"
  | textArray => "text[]"

inductive BinaryOp where
  | key
  | keyText
  | path
  | pathText
  | eq
  | contains
  | gt
  | gte
  | lt
  | lte
  | distinct
  | notDistinct
  | and
  | or
  deriving DecidableEq

def BinaryOp.symbol : BinaryOp → String
  | key => "->"
  | keyText => "->>"
  | path => "#>"
  | pathText => "#>>"
  | eq => "="
  | contains => "@>"
  | gt => ">"
  | gte => ">="
  | lt => "<"
  | lte => "<="
  | distinct => "IS DISTINCT FROM"
  | notDistinct => "IS NOT DISTINCT FROM"
  | and => "AND"
  | or => "OR"

inductive Expr where
  | column (name : String)
  | element (depth : Nat)
  | truth (value : Bool)
  | string (value : String)
  | pathString (segments : List String)
  | textArray (items : List String)
  | param (number : Nat)
  | paren (inner : Expr)
  | cast (inner : Expr) (type : CastType)
  | binary (op : BinaryOp) (left right : Expr)
  | not (inner : Expr)
  | isNull (inner : Expr)
  | isNotNull (inner : Expr)
  | anyOf (inner : Expr)
  | typeOf (inner : Expr)
  | coalesce (first second : Expr)
  | cases (condition whenTrue otherwise : Expr)
  | existsElement (items : Expr) (depth : Nat) (condition : Expr)

namespace Expr

/-- The column of the primary key. -/
@[match_pattern]
def id : Expr := .column "id"

/-- The column of the documents. -/
@[match_pattern]
def data : Expr := .column "data"

/-- The alias of the elements at a depth of nesting. -/
def aliasOf (depth : Nat) : String := "e" ++ toString depth

/-- Holds when an element of the items, under its alias, meets the condition. -/
def existsText (items elementAlias condition : String) : String :=
  "EXISTS (SELECT 1 FROM jsonb_array_elements(" ++ items ++ ") AS " ++ elementAlias ++
    "(value) WHERE " ++ condition ++ ")"

def text : Expr → String
  | column name => name
  | element depth => aliasOf depth ++ ".value"
  | truth true => "TRUE"
  | truth false => "FALSE"
  | string value => literal value
  | pathString segments => literal ("\x7b" ++ String.intercalate "," segments ++ "\x7d")
  | textArray items => "ARRAY[" ++ String.intercalate ", " (items.map literal) ++ "]"
  | param number => "$" ++ toString number
  | paren inner => "(" ++ inner.text ++ ")"
  | cast inner type => inner.text ++ "::" ++ type.name
  | binary op left right => left.text ++ " " ++ op.symbol ++ " " ++ right.text
  | not inner => "NOT " ++ inner.text
  | isNull inner => inner.text ++ " IS NULL"
  | isNotNull inner => inner.text ++ " IS NOT NULL"
  | anyOf inner => "ANY(" ++ inner.text ++ ")"
  | typeOf inner => "jsonb_typeof(" ++ inner.text ++ ")"
  | coalesce first second => "COALESCE(" ++ first.text ++ ", " ++ second.text ++ ")"
  | cases condition whenTrue otherwise =>
      "CASE WHEN " ++ condition.text ++ " THEN " ++ whenTrue.text ++ " ELSE " ++
        otherwise.text ++ " END"
  | existsElement items depth condition =>
      existsText items.text (aliasOf depth) condition.text

end Expr

end DocStore.Sql
