import DocStore.Predicate
import DocStore.Sql.Expr

/-!
# Filters

A predicate as an expression on the data column, with its operands as parameters. Parameters are
numbered in the order of a walk from left to right; every leaf is guarded against SQL null, so that
a negation is true where a field is missing. Field names occur in string literals only.
-/

namespace DocStore

namespace Sql

inductive Param where
  | text (value : String)
  | float (value : Binary64)
  | json (value : Json)

/-- A single key that no array takes for a position. -/
def simpleKey? (path : FieldPath) : Option String :=
  match path.segments with
  | [segment] => if (Numeral.index? segment.toList).isNone then some segment else none
  | _ => none

def pathArray (path : FieldPath) : Expr := .cast (.textArray path.segments) .textArray

/-- The value at a path; SQL null when absent. -/
def jsonAt (root : Expr) (path : FieldPath) : Expr :=
  if path.isRoot then root
  else
    match simpleKey? path with
    | some key => .paren (.binary .key root (.string key))
    | none => .paren (.binary .path root (pathArray path))

/-- The text form at a path; SQL null when absent or JSON null. -/
def textAt (root : Expr) (path : FieldPath) : Expr :=
  if path.isRoot then .paren (.binary .pathText root (.pathString []))
  else
    match simpleKey? path with
    | some key => .paren (.binary .keyText root (.string key))
    | none => .paren (.binary .pathText root (pathArray path))

def orFalse (condition : Expr) : Expr := .coalesce condition (.truth false)

def hasType (json : Expr) (kind : Json.Kind) : Expr :=
  .binary .eq (.typeOf json) (.string kind.name)

def comparisonOp : Comparison → BinaryOp
  | .gt => .gt
  | .gte => .gte
  | .lt => .lt
  | .lte => .lte

/-- The items of an array, none for any other value. -/
def itemsOf (json : Expr) : Expr :=
  .cases (hasType json .array) json (.cast (.string "[]") .jsonb)

def join (op : BinaryOp) (empty : Bool) : List Expr → Expr
  | [] => .truth empty
  | [only] => only
  | first :: rest => .paren (rest.foldl (.binary op) first)

end Sql

namespace Predicate

open Sql

mutual

def params : Predicate → List Param
  | .const _ => []
  | .and parts => paramsOfAll parts
  | .or parts => paramsOfAll parts
  | .not part => params part
  | .textEq _ value => [.text value]
  | .jsonEq _ value => [.json value]
  | .isNull _ => []
  | .compare _ _ value => [.float value]
  | .exists _ => []
  | .kindIs _ kind => [.text kind.name]
  | .contains _ value => [.json value]
  | .elemMatch _ part => params part

def paramsOfAll : List Predicate → List Param
  | [] => []
  | part :: rest => params part ++ paramsOfAll rest

end

mutual

/-- The condition on `root` at a depth of element matches, after `bound` parameters. -/
def condition (root : Expr) (depth bound : Nat) : Predicate → Expr
  | .const value => .truth value
  | .and parts => join .and true (conditions root depth bound parts)
  | .or parts => join .or false (conditions root depth bound parts)
  | .not part => .not (.paren (condition root depth bound part))
  | .textEq path _ => orFalse (.binary .eq (textAt root path) (.param (bound + 1)))
  | .jsonEq path _ =>
      orFalse (.binary .eq (jsonAt root path) (.cast (.param (bound + 1)) .jsonb))
  | .isNull path => .paren (.isNull (textAt root path))
  | .compare path comparison _ =>
      .paren (.cases (hasType (jsonAt root path) .number)
        (.binary (comparisonOp comparison) (.cast (textAt root path) .float8) (.param (bound + 1)))
        (.truth false))
  | .exists path => .paren (.isNotNull (jsonAt root path))
  | .kindIs path _ => orFalse (.binary .eq (.typeOf (jsonAt root path)) (.param (bound + 1)))
  | .contains path _ =>
      orFalse (.binary .contains (jsonAt root path) (.cast (.param (bound + 1)) .jsonb))
  | .elemMatch path part =>
      .existsElement (itemsOf (jsonAt root path)) (depth + 1)
        (condition (.element (depth + 1)) (depth + 1) bound part)

def conditions (root : Expr) (depth bound : Nat) : List Predicate → List Expr
  | [] => []
  | part :: rest =>
      condition root depth bound part ::
        conditions root depth (bound + (params part).length) rest

end

/-- The condition on the stored document. -/
def filter (predicate : Predicate) : Expr := predicate.condition .data 0 0

end Predicate

end DocStore
