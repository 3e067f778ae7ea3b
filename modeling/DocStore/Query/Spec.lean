import DocStore.Direction
import DocStore.Query.Mango
import DocStore.Selector.Reader

/-!
# Query specifications

A selector with sort terms and a page. Of a Mango sort list, every item that is no valid term is
set aside and the others keep their order.
-/

namespace DocStore

structure SortTerm where
  path : FieldPath
  direction : Direction

namespace SortTerm

/-- The pairs of an object entry stand on their own; any other entry is one item. -/
def itemsOf : Json → List Json
  | .object (first :: rest) => (first :: rest).map fun entry => .object [entry]
  | entry => [entry]

/-- A field name sorts upwards, a pair in the direction it names. -/
def ofItem? : Json → Option SortTerm
  | .string field => (FieldPath.ofString field).toOption.map fun path => ⟨path, .asc⟩
  | .object [(field, .string direction)] => do
      let path ← (FieldPath.ofString field).toOption
      let direction ← Direction.ofString? direction
      return ⟨path, direction⟩
  | _ => none

end SortTerm

structure QuerySpec where
  selector : Selector
  sort : List SortTerm
  skip : Nat
  limit : Option Nat
  droppedSort : List Json

namespace QuerySpec

def ofSelector (selector : Selector) : QuerySpec := ⟨selector, [], 0, none, []⟩

def all : QuerySpec := ofSelector Selector.everything

def readSelector (selector : Json) : Except Error QuerySpec :=
  (Selector.read selector).map ofSelector

def positive (limit : Nat) : Option Nat := if limit = 0 then none else some limit

def ofMango (query : MangoQuery) : Except Error QuerySpec := do
  let selector ← Selector.read query.selector
  let items := query.sort.flatMap SortTerm.itemsOf
  return {
    selector
    sort := items.filterMap SortTerm.ofItem?
    skip := (query.skip.map UInt64.toNat).getD 0
    limit := query.limit.bind fun limit => positive limit.toNat
    droppedSort := items.filter fun item => (SortTerm.ofItem? item).isNone }

def sortBy (spec : QuerySpec) (path : FieldPath) (direction : Direction) : QuerySpec :=
  { spec with sort := spec.sort ++ [⟨path, direction⟩] }

def withSkip (spec : QuerySpec) (skip : Nat) : QuerySpec := { spec with skip }

def withLimit (spec : QuerySpec) (limit : Nat) : QuerySpec :=
  { spec with limit := positive limit }

end QuerySpec

end DocStore
