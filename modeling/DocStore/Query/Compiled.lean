import DocStore.Predicate
import DocStore.Query.Spec
import DocStore.Sql.Statement

/-!
# Compiled queries

A query ready to run: its predicate decides in memory, its selection is sent as a statement.
-/

namespace DocStore

structure CompiledQuery where
  predicate : Predicate
  sort : List SortTerm
  skip : Nat
  limit : Option Nat

def QuerySpec.compile (spec : QuerySpec) : CompiledQuery :=
  ⟨Predicate.ofSelector spec.selector, spec.sort, spec.skip, spec.limit⟩

namespace CompiledQuery

def matchesRow (query : CompiledQuery) (row : StoredRow) : Bool :=
  query.predicate.holds row.data.toJson

def isSorted (query : CompiledQuery) : Bool := !query.sort.isEmpty

def termOrder (a b : StoredRow) (term : SortTerm) : Ordering :=
  term.direction.apply (Json.optionOrder (a.data.lookup term.path) (b.data.lookup term.path))

/-- The terms in turn, then the ids. -/
def order (query : CompiledQuery) (a b : StoredRow) : Ordering :=
  query.sort.foldr (fun term rest => (termOrder a b term).then rest) (compare a.id b.id)

/-- The rows that match, sorted when the query is. -/
def arrange (query : CompiledQuery) (rows : List StoredRow) : List StoredRow :=
  let found := rows.filter query.matchesRow
  if query.isSorted then stableSort query.order found else found

def page {α : Type} (query : CompiledQuery) (items : List α) : List α :=
  match query.limit with
  | some limit => (items.drop query.skip).take limit
  | none => items.drop query.skip

def params (query : CompiledQuery) : List Sql.Param := query.predicate.params

def selection (query : CompiledQuery) : Sql.Selection where
  filter := query.predicate.filter
  order := query.sort.map fun term => (Sql.jsonAt .data term.path, term.direction)
  limit := query.limit
  skip := query.skip

def selectStatement (query : CompiledQuery) (table : String) : Sql.Statement :=
  .select table query.selection

def countStatement (query : CompiledQuery) (table : String) : Sql.Statement :=
  .count table query.predicate.filter

end CompiledQuery

end DocStore
