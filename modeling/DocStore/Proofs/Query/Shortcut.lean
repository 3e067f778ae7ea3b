import DocStore.Proofs.Backend.Memory
import DocStore.Proofs.Induction

/-!
# Queries answered without a table

A predicate that is always false, as far as its constants show, holds of no document. An instance
answers such a query without its table, with what the table would have answered.
-/

namespace DocStore

namespace Predicate

/-- The two go together, since a negation turns each into the other. -/
theorem holds_of_isAlways (predicate : Predicate) :
    (predicate.isAlwaysTrue = true → ∀ json, predicate.holds json = true) ∧
      (predicate.isAlwaysFalse = true → ∀ json, predicate.holds json = false) := by
  induction predicate with
  | const value =>
      refine ⟨fun always json => always, fun never json => ?_⟩
      rw [isAlwaysFalse, Bool.not_eq_true'] at never
      exact never
  | and parts ih =>
      refine ⟨fun always json => ?_, fun never json => ?_⟩
      · rw [isAlwaysTrue, allAlwaysTrue_eq_all, List.all_eq_true] at always
        rw [holds, allHold_eq_all, List.all_eq_true]
        exact fun part member => (ih part member).1 (always part member) json
      · rw [isAlwaysFalse, anyAlwaysFalse_eq_any, List.any_eq_true] at never
        obtain ⟨part, member, fails⟩ := never
        rw [holds, allHold_eq_all, List.all_eq_false]
        exact ⟨part, member, by simp [(ih part member).2 fails json]⟩
  | or parts ih =>
      refine ⟨fun always json => ?_, fun never json => ?_⟩
      · rw [isAlwaysTrue, anyAlwaysTrue_eq_any, List.any_eq_true] at always
        obtain ⟨part, member, held⟩ := always
        rw [holds, anyHolds_eq_any, List.any_eq_true]
        exact ⟨part, member, (ih part member).1 held json⟩
      · rw [isAlwaysFalse, allAlwaysFalse_eq_all, List.all_eq_true] at never
        rw [holds, anyHolds_eq_any, List.any_eq_false]
        exact fun part member => by simp [(ih part member).2 (never part member) json]
  | not part ih =>
      refine ⟨fun always json => ?_, fun never json => ?_⟩
      · rw [holds, ih.2 always json]
        rfl
      · rw [holds, ih.1 never json]
        rfl
  | textEq | jsonEq | isNull | compare | present | kindIs | contains | elemMatch =>
      exact ⟨(nomatch ·), (nomatch ·)⟩

end Predicate

namespace CompiledQuery

variable {query : CompiledQuery} (never : query.predicate.isAlwaysFalse = true)

include never

theorem matchesRow_of_isAlwaysFalse (row : StoredRow) : query.matchesRow row = false :=
  query.predicate.holds_of_isAlways.2 never row.data.toJson

theorem arrange_of_isAlwaysFalse (rows : List StoredRow) : query.arrange rows = [] := by
  have nothing : rows.filter query.matchesRow = [] := List.filter_eq_nil_iff.mpr fun row _ => by
    simp [matchesRow_of_isAlwaysFalse never]
  rw [arrange, nothing]
  exact ite_self []

theorem page_of_isAlwaysFalse (rows : List StoredRow) : query.page (query.arrange rows) = [] := by
  rw [arrange_of_isAlwaysFalse never, page]
  cases query.limit <;> simp

theorem count_of_isAlwaysFalse (table : MemoryTable) : table.count query = 0 := by
  rw [MemoryTable.count, List.countP_eq_zero]
  intro row _
  simp [matchesRow_of_isAlwaysFalse never]

end CompiledQuery

namespace Instance

variable {inst : Instance} {store : MemoryStore} {table : MemoryTable}

theorem checked_of_open (isOpen : inst.closed = false) {α : Type} (call : BackendCall MemoryStore α)
    {answer : α} {after : MemoryStore} (done : call store = (.ok answer, after)) :
    checked inst.requireOpen call store = (.ok answer, after) := by
  simp [checked, requireOpen, isOpen, done]

/-- An open instance answers a query with the page that its table selects. -/
theorem query_eq (isOpen : inst.closed = false) (found : store.table? inst.table = some table)
    (spec : QuerySpec) :
    inst.query MemoryStore.backend spec store =
      (.ok ((table.select spec.compile).map StoredRow.data), store) := by
  have answered : (if spec.compile.predicate.isAlwaysFalse then settled []
      else MemoryStore.backend.select inst.table spec.compile) store =
        (.ok (table.select spec.compile), store) := by
    split
    · next never => rw [MemoryTable.select, CompiledQuery.page_of_isAlwaysFalse never, settled]
    · simp [MemoryStore.backend, MemoryStore.reading, found]
  rw [query, checked_of_open isOpen _ answered]
  rfl

/-- An open instance counts the documents of its table that match. -/
theorem count_eq (isOpen : inst.closed = false) (found : store.table? inst.table = some table)
    (spec : QuerySpec) :
    inst.count MemoryStore.backend spec store = (.ok (table.count spec.compile), store) := by
  refine checked_of_open isOpen _ ?_
  split
  · next never => rw [CompiledQuery.count_of_isAlwaysFalse never, settled]
  · simp [MemoryStore.backend, MemoryStore.reading, found]

end Instance

end DocStore
