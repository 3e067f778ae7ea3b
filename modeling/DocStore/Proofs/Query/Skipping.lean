import DocStore.Proofs.Query.Pages
import DocStore.Proofs.Query.Shortcut

/-!
# Skipping the backend

An instance asks its backend unless the query can match nothing. A backend that answers with what
matches, as the one in memory does, would have answered the same, so nothing of an answer tells
whether the backend was asked.
-/

namespace DocStore

/-- No predicate is both always true and always false, since it holds of a value or not. -/
theorem Predicate.not_isAlways (predicate : Predicate) :
    ¬ (predicate.isAlwaysTrue = true ∧ predicate.isAlwaysFalse = true) := by
  rintro ⟨always, never⟩
  have holds := predicate.holds_of_isAlways.1 always .null
  rw [predicate.holds_of_isAlways.2 never .null] at holds
  cases holds

theorem CompiledQuery.mem_of_mem_page {α : Type} {query : CompiledQuery} {items : List α} {item : α}
    (member : item ∈ query.page items) : item ∈ items := by
  rw [page] at member
  cases limit : query.limit with
  | none =>
      rw [limit] at member
      exact List.mem_of_mem_drop member
  | some count =>
      rw [limit] at member
      exact List.mem_of_mem_drop (List.mem_of_mem_take member)

namespace Backend

variable {σ : Type}

/-- A backend selects rows, and they match the query. -/
structure Selects (backend : Backend σ) (name : String) (query : CompiledQuery) (state : σ)
    (rows : List StoredRow) : Prop where
  answered : (backend.select name query state).1 = .ok rows
  matching : ∀ row ∈ rows, query.matchesRow row = true

/-- A backend counts rows, those that match the query among some. -/
structure Counts (backend : Backend σ) (name : String) (query : CompiledQuery) (state : σ)
    (total : Nat) : Prop where
  answered : (backend.count name query state).1 = .ok total
  matching : ∃ rows : List StoredRow, rows.countP query.matchesRow = total

variable {backend : Backend σ} {name : String} {query : CompiledQuery} {state : σ}

theorem Selects.eq_nil {rows : List StoredRow} (selects : backend.Selects name query state rows)
    (never : query.predicate.isAlwaysFalse = true) : rows = [] := by
  refine List.eq_nil_iff_forall_not_mem.mpr fun row member => ?_
  have held := selects.matching row member
  rw [CompiledQuery.matchesRow_of_isAlwaysFalse never] at held
  cases held

theorem Counts.eq_zero {total : Nat} (counts : backend.Counts name query state total)
    (never : query.predicate.isAlwaysFalse = true) : total = 0 := by
  obtain ⟨rows, rfl⟩ := counts.matching
  refine List.countP_eq_zero.mpr fun row _ => ?_
  rw [CompiledQuery.matchesRow_of_isAlwaysFalse never]
  exact Bool.false_ne_true

end Backend

namespace MemoryStore

variable {store : MemoryStore} {name : String} {table : MemoryTable}

theorem select_eq (found : store.table? name = some table) (query : CompiledQuery) :
    backend.select name query store = (.ok (table.select query), store) := by
  simp [backend, reading, found]

theorem count_eq (found : store.table? name = some table) (query : CompiledQuery) :
    backend.count name query store = (.ok (table.count query), store) := by
  simp [backend, reading, found]

/-- A table in memory selects rows that match. -/
theorem selects (found : store.table? name = some table) (query : CompiledQuery) :
    backend.Selects name query store (table.select query) where
  answered := congrArg Prod.fst (select_eq found query)
  matching row member := by
    rw [MemoryTable.select] at member
    have arranged := CompiledQuery.mem_of_mem_page member
    rw [(MemoryTable.arrange_perm query _).mem_iff] at arranged
    exact (List.mem_filter.mp arranged).2

theorem counts (found : store.table? name = some table) (query : CompiledQuery) :
    backend.Counts name query store (table.count query) where
  answered := congrArg Prod.fst (count_eq found query)
  matching := ⟨table.rows.map MemoryRow.stored, List.countP_map⟩

end MemoryStore

namespace Instance

section Open

variable {σ : Type} {backend : Backend σ} {inst : Instance} {spec : QuerySpec} {state : σ}
  (isOpen : inst.closed = false)

include isOpen

theorem answer_checked_of_open {α : Type} {call : BackendCall σ α} {answer : α}
    (answered : (call state).1 = .ok answer) :
    (checked inst.requireOpen call state).1 = .ok answer := by
  have proceeds : inst.requireOpen = .ok () := by simp [requireOpen, isOpen]
  rw [proceeds, checked]
  cases done : call state with
  | mk given after =>
      rw [done] at answered
      cases answered
      rfl

/-- What a backend selects is what the query answers, whether the backend is asked or not. -/
theorem query_of_selects {rows : List StoredRow}
    (selects : backend.Selects inst.table spec.compile state rows) :
    (inst.query backend spec state).1 = .ok (rows.map StoredRow.data) := by
  have answered : ((if spec.compile.predicate.isAlwaysFalse then settled []
      else backend.select inst.table spec.compile) state).1 = .ok rows := by
    split
    · next never => rw [selects.eq_nil never, settled]
    · exact selects.answered
  exact congrArg (Except.map (·.map StoredRow.data)) (answer_checked_of_open isOpen answered)

theorem count_of_counts {total : Nat}
    (counts : backend.Counts inst.table spec.compile state total) :
    (inst.count backend spec state).1 = .ok total := by
  refine answer_checked_of_open isOpen ?_
  split
  · next never => rw [counts.eq_zero never, settled]
  · exact counts.answered

end Open

/-- What an analysis of the constants of a predicate says holds of every value. So an open instance
answers a query, and counts, as its backend does for the compiled query, with or without asking it:
any backend that answers with what matches, and always the one in memory. -/
theorem shortcuts_sound :
    (∀ (predicate : Predicate) (json : Json),
      (predicate.isAlwaysTrue = true → predicate.holds json = true) ∧
      (predicate.isAlwaysFalse = true → predicate.holds json = false) ∧
      ¬ (predicate.isAlwaysTrue = true ∧ predicate.isAlwaysFalse = true)) ∧
    (∀ (σ : Type) (backend : Backend σ) (inst : Instance) (spec : QuerySpec) (state : σ),
      inst.closed = false →
      (∀ rows, backend.Selects inst.table spec.compile state rows →
        (inst.query backend spec state).1 = .ok (rows.map StoredRow.data)) ∧
      ∀ total, backend.Counts inst.table spec.compile state total →
        (inst.count backend spec state).1 = .ok total) ∧
    ∀ (inst : Instance) (spec : QuerySpec) (store : MemoryStore),
      inst.closed = false → (store.table? inst.table).isSome →
      ∃ rows total,
        MemoryStore.backend.select inst.table spec.compile store = (.ok rows, store) ∧
        MemoryStore.backend.Selects inst.table spec.compile store rows ∧
        inst.query MemoryStore.backend spec store = (.ok (rows.map StoredRow.data), store) ∧
        MemoryStore.backend.count inst.table spec.compile store = (.ok total, store) ∧
        MemoryStore.backend.Counts inst.table spec.compile store total ∧
        inst.count MemoryStore.backend spec store = (.ok total, store) := by
  refine ⟨fun predicate json => ?_, fun σ backend inst spec state isOpen => ?_,
    fun inst spec store isOpen present => ?_⟩
  · have sound := predicate.holds_of_isAlways
    exact ⟨fun always => sound.1 always json, fun never => sound.2 never json,
      predicate.not_isAlways⟩
  · exact ⟨fun rows => query_of_selects isOpen, fun total => count_of_counts isOpen⟩
  · obtain ⟨table, found⟩ := Option.isSome_iff_exists.mp present
    exact ⟨table.select spec.compile, table.count spec.compile,
      MemoryStore.select_eq found spec.compile, MemoryStore.selects found spec.compile,
      query_eq isOpen found spec, MemoryStore.count_eq found spec.compile,
      MemoryStore.counts found spec.compile, count_eq isOpen found spec⟩

/-- The negation of what holds of every document. -/
def unsatisfiable : QuerySpec := .ofSelector (.not (.or [.and [], .or []]))

theorem shortcuts_sound_sample :
    unsatisfiable.compile.predicate.isAlwaysFalse = true ∧ sample.closed = false ∧
      (sampleStore.table? sample.table).isSome ∧
      MemoryStore.backend.Selects sample.table unsatisfiable.compile sampleStore [] ∧
      (sample.query MemoryStore.backend unsatisfiable sampleStore).1 = .ok [] ∧
      ∃ total, (sample.count MemoryStore.backend unsatisfiable sampleStore).1 = .ok total := by
  have never : unsatisfiable.compile.predicate.isAlwaysFalse = true := rfl
  obtain ⟨rows, total, _, selects, _, _, counts, _⟩ :=
    shortcuts_sound.2.2 sample unsatisfiable sampleStore rfl rfl
  have answers := shortcuts_sound.2.1 MemoryStore MemoryStore.backend sample unsatisfiable
    sampleStore rfl
  have none := selects.eq_nil never
  subst none
  exact ⟨never, rfl, rfl, selects, answers.1 [] selects, total, answers.2 total counts⟩

end Instance

end DocStore
