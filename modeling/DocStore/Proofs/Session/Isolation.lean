import DocStore.Proofs.Backend.Agreement
import DocStore.Proofs.Schema
import DocStore.Proofs.Session.Effect

/-!
# Instances that share tables in memory

An operation depends on the table of its instance only and reaches no other, so instances on
different tables do not notice each other. Two instances can still be on one table, when the names
of their databases and collections read the same as one text.
-/

namespace DocStore

namespace MemoryStore

/-- No write is made to fail, and a table is the same. -/
structure SameTable (name : String) (store other : MemoryStore) : Prop where
  unfailing : store.failingWrites = 0
  unfailing' : other.failingWrites = 0
  table : store.table? name = other.table? name

namespace SameTable

variable {name : String} {store other : MemoryStore}

theorem setTable (same : SameTable name store other) (table : MemoryTable) :
    SameTable name (store.setTable name table) (other.setTable name table) where
  unfailing := same.unfailing
  unfailing' := same.unfailing'
  table := by rw [table?_setTable, table?_setTable]

theorem agree_reading {α : Type} (read : MemoryTable → α) :
    Agree (SameTable name) (reading name read) (reading name read) := by
  intro store other same
  rw [reading, reading, ← same.table]
  cases store.table? name with
  | none => exact ⟨_, store, other, rfl, rfl, same⟩
  | some table => exact ⟨_, store, other, rfl, rfl, same⟩

theorem agree_writing (write? : MemoryTable → Option MemoryTable) :
    Agree (SameTable name) (writing name write?) (writing name write?) := by
  intro store other same
  rw [writing, writing, same.unfailing, same.unfailing', ← same.table]
  cases store.table? name with
  | none => exact ⟨_, store, other, rfl, rfl, same⟩
  | some table =>
      cases written : write? table with
      | none => exact ⟨.ok false, store, other, by simp [written], by simp [written], same⟩
      | some changed =>
          exact ⟨.ok true, _, _, by simp [written], by simp [written], same.setTable changed⟩

theorem agree_purge (cutoff : Binary64) :
    Agree (SameTable name) (purge name cutoff) (purge name cutoff) := by
  intro store other same
  rw [purge, purge, ← same.table]
  cases store.table? name with
  | none => exact ⟨_, store, other, rfl, rfl, same⟩
  | some table => exact ⟨_, _, _, rfl, rfl, same.setTable (table.purge cutoff)⟩

theorem agree_dropTable : Agree (SameTable name) (dropTable name) (dropTable name) := by
  intro store other same
  have gone : ∀ store, (dropTable name store).2.table? name = none := fun store => by
    rw [table?_dropTable, if_pos rfl]
  exact ⟨.ok (), _, _, rfl, rfl, same.unfailing, same.unfailing',
    (gone store).trans (gone other).symm⟩

end SameTable

/-- The calls on a table depend on this table only. -/
theorem backend_agrees (name : String) :
    Backend.Agrees (SameTable name) backend backend name where
  dropTable := SameTable.agree_dropTable
  findByIds ids withDeleted := SameTable.agree_reading (·.find ids withDeleted)
  select query := SameTable.agree_reading (·.select query)
  count query := SameTable.agree_reading (·.count query)
  insert row := SameTable.agree_writing (·.insert? row)
  update row expected := SameTable.agree_writing (·.update? row expected)
  purge := SameTable.agree_purge

end MemoryStore

/-! ## Names of tables -/

/-- Collections of one version whose names, each with that of its database before it, read the
same. -/
def InstanceParams.Confusable (params other : InstanceParams) : Prop :=
  params.schema.version = other.schema.version ∧
    Schema.qualifiedName params.databaseName params.collectionName =
      Schema.qualifiedName other.databaseName other.collectionName

namespace Instance

/-- An instance on the table that is named for its collection. -/
def IsNamed (inst : Instance) : Prop :=
  ∃ version, inst.params.schema.version = some version ∧
    inst.table = Schema.tableName inst.params.databaseName inst.params.collectionName version

theorem isNamed_of_create {σ : Type} {backend : Backend σ} {settings : Settings}
    {params : InstanceParams} {state after : σ} {inst : Instance}
    (done : create backend settings params state = (.ok inst, after)) : inst.IsNamed := by
  rw [create] at done
  cases valid : params.schema.validate with
  | error fault =>
      rw [valid] at done
      cases done
  | ok found =>
      obtain ⟨key, version⟩ := found
      simp only [valid] at done
      rcases prepared : prepareTable backend settings
        (Schema.tableName params.databaseName params.collectionName version) state with
        ⟨fault | _, reached⟩
      · rw [prepared] at done
        cases done
      · rw [prepared] at done
        cases done
        exact ⟨version, Schema.version_of_validate valid, rfl⟩

theorem table_ne_of_not_confusable {inst other : Instance} (named : inst.IsNamed)
    (named' : other.IsNamed) (clear : ¬ inst.params.Confusable other.params) :
    inst.table ≠ other.table := by
  intro same
  obtain ⟨version, found, table⟩ := named
  obtain ⟨version', found', table'⟩ := named'
  rw [table, table', Schema.tableName_eq_iff] at same
  exact clear ⟨by rw [found, found', same.1], same.2⟩

end Instance

/-! ## Neighbours -/

/-- Instances that share the tables of one store. -/
structure Neighbours (ι : Type) where
  instances : ι → Instance
  store : MemoryStore

namespace Neighbours

variable {ι : Type} [DecidableEq ι]

/-- One of the instances performs an operation. -/
def perform (neighbours : Neighbours ι) (i : ι) (operation : Operation) :
    Except StoreError Answer × Neighbours ι :=
  let (answer, changed, after) :=
    (neighbours.instances i).perform MemoryStore.backend neighbours.store operation
  (answer, ⟨Function.update neighbours.instances i changed, after⟩)

/-- Operations in turn, with the answers that their instances get. -/
def run (neighbours : Neighbours ι) :
    List (ι × Operation) → List (ι × Except StoreError Answer) × Neighbours ι
  | [] => ([], neighbours)
  | (i, operation) :: rest =>
      let (answer, after) := neighbours.perform i operation
      let (answers, final) := after.run rest
      ((i, answer) :: answers, final)

/-- What belongs to one of the instances. -/
def only {α : Type} (i : ι) (entries : List (ι × α)) : List (ι × α) :=
  entries.filter fun entry => decide (entry.1 = i)

theorem only_cons_self {α : Type} (i : ι) (value : α) (rest : List (ι × α)) :
    only i ((i, value) :: rest) = (i, value) :: only i rest :=
  List.filter_cons_of_pos (decide_eq_true rfl)

theorem only_cons_of_ne {α : Type} {i j : ι} (apart : j ≠ i) (value : α) (rest : List (ι × α)) :
    only i ((j, value) :: rest) = only i rest :=
  List.filter_cons_of_neg (by simpa using apart)

theorem run_cons (neighbours : Neighbours ι) (i : ι) (operation : Operation)
    (rest : List (ι × Operation)) :
    neighbours.run ((i, operation) :: rest) =
      ((i, (neighbours.perform i operation).1) ::
        ((neighbours.perform i operation).2.run rest).1,
        ((neighbours.perform i operation).2.run rest).2) := rfl

variable {i j : ι} {tables : ι → String} {here there : Neighbours ι}

theorem table_perform (here : Neighbours ι) (i j : ι) (operation : Operation) :
    ((here.perform i operation).2.instances j).table = (here.instances j).table := by
  obtain ⟨feed, closed, changed⟩ :=
    (here.instances i).exists_perform MemoryStore.backend operation here.store
  by_cases own : j = i
  · subst own
    simp only [perform, Function.update_self, changed]
  · simp only [perform, Function.update_of_ne own]

/-- Two courses of the neighbours that one of them cannot tell apart. -/
structure Alike (i : ι) (tables : ι → String) (here there : Neighbours ι) : Prop where
  onTables : ∀ j, (here.instances j).table = tables j
  inst : here.instances i = there.instances i
  store : MemoryStore.SameTable (tables i) here.store there.store

theorem Alike.own (alike : Alike i tables here there) (operation : Operation) :
    (here.perform i operation).1 = (there.perform i operation).1 ∧
      Alike i tables (here.perform i operation).2 (there.perform i operation).2 := by
  obtain ⟨answer, ⟨changed, after⟩, ⟨changed', after'⟩, done, done', same, _, store⟩ :=
    Instance.agree_perform (MemoryStore.backend_agrees (tables i)) operation
      (here.instances i, here.store) (there.instances i, there.store)
      ⟨alike.inst, alike.onTables i, alike.store⟩
  have onTables := fun j => (table_perform here i j operation).trans (alike.onTables j)
  simp only at done done'
  simp only [perform, done] at onTables
  simp only [perform, done, done']
  refine ⟨trivial, onTables, ?_, store⟩
  simp only [Function.update_self]
  exact same

theorem Alike.other (alike : Alike i tables here there) (apart : j ≠ i)
    (tableApart : tables j ≠ tables i) (operation : Operation) :
    Alike i tables (here.perform j operation).2 there := by
  have altered := (here.instances j).altered_perform operation here.store
  rw [alike.onTables j] at altered
  refine ⟨fun k => (table_perform here j k operation).trans (alike.onTables k), ?_, ?_, ?_, ?_⟩
  · simp only [perform, Function.update_of_ne (Ne.symm apart)]
    exact alike.inst
  · exact altered.unfailing alike.store.unfailing
  · exact alike.store.unfailing'
  · exact (altered.table?_of_ne (Ne.symm tableApart)).trans alike.store.table

/-- Leaving out the operations of all others changes no answer. -/
theorem Alike.run (alike : Alike i tables here there)
    (apart : ∀ j, j ≠ i → tables j ≠ tables i) (calls : List (ι × Operation)) :
    only i (here.run calls).1 = (there.run (only i calls)).1 ∧
      Alike i tables (here.run calls).2 (there.run (only i calls)).2 := by
  -- Both courses take the own operations; the others change only the first one, out of sight.
  induction calls generalizing here there with
  | nil => exact ⟨rfl, alike⟩
  | cons call rest ih =>
      obtain ⟨j, operation⟩ := call
      by_cases own : j = i
      · subst own
        obtain ⟨answer, reached⟩ := alike.own operation
        obtain ⟨answers, ended⟩ := ih reached
        rw [only_cons_self, run_cons, run_cons, only_cons_self, answer, answers]
        exact ⟨rfl, ended⟩
      · obtain ⟨answers, ended⟩ := ih (alike.other own (apart j own) operation)
        rw [only_cons_of_ne own, run_cons, only_cons_of_ne own]
        exact ⟨answers, ended⟩

/-- Instances on the tables of their collections do not notice each other: with no failure pending,
every answer to one of them is the same when the operations on all others are left out, unless the
name of its collection can be confused with that of another one. -/
theorem isolated_unless_confusable (neighbours : Neighbours ι) (i : ι)
    (named : ∀ j, (neighbours.instances j).IsNamed)
    (clear : ∀ j, j ≠ i →
      ¬ (neighbours.instances j).params.Confusable (neighbours.instances i).params)
    (unfailing : neighbours.store.failingWrites = 0) (calls : List (ι × Operation)) :
    only i (neighbours.run calls).1 = (neighbours.run (only i calls)).1 := by
  have apart : ∀ j, j ≠ i → (neighbours.instances j).table ≠ (neighbours.instances i).table :=
    fun j other => Instance.table_ne_of_not_confusable (named j) (named i) (clear j other)
  have begun : Alike i (fun j => (neighbours.instances j).table) neighbours neighbours :=
    ⟨fun _ => rfl, rfl, unfailing, unfailing, rfl⟩
  exact (begun.run apart calls).1

/-- Two instances on one store. -/
def pair (first second : Instance) (store : MemoryStore) : Neighbours Bool :=
  ⟨fun i => if i then second else first, store⟩

def sampleParams (database collection : String) : InstanceParams :=
  ⟨database, collection, ⟨some 0, some (.field "id"), []⟩⟩

/-- The first instance stores a document, which the second one looks for. -/
def sampleCalls : List (Bool × Operation) :=
  [(false, .bulkWrite [⟨⟨[("id", .string "k")]⟩, none⟩] "sample" "batch"),
    (true, .find ["k"] false)]

theorem isolated_unless_confusable_sample :
    ∃ first second between store,
      Instance.create MemoryStore.backend .inMemory (sampleParams "a" "items") .empty =
        (.ok first, between) ∧
      Instance.create MemoryStore.backend .inMemory (sampleParams "b" "items") between =
        (.ok second, store) ∧
      store.failingWrites = 0 ∧
      only true ((pair first second store).run sampleCalls).1 =
        ((pair first second store).run (only true sampleCalls)).1 := by
  refine ⟨_, _, _, _, rfl, rfl, rfl, ?_⟩
  refine isolated_unless_confusable _ true (fun j => ?_) (fun j other confusable => ?_) rfl _
  · cases j with
    | false =>
        exact Instance.isNamed_of_create (show Instance.create MemoryStore.backend .inMemory
          (sampleParams "a" "items") .empty = (.ok _, _) from rfl)
    | true =>
        exact Instance.isNamed_of_create (show Instance.create MemoryStore.backend .inMemory
          (sampleParams "b" "items") .empty = (.ok _, _) from rfl)
  · cases j with
    | false => exact absurd confusable.2 (by decide)
    | true => exact other rfl

/-- Without this condition the document of one collection is found through an instance of another
one, whose database and collection have other names. -/
theorem confusable_instances_interfere :
    ∃ first second between store,
      Instance.create MemoryStore.backend .inMemory (sampleParams "a_b" "c") .empty =
        (.ok first, between) ∧
      Instance.create MemoryStore.backend .inMemory (sampleParams "a" "b_c") between =
        (.ok second, store) ∧
      store.failingWrites = 0 ∧
      only true ((pair first second store).run sampleCalls).1 ≠
        ((pair first second store).run (only true sampleCalls)).1 := by
  refine ⟨_, _, _, _, rfl, rfl, rfl, ?_⟩
  intro same
  let answers (documents : List Document) : List (Bool × Except StoreError Answer) :=
    [(true, .ok (.documents documents))]
  have different : answers [⟨[("id", .string "k")]⟩] = answers [] := same
  cases different

end Neighbours

end DocStore
