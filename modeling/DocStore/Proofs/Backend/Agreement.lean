import DocStore.Proofs.Write.Batch
import DocStore.Session

/-!
# Backends that agree on a table

Two calls agree when they give the same answers on related states and lead to related states again.
All that an operation on an instance asks of its backend are calls on the table of the instance. If
these agree on two backends, so does the operation.
-/

namespace DocStore

variable {σ τ : Type} {related : σ → τ → Prop}

/-- From related states, two calls give the same answer and reach related states. -/
def Agree {α : Type} (related : σ → τ → Prop) (left : σ → α × σ) (right : τ → α × τ) : Prop :=
  ∀ state state', related state state' → ∃ answer after after',
    left state = (answer, after) ∧ right state' = (answer, after') ∧ related after after'

theorem Agree.settled {α : Type} (answer : α) :
    Agree related (Instance.settled answer) (Instance.settled answer) :=
  fun state state' start => ⟨.ok answer, state, state', rfl, rfl, start⟩

theorem Agree.map {α β : Type} {left : σ → α × σ} {right : τ → α × τ}
    (agree : Agree related left right) (f : α → β) :
    Agree related (fun state => (f (left state).1, (left state).2))
      (fun state => (f (right state).1, (right state).2)) := by
  intro state state' start
  obtain ⟨answer, after, after', done, done', reached⟩ := agree state state' start
  exact ⟨f answer, after, after', by simp only [done], by simp only [done'], reached⟩

/-- The calls on one table that an operation can make. -/
structure Backend.Agrees (related : σ → τ → Prop) (left : Backend σ) (right : Backend τ)
    (table : String) : Prop where
  dropTable : Agree related (left.dropTable table) (right.dropTable table)
  findByIds : ∀ ids withDeleted,
    Agree related (left.findByIds table ids withDeleted) (right.findByIds table ids withDeleted)
  select : ∀ query, Agree related (left.select table query) (right.select table query)
  count : ∀ query, Agree related (left.count table query) (right.count table query)
  insert : ∀ row, Agree related (left.insert table row) (right.insert table row)
  update : ∀ row expected,
    Agree related (left.update table row expected) (right.update table row expected)
  purge : ∀ cutoff, Agree related (left.purge table cutoff) (right.purge table cutoff)

namespace Instance

variable {left : Backend σ} {right : Backend τ} {table : String}

/-! ## Writes -/

section Writes

variable (agrees : Backend.Agrees related left right table)

include agrees

theorem agree_submit (write : PlannedWrite) :
    Agree related (submit left table write) (submit right table write) := by
  rw [submit, submit]
  cases write.kind with
  | insert => exact agrees.insert write.row
  | update => exact agrees.update write.row write.expectedRevision

theorem agree_reread (write : PlannedWrite) :
    Agree related (reread left table write) (reread right table write) := by
  intro state state' start
  obtain ⟨answer, after, after', done, done', reached⟩ :=
    agrees.findByIds [write.row.id] true state state' start
  rw [reread, reread, done, done']
  cases answer <;> exact ⟨_, after, after', rfl, rfl, reached⟩

theorem agree_applyWrite (write : PlannedWrite) :
    Agree related (applyWrite left table write) (applyWrite right table write) := by
  intro state state' start
  obtain ⟨answer, after, after', done, done', reached⟩ :=
    agree_submit agrees write state state' start
  rw [applyWrite, applyWrite, done, done']
  cases answer with
  | error fault => exact ⟨_, after, after', rfl, rfl, reached⟩
  | ok written =>
      cases written with
      | true => exact ⟨_, after, after', rfl, rfl, reached⟩
      | false =>
          obtain ⟨current, final, final', read, read', ended⟩ :=
            agree_reread agrees write after after' reached
          simp only [read, read']
          exact ⟨_, final, final', rfl, rfl, ended⟩

theorem agree_applyWrites (writes : List PlannedWrite) :
    Agree related (applyWrites left table writes) (applyWrites right table writes) := by
  induction writes with
  | nil => exact fun state state' start => ⟨[], state, state', rfl, rfl, start⟩
  | cons write rest ih =>
      intro state state' start
      obtain ⟨outcome, after, after', done, done', reached⟩ :=
        agree_applyWrite agrees write state state' start
      obtain ⟨applied, final, final', run, run', ended⟩ := ih after after' reached
      rw [applyWrites, applyWrites, done, done']
      simp only [run, run']
      exact ⟨_, final, final', rfl, rfl, ended⟩

theorem agree_refreshConflicts (written : List String) (conflicts : List (Nat × WriteConflict)) :
    Agree related (refreshConflicts left table written conflicts)
      (refreshConflicts right table written conflicts) := by
  intro state state' start
  rw [refreshConflicts, refreshConflicts]
  cases staleIds written conflicts with
  | nil => exact ⟨_, state, state', rfl, rfl, start⟩
  | cons id rest =>
      obtain ⟨answer, after, after', done, done', reached⟩ :=
        agrees.findByIds (id :: rest) true state state' start
      simp only [done, done']
      cases answer <;> exact ⟨_, after, after', rfl, rfl, reached⟩

theorem agree_runPlan {inst : Instance} (own : inst.table = table) (plan : WritePlan) :
    Agree related (runPlan left inst plan) (runPlan right inst plan) := by
  subst own
  intro state state' start
  obtain ⟨applied, after, after', run, run', reached⟩ :=
    agree_applyWrites agrees plan.writes state state' start
  obtain ⟨conflicts, final, final', read, read', ended⟩ := agree_refreshConflicts agrees
    ((successes applied).map fun write => write.row.id) plan.conflicts after after' reached
  rw [runPlan, runPlan, run, run']
  simp only [read, read']
  exact ⟨_, final, final', rfl, rfl, ended⟩

theorem agree_writeBatch {inst : Instance} (own : inst.table = table) (rows : List WriteRow)
    (context : String) :
    Agree related (writeBatch left inst rows context) (writeBatch right inst rows context) := by
  intro state state' start
  rw [writeBatch, writeBatch, own]
  cases WritePlan.documentIds inst.primaryKey rows with
  | error fault => exact ⟨_, state, state', rfl, rfl, start⟩
  | ok ids =>
      obtain ⟨answer, after, after', done, done', reached⟩ :=
        agrees.findByIds ids true state state' start
      simp only [done, done']
      cases answer with
      | error fault => exact ⟨_, after, after', rfl, rfl, reached⟩
      | ok found =>
          simp only
          cases WritePlan.ofRows inst.primaryKey (byId found) rows context with
          | error fault => exact ⟨_, after, after', rfl, rfl, reached⟩
          | ok plan =>
              obtain ⟨result, final, final', run, run', ended⟩ :=
                agree_runPlan agrees own plan after after' reached
              simp only [run, run']
              exact ⟨_, final, final', rfl, rfl, ended⟩

end Writes

/-! ## Other calls -/

theorem agree_checked {α : Type} (check : Except StoreError Unit) {call : BackendCall σ α}
    {call' : BackendCall τ α} (agree : Agree related call call') :
    Agree related (checked check call) (checked check call') := by
  intro state state' start
  rw [checked.eq_def, checked.eq_def]
  cases check with
  | error fault => exact ⟨_, state, state', rfl, rfl, start⟩
  | ok _ =>
      obtain ⟨answer, after, after', done, done', reached⟩ := agree state state' start
      simp only [done, done']
      cases answer <;> exact ⟨_, after, after', rfl, rfl, reached⟩

theorem agree_unless {α : Type} (idle : Bool) (answer : α) {call : BackendCall σ α}
    {call' : BackendCall τ α} (agree : Agree related call call') :
    Agree related (if idle then settled answer else call)
      (if idle then settled answer else call') := by
  cases idle with
  | true => exact .settled answer
  | false => exact agree

section Reads

variable (agrees : Backend.Agrees related left right table) {inst : Instance}
  (own : inst.table = table)

include agrees own

theorem agree_find (ids : List String) (withDeleted : Bool) :
    Agree related (inst.find left ids withDeleted) (inst.find right ids withDeleted) := by
  subst own
  exact (agree_checked _ (agree_unless _ _ (agrees.findByIds ids withDeleted))).map _

theorem agree_query (spec : QuerySpec) :
    Agree related (inst.query left spec) (inst.query right spec) := by
  subst own
  exact (agree_checked _ (agree_unless _ _ (agrees.select spec.compile))).map _

theorem agree_queryMango (mango : MangoQuery) :
    Agree related (inst.queryMango left mango) (inst.queryMango right mango) := by
  intro state state' start
  rw [queryMango, queryMango]
  cases QuerySpec.ofMango mango with
  | error fault => exact ⟨_, state, state', rfl, rfl, start⟩
  | ok spec => exact agree_query agrees own spec state state' start

theorem agree_count (spec : QuerySpec) :
    Agree related (inst.count left spec) (inst.count right spec) := by
  subst own
  exact agree_checked _ (agree_unless _ _ (agrees.count spec.compile))

theorem agree_cleanup (olderThan : Binary64) :
    Agree related (inst.cleanup left olderThan) (inst.cleanup right olderThan) := by
  subst own
  exact (agree_checked _ (agrees.purge olderThan)).map _

end Reads

/-! ## Operations -/

/-- An instance on the table, together with a state of its backend. -/
def Together (related : σ → τ → Prop) (table : String) (here : Instance × σ)
    (there : Instance × τ) : Prop :=
  here.1 = there.1 ∧ here.1.table = table ∧ related here.2 there.2

/-- A call that leaves its instance as it is. -/
theorem exists_together {inst : Instance} (own : inst.table = table) {α : Type}
    {call : σ → Except StoreError α × σ} {call' : τ → Except StoreError α × τ}
    (agree : Agree related call call') (report : α → Answer) {state : σ} {state' : τ}
    (start : related state state') : ∃ answer here there,
      ((call state).1.map report, inst, (call state).2) = (answer, here) ∧
      ((call' state').1.map report, inst, (call' state').2) = (answer, there) ∧
      Together related table here there := by
  obtain ⟨answer, after, after', done, done', reached⟩ := agree state state' start
  exact ⟨answer.map report, (inst, after), (inst, after'), by rw [done], by rw [done'],
    rfl, own, reached⟩

/-- An operation does the same on backends that agree on the table of its instance. -/
theorem agree_perform (agrees : Backend.Agrees related left right table) (operation : Operation) :
    Agree (Together related table) (fun here => here.1.perform left here.2 operation)
      (fun there => there.1.perform right there.2 operation) := by
  rintro ⟨inst, state⟩ ⟨_, state'⟩ ⟨⟨⟩, own, start⟩
  cases operation with
  | bulkWrite rows context bulkId =>
      simp only [perform, bulkWrite]
      cases inst.requireWritable with
      | error fault => exact ⟨_, (inst, state), (inst, state'), rfl, rfl, rfl, own, start⟩
      | ok _ =>
          cases rows.isEmpty with
          | true => exact ⟨_, (inst, state), (inst, state'), rfl, rfl, rfl, own, start⟩
          | false =>
              obtain ⟨answer, after, after', done, done', reached⟩ :=
                agree_writeBatch agrees own rows context state state' start
              simp only [done, done']
              cases answer with
              | error fault => exact ⟨_, (inst, after), (inst, after'), rfl, rfl, rfl, own, reached⟩
              | ok result =>
                  exact ⟨_, (inst.publish (result.bulk? bulkId), after),
                    (inst.publish (result.bulk? bulkId), after'), rfl, rfl, rfl,
                    (table_publish inst (result.bulk? bulkId)).trans own, reached⟩
  | find ids withDeleted =>
      exact exists_together own (agree_find agrees own ids withDeleted) .documents start
  | query spec => exact exists_together own (agree_query agrees own spec) .documents start
  | queryMango mango =>
      exact exists_together own (agree_queryMango agrees own mango) .documents start
  | count spec => exact exists_together own (agree_count agrees own spec) .count start
  | cleanup olderThan => exact exists_together own (agree_cleanup agrees own olderThan) .flag start
  | attachment => exact ⟨_, (inst, state), (inst, state'), rfl, rfl, rfl, own, start⟩
  | subscribe stream =>
      simp only [perform, subscribe]
      cases inst.requireOpen with
      | error fault => exact ⟨_, (inst, state), (inst, state'), rfl, rfl, rfl, own, start⟩
      | ok _ =>
          cases inst.feed.subscribe? stream with
          | none => exact ⟨_, (inst, state), (inst, state'), rfl, rfl, rfl, own, start⟩
          | some feed =>
              exact ⟨_, ({ inst with feed }, state), ({ inst with feed }, state'), rfl, rfl, rfl,
                own, start⟩
  | remove =>
      subst own
      obtain ⟨answer, after, after', done, done', reached⟩ :=
        agree_checked inst.requireWritable agrees.dropTable state state' start
      simp only [perform, remove, done, done']
      cases answer with
      | error fault => exact ⟨_, (inst, after), (inst, after'), rfl, rfl, rfl, rfl, reached⟩
      | ok _ =>
          exact ⟨_, (inst.close, after), (inst.close, after'), rfl, rfl, rfl, rfl, reached⟩
  | close => exact ⟨_, (inst.close, state), (inst.close, state'), rfl, rfl, rfl, own, start⟩

end Instance

end DocStore
