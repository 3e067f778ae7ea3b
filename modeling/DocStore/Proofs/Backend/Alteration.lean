import DocStore.Proofs.Backend.Memory

/-!
# What statements do to the tables in memory

One statement on a table creates it, stores one row in it, purges it or drops it, or it meets a
pending failure. Whatever a run of such statements keeps follows from what each of them keeps. No
statement reaches the other tables.
-/

namespace DocStore

namespace MemoryStore

/-- One statement on a table, with the ids that it inserts; only certain rows may be written. -/
inductive Alteration (name : String) (admits : StoredRow → Prop) (store : MemoryStore) :
    List String → MemoryStore → Prop where
  | created (absent : store.table? name = none) :
      Alteration name admits store [] (store.setTable name .empty)
  | inserted {table written : MemoryTable} {row : StoredRow}
      (found : store.table? name = some table) (admitted : admits row)
      (done : table.insert? row = some written) :
      Alteration name admits store [row.id] (store.setTable name written)
  | updated {table written : MemoryTable} {row : StoredRow} {expected : Option String}
      (found : store.table? name = some table) (admitted : admits row)
      (done : table.update? row expected = some written) :
      Alteration name admits store [] (store.setTable name written)
  | purged {table : MemoryTable} (found : store.table? name = some table) (cutoff : Binary64) :
      Alteration name admits store [] (store.setTable name (table.purge cutoff))
  | dropped : Alteration name admits store [] (dropTable name store).2
  | failed {left : Nat} (pending : store.failingWrites = left + 1) :
      Alteration name admits store [] (store.failNextWrites left)

/-- A run of statements on one table. -/
inductive Altered (name : String) (admits : StoredRow → Prop) :
    MemoryStore → List String → MemoryStore → Prop where
  | refl (store : MemoryStore) : Altered name admits store [] store
  | step {store between final : MemoryStore} {ids more : List String}
      (first : Alteration name admits store ids between)
      (rest : Altered name admits between more final) :
      Altered name admits store (ids ++ more) final

variable {name : String} {admits : StoredRow → Prop} {store between final : MemoryStore}
  {ids more : List String}

theorem Altered.single (alteration : Alteration name admits store ids final) :
    Altered name admits store ids final := by
  have once := Altered.step alteration (.refl final)
  rwa [List.append_nil] at once

theorem Altered.trans (first : Altered name admits store ids between)
    (rest : Altered name admits between more final) :
    Altered name admits store (ids ++ more) final := by
  induction first with
  | refl => exact rest
  | step statement _ ih =>
      rw [List.append_assoc]
      exact .step statement (ih rest)

/-! ## Other tables, and pending failures -/

theorem table?_setTable_of_ne {other : String} (apart : other ≠ name) (store : MemoryStore)
    (table : MemoryTable) : (store.setTable name table).table? other = store.table? other := by
  rw [table?, setTable, Keyed.lookup_put, if_neg apart]
  rfl

theorem table?_dropTable (name other : String) (store : MemoryStore) :
    (dropTable name store).2.table? other = if other = name then none else store.table? other :=
  Keyed.lookup_erase name other store.tables

theorem Alteration.table?_of_ne (alteration : Alteration name admits store ids final)
    {other : String} (apart : other ≠ name) : final.table? other = store.table? other := by
  cases alteration with
  | created => exact table?_setTable_of_ne apart store _
  | inserted => exact table?_setTable_of_ne apart store _
  | updated => exact table?_setTable_of_ne apart store _
  | purged => exact table?_setTable_of_ne apart store _
  | dropped => rw [table?_dropTable, if_neg apart]
  | failed => rfl

/-- Statements on one table leave the others as they are. -/
theorem Altered.table?_of_ne (altered : Altered name admits store ids final) {other : String}
    (apart : other ≠ name) : final.table? other = store.table? other := by
  induction altered with
  | refl => rfl
  | step first _ ih => rw [ih, first.table?_of_ne apart]

theorem Alteration.unfailing (alteration : Alteration name admits store ids final)
    (unfailing : store.failingWrites = 0) : final.failingWrites = 0 := by
  cases alteration with
  | created => exact unfailing
  | inserted => exact unfailing
  | updated => exact unfailing
  | purged => exact unfailing
  | dropped => exact unfailing
  | failed pending =>
      rw [unfailing] at pending
      cases pending

theorem Altered.unfailing (altered : Altered name admits store ids final)
    (unfailing : store.failingWrites = 0) : final.failingWrites = 0 := by
  induction altered with
  | refl => exact unfailing
  | step first _ ih => exact ih (first.unfailing unfailing)

/-! ## One row for each id -/

theorem Alteration.distinctIds (alteration : Alteration name admits store ids final)
    (distinct : store.DistinctIds) : final.DistinctIds := by
  cases alteration with
  | created => exact distinctIds_setTable distinct name List.nodup_nil
  | inserted found _ done =>
      have kept := MemoryTable.distinctIds_insert? (distinct name _ found) done
      exact distinctIds_setTable distinct name kept
  | updated found _ done =>
      have kept := MemoryTable.distinctIds_update? (distinct name _ found) done
      exact distinctIds_setTable distinct name kept
  | purged found cutoff =>
      have kept := MemoryTable.distinctIds_purge (distinct name _ found) cutoff
      exact distinctIds_setTable distinct name kept
  | dropped => exact distinctIds_dropTable distinct name
  | failed => exact distinct

theorem Altered.distinctIds (altered : Altered name admits store ids final)
    (distinct : store.DistinctIds) : final.DistinctIds := by
  induction altered with
  | refl => exact distinct
  | step first _ ih => exact ih (first.distinctIds distinct)

end MemoryStore

end DocStore
