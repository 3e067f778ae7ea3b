import DocStore.Proofs.Backend.Sequence

/-!
# Rows kept in another order

A table may keep its rows in any order, and in another one whenever it is asked. As the sequence
numbers are distinct, it lists them in the same order all the same.
-/

namespace DocStore

namespace MemoryTable

def Rearranged (table other : MemoryTable) : Prop :=
  table.nextSeq = other.nextSeq ∧ table.rows.Perm other.rows

variable {admits : StoredRow → Prop} {log : List String} {table other : MemoryTable}

theorem WellKept.ordered_eq (kept : table.WellKept admits log)
    (rearranged : table.Rearranged other) : table.ordered = other.ordered := by
  have trans : Std.TransCmp fun a b : MemoryRow => compare a.seq b.seq :=
    inferInstanceAs (Std.TransCmp (compareOn MemoryRow.seq))
  have apart : ∀ a ∈ table.rows, ∀ b ∈ table.rows, compare a.seq b.seq = .eq → a = b := by
    intro a left b right same
    exact List.inj_on_of_nodup_map kept.distinctSeqs left right (Nat.compare_eq_eq.mp same)
  rw [MemoryTable.ordered, MemoryTable.ordered, stableSort_eq_of_perm rearranged.2 apart]

/-- The same table with its rows kept the other way round. -/
def reversed (table : MemoryTable) : MemoryTable := { table with rows := table.rows.reverse }

theorem rearranged_reversed (table : MemoryTable) : table.Rearranged table.reversed :=
  ⟨rfl, (List.reverse_perm table.rows).symm⟩

end MemoryTable

namespace MemoryStore

/-- The same tables, whose rows may be kept in other orders. -/
def Rearranged (store other : MemoryStore) : Prop :=
  store.failingWrites = other.failingWrites ∧
    ∀ name, Option.Rel MemoryTable.Rearranged (store.table? name) (other.table? name)

theorem Rearranged.exists_table {store other : MemoryStore} (rearranged : store.Rearranged other)
    {name : String} {table : MemoryTable} (found : store.table? name = some table) :
    ∃ moved, other.table? name = some moved ∧ table.Rearranged moved := by
  have related := rearranged.2 name
  rw [found] at related
  cases moved : other.table? name with
  | none =>
      rw [moved] at related
      cases related
  | some there =>
      rw [moved] at related
      cases related with
      | some same => exact ⟨there, rfl, same⟩

def reversed (store : MemoryStore) : MemoryStore :=
  { store with tables := store.tables.map fun entry => (entry.1, entry.2.reversed) }

theorem rearranged_reversed (store : MemoryStore) : store.Rearranged store.reversed := by
  refine ⟨rfl, fun name => ?_⟩
  have moved : store.reversed.table? name = (store.table? name).map MemoryTable.reversed :=
    Keyed.lookup_map MemoryTable.reversed store.tables name
  rw [moved]
  cases store.table? name with
  | none => exact .none
  | some table => exact .some table.rearranged_reversed

end MemoryStore

end DocStore
