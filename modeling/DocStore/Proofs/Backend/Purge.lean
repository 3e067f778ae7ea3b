import DocStore.Proofs.Backend.Memory
import DocStore.Proofs.StableSort

/-!
# Cleaning up

A cleanup removes the rows whose documents say that they are deleted and when they were last
written, if that is not after the cutoff. A flag or a time of another type says nothing. All other
rows keep their documents and their places, and cleanups one after the other come to one cleanup
at the latest cutoff.
-/

namespace DocStore

/-! ## Expired documents -/

namespace Document

variable (document : Document)

theorem isDeleted_iff :
    document.isDeleted = true ↔ document.field? deletedField = some (.bool true) := by
  rw [isDeleted]
  rcases document.field? deletedField with _ | json
  · simp
  · cases json <;> simp [Json.bool?]

theorem lastWrite?_eq_some_iff (time : Double) :
    document.lastWrite? = some time ↔
      ∃ info number, document.field? metaField = some (.object info) ∧
        info.lookup lastWriteField = some (.number number) ∧ number.toDouble = time := by
  constructor
  · intro written
    obtain ⟨json, found, read⟩ := Option.bind_eq_some_iff.mp written
    obtain ⟨info, stored, member⟩ := Option.bind_eq_some_iff.mp found
    cases info with
    | object entries =>
        cases json with
        | number number => exact ⟨entries, number, stored, member, Option.some_inj.mp read⟩
        | _ => cases read
    | _ => cases member
  · rintro ⟨info, number, stored, member, rfl⟩
    rw [lastWrite?, stored, Option.bind_some, Json.field?, Json.entries?, Option.bind_some, member]
    rfl

/-- The document is flagged as deleted, and dated at or before the cutoff. -/
structure Expired (cutoff : Binary64) (document : Document) : Prop where
  flagged : document.field? "_deleted" = some (.bool true)
  dated : ∃ info number, document.field? "_meta" = some (.object info) ∧
    info.lookup "lwt" = some (.number number) ∧ Binary64.le number.toDouble cutoff = true

theorem expired_iff (cutoff : Binary64) : document.Expired cutoff ↔
    (document.isDeleted &&
      document.lastWrite?.any fun lwt : Double => Binary64.le lwt cutoff) = true := by
  rw [Bool.and_eq_true, isDeleted_iff, Option.any_eq_true]
  constructor
  · rintro ⟨flagged, info, number, stored, member, before⟩
    exact ⟨flagged, number.toDouble,
      (document.lastWrite?_eq_some_iff _).mpr ⟨info, number, stored, member, rfl⟩, before⟩
  · rintro ⟨flagged, time, written, before⟩
    obtain ⟨info, number, stored, member, rfl⟩ := (document.lastWrite?_eq_some_iff _).mp written
    exact ⟨flagged, info, number, stored, member, before⟩

instance (cutoff : Binary64) : DecidablePred (Expired cutoff) := fun document =>
  decidable_of_iff _ (document.expired_iff cutoff).symm

end Document

/-! ## Two cutoffs -/

namespace Binary64

/-- The greater one, and the second one if they compare equal; a NaN is passed over. -/
def later (s t : Binary64) : Binary64 := if s = nan ∨ s.le t = true then t else s

theorem le_iff {a b : Binary64} :
    a.le b = true ↔ ∃ m n, a.place? = some m ∧ b.place? = some n ∧ m ≤ n := by
  rw [le]
  cases a.place? <;> cases b.place? <;> simp

theorem place?_eq_none_iff {a : Binary64} : a.place? = none ↔ a = nan := by
  cases a <;> simp [place?]

theorem le_trans {a b c : Binary64} (first : a.le b = true) (second : b.le c = true) :
    a.le c = true := by
  obtain ⟨m, n, placed, middle, before⟩ := le_iff.mp first
  obtain ⟨_, k, again, last, after⟩ := le_iff.mp second
  cases middle.symm.trans again
  exact le_iff.mpr ⟨m, k, placed, last, Int.le_trans before after⟩

/-- Two numbers compare one way or the other. -/
theorem le_total {a b : Binary64} (left : a ≠ nan) (right : b ≠ nan) :
    a.le b = true ∨ b.le a = true := by
  obtain ⟨m, placed⟩ := Option.ne_none_iff_exists'.mp (mt place?_eq_none_iff.mp left)
  obtain ⟨n, found⟩ := Option.ne_none_iff_exists'.mp (mt place?_eq_none_iff.mp right)
  exact (Int.le_total m n).imp (fun before => le_iff.mpr ⟨m, n, placed, found, before⟩)
    fun after => le_iff.mpr ⟨n, m, found, placed, after⟩

@[simp]
theorem le_nan (d : Binary64) : d.le nan = false := by
  rw [le]
  cases d.place? <;> rfl

theorem le_later (d s t : Binary64) : d.le (s.later t) = (d.le s || d.le t) := by
  rw [Bool.eq_iff_iff, Bool.or_eq_true, later]
  split
  · next above =>
      rcases above with rfl | above
      · simp
      · exact (or_iff_right_of_imp fun before => le_trans before above).symm
  · next below =>
      obtain ⟨number, apart⟩ := not_or.mp below
      refine (or_iff_left_of_imp fun before => ?_).symm
      have other : t ≠ nan := by
        rintro rfl
        simp at before
      exact le_trans before ((le_total number other).resolve_left apart)

theorem later_self (t : Binary64) : t.later t = t := ite_self t

end Binary64

/-! ## Purged tables -/

namespace MemoryTable

theorem isExpired_eq (cutoff : Binary64) (row : MemoryRow) :
    isExpired cutoff row = decide (row.data.Expired cutoff) := by
  rw [Bool.eq_iff_iff, decide_eq_true_iff, Document.expired_iff, isExpired]

theorem isExpired_later (s t : Binary64) (row : MemoryRow) :
    isExpired (s.later t) row = (isExpired s row || isExpired t row) := by
  rw [isExpired, isExpired, isExpired, ← Bool.and_or_distrib_left]
  cases row.data.lastWrite? with
  | none => rfl
  | some time => rw [Option.any_some, Option.any_some, Option.any_some, Binary64.le_later]

variable (table : MemoryTable)

/-- Two purges come to one at the later cutoff. -/
theorem purge_purge (s t : Binary64) : (table.purge s).purge t = table.purge (s.later t) := by
  rw [purge, purge, purge, List.filter_filter]
  congr 2
  funext row
  rw [isExpired_later, Bool.not_or, Bool.and_comm]

theorem rows_purge (cutoff : Binary64) : (table.purge cutoff).rows =
    table.rows.filter fun row => !decide (row.data.Expired cutoff) := by
  rw [purge]
  simp only [isExpired_eq]

theorem mem_purge_iff (cutoff : Binary64) (row : MemoryRow) :
    row ∈ (table.purge cutoff).rows ↔ row ∈ table.rows ∧ ¬ row.data.Expired cutoff := by
  rw [rows_purge, List.mem_filter, Bool.not_eq_true', decide_eq_false_iff_not]

/-- The number of rows that a purge removes. -/
theorem length_sub_purge (cutoff : Binary64) :
    table.rows.length - (table.purge cutoff).rows.length =
      table.rows.countP fun row => row.data.Expired cutoff := by
  have parted := List.length_eq_countP_add_countP (l := table.rows)
    (fun row => decide (row.data.Expired cutoff))
  rw [rows_purge, ← List.countP_eq_length_filter, parted]
  simp only [decide_not, Bool.decide_eq_true, Nat.add_sub_cancel]

/-- What the purge at the later cutoff removes is removed by the first or by the second purge. -/
theorem countP_later (s t : Binary64) :
    (table.rows.countP fun row => row.data.Expired (s.later t)) =
      (table.rows.countP fun row => row.data.Expired s) +
        (table.purge s).rows.countP fun row => row.data.Expired t := by
  have fewer := table.rows.length_filter_le fun row => !isExpired s row
  have fewest := (table.purge s).rows.length_filter_le fun row => !isExpired t row
  rw [← length_sub_purge, ← length_sub_purge, ← length_sub_purge, ← purge_purge]
  exact (Nat.sub_add_sub_cancel fewer fewest).symm

theorem ordered_purge (cutoff : Binary64) : (table.purge cutoff).ordered =
    table.ordered.filter fun row => !decide (row.data.Expired cutoff) := by
  have trans : Std.TransCmp fun a b : MemoryRow => compare a.seq b.seq :=
    inferInstanceAs (Std.TransCmp (compareOn MemoryRow.seq))
  rw [ordered, ordered, List.filter_map, rows_purge, ← filter_stableSort]
  rfl

/-- Only deleted documents are purged. -/
theorem find_purge {table : MemoryTable} (distinct : table.DistinctIds) (cutoff : Binary64)
    (ids : List String) : (table.purge cutoff).find ids false = table.find ids false := by
  rw [find, find, List.filterMap_filterMap, List.filterMap_filterMap]
  refine List.filterMap_congr fun id _ => ?_
  rw [row?_purge distinct]
  cases table.row? id with
  | none => rfl
  | some row =>
      rw [Option.filter_some]
      cases expired : isExpired cutoff row with
      | false => rfl
      | true =>
          have flagged : row.data.isDeleted = true := (Bool.and_eq_true_iff.mp expired).1
          simp [flagged]

/-- What a purge keeps of a table: the rows that are not expired, unchanged and in their order. -/
structure Keeps (cutoff : Binary64) (table kept : MemoryTable) : Prop where
  rows : ∀ row, row ∈ kept.rows ↔ row ∈ table.rows ∧ ¬ row.data.Expired cutoff
  sublist : kept.rows.Sublist table.rows
  ordered : kept.ordered = table.ordered.filter fun row => !decide (row.data.Expired cutoff)
  nextSeq : kept.nextSeq = table.nextSeq

theorem keeps_purge (cutoff : Binary64) : table.Keeps cutoff (table.purge cutoff) where
  rows := table.mem_purge_iff cutoff
  sublist := List.filter_sublist
  ordered := table.ordered_purge cutoff
  nextSeq := rfl

end MemoryTable

/-- A purge of a table that exists cannot fail. -/
theorem MemoryStore.purge_of_table? {store : MemoryStore} {name : String} {table : MemoryTable}
    (found : store.table? name = some table) (cutoff : Binary64) :
    MemoryStore.backend.purge name cutoff store =
      (.ok (table.rows.countP fun row => row.data.Expired cutoff),
        store.setTable name (table.purge cutoff)) := by
  rw [← table.length_sub_purge]
  simp [backend, purge, found]

/-! ## Cleanups -/

namespace Instance

/-- A purge that removes some rows, and the cleanup that tells whether there were any. -/
structure Removes (inst : Instance) (cutoff : Binary64) (store : MemoryStore) (removed : Nat)
    (after : MemoryStore) : Prop where
  purge : MemoryStore.backend.purge inst.table cutoff store = (.ok removed, after)
  cleanup : inst.cleanup MemoryStore.backend cutoff store = (.ok (decide (0 < removed)), after)

/-- Lookups that leave deleted documents out answer the same in both stores. -/
structure SameLookups (inst : Instance) (store after : MemoryStore) : Prop where
  rows : ∀ ids, ∃ rows,
    MemoryStore.backend.findByIds inst.table ids false store = (.ok rows, store) ∧
    MemoryStore.backend.findByIds inst.table ids false after = (.ok rows, after)
  documents : ∀ ids, ∃ documents,
    inst.find MemoryStore.backend ids false store = (.ok documents, store) ∧
    inst.find MemoryStore.backend ids false after = (.ok documents, after)

variable {inst : Instance} {store : MemoryStore} {table : MemoryTable}

theorem find_of_table? (isOpen : inst.requireOpen = .ok ())
    (found : store.table? inst.table = some table) (ids : List String) (withDeleted : Bool) :
    inst.find MemoryStore.backend ids withDeleted store =
      (.ok ((table.find ids withDeleted).map StoredRow.data), store) := by
  rw [find, isOpen]
  cases ids with
  | nil => rfl
  | cons id rest =>
      rw [checked, if_neg (by simp), MemoryStore.findByIds_of_table? found]
      rfl

section Writable

variable (writable : inst.requireWritable = .ok ())

include writable

theorem requireOpen_of_writable : inst.requireOpen = .ok () := by
  rw [requireWritable] at writable
  rw [requireOpen]
  split at writable
  · cases writable
  · rw [if_neg ‹_›]

theorem removes_purge (found : store.table? inst.table = some table) (cutoff : Binary64) :
    inst.Removes cutoff store (table.rows.countP fun row => row.data.Expired cutoff)
      (store.setTable inst.table (table.purge cutoff)) := by
  have purged := MemoryStore.purge_of_table? found cutoff
  refine ⟨purged, ?_⟩
  rw [cleanup, writable, checked, purged]
  rfl

theorem sameLookups_purge (found : store.table? inst.table = some table)
    (distinct : table.DistinctIds) (cutoff : Binary64) :
    inst.SameLookups store (store.setTable inst.table (table.purge cutoff)) := by
  have stored := store.table?_setTable inst.table (table.purge cutoff)
  have isOpen := requireOpen_of_writable writable
  constructor
  · intro ids
    refine ⟨_, MemoryStore.findByIds_of_table? found ids, ?_⟩
    rw [MemoryStore.findByIds_of_table? stored, MemoryTable.find_purge distinct]
  · intro ids
    refine ⟨_, find_of_table? isOpen found ids false, ?_⟩
    rw [find_of_table? isOpen stored, MemoryTable.find_purge distinct]

end Writable

/-- A cleanup removes the expired rows and no others, and it tells whether there were any; repeated,
it removes nothing. Lookups of documents that are not deleted do not notice it. Two cleanups leave
what one at the later cutoff leaves, and together they remove as many rows. -/
theorem cleanup_laws (writable : inst.requireWritable = .ok ())
    (found : store.table? inst.table = some table) (distinct : table.DistinctIds) :
    (∀ t, ∃ kept after, after = store.setTable inst.table kept ∧ table.Keeps t kept ∧
      inst.Removes t store (table.rows.countP fun row => row.data.Expired t) after ∧
      inst.Removes t after 0 after ∧ inst.SameLookups store after) ∧
    ∀ s t, ∃ first second middle last,
      inst.Removes s store first middle ∧ inst.Removes t middle second last ∧
      inst.Removes (s.later t) store (first + second) last := by
  -- A cleanup after another one finds the table that the first one leaves.
  have again (s t : Binary64) :
      inst.Removes t (store.setTable inst.table (table.purge s))
        ((table.purge s).rows.countP fun row => row.data.Expired t)
        (store.setTable inst.table (table.purge (s.later t))) := by
    have second := removes_purge writable (store.table?_setTable inst.table (table.purge s)) t
    rwa [MemoryStore.setTable_setTable, MemoryTable.purge_purge] at second
  constructor
  · intro t
    refine ⟨table.purge t, _, rfl, table.keeps_purge t, removes_purge writable found t, ?_,
      sameLookups_purge writable found distinct t⟩
    have nothing : ((table.purge t).rows.countP fun row => row.data.Expired t) = 0 := by
      have counted := table.countP_later t t
      rw [Binary64.later_self] at counted
      omega
    have repeated := again t t
    rwa [Binary64.later_self, nothing] at repeated
  · intro s t
    refine ⟨_, _, _, _, removes_purge writable found s, again s t, ?_⟩
    rw [← MemoryTable.countP_later]
    exact removes_purge writable found (s.later t)

/-- Of these rows one is expired at 5 and another one at infinity. The others are not deleted, or
their flags or times are missing or of another type. -/
def datedTable : MemoryTable :=
  let row (id : String) (seq : Nat) (flag : Json) (info : Json) : MemoryRow :=
    ⟨id, seq, ⟨[("_deleted", flag), ("_meta", info)]⟩⟩
  ⟨9, [row "late" 7 (.bool true) (.object [("lwt", .ofInt 7)]),
    row "gone" 1 (.bool true) (.object [("lwt", .ofInt 5)]),
    row "live" 0 (.bool false) (.object [("lwt", .ofInt 1)]),
    row "flagged in words" 4 (.string "true") (.object [("lwt", .ofInt 1)]),
    row "undated" 2 (.bool true) .null,
    row "dated in words" 5 (.bool true) (.object [("lwt", .string "1")]),
    row "dated in a list" 3 (.bool true) (.array [.ofInt 1])]⟩

theorem cleanup_laws_sample :
    let inst := opened .inMemory ⟨"shop", "items", ⟨none, none, []⟩⟩ (.field "id") "items"
    let store : MemoryStore := ⟨[("items", datedTable)], 0⟩
    inst.requireWritable = .ok () ∧ datedTable.DistinctIds ∧
      (∃ kept after, after = store.setTable "items" kept ∧
        kept.ordered.map StoredRow.id =
          ["live", "undated", "dated in a list", "flagged in words", "dated in words", "late"] ∧
        inst.cleanup MemoryStore.backend (.ofInt 5) store = (.ok true, after) ∧
        inst.cleanup MemoryStore.backend (.ofInt 5) after = (.ok false, after)) ∧
      ∃ first second middle last, inst.Removes (.ofInt 5) store first middle ∧
        inst.Removes (.infinite false) middle second last ∧
        inst.Removes (.infinite false) store (first + second) last := by
  intro inst store
  have distinct : datedTable.DistinctIds := by
    rw [MemoryTable.DistinctIds]
    decide
  have writable : inst.requireWritable = .ok () := rfl
  have found : store.table? inst.table = some datedTable := rfl
  have laws := cleanup_laws writable found distinct
  obtain ⟨kept, after, stored, keeps, once, again, -⟩ := laws.1 (.ofInt 5)
  refine ⟨writable, distinct, ⟨kept, after, stored, ?_, once.cleanup, again.cleanup⟩, ?_⟩
  · rw [keeps.ordered]
    decide
  · exact laws.2 (.ofInt 5) (.infinite false)

end Instance

end DocStore
