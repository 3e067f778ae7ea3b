import DocStore.Change
import DocStore.Proofs.Backend.Purge

/-!
# The newest document of a list

Of the documents with a write time the last one with the greatest time counts. A list can be worked
off in parts: what the first part gives is kept only if it is later than what the second one gives.
-/

namespace DocStore

namespace Document

/-- The metadata hold a number as the write time, which is rounded to a double. -/
def WrittenAt (document : Document) (time : Double) : Prop :=
  ∃ info number, document.field? "_meta" = some (.object info) ∧
    info.lookup "lwt" = some (.number number) ∧ number.toDouble = time

end Document

namespace Checkpoint

/-! ## Two checkpoints -/

/-- The second one, unless the first one is later. -/
def laterOf : Option Checkpoint → Option Checkpoint → Option Checkpoint
  | some first, some second => if second.lwt.lt first.lwt then some first else some second
  | first, none => first
  | none, second => second

@[simp]
theorem laterOf_none (first : Option Checkpoint) : laterOf first none = first := by
  cases first <;> rfl

@[simp]
theorem none_laterOf (second : Option Checkpoint) : laterOf none second = second := by
  cases second <;> rfl

theorem later_eq (best : Option Checkpoint) (next : Checkpoint) :
    later best next = laterOf best (some next) := by
  cases best <;> rfl

theorem laterOf_eq_none_iff {first second : Option Checkpoint} :
    laterOf first second = none ↔ first = none ∧ second = none := by
  rcases first with _ | a
  · simp
  rcases second with _ | b
  · simp
  rw [laterOf]
  split <;> simp

section Times

variable {a b c : Checkpoint}

theorem laterOf_of_lt (less : b.lwt.signedRank < a.lwt.signedRank) :
    laterOf (some a) (some b) = some a :=
  if_pos (decide_eq_true less)

theorem laterOf_of_le (le : a.lwt.signedRank ≤ b.lwt.signedRank) :
    laterOf (some a) (some b) = some b :=
  if_neg fun less => absurd (of_decide_eq_true less) (Int.not_lt.mpr le)

theorem laterOf_assoc (first second third : Option Checkpoint) :
    laterOf (laterOf first second) third = laterOf first (laterOf second third) := by
  rcases first with _ | a
  · simp
  rcases second with _ | b
  · simp
  rcases third with _ | c
  · simp
  rcases Int.lt_or_le b.lwt.signedRank a.lwt.signedRank with less | le
  · rw [laterOf_of_lt less]
    rcases Int.lt_or_le c.lwt.signedRank b.lwt.signedRank with less' | le'
    · rw [laterOf_of_lt less', laterOf_of_lt less, laterOf_of_lt (Int.lt_trans less' less)]
    · rw [laterOf_of_le le']
  · rw [laterOf_of_le le]
    rcases Int.lt_or_le c.lwt.signedRank b.lwt.signedRank with less' | le'
    · rw [laterOf_of_lt less', laterOf_of_le le]
    · rw [laterOf_of_le le', laterOf_of_le (Int.le_trans le le')]

/-- What is taken is a later first one, or a second one with nothing later before it. -/
theorem laterOf_eq_some_iff {first second : Option Checkpoint} :
    laterOf first second = some c ↔
      (first = some c ∧ ∀ next, second = some next → next.lwt.lt c.lwt = true) ∨
      ((∀ best, first = some best → best.lwt.le c.lwt = true) ∧ second = some c) := by
  rcases first with _ | a
  · simp
  rcases second with _ | b
  · simp
  simp only [Double.lt, Double.le, decide_eq_true_eq, Option.some.injEq, forall_eq']
  rcases Int.lt_or_le b.lwt.signedRank a.lwt.signedRank with less | le
  · rw [laterOf_of_lt less, Option.some.injEq]
    constructor
    · rintro rfl
      exact .inl ⟨rfl, less⟩
    · rintro (⟨same, _⟩ | ⟨notLess, rfl⟩)
      · exact same
      · exact absurd less (Int.not_lt.mpr notLess)
  · rw [laterOf_of_le le, Option.some.injEq]
    constructor
    · rintro rfl
      exact .inr ⟨le, rfl⟩
    · rintro (⟨rfl, less⟩ | ⟨_, same⟩)
      · exact absurd less (Int.not_lt.mpr le)
      · exact same

/-- A time is greater than both when it is greater than the one that is taken. -/
theorem laterOf_lt_iff {first second : Option Checkpoint} {time : Double} :
    (∀ taken, laterOf first second = some taken → taken.lwt.lt time = true) ↔
      (∀ best, first = some best → best.lwt.lt time = true) ∧
        ∀ next, second = some next → next.lwt.lt time = true := by
  rcases first with _ | a
  · simp
  rcases second with _ | b
  · simp
  simp only [Double.lt, decide_eq_true_eq]
  rcases Int.lt_or_le b.lwt.signedRank a.lwt.signedRank with less | le
  · simp only [laterOf_of_lt less, Option.some.injEq, forall_eq']
    exact ⟨fun before => ⟨before, Int.lt_trans less before⟩, And.left⟩
  · simp only [laterOf_of_le le, Option.some.injEq, forall_eq']
    exact ⟨fun before => ⟨Int.lt_of_le_of_lt le before, before⟩, And.right⟩

end Times

/-! ## The fold over a list -/

/-- The checkpoint that a document with a write time stands for. -/
def ofDocument? (entry : String × Document) : Option Checkpoint :=
  entry.2.lastWrite?.map fun lwt => ⟨entry.1, lwt⟩

theorem ofDocument?_eq_some_iff {entry : String × Document} {checkpoint : Checkpoint} :
    ofDocument? entry = some checkpoint ↔
      entry.1 = checkpoint.id ∧ entry.2.WrittenAt checkpoint.lwt := by
  rw [ofDocument?, Option.map_eq_some_iff]
  constructor
  · rintro ⟨lwt, written, rfl⟩
    exact ⟨rfl, (entry.2.lastWrite?_eq_some_iff lwt).mp written⟩
  · rintro ⟨same, written⟩
    exact ⟨checkpoint.lwt, (entry.2.lastWrite?_eq_some_iff _).mpr written, by rw [same]⟩

theorem ofDocument?_eq_none_iff {entry : String × Document} :
    ofDocument? entry = none ↔ ∀ time, ¬ entry.2.WrittenAt time := by
  rw [ofDocument?, Option.map_eq_none_iff, Option.eq_none_iff_forall_ne_some]
  exact forall_congr' fun time => not_congr (entry.2.lastWrite?_eq_some_iff time)

/-- What is asked of the checkpoint of an entry is asked of its write time. -/
theorem forall_ofDocument?_iff (asked : Double → Prop) {entry : String × Document} :
    (∀ checkpoint, ofDocument? entry = some checkpoint → asked checkpoint.lwt) ↔
      ∀ time, entry.2.WrittenAt time → asked time := by
  constructor
  · intro holds time written
    exact holds ⟨entry.1, time⟩ (ofDocument?_eq_some_iff.mpr ⟨rfl, written⟩)
  · intro holds checkpoint stamped
    exact holds checkpoint.lwt (ofDocument?_eq_some_iff.mp stamped).2

theorem foldl_later (best : Option Checkpoint) (checkpoints : List Checkpoint) :
    checkpoints.foldl later best = laterOf best (checkpoints.foldl later none) := by
  induction checkpoints generalizing best with
  | nil => exact (laterOf_none best).symm
  | cons first rest ih =>
      rw [List.foldl_cons, List.foldl_cons, ih, ih (later none first), later_eq, later_eq,
        none_laterOf, laterOf_assoc]

theorem newest_eq (documents : List (String × Document)) :
    newest documents = (documents.filterMap ofDocument?).foldl later none := rfl

theorem newest_append (documents behind : List (String × Document)) :
    newest (documents ++ behind) = laterOf (newest documents) (newest behind) := by
  rw [newest_eq, List.filterMap_append, List.foldl_append, foldl_later]
  rfl

theorem newest_singleton (entry : String × Document) : newest [entry] = ofDocument? entry := by
  rw [newest_eq]
  cases stamped : ofDocument? entry with
  | none => simp [stamped]
  | some checkpoint => simp [stamped, later]

theorem newest_cons (entry : String × Document) (rest : List (String × Document)) :
    newest (entry :: rest) = laterOf (ofDocument? entry) (newest rest) := by
  rw [← List.singleton_append, newest_append, newest_singleton]

/-- Without a write time there is no newest document. -/
theorem newest_eq_none_iff (documents : List (String × Document)) :
    newest documents = none ↔ ∀ entry ∈ documents, ∀ time, ¬ entry.2.WrittenAt time := by
  induction documents with
  | nil => exact ⟨fun _ => nofun, fun _ => rfl⟩
  | cons entry rest ih =>
      rw [newest_cons, laterOf_eq_none_iff, ofDocument?_eq_none_iff, ih, List.forall_mem_cons]

/-- A time is greater than every write time when it is greater than that of the newest document. -/
theorem newest_lt_iff (documents : List (String × Document)) (time : Double) :
    (∀ best, newest documents = some best → best.lwt.lt time = true) ↔
      ∀ entry ∈ documents, ∀ written, entry.2.WrittenAt written → written.lt time = true := by
  induction documents with
  | nil => exact ⟨fun _ => nofun, fun _ => nofun⟩
  | cons entry rest ih =>
      rw [newest_cons, laterOf_lt_iff, ih, forall_ofDocument?_iff (·.lt time = true),
        List.forall_mem_cons]

/-- An entry with the greatest write time; all entries behind it have a smaller one or none. -/
def IsLastGreatest (documents : List (String × Document)) (checkpoint : Checkpoint) : Prop :=
  ∃ before document behind, documents = before ++ (checkpoint.id, document) :: behind ∧
    document.WrittenAt checkpoint.lwt ∧
    (∀ entry ∈ before, ∀ time, entry.2.WrittenAt time → time.le checkpoint.lwt = true) ∧
    ∀ entry ∈ behind, ∀ time, entry.2.WrittenAt time → time.lt checkpoint.lwt = true

theorem isLastGreatest_cons_iff {entry : String × Document} {rest : List (String × Document)}
    {checkpoint : Checkpoint} :
    IsLastGreatest (entry :: rest) checkpoint ↔
      ((entry.1 = checkpoint.id ∧ entry.2.WrittenAt checkpoint.lwt) ∧
        ∀ other ∈ rest, ∀ time, other.2.WrittenAt time → time.lt checkpoint.lwt = true) ∨
      ((∀ time, entry.2.WrittenAt time → time.le checkpoint.lwt = true) ∧
        IsLastGreatest rest checkpoint) := by
  constructor
  · rintro ⟨before, document, behind, split, written, notLater, earlier⟩
    cases before with
    | nil =>
        cases split
        exact .inl ⟨⟨rfl, written⟩, earlier⟩
    | cons first before =>
        cases split
        obtain ⟨first, others⟩ := List.forall_mem_cons.mp notLater
        exact .inr ⟨first, before, document, behind, rfl, written, others, earlier⟩
  · rintro (⟨⟨same, written⟩, earlier⟩ | ⟨first, before, document, behind, rfl, written, others,
      earlier⟩)
    · exact ⟨[], entry.2, rest, by rw [← same]; rfl, written, nofun, earlier⟩
    · exact ⟨entry :: before, document, behind, rfl, written,
        List.forall_mem_cons.mpr ⟨first, others⟩, earlier⟩

theorem newest_eq_some_iff (documents : List (String × Document)) (checkpoint : Checkpoint) :
    newest documents = some checkpoint ↔ IsLastGreatest documents checkpoint := by
  induction documents with
  | nil =>
      refine ⟨nofun, ?_⟩
      rintro ⟨before, document, behind, split, _⟩
      exact absurd split.symm (by simp)
  | cons entry rest ih =>
      -- Both sides ask whether the first entry is later than all others, or not later than the one
      -- that is found among them.
      rw [newest_cons, laterOf_eq_some_iff, isLastGreatest_cons_iff, ih, newest_lt_iff,
        ofDocument?_eq_some_iff, forall_ofDocument?_iff (·.le checkpoint.lwt = true)]

/-- The newest document of a list is the last one with the greatest write time, it is missing where
no document has a write time, and it is the later one of what two parts of the list give. -/
theorem newest_last_maximum (documents : List (String × Document)) :
    (newest documents = none ↔ ∀ entry ∈ documents, ∀ time, ¬ entry.2.WrittenAt time) ∧
    (∀ checkpoint, newest documents = some checkpoint ↔ IsLastGreatest documents checkpoint) ∧
    ∀ behind, newest (documents ++ behind) = laterOf (newest documents) (newest behind) :=
  ⟨newest_eq_none_iff documents, newest_eq_some_iff documents, newest_append documents⟩

/-- Of two equal times the last one counts. -/
example :
    let timed (time : Int) : Document := ⟨[("_meta", .object [("lwt", .ofInt time)])]⟩
    newest [("a", timed 10), ("b", timed 30), ("c", timed 30), ("d", ⟨[]⟩)] =
      some ⟨"c", Double.ofInt 30⟩ := by
  decide

end Checkpoint

end DocStore
