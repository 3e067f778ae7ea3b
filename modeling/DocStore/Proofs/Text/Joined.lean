import Mathlib.Data.List.Basic
import Mathlib.Data.List.Induction

/-!
# Texts joined by a separator

The separator can stand in the joined texts as well. Texts that are seen to end, or to begin, at the
separator beside them are read off the whole; texts that are copies of the separator are lost in it.
-/

namespace DocStore

/-! ## Texts with a separator beside them -/

section Cuts

variable {separator text text' rest rest' : List Char}

/-- With the separator behind it, the text shows the separator at the end only. -/
def ClosedBy (separator text : List Char) : Prop :=
  ∀ before behind, text ++ separator = before ++ (separator ++ behind) → behind = []

/-- With the separator in front of it, the text shows the separator at the beginning only. -/
def OpenedBy (separator text : List Char) : Prop :=
  ∀ before behind, separator ++ text = before ++ (separator ++ behind) → before = []

theorem OpenedBy.reverse (opened : OpenedBy separator text) :
    ClosedBy separator.reverse text.reverse := by
  intro before behind shown
  have mirrored := congrArg List.reverse shown
  rw [← List.reverse_append, List.reverse_reverse, List.reverse_append, List.reverse_append,
    List.reverse_reverse, List.append_assoc] at mirrored
  exact List.reverse_eq_nil_iff.mp (opened _ _ mirrored)

/-- A text is cut off where its separator is first seen. -/
theorem cut_closed (closed : ClosedBy separator text) (closed' : ClosedBy separator text')
    (same : text ++ (separator ++ rest) = text' ++ (separator ++ rest')) :
    text = text' ∧ rest = rest' := by
  rw [← List.append_assoc, ← List.append_assoc] at same
  rcases List.append_eq_append_iff.mp same with ⟨more, longer, left⟩ | ⟨more, longer, left⟩
  · have nothing := closed' text more (by rw [longer, List.append_assoc])
    rw [nothing, List.append_nil] at longer
    rw [nothing, List.nil_append] at left
    exact ⟨(List.append_cancel_right longer).symm, left⟩
  · have nothing := closed text' more (by rw [longer, List.append_assoc])
    rw [nothing, List.append_nil] at longer
    rw [nothing, List.nil_append] at left
    exact ⟨List.append_cancel_right longer, left.symm⟩

/-- A text is cut off where its separator is last seen. -/
theorem cut_opened (opened : OpenedBy separator text) (opened' : OpenedBy separator text')
    (same : rest ++ (separator ++ text) = rest' ++ (separator ++ text')) :
    text = text' ∧ rest = rest' := by
  have mirrored := congrArg List.reverse same
  simp only [List.reverse_append, List.append_assoc] at mirrored
  obtain ⟨texts, rests⟩ := cut_closed opened.reverse opened'.reverse mirrored
  exact ⟨List.reverse_injective texts, List.reverse_injective rests⟩

/-- A text without the first character of the separator is closed by it. -/
theorem closedBy_of_notMem {first : Char} (others : List Char) (absent : first ∉ text) :
    ClosedBy (first :: others) text := by
  intro before behind shown
  have lengths := congrArg List.length shown
  simp only [List.length_append, List.length_cons] at lengths
  rcases List.append_eq_append_iff.mp shown with ⟨more, longer, _⟩ | ⟨more, longer, left⟩
  · have lengthened := congrArg List.length longer
    rw [List.length_append] at lengthened
    exact List.length_eq_zero_iff.mp (by omega)
  · cases more with
    | nil =>
        rw [List.append_nil] at longer
        rw [longer] at lengths
        exact List.length_eq_zero_iff.mp (by omega)
    | cons start more =>
        -- The separator would begin inside the text.
        obtain ⟨rfl, _⟩ := List.cons.inj left
        exact absurd (longer ▸ List.mem_append_right before (.head more)) absent

/-- A text without the last character of the separator is opened by it. -/
theorem openedBy_of_notMem (others : List Char) {last : Char} (absent : last ∉ text) :
    OpenedBy (others ++ [last]) text := by
  have mirrored : ClosedBy (last :: others.reverse) text.reverse :=
    closedBy_of_notMem others.reverse (mt List.mem_reverse.mp absent)
  intro before behind shown
  have reversed := congrArg List.reverse shown
  simp only [List.reverse_append, List.singleton_append, List.append_assoc] at reversed
  exact List.reverse_eq_nil_iff.mp (mirrored _ _ (by simpa using reversed))

end Cuts

/-! ## Joined texts -/

section Joined

variable {α : Type} {separator : List Char}

theorem intercalate_cons {text : List Char} {texts : List (List Char)} (more : texts ≠ []) :
    separator.intercalate (text :: texts) = text ++ (separator ++ separator.intercalate texts) := by
  cases texts with
  | nil => exact absurd rfl more
  | cons second others => rw [List.intercalate_cons_cons, List.append_assoc]

theorem intercalate_concat {text : List Char} {texts : List (List Char)} (more : texts ≠ []) :
    separator.intercalate (texts ++ [text]) =
      separator.intercalate texts ++ (separator ++ text) := by
  induction texts with
  | nil => exact absurd rfl more
  | cons first others ih =>
      cases others with
      | nil => simp
      | cons second others =>
          rw [List.cons_append, intercalate_cons (by simp), ih (by simp),
            intercalate_cons (List.cons_ne_nil second others), List.append_assoc, List.append_assoc]

variable {text text' : α → List Char}

/-- Texts that are closed by the separator are read off the front. -/
theorem joined_closed {before behind : List α} (more : behind ≠ [])
    (closed : ∀ item ∈ before, ClosedBy separator (text item))
    (closed' : ∀ item ∈ before, ClosedBy separator (text' item))
    (same : separator.intercalate ((before ++ behind).map text) =
      separator.intercalate ((before ++ behind).map text')) :
    (∀ item ∈ before, text item = text' item) ∧
      separator.intercalate (behind.map text) = separator.intercalate (behind.map text') := by
  induction before with
  | nil => exact ⟨fun _ member => (nomatch member), same⟩
  | cons first before ih =>
      have others : before ++ behind ≠ [] := List.append_ne_nil_of_right_ne_nil before more
      rw [List.cons_append, List.map_cons, List.map_cons,
        intercalate_cons (mt List.map_eq_nil_iff.mp others),
        intercalate_cons (mt List.map_eq_nil_iff.mp others)] at same
      obtain ⟨own, later⟩ := cut_closed (closed first (.head before)) (closed' first (.head before))
        same
      obtain ⟨each, rest⟩ := ih (fun item member => closed item (.tail first member))
        (fun item member => closed' item (.tail first member)) later
      exact ⟨List.forall_mem_cons.mpr ⟨own, each⟩, rest⟩

/-- Texts that are opened by the separator are read off the end. -/
theorem joined_opened {before behind : List α} (more : before ≠ [])
    (opened : ∀ item ∈ behind, OpenedBy separator (text item))
    (opened' : ∀ item ∈ behind, OpenedBy separator (text' item))
    (same : separator.intercalate ((before ++ behind).map text) =
      separator.intercalate ((before ++ behind).map text')) :
    (∀ item ∈ behind, text item = text' item) ∧
      separator.intercalate (before.map text) = separator.intercalate (before.map text') := by
  induction behind using List.reverseRecOn with
  | nil => exact ⟨fun _ member => (nomatch member), by simpa using same⟩
  | append_singleton behind last ih =>
      have others : before ++ behind ≠ [] := List.append_ne_nil_of_left_ne_nil more behind
      rw [← List.append_assoc, List.map_append, List.map_append (f := text'), List.map_singleton,
        List.map_singleton, intercalate_concat (mt List.map_eq_nil_iff.mp others),
        intercalate_concat (mt List.map_eq_nil_iff.mp others)] at same
      have final : last ∈ behind ++ [last] := List.mem_append_right behind (.head [])
      obtain ⟨own, earlier⟩ := cut_opened (opened last final) (opened' last final) same
      obtain ⟨each, rest⟩ := ih (fun item member => opened item (List.mem_append_left _ member))
        (fun item member => opened' item (List.mem_append_left _ member)) earlier
      exact ⟨List.forall_mem_append.mpr ⟨each, List.forall_mem_singleton.mpr own⟩, rest⟩

/-- Between texts that are closed and texts that are opened by the separator stands one that may be
any text. -/
theorem joined_around {before behind : List α} {pivot : α}
    (closed : ∀ item ∈ before, ClosedBy separator (text item))
    (closed' : ∀ item ∈ before, ClosedBy separator (text' item))
    (opened : ∀ item ∈ behind, OpenedBy separator (text item))
    (opened' : ∀ item ∈ behind, OpenedBy separator (text' item))
    (same : separator.intercalate ((before ++ pivot :: behind).map text) =
      separator.intercalate ((before ++ pivot :: behind).map text')) :
    ∀ item ∈ before ++ pivot :: behind, text item = text' item := by
  obtain ⟨front, rest⟩ := joined_closed (List.cons_ne_nil pivot behind) closed closed' same
  rw [← List.singleton_append] at rest
  obtain ⟨back, single⟩ := joined_opened (List.cons_ne_nil pivot []) opened opened' rest
  rw [List.map_singleton, List.map_singleton, List.intercalate_singleton,
    List.intercalate_singleton] at single
  exact List.forall_mem_append.mpr ⟨front, List.forall_mem_cons.mpr ⟨single, back⟩⟩

theorem length_joined_replicate (text : List Char) (more : Nat) :
    (separator.intercalate (List.replicate (more + 1) text)).length =
      text.length + more * (separator.length + text.length) := by
  induction more with
  | zero => simp
  | succ more ih =>
      rw [List.replicate_succ, intercalate_cons (by simp), List.length_append, List.length_append,
        ih, Nat.succ_mul]
      omega

/-- A text that is joined with itself is told by its length. -/
theorem joined_replicate {first second : List Char} {more : Nat}
    (same : separator.intercalate (List.replicate (more + 1) first) =
      separator.intercalate (List.replicate (more + 1) second)) : first = second := by
  have lengths := congrArg List.length same
  rw [length_joined_replicate, length_joined_replicate] at lengths
  have length : first.length = second.length := by
    by_contra apart
    rcases Nat.lt_or_gt_of_ne apart with less | greater
    · have scaled := Nat.mul_le_mul_left more
        (Nat.add_le_add_left (Nat.le_of_lt less) separator.length)
      omega
    · have scaled := Nat.mul_le_mul_left more
        (Nat.add_le_add_left (Nat.le_of_lt greater) separator.length)
      omega
  cases more with
  | zero => simpa using same
  | succ more =>
      rw [List.replicate_succ, intercalate_cons (by simp), List.replicate_succ (a := second),
        intercalate_cons (by simp)] at same
      exact (List.append_inj same length).1

/-- Several times the same characters. -/
def copies (unit : List Char) (count : Nat) : List Char := (List.replicate count unit).flatten

theorem copies_append (unit : List Char) (first second : Nat) :
    copies unit first ++ copies unit second = copies unit (first + second) := by
  rw [copies, copies, copies, ← List.flatten_append, List.replicate_append_replicate]

/-- Of copies joined by copies only the number is seen. -/
theorem joined_copies (unit : List Char) (between : Nat) (count : α → Nat) (items : List α) :
    (copies unit between).intercalate (items.map fun item => copies unit (count item)) =
      copies unit ((items.map count).foldr (· + ·) 0 + between * (items.length - 1)) := by
  induction items with
  | nil => simp [copies]
  | cons first others ih =>
      cases others with
      | nil => simp
      | cons second others =>
          rw [List.map_cons, intercalate_cons (by simp), ih, copies_append, copies_append]
          simp only [List.map_cons, List.foldr_cons, List.length_cons, Nat.add_sub_cancel,
            Nat.mul_succ]
          congr 1
          omega

end Joined

/-- An amount for every place of an item in a list. -/
theorem foldr_amounts {α : Type} [DecidableEq α] (item : α) (amount : Nat) (items : List α) :
    (items.map fun other => if other = item then amount else 0).foldr (· + ·) 0 =
      items.count item * amount := by
  induction items with
  | nil => simp
  | cons first others ih =>
      rw [List.map_cons, List.foldr_cons, ih, List.count_cons]
      by_cases same : first = item
      · simp [same, Nat.succ_mul, Nat.add_comm]
      · simp [same]

end DocStore
