import Mathlib.Data.List.Forall2

/-!
# Lists matched element by element

Functions on lists do not tell lists apart whose elements they do not tell apart, and lists are
matched as soon as each of their elements has a match. Reading a list is reading its elements.
-/

namespace DocStore

section Functions

variable {α β : Type} {as : List α} {bs : List β}

theorem map_forall₂ {γ : Type} {f : α → γ} {g : β → γ}
    (same : List.Forall₂ (fun a b => f a = g b) as bs) : as.map f = bs.map g := by
  rwa [← List.forall₂_eq_eq_eq, List.forall₂_map_left_iff, List.forall₂_map_right_iff]

theorem all_forall₂ {p : α → Bool} {q : β → Bool}
    (same : List.Forall₂ (fun a b => p a = q b) as bs) : as.all p = bs.all q := by
  rw [← Function.id_comp p, ← Function.id_comp q, ← List.all_map, ← List.all_map, map_forall₂ same]

theorem any_forall₂ {p : α → Bool} {q : β → Bool}
    (same : List.Forall₂ (fun a b => p a = q b) as bs) : as.any p = bs.any q := by
  rw [← Function.id_comp p, ← Function.id_comp q, ← List.any_map, ← List.any_map, map_forall₂ same]

theorem flatMap_forall₂ {γ : Type} {f : α → List γ} {g : β → List γ}
    (same : List.Forall₂ (fun a b => f a = g b) as bs) : as.flatMap f = bs.flatMap g := by
  rw [List.flatMap_def, List.flatMap_def, map_forall₂ same]

theorem getElem?_forall₂ {related : α → β → Prop} (items : List.Forall₂ related as bs) (n : Nat) :
    Option.Rel related as[n]? bs[n]? := by
  induction items generalizing n with
  | nil => exact .none
  | cons first rest ih =>
      cases n with
      | zero => exact .some first
      | succ n => exact ih n

end Functions

section Matches

variable {α β : Type} {xs : List α}

theorem forall_left {p : α → Prop} {ys : List β} (each : List.Forall₂ (fun x _ => p x) xs ys) :
    ∀ x ∈ xs, p x := by
  have paired : List.Forall₂ (fun x _ => p x ∧ True) xs ys :=
    each.imp fun _ _ holds => ⟨holds, trivial⟩
  exact ((List.forall₂_and_left xs ys).mp paired).1

theorem forall_right {p : β → Prop} {ys : List β} (each : List.Forall₂ (fun _ y => p y) xs ys) :
    ∀ y ∈ ys, p y :=
  forall_left each.flip

theorem forall₂_congr_of_mem {p q : α → β → Prop} (same : ∀ x ∈ xs, ∀ y, p x y ↔ q x y)
    {ys : List β} : List.Forall₂ p xs ys ↔ List.Forall₂ q xs ys := by
  induction xs generalizing ys with
  | nil => rw [List.forall₂_nil_left_iff, List.forall₂_nil_left_iff]
  | cons x xs ih =>
      rw [List.forall₂_cons_left_iff, List.forall₂_cons_left_iff]
      simp only [same x (.head xs), ih fun other member => same other (.tail x member)]

theorem forall₂_imp_of_mem {p q : α → β → Prop} {ys : List β}
    (implies : ∀ x ∈ xs, ∀ y ∈ ys, p x y → q x y) (each : List.Forall₂ p xs ys) :
    List.Forall₂ q xs ys := by
  induction each with
  | nil => exact .nil
  | cons first rest ih =>
      refine .cons (implies _ (.head _) _ (.head _) first) (ih fun x left y right => ?_)
      exact implies x (.tail _ left) y (.tail _ right)

theorem exists_forall₂ {related : α → β → Prop} (each : ∀ x ∈ xs, ∃ y, related x y) :
    ∃ ys, List.Forall₂ related xs ys := by
  induction xs with
  | nil => exact ⟨[], .nil⟩
  | cons x xs ih =>
      obtain ⟨y, first⟩ := each x (.head xs)
      obtain ⟨ys, rest⟩ := ih fun other member => each other (.tail x member)
      exact ⟨y :: ys, .cons first rest⟩

/-- Where every element keeps its match when it is replaced by a related one, so does a list. -/
theorem exists_forall₂_of_related {related : α → α → Prop} {reads : α → β → Prop}
    {same : β → β → Prop} {others : List α} {ys : List β}
    (each : List.Forall₂ (fun x y => ∀ other, related x other →
      ∃ found, reads other found ∧ same y found) xs ys)
    (pairs : List.Forall₂ related xs others) :
    ∃ found, List.Forall₂ reads others found ∧ List.Forall₂ same ys found := by
  induction each generalizing others with
  | nil =>
      cases pairs
      exact ⟨[], .nil, .nil⟩
  | cons first rest ih =>
      obtain ⟨⟩ | ⟨pair, pairs⟩ := pairs
      obtain ⟨y, read, alike⟩ := first _ pair
      obtain ⟨ys, reads, alikes⟩ := ih pairs
      exact ⟨y :: ys, .cons read reads, .cons alike alikes⟩

end Matches

/-- Reading a list succeeds when reading each of its elements does. -/
theorem mapM_eq_ok_iff {α β ε : Type} {read : α → Except ε β} {xs : List α} {ys : List β} :
    xs.mapM read = .ok ys ↔ List.Forall₂ (fun x y => read x = .ok y) xs ys := by
  induction xs generalizing ys with
  | nil =>
      rw [List.forall₂_nil_left_iff]
      exact ⟨fun done => (Except.ok.inj done).symm, fun none => congrArg Except.ok none.symm⟩
  | cons x xs ih =>
      rw [List.mapM_cons, List.forall₂_cons_left_iff]
      cases first : read x with
      | error fault => simp [bind, Except.bind]
      | ok y =>
          cases others : xs.mapM read with
          | error fault => simp_all [bind, Except.bind]
          | ok rest =>
              simp only [others, Except.ok.injEq] at ih
              simp [bind, Except.bind, pure, Except.pure, ← ih, eq_comm]

end DocStore
