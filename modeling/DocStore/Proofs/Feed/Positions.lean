import DocStore.Proofs.Feed.Mailbox

/-!
# Positions in a log

A feed knows its readers by the positions of their next batches. In the log of all batches that were
ever sent, what stands behind the position of a reader is what it has not read. The slots of a feed
hold the newest batches of the log, so a reader finds in them the newest of its unread batches.
-/

namespace DocStore

variable {α : Type}

theorem newest_drop (bound position : Nat) (log : List α) :
    newest bound (log.drop position) = log.drop (max position (log.length - bound)) := by
  rw [newest, List.drop_drop, List.length_drop]
  congr 1
  omega

theorem newest_append (bound : Nat) (batches more : List α) :
    newest bound (newest bound batches ++ more) = newest bound (batches ++ more) := by
  have older : batches.length - bound ≤ (batches ++ more).length - bound := by
    rw [List.length_append]
    omega
  calc
    newest bound (newest bound batches ++ more) =
        newest bound ((batches ++ more).drop (batches.length - bound)) := by
      rw [newest, newest, List.drop_append_of_le_length (Nat.sub_le _ _)]
      rfl
    _ = newest bound (batches ++ more) := by
      rw [newest_drop, Nat.max_eq_right older]
      rfl

theorem of_drop_eq_cons {log later : List α} {position : Nat} {batch : α}
    (found : log.drop position = batch :: later) :
    position + 1 ≤ log.length ∧ later = log.drop (position + 1) := by
  have length := congrArg List.length found
  rw [List.length_drop, List.length_cons] at length
  refine ⟨by omega, ?_⟩
  rw [← List.tail_drop, found, List.tail_cons]

theorem rel_map {β γ δ ε : Type} {related : β → γ → Prop} {same : δ → ε → Prop} {b : Option β}
    {c : Option γ} {f : β → δ} {g : γ → ε} (both : Option.Rel related b c)
    (each : ∀ x y, related x y → same (f x) (g y)) : Option.Rel same (b.map f) (c.map g) := by
  cases both with
  | none => exact .none
  | some pair => exact .some (each _ _ pair)

/-- Readers at positions in the log have the mailboxes that the log gives them. -/
def Placed (log : List α) (readers : List (String × Nat)) (boxes : List (String × Mailbox α)) :
    Prop :=
  List.Forall₂ (fun reader entry => reader.1 = entry.1 ∧ reader.2 ≤ log.length ∧
    entry.2.unread = log.drop reader.2) readers boxes

namespace Placed

variable {log : List α} {readers : List (String × Nat)} {boxes : List (String × Mailbox α)}

theorem filter (placed : Placed log readers boxes) (name : String) :
    Placed log (readers.filter fun entry => entry.1 != name)
      (boxes.filter fun entry => entry.1 != name) := by
  induction placed with
  | nil => exact .nil
  | cons first _ ih =>
      rw [List.filter_cons, List.filter_cons, first.1]
      split
      · exact .cons first ih
      · exact ih

theorem subscribe (placed : Placed log readers boxes) (name : String) :
    Placed log (readers ++ [(name, log.length)]) (boxes ++ [(name, .empty)]) := by
  have last : Placed log [(name, log.length)] [(name, .empty)] :=
    .cons ⟨rfl, Nat.le_refl _, (List.drop_length).symm⟩ .nil
  exact List.rel_append placed last

theorem post (placed : Placed log readers boxes) (batch : α) :
    Placed (log ++ [batch]) readers (boxes.map fun entry => (entry.1, entry.2.post batch)) := by
  refine List.forall₂_map_right_iff.mpr (placed.imp ?_)
  rintro ⟨name, position⟩ ⟨_, box⟩ ⟨same, within, unread⟩
  refine ⟨same, ?_, ?_⟩
  · rw [List.length_append]
    exact Nat.le_add_right_of_le within
  · rw [Mailbox.post, unread, List.drop_append_of_le_length within]

theorem move (placed : Placed log readers boxes) (name : String) {position : Nat}
    {box : Mailbox α} (within : position ≤ log.length) (unread : box.unread = log.drop position) :
    Placed log (readers.map fun entry => if entry.1 == name then (name, position) else entry)
      (boxes.map fun entry => if entry.1 == name then (name, box) else entry) := by
  refine List.forall₂_map_left_iff.mpr (List.forall₂_map_right_iff.mpr (placed.imp ?_))
  rintro reader entry ⟨same, before⟩
  rw [same]
  split
  · exact ⟨rfl, within, unread⟩
  · exact ⟨same, before⟩

theorem lookup (placed : Placed log readers boxes) (name : String) :
    Option.Rel (fun position box => position ≤ log.length ∧ box.unread = log.drop position)
      (readers.lookup name) (boxes.lookup name) := by
  induction placed with
  | nil => exact .none
  | cons first _ ih =>
      obtain ⟨same, tracks⟩ := first
      rw [List.lookup_cons, List.lookup_cons, same]
      split
      · exact .some tracks
      · exact ih

end Placed

namespace Feed

/-- The slots of a feed hold the newest batches of a log. -/
structure Holds (feed : Feed α) (log : List α) : Prop where
  sent : feed.sent = log.length
  kept : feed.kept = newest feed.slots log

variable {feed : Feed α} {log : List α}

theorem Holds.available (holds : feed.Holds log) (position : Nat) :
    feed.available position = newest feed.slots (log.drop position) := by
  rw [Feed.available, oldest, holds.kept, holds.sent, newest_drop, newest, List.drop_drop,
    List.length_drop]
  congr 1
  omega

theorem Holds.oldest (holds : feed.Holds log) : feed.oldest = log.length - feed.slots := by
  rw [Feed.oldest, holds.sent, holds.kept, length_newest]
  omega

theorem Holds.publish (holds : feed.Holds log) (listened : feed.readerCount ≠ 0) (batch : α) :
    (feed.publish batch).2.Holds (log ++ [batch]) := by
  rw [Feed.publish, if_neg listened]
  refine ⟨?_, ?_⟩
  · rw [List.length_append, holds.sent]
    rfl
  · rw [← newest_append, ← holds.kept]
    rfl

def broadcast : Broadcast (Feed α) α :=
  ⟨subscribe?, publish, receive?, drain?, unsubscribe, close⟩

/-- A feed with some slots, and mailboxes that come from the same log. -/
structure Mirrors (bound : Nat) (feed : Feed α) (mailboxes : Mailboxes α) : Prop where
  slots : feed.slots = bound
  closed : feed.closed = mailboxes.closed
  log : ∃ log, feed.Holds log ∧ Placed log feed.readers mailboxes.boxes

namespace Mirrors

variable {bound : Nat} {mailboxes : Mailboxes α}

theorem idle (mirrors : feed.Mirrors bound mailboxes) : feed.idle = mailboxes.idle := by
  rw [Feed.idle, Mailboxes.idle, mirrors.closed]

theorem unsubscribe (mirrors : feed.Mirrors bound mailboxes) (reader : String) :
    (feed.unsubscribe reader).Mirrors bound (mailboxes.unsubscribe reader) := by
  obtain ⟨log, holds, placed⟩ := mirrors.log
  exact ⟨mirrors.slots, mirrors.closed, log, ⟨holds.sent, holds.kept⟩, placed.filter reader⟩

theorem subscribe? (mirrors : feed.Mirrors bound mailboxes) (reader : String) :
    Option.Rel (Mirrors bound) (feed.subscribe? reader) (mailboxes.subscribe? reader) := by
  obtain ⟨log, holds, placed⟩ := mirrors.log
  rw [Feed.subscribe?, Mailboxes.subscribe?, ← mirrors.closed, holds.sent]
  split
  · exact .none
  · have placed := (placed.filter reader).subscribe reader
    exact .some ⟨mirrors.slots, mirrors.closed, log, ⟨holds.sent, holds.kept⟩, placed⟩

theorem publish (mirrors : feed.Mirrors bound mailboxes) (batch : α) :
    (feed.publish batch).1 = (mailboxes.publish batch).1 ∧
      (feed.publish batch).2.Mirrors bound (mailboxes.publish batch).2 := by
  obtain ⟨log, holds, placed⟩ := mirrors.log
  have count : feed.readerCount = if mailboxes.closed then 0 else mailboxes.boxes.length := by
    rw [readerCount, mirrors.closed, placed.length_eq]
  cases closed : mailboxes.closed with
  | true =>
      rw [closed, if_pos rfl] at count
      rw [Feed.publish, if_pos count, Mailboxes.publish, if_pos closed]
      exact ⟨rfl, mirrors⟩
  | false =>
      rw [closed, if_neg Bool.false_ne_true] at count
      rw [Mailboxes.publish, if_neg (Bool.eq_false_iff.mp closed)]
      -- A batch that the feed does not keep has no mailbox that it could be missing from.
      by_cases listened : feed.readerCount = 0
      · have none : mailboxes.boxes = [] := List.length_eq_zero_iff.mp (count.symm.trans listened)
        rw [Feed.publish, if_pos listened, none]
        refine ⟨rfl, mirrors.slots, mirrors.closed, log, holds, ?_⟩
        rwa [none] at placed
      · refine ⟨?_, ?_, ?_, log ++ [batch], holds.publish listened batch, ?_⟩
        all_goals rw [Feed.publish, if_neg listened]
        · exact count
        · exact mirrors.slots
        · exact mirrors.closed
        · exact placed.post batch

theorem receive? (mirrors : feed.Mirrors bound mailboxes) (reader : String) :
    Option.Rel (fun got got' => got.1 = got'.1 ∧ Mirrors bound got.2 got'.2)
      (feed.receive? reader) (mailboxes.receive? bound reader) := by
  obtain ⟨log, holds, placed⟩ := mirrors.log
  refine rel_map (placed.lookup reader) fun position box ⟨_, unread⟩ => ?_
  have available : feed.available position = newest bound box.unread := by
    rw [holds.available, mirrors.slots, unread]
  rw [available]
  cases kept : newest bound box.unread with
  | nil =>
      rw [Mailbox.take?_of_newest_nil kept]
      exact ⟨mirrors.idle, mirrors⟩
  | cons batch later =>
      have place := kept
      rw [unread, newest_drop, ← mirrors.slots, ← holds.oldest] at place
      obtain ⟨within, rest⟩ := of_drop_eq_cons place
      rw [Mailbox.take?_of_newest_cons kept]
      exact ⟨rfl, mirrors.slots, mirrors.closed, log, ⟨holds.sent, holds.kept⟩,
        placed.move reader within rest⟩

theorem drain? (mirrors : feed.Mirrors bound mailboxes) (reader : String) :
    Option.Rel (fun got got' => got.1 = got'.1 ∧ got.2.1 = got'.2.1 ∧
        Mirrors bound got.2.2 got'.2.2)
      (feed.drain? reader) (mailboxes.drain? bound reader) := by
  obtain ⟨log, holds, placed⟩ := mirrors.log
  refine rel_map (placed.lookup reader) fun position box ⟨_, unread⟩ => ?_
  refine ⟨?_, mirrors.idle, mirrors.unsubscribe reader⟩
  rw [holds.available, mirrors.slots, unread]

end Mirrors

theorem agrees_mailboxes (bound : Nat) :
    (Feed.broadcast : Broadcast (Feed α) α).Agrees (Mailboxes.broadcast bound) (Mirrors bound) where
  subscribe? := Mirrors.subscribe?
  publish := Mirrors.publish
  receive? := Mirrors.receive?
  drain? := Mirrors.drain?
  unsubscribe := Mirrors.unsubscribe
  close mirrors := by
    obtain ⟨log, holds, placed⟩ := mirrors.log
    refine ⟨congrArg not mirrors.closed, mirrors.slots, rfl, log, ⟨holds.sent, holds.kept⟩, placed⟩

end Feed

end DocStore
