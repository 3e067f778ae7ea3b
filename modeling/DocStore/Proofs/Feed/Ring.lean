import DocStore.Proofs.Feed.Positions

/-!
# Rings

A ring of slots that are written in turn, with a cursor for each reader. One attempt to receive may
find that its slot was written over: it then tells how many batches are lost and moves the cursor to
the oldest one, and the reader tries again. A feed does what such a ring does.
-/

namespace DocStore

variable {α : Type}

/-- What one attempt to receive comes to. -/
inductive Attempt (α : Type) where
  | batch (value : α)
  | lagged (lost : Nat)
  | empty
  | closed

/-- The batch with number `n` is written to the slot `n % slots.length`; `tail` is the next
number. -/
structure Ring (α : Type) where
  slots : List (Option α)
  tail : Nat
  readers : List (String × Nat)
  closed : Bool

namespace Ring

def ofSize (size : Nat) : Ring α := ⟨List.replicate size none, 0, [], false⟩

def attempt (ring : Ring α) (cursor : Nat) : Attempt α :=
  if ring.tail ≤ cursor then if ring.closed then .closed else .empty
  else if cursor < ring.tail - ring.slots.length then
    .lagged (ring.tail - ring.slots.length - cursor)
  else
    match ring.slots[cursor % ring.slots.length]? with
    | some (some batch) => .batch batch
    | _ => .empty

theorem of_attempt_lagged {ring : Ring α} {cursor lost : Nat}
    (lagged : ring.attempt cursor = .lagged lost) :
    cursor < ring.tail - ring.slots.length ∧ lost = ring.tail - ring.slots.length - cursor := by
  rw [attempt] at lagged
  split at lagged
  · split at lagged <;> cases lagged
  · split at lagged
    · next behind =>
        cases lagged
        exact ⟨behind, rfl⟩
    · split at lagged <;> cases lagged

/-- Attempts until one does not lag; with the cursor afterwards. -/
def next (ring : Ring α) (cursor : Nat) : Received α × Nat :=
  match attempted : ring.attempt cursor with
  | .batch batch => (.batch batch, cursor + 1)
  | .lagged lost => ring.next (cursor + lost)
  | .empty => (.pending, cursor)
  | .closed => (.ended, cursor)
termination_by ring.tail - cursor
decreasing_by
  have lag := of_attempt_lagged attempted
  omega

variable {ring : Ring α} {log later : List α} {cursor lost moved : Nat} {batch : α}

theorem next_of_batch (attempted : ring.attempt cursor = .batch batch) :
    ring.next cursor = (.batch batch, cursor + 1) := by
  rw [next]
  split <;> simp_all

theorem next_of_lagged (attempted : ring.attempt cursor = .lagged lost) :
    ring.next cursor = ring.next (cursor + lost) := by
  rw [next]
  split <;> simp_all

def idle (ring : Ring α) : Received α := if ring.closed then .ended else .pending

theorem next_of_tail_le (passed : ring.tail ≤ cursor) : ring.next cursor = (ring.idle, cursor) := by
  have attempted : ring.attempt cursor = if ring.closed then .closed else .empty := by
    rw [attempt, if_pos passed]
  rw [next, idle]
  cases closed : ring.closed <;> split <;> simp_all

/-- The slots hold the newest batches of a log, each at its number. -/
structure Holds (ring : Ring α) (log : List α) : Prop where
  size : 0 < ring.slots.length
  tail : ring.tail = log.length
  stored : ∀ {number batch}, log[number]? = some batch → log.length ≤ number + ring.slots.length →
    ring.slots[number % ring.slots.length]? = some (some batch)

theorem Holds.attempt_eq_batch (holds : ring.Holds log) {number : Nat}
    (found : log[number]? = some batch) (recent : log.length ≤ number + ring.slots.length) :
    ring.attempt number = .batch batch := by
  obtain ⟨within, _⟩ := List.getElem?_eq_some_iff.mp found
  have tail := holds.tail
  rw [attempt, if_neg (by omega), if_neg (by omega), holds.stored found recent]

theorem Holds.attempt_eq_lagged (holds : ring.Holds log)
    (behind : cursor < log.length - ring.slots.length) :
    ring.attempt cursor = .lagged (log.length - ring.slots.length - cursor) := by
  rw [attempt, holds.tail, if_neg (by omega), if_pos behind]

/-- A cursor that lags is moved once, and what it finds then is the oldest batch of the ring. -/
theorem Holds.next_eq_batch (holds : ring.Holds log)
    (kept : newest ring.slots.length (log.drop cursor) = batch :: later) :
    ring.next cursor =
      (.batch batch, max cursor (log.length - ring.slots.length) + 1) := by
  rw [newest_drop] at kept
  have found := congrArg (·[0]?) kept
  simp only [List.getElem?_drop, Nat.add_zero, List.getElem?_cons_zero] at found
  have recent : log.length ≤
      max cursor (log.length - ring.slots.length) + ring.slots.length := by omega
  have reached := next_of_batch (holds.attempt_eq_batch found recent)
  by_cases behind : cursor < log.length - ring.slots.length
  · rw [Nat.max_eq_right (Nat.le_of_lt behind)] at reached ⊢
    rw [next_of_lagged (holds.attempt_eq_lagged behind),
      Nat.add_sub_of_le (Nat.le_of_lt behind), reached]
  · rwa [Nat.max_eq_left (Nat.le_of_not_lt behind)] at reached ⊢

theorem Holds.next_eq_idle (holds : ring.Holds log)
    (nothing : newest ring.slots.length (log.drop cursor) = []) :
    ring.next cursor = (ring.idle, cursor) := by
  refine next_of_tail_le ?_
  have size := holds.size
  have none := congrArg List.length nothing
  rw [length_newest, List.length_drop, List.length_nil] at none
  rw [holds.tail]
  omega

theorem of_next_batch (got : ring.next cursor = (.batch batch, moved)) :
    cursor < moved ∧ cursor < ring.tail := by
  by_cases passed : ring.tail ≤ cursor
  · rw [next_of_tail_le passed, idle] at got
    cases closed : ring.closed <;> simp [closed] at got
  refine ⟨?_, Nat.lt_of_not_le passed⟩
  clear passed
  fun_induction ring.next cursor with
  | case1 cursor value attempted =>
      cases got
      exact Nat.lt_succ_self cursor
  | case2 cursor lost attempted ih => exact Nat.lt_of_le_of_lt (Nat.le_add_right _ _) (ih got)
  | case3 => cases got
  | case4 => cases got

/-- All batches that are ready, and what comes after them. -/
def collect (ring : Ring α) (cursor : Nat) : List α × Received α :=
  match got : ring.next cursor with
  | (.batch batch, moved) =>
      have _ahead := of_next_batch got
      (batch :: (ring.collect moved).1, (ring.collect moved).2)
  | (last, _) => ([], last)
termination_by ring.tail - cursor
decreasing_by all_goals omega

theorem collect_of_batch (got : ring.next cursor = (.batch batch, moved)) :
    ring.collect cursor = (batch :: (ring.collect moved).1, (ring.collect moved).2) := by
  rw [collect]
  split <;> simp_all

theorem collect_of_idle (got : ring.next cursor = (ring.idle, cursor)) :
    ring.collect cursor = ([], ring.idle) := by
  have nothing : ∀ batch, ring.idle ≠ .batch batch := by
    rw [idle]
    cases ring.closed <;> simp
  rw [collect]
  split
  · next batch moved taken =>
      rw [got, Prod.mk.injEq] at taken
      exact absurd taken.1 (nothing batch)
  · next last moved _ stopped =>
      rw [got, Prod.mk.injEq] at stopped
      rw [stopped.1]

theorem Holds.collect_eq (holds : ring.Holds log) (cursor : Nat) :
    ring.collect cursor = (newest ring.slots.length (log.drop cursor), ring.idle) := by
  cases kept : newest ring.slots.length (log.drop cursor) with
  | nil => exact collect_of_idle (holds.next_eq_idle kept)
  | cons batch later =>
      have got := holds.next_eq_batch kept
      have ahead := of_next_batch got
      have rest := holds.collect_eq (max cursor (log.length - ring.slots.length) + 1)
      have place := kept
      rw [newest_drop] at place
      rw [← (of_drop_eq_cons place).2, newest_of_newest_eq_cons kept] at rest
      rw [collect_of_batch got, rest]
termination_by ring.tail - cursor

/-! ## Readers -/

def unsubscribe (ring : Ring α) (reader : String) : Ring α :=
  { ring with readers := ring.readers.filter fun entry => entry.1 != reader }

def subscribe? (ring : Ring α) (reader : String) : Option (Ring α) :=
  if ring.closed then none
  else
    let others := ring.unsubscribe reader
    some { others with readers := others.readers ++ [(reader, ring.tail)] }

def readerCount (ring : Ring α) : Nat := if ring.closed then 0 else ring.readers.length

def publish (ring : Ring α) (batch : α) : Nat × Ring α :=
  if ring.readerCount = 0 then (0, ring)
  else
    (ring.readerCount,
      { ring with
        slots := ring.slots.set (ring.tail % ring.slots.length) (some batch)
        tail := ring.tail + 1 })

def moveTo (ring : Ring α) (reader : String) (cursor : Nat) : Ring α :=
  { ring with
    readers := ring.readers.map fun entry =>
      if entry.1 == reader then (reader, cursor) else entry }

def receive? (ring : Ring α) (reader : String) : Option (Received α × Ring α) :=
  (ring.readers.lookup reader).map fun cursor =>
    match ring.next cursor with
    | (.batch batch, moved) => (.batch batch, ring.moveTo reader moved)
    | (other, _) => (other, ring)

def drain? (ring : Ring α) (reader : String) : Option (List α × Received α × Ring α) :=
  (ring.readers.lookup reader).map fun cursor =>
    let (batches, last) := ring.collect cursor
    (batches, last, ring.unsubscribe reader)

def close (ring : Ring α) : Bool × Ring α := (!ring.closed, { ring with closed := true })

def broadcast : Broadcast (Ring α) α :=
  ⟨subscribe?, publish, receive?, drain?, unsubscribe, close⟩

theorem Holds.publish (holds : ring.Holds log) (listened : ring.readerCount ≠ 0) (batch : α) :
    (ring.publish batch).2.Holds (log ++ [batch]) := by
  have size := holds.size
  have tail := holds.tail
  rw [Ring.publish, if_neg listened]
  refine ⟨?_, ?_, fun {number other} found recent => ?_⟩
  · rwa [List.length_set]
  · rw [List.length_append, tail]
    rfl
  simp only [List.length_set, List.length_append, List.length_singleton] at recent ⊢
  obtain ⟨within, _⟩ := List.getElem?_eq_some_iff.mp found
  rw [List.length_append, List.length_singleton] at within
  by_cases last : number = log.length
  · subst last
    rw [List.getElem?_concat_length] at found
    cases found
    rw [tail, List.getElem?_set_self (Nat.mod_lt _ size)]
  · -- Fewer than a round of slots lies between this batch and the new one.
    have apart : ring.tail % ring.slots.length ≠ number % ring.slots.length := by
      intro same
      have divides := Nat.dvd_of_mod_eq_zero (Nat.sub_mod_eq_zero_of_mod_eq same)
      have round := Nat.le_of_dvd (by omega) divides
      omega
    rw [List.getElem?_append_left (by omega)] at found
    rw [List.getElem?_set_ne apart]
    exact holds.stored found (by omega)

/-- A ring and a feed with the same readers that hold the same log. -/
structure Models (ring : Ring α) (feed : Feed α) : Prop where
  size : ring.slots.length = feed.slots
  readers : ring.readers = feed.readers
  closed : ring.closed = feed.closed
  log : ∃ log, ring.Holds log ∧ feed.Holds log

theorem rel_self {β : Type} (value? : Option β) : Option.Rel (· = ·) value? value? := by
  cases value? with
  | none => exact .none
  | some value => exact .some rfl

namespace Models

variable {feed : Feed α}

theorem idle (models : ring.Models feed) : ring.idle = feed.idle := by
  rw [Ring.idle, Feed.idle, models.closed]

theorem unsubscribe (models : ring.Models feed) (reader : String) :
    (ring.unsubscribe reader).Models (feed.unsubscribe reader) := by
  obtain ⟨log, holds, held⟩ := models.log
  refine ⟨models.size, ?_, models.closed, log, ⟨holds.size, holds.tail, holds.stored⟩,
    held.sent, held.kept⟩
  exact congrArg _ models.readers

theorem subscribe? (models : ring.Models feed) (reader : String) :
    Option.Rel Models (ring.subscribe? reader) (feed.subscribe? reader) := by
  obtain ⟨log, holds, held⟩ := models.log
  rw [Ring.subscribe?, Feed.subscribe?, models.closed, holds.tail, held.sent]
  split
  · exact .none
  · have others := models.unsubscribe reader
    refine .some ⟨models.size, ?_, models.closed, log, ⟨holds.size, holds.tail, holds.stored⟩,
      held.sent, held.kept⟩
    exact congrArg (· ++ [(reader, log.length)]) others.readers

theorem publish (models : ring.Models feed) (batch : α) :
    (ring.publish batch).1 = (feed.publish batch).1 ∧
      (ring.publish batch).2.Models (feed.publish batch).2 := by
  obtain ⟨log, holds, held⟩ := models.log
  have count : ring.readerCount = feed.readerCount := by
    rw [Ring.readerCount, Feed.readerCount, models.closed, models.readers]
  by_cases listened : feed.readerCount = 0
  · rw [Ring.publish, if_pos (count.trans listened), Feed.publish, if_pos listened]
    exact ⟨rfl, models⟩
  · have listened' : ring.readerCount ≠ 0 := count ▸ listened
    have written := holds.publish listened' batch
    have sent := held.publish listened batch
    rw [Ring.publish, if_neg listened'] at written ⊢
    rw [Feed.publish, if_neg listened] at sent ⊢
    refine ⟨count, ?_, models.readers, models.closed, _, written, sent⟩
    exact (List.length_set ..).trans models.size

theorem receive? (models : ring.Models feed) (reader : String) :
    Option.Rel (fun got got' => got.1 = got'.1 ∧ Models got.2 got'.2)
      (ring.receive? reader) (feed.receive? reader) := by
  obtain ⟨log, holds, held⟩ := models.log
  rw [Ring.receive?, Feed.receive?, models.readers]
  refine rel_map (rel_self _) fun cursor _ same => ?_
  cases same
  rw [held.available, ← models.size]
  cases kept : newest ring.slots.length (log.drop cursor) with
  | nil =>
      rw [holds.next_eq_idle kept, ← models.idle, Ring.idle]
      cases ring.closed <;> exact ⟨rfl, models⟩
  | cons batch later =>
      rw [holds.next_eq_batch kept, models.size, ← held.oldest]
      refine ⟨rfl, models.size, ?_, models.closed, log, ⟨holds.size, holds.tail, holds.stored⟩,
        held.sent, held.kept⟩
      exact congrArg (List.map _) models.readers

theorem drain? (models : ring.Models feed) (reader : String) :
    Option.Rel (fun got got' => got.1 = got'.1 ∧ got.2.1 = got'.2.1 ∧ Models got.2.2 got'.2.2)
      (ring.drain? reader) (feed.drain? reader) := by
  obtain ⟨log, holds, held⟩ := models.log
  rw [Ring.drain?, Feed.drain?, models.readers]
  refine rel_map (rel_self _) fun cursor _ same => ?_
  cases same
  rw [held.available, ← models.size, holds.collect_eq, ← models.idle]
  exact ⟨rfl, rfl, models.unsubscribe reader⟩

end Models

theorem agrees_feed : (Ring.broadcast : Broadcast (Ring α) α).Agrees Feed.broadcast Models where
  subscribe? := Models.subscribe?
  publish := Models.publish
  receive? := Models.receive?
  drain? := Models.drain?
  unsubscribe := Models.unsubscribe
  close models := by
    obtain ⟨log, holds, held⟩ := models.log
    exact ⟨congrArg not models.closed, models.size, models.readers, rfl, log,
      ⟨holds.size, holds.tail, holds.stored⟩, held.sent, held.kept⟩

end Ring

end DocStore
