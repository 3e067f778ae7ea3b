/-!
# Change feeds

A feed keeps the last batches in a fixed number of slots and remembers for each reader the position
of its next batch. Publishing never waits: a reader that falls behind goes on at the oldest batch
still kept. Closing lets every reader drain what is kept for it.
-/

namespace DocStore

/-- What a reader gets. -/
inductive Received (α : Type) where
  | batch (value : α)
  | pending
  | ended

/-- `kept` ends with the batch at position `sent - 1`; a reader holds its next position. -/
structure Feed (α : Type) where
  slots : Nat
  kept : List α
  sent : Nat
  readers : List (String × Nat)
  closed : Bool

namespace Feed

variable {α : Type}

def leastPowerOfTwo (n : Nat) : Nat := if n ≤ 1 then 1 else Nat.pow 2 ((n - 1).log2 + 1)

def ofCapacity (capacity : Nat) : Feed α := ⟨leastPowerOfTwo capacity, [], 0, [], false⟩

def readerCount (feed : Feed α) : Nat := if feed.closed then 0 else feed.readers.length

/-- A batch that nobody reads is not kept. The answer is the number of readers. -/
def publish (feed : Feed α) (batch : α) : Nat × Feed α :=
  if feed.readerCount = 0 then (0, feed)
  else
    let all := feed.kept ++ [batch]
    (feed.readerCount,
      { feed with kept := all.drop (all.length - feed.slots), sent := feed.sent + 1 })

def unsubscribe (feed : Feed α) (reader : String) : Feed α :=
  { feed with readers := feed.readers.filter fun entry => entry.1 != reader }

/-- A new reader starts behind the last batch; an older one of its name is dropped. -/
def subscribe? (feed : Feed α) (reader : String) : Option (Feed α) :=
  if feed.closed then none
  else
    let others := feed.unsubscribe reader
    some { others with readers := others.readers ++ [(reader, feed.sent)] }

/-- Whether this call closed the feed. -/
def close (feed : Feed α) : Bool × Feed α := (!feed.closed, { feed with closed := true })

def oldest (feed : Feed α) : Nat := feed.sent - feed.kept.length

/-- The batches that a reader at a position can still get. -/
def available (feed : Feed α) (position : Nat) : List α :=
  feed.kept.drop (position - feed.oldest)

def idle (feed : Feed α) : Received α := if feed.closed then .ended else .pending

def moveTo (feed : Feed α) (reader : String) (position : Nat) : Feed α :=
  { feed with
    readers := feed.readers.map fun entry =>
      if entry.1 == reader then (reader, position) else entry }

def receive? (feed : Feed α) (reader : String) : Option (Received α × Feed α) :=
  (feed.readers.lookup reader).map fun position =>
    match feed.available position with
    | batch :: _ => (.batch batch, feed.moveTo reader (max position feed.oldest + 1))
    | [] => (feed.idle, feed)

/-- All batches that are ready, and what comes after them; the reader is gone then. -/
def drain? (feed : Feed α) (reader : String) : Option (List α × Received α × Feed α) :=
  (feed.readers.lookup reader).map fun position =>
    (feed.available position, feed.idle, feed.unsubscribe reader)

end Feed

end DocStore
