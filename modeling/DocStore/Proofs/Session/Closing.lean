import DocStore.Backend.Memory
import DocStore.Session

/-!
# Closed instances

An instance that was closed, or that has removed its table, stays as it is, whatever is called on it
and whatever others do to the tables; only its streams are read to their ends. Operations on it are
refused and have no effect, closing apart. A query that cannot be read is refused as such before the
instance is asked whether it is open.
-/

namespace DocStore

/-- What can happen to an instance: an operation on it, a call on a stream of its feed, or a change
that others make to the state of the backend. -/
inductive InstanceCall (σ : Type) where
  | perform (operation : Operation)
  | receive (stream : String)
  | drain (stream : String)
  | unsubscribe (stream : String)
  | others (change : σ → σ)

namespace Instance

variable {σ : Type}

def call (backend : Backend σ) (inst : Instance) (state : σ) : InstanceCall σ → Instance × σ
  | .perform operation => (inst.perform backend state operation).2
  | .receive stream =>
      match inst.feed.receive? stream with
      | some (_, feed) => ({ inst with feed }, state)
      | none => (inst, state)
  | .drain stream =>
      match inst.feed.drain? stream with
      | some (_, _, feed) => ({ inst with feed }, state)
      | none => (inst, state)
  | .unsubscribe stream => ({ inst with feed := inst.feed.unsubscribe stream }, state)
  | .others change => (inst, change state)

def run (backend : Backend σ) (inst : Instance) (state : σ) : List (InstanceCall σ) → Instance × σ
  | [] => (inst, state)
  | first :: rest =>
      run backend (inst.call backend state first).1 (inst.call backend state first).2 rest

/-- An instance is closed together with its feed. -/
structure IsShut (inst : Instance) : Prop where
  closed : inst.closed = true
  feed : inst.feed.closed = true

/-- What a closed instance answers. -/
def refusal : Operation → Except StoreError Answer
  | .queryMango mango =>
      match QuerySpec.ofMango mango with
      | .error fault => .error (.engine fault)
      | .ok _ => .error .closed
  | .attachment => .error .attachments
  | .close => .ok .done
  | _ => .error .closed

variable {backend : Backend σ} {inst : Instance}

theorem isShut_close (inst : Instance) : inst.close.IsShut := ⟨rfl, rfl⟩

theorem isShut_of_completed {state after : σ} {operation : Operation} {answer : Answer}
    {changed : Instance} (ends : operation = .close ∨ operation = .remove)
    (completed : inst.perform backend state operation = (.ok answer, changed, after)) :
    changed.IsShut := by
  rcases ends with rfl | rfl
  · cases completed
    exact isShut_close inst
  · rw [perform, remove] at completed
    rcases dropped : checked inst.requireWritable (backend.dropTable inst.table) state with
      ⟨fault | _, left⟩
    · rw [dropped] at completed
      cases completed
    · rw [dropped] at completed
      cases completed
      exact isShut_close inst

namespace IsShut

variable (shut : inst.IsShut)

include shut

theorem requireOpen : inst.requireOpen = .error .closed := by
  rw [Instance.requireOpen, if_pos shut.closed]

theorem requireWritable : inst.requireWritable = .error .closed := by
  rw [Instance.requireWritable, if_pos shut.closed]

theorem close : inst.close = inst := by
  obtain ⟨closed, feedClosed⟩ := shut
  cases inst with
  | mk params key table readOnly feed wasClosed =>
      cases feed with
      | mk slots kept sent readers ended =>
          cases closed
          cases feedClosed
          rfl

/-- An operation on a closed instance is refused and has no effect. -/
theorem perform (operation : Operation) (state : σ) :
    inst.perform backend state operation = (refusal operation, inst, state) := by
  cases operation with
  | bulkWrite rows context bulkId => rw [Instance.perform, bulkWrite, shut.requireWritable]; rfl
  | find ids withDeleted => rw [Instance.perform, find, shut.requireOpen]; rfl
  | query spec => rw [Instance.perform, query, shut.requireOpen]; rfl
  | queryMango mango =>
      rw [Instance.perform, queryMango, refusal]
      cases QuerySpec.ofMango mango with
      | error fault => rfl
      | ok spec =>
          simp only [query, shut.requireOpen]
          rfl
  | count spec => rw [Instance.perform, count, shut.requireOpen]; rfl
  | cleanup olderThan => rw [Instance.perform, cleanup, shut.requireWritable]; rfl
  | attachment => rfl
  | subscribe stream => rw [Instance.perform, subscribe, shut.requireOpen]; rfl
  | remove => rw [Instance.perform, remove, shut.requireWritable]; rfl
  | close => rw [Instance.perform, shut.close]; rfl

/-- Nothing that happens to a closed instance opens it. -/
theorem call (call : InstanceCall σ) (state : σ) : (inst.call backend state call).1.IsShut := by
  cases call with
  | perform operation =>
      rw [Instance.call, shut.perform]
      exact shut
  | receive stream =>
      rw [Instance.call]
      cases received : inst.feed.receive? stream with
      | none => exact shut
      | some got =>
          obtain ⟨position, _, rfl⟩ := Option.map_eq_some_iff.mp received
          refine ⟨shut.closed, ?_⟩
          cases inst.feed.available position <;> exact shut.feed
  | drain stream =>
      rw [Instance.call]
      cases drained : inst.feed.drain? stream with
      | none => exact shut
      | some got =>
          obtain ⟨_, _, rfl⟩ := Option.map_eq_some_iff.mp drained
          exact ⟨shut.closed, shut.feed⟩
  | unsubscribe stream => exact ⟨shut.closed, shut.feed⟩
  | others change => exact shut

theorem run (calls : List (InstanceCall σ)) (state : σ) :
    (inst.run backend state calls).1.IsShut := by
  induction calls generalizing inst state with
  | nil => exact shut
  | cons first rest ih => exact ih (shut.call first state) _

end IsShut

/-- Once an instance has completed a closing or the removal of its table, every operation on it is
refused, at any time later, and changes neither the instance nor the state of the backend. -/
theorem refusal_of_completed {operation : Operation} {answer : Answer} {closed : Instance}
    {state after : σ} (ends : operation = .close ∨ operation = .remove)
    (completed : inst.perform backend state operation = (.ok answer, closed, after))
    (calls : List (InstanceCall σ)) (later : Operation) :
    (closed.run backend after calls).1.perform backend (closed.run backend after calls).2 later =
      (refusal later, closed.run backend after calls) :=
  ((isShut_of_completed ends completed).run calls after).perform later _

/-- An instance on an empty table, with a stream on its feed. -/
def streamed : Instance :=
  { opened .inMemory ⟨"shop", "items", ⟨none, none, []⟩⟩ (.field "id") "items" with
    feed := ⟨1, [], 0, [("s", 0)], false⟩ }

def streamedStore : MemoryStore := ⟨[("items", .empty)], 0⟩

/-- The table of an instance is removed, and made anew by others. -/
theorem refusal_of_completed_sample :
    let calls : List (InstanceCall MemoryStore) :=
      [.others fun _ => streamedStore, .perform (.bulkWrite [] "sample" "batch"), .receive "s"]
    let reached := streamed.close.run MemoryStore.backend .empty calls
    streamed.perform MemoryStore.backend streamedStore .remove =
        (.ok .done, streamed.close, .empty) ∧
      ∀ later, reached.1.perform MemoryStore.backend reached.2 later =
        (refusal later, reached) := by
  intro calls reached
  have completed : streamed.perform MemoryStore.backend streamedStore .remove =
      (.ok .done, streamed.close, .empty) := rfl
  exact ⟨completed, refusal_of_completed (.inr rfl) completed calls⟩

/-- A closed instance tells what is wrong with a query, where any other call finds it closed. -/
theorem closed_instance_reads_query :
    let query : MangoQuery := ⟨.object [("a", .object [("$bad", .ofNat 1)])], [], none, none⟩
    let (answer, closed, after) := streamed.perform MemoryStore.backend streamedStore .close
    answer.isOk = true ∧
      (closed.perform MemoryStore.backend after (.queryMango query)).1 =
        .error (.engine (.unsupportedOperator "$bad" "a")) :=
  ⟨rfl, rfl⟩

end Instance

end DocStore
