import DocStore.Feed
import Mathlib.Data.List.Forall2

/-!
# Courses of a feed

What is done with a feed, and what it replies. A broadcast is anything with the operations of a feed
on states of its own. Two of them that reply alike from related states, and reach related states,
have the same course under any steps.
-/

namespace DocStore

inductive FeedStep (α : Type) where
  | subscribe (reader : String)
  | publish (batch : α)
  | receive (reader : String)
  | drain (reader : String)
  | unsubscribe (reader : String)
  | close

inductive FeedReply (α : Type) where
  | subscribed (done : Bool)
  | reached (readers : Nat)
  | received (value : Received α)
  | drained (batches : List α) (last : Received α)
  | noReader
  | dropped
  | closed (first : Bool)

variable {α : Type}

def FeedStep.isClose : FeedStep α → Bool
  | close => true
  | _ => false

def FeedStep.batch? : FeedStep α → Option α
  | publish batch => some batch
  | _ => none

def Received.batch? : Received α → Option α
  | batch value => some value
  | _ => none

/-- The batches that are published before a feed is closed. -/
def publishedIn (steps : List (FeedStep α)) : List α :=
  (steps.takeWhile fun step => !step.isClose).filterMap FeedStep.batch?

theorem publishedIn_cons (step : FeedStep α) (rest : List (FeedStep α)) :
    publishedIn (step :: rest) =
      step.batch?.toList ++ if step.isClose then [] else publishedIn rest := by
  cases step <;> rfl

/-- What one reader gets for a step. -/
def replyTo? (reader : String) : FeedStep α × FeedReply α → Option (Received α)
  | (.receive name, .received value) => if name = reader then some value else none
  | _ => none

theorem replyTo?_receive (reader : String) (value : Received α) :
    replyTo? reader (.receive reader, .received value) = some value := if_pos rfl

/-- What one reader gets in a course. -/
def repliesTo (reader : String) (course : List (FeedStep α × FeedReply α)) : List (Received α) :=
  course.filterMap (replyTo? reader)

def receivedBy (reader : String) (course : List (FeedStep α × FeedReply α)) : List α :=
  (repliesTo reader course).filterMap Received.batch?

theorem receivedBy_append (reader : String) (course more : List (FeedStep α × FeedReply α)) :
    receivedBy reader (course ++ more) = receivedBy reader course ++ receivedBy reader more := by
  rw [receivedBy, repliesTo, List.filterMap_append, List.filterMap_append]
  rfl

theorem receivedBy_receive (reader name : String) (value : Received α) :
    receivedBy reader [(.receive name, .received value)] =
      if name = reader then value.batch?.toList else [] := by
  by_cases own : name = reader
  · cases value <;> simp [receivedBy, repliesTo, replyTo?, own, Received.batch?]
  · simp [receivedBy, repliesTo, replyTo?, own]

/-- The subscription of a reader ends: its name is taken by a new one, or it is dropped. -/
def Ends (reader : String) : FeedStep α × FeedReply α → Prop
  | (.subscribe name, .subscribed true) => name = reader
  | (.unsubscribe name, _) => name = reader
  | (.drain name, _) => name = reader
  | _ => False

/-- The operations of a feed, on states of any kind. -/
structure Broadcast (φ α : Type) where
  subscribe? : φ → String → Option φ
  publish : φ → α → Nat × φ
  receive? : φ → String → Option (Received α × φ)
  drain? : φ → String → Option (List α × Received α × φ)
  unsubscribe : φ → String → φ
  close : φ → Bool × φ

namespace Broadcast

variable {φ ψ : Type}

def perform (broadcast : Broadcast φ α) (state : φ) : FeedStep α → FeedReply α × φ
  | .subscribe reader =>
      match broadcast.subscribe? state reader with
      | some after => (.subscribed true, after)
      | none => (.subscribed false, state)
  | .publish batch =>
      let (readers, after) := broadcast.publish state batch
      (.reached readers, after)
  | .receive reader =>
      match broadcast.receive? state reader with
      | some (value, after) => (.received value, after)
      | none => (.noReader, state)
  | .drain reader =>
      match broadcast.drain? state reader with
      | some (batches, last, after) => (.drained batches last, after)
      | none => (.noReader, state)
  | .unsubscribe reader => (.dropped, broadcast.unsubscribe state reader)
  | .close =>
      let (first, after) := broadcast.close state
      (.closed first, after)

/-- Each step with its reply. -/
def course (broadcast : Broadcast φ α) (state : φ) :
    List (FeedStep α) → List (FeedStep α × FeedReply α)
  | [] => []
  | step :: rest =>
      (step, (broadcast.perform state step).1) ::
        broadcast.course (broadcast.perform state step).2 rest

/-- The state behind a course. -/
def reached (broadcast : Broadcast φ α) (state : φ) : List (FeedStep α) → φ
  | [] => state
  | step :: rest => broadcast.reached (broadcast.perform state step).2 rest

/-- From related states every operation gives the same answer and leads to related states. -/
structure Agrees (left : Broadcast φ α) (right : Broadcast ψ α) (related : φ → ψ → Prop) :
    Prop where
  subscribe? : ∀ {state state'}, related state state' → ∀ reader,
    Option.Rel related (left.subscribe? state reader) (right.subscribe? state' reader)
  publish : ∀ {state state'}, related state state' → ∀ batch,
    (left.publish state batch).1 = (right.publish state' batch).1 ∧
      related (left.publish state batch).2 (right.publish state' batch).2
  receive? : ∀ {state state'}, related state state' → ∀ reader,
    Option.Rel (fun got got' => got.1 = got'.1 ∧ related got.2 got'.2)
      (left.receive? state reader) (right.receive? state' reader)
  drain? : ∀ {state state'}, related state state' → ∀ reader,
    Option.Rel (fun got got' => got.1 = got'.1 ∧ got.2.1 = got'.2.1 ∧ related got.2.2 got'.2.2)
      (left.drain? state reader) (right.drain? state' reader)
  unsubscribe : ∀ {state state'}, related state state' → ∀ reader,
    related (left.unsubscribe state reader) (right.unsubscribe state' reader)
  close : ∀ {state state'}, related state state' →
    (left.close state).1 = (right.close state').1 ∧
      related (left.close state).2 (right.close state').2

variable {left : Broadcast φ α} {right : Broadcast ψ α} {related : φ → ψ → Prop} {state : φ}
  {state' : ψ}

theorem Agrees.perform (agrees : left.Agrees right related) (start : related state state')
    (step : FeedStep α) :
    (left.perform state step).1 = (right.perform state' step).1 ∧
      related (left.perform state step).2 (right.perform state' step).2 := by
  cases step with
  | subscribe reader =>
      have both := agrees.subscribe? start reader
      simp only [Broadcast.perform]
      generalize left.subscribe? state reader = got at both ⊢
      generalize right.subscribe? state' reader = got' at both ⊢
      cases both with
      | none => exact ⟨rfl, start⟩
      | some after => exact ⟨rfl, after⟩
  | publish batch =>
      obtain ⟨readers, after⟩ := agrees.publish start batch
      exact ⟨congrArg _ readers, after⟩
  | receive reader =>
      have both := agrees.receive? start reader
      simp only [Broadcast.perform]
      generalize left.receive? state reader = got at both ⊢
      generalize right.receive? state' reader = got' at both ⊢
      cases both with
      | none => exact ⟨rfl, start⟩
      | some after => exact ⟨congrArg _ after.1, after.2⟩
  | drain reader =>
      have both := agrees.drain? start reader
      simp only [Broadcast.perform]
      generalize left.drain? state reader = got at both ⊢
      generalize right.drain? state' reader = got' at both ⊢
      cases both with
      | none => exact ⟨rfl, start⟩
      | some after => exact ⟨congrArg₂ _ after.1 after.2.1, after.2.2⟩
  | unsubscribe reader => exact ⟨rfl, agrees.unsubscribe start reader⟩
  | close =>
      obtain ⟨first, after⟩ := agrees.close start
      exact ⟨congrArg _ first, after⟩

theorem Agrees.reached (agrees : left.Agrees right related) (start : related state state')
    (steps : List (FeedStep α)) :
    related (left.reached state steps) (right.reached state' steps) := by
  induction steps generalizing state state' with
  | nil => exact start
  | cons step rest ih => exact ih (agrees.perform start step).2

theorem Agrees.course_eq (agrees : left.Agrees right related) (start : related state state')
    (steps : List (FeedStep α)) : left.course state steps = right.course state' steps := by
  induction steps generalizing state state' with
  | nil => rfl
  | cons step rest ih =>
      obtain ⟨reply, reached⟩ := agrees.perform start step
      rw [course, course, reply, ih reached]

theorem map_fst_course (broadcast : Broadcast φ α) (state : φ) (steps : List (FeedStep α)) :
    (broadcast.course state steps).map (·.1) = steps := by
  induction steps generalizing state with
  | nil => rfl
  | cons step rest ih => rw [course, List.map_cons, ih]

/-- What stands behind an entry of a course is the course of the later steps. -/
theorem exists_of_course_eq {broadcast : Broadcast φ α} {state : φ} {steps : List (FeedStep α)}
    {before during : List (FeedStep α × FeedReply α)} {entry : FeedStep α × FeedReply α}
    (split : broadcast.course state steps = before ++ entry :: during) :
    ∃ between after later, broadcast.perform between entry.1 = (entry.2, after) ∧
      during = broadcast.course after later ∧
      broadcast.reached state steps = broadcast.reached after later := by
  induction steps generalizing state before with
  | nil => exact absurd split (by simp [course])
  | cons step rest ih =>
      rw [course] at split
      cases before with
      | nil =>
          obtain ⟨rfl, rfl⟩ := List.cons.inj split
          exact ⟨state, _, rest, rfl, rfl, rfl⟩
      | cons first others =>
          obtain ⟨_, later⟩ := List.cons.inj split
          exact ih later

end Broadcast

end DocStore
