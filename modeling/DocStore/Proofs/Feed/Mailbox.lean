import DocStore.Proofs.Feed.Broadcast
import DocStore.Proofs.Keyed

/-!
# Mailboxes

What a feed owes its readers, said without slots and positions. Each reader has a mailbox of all
batches published since it subscribed. It gets the oldest unread batch, but never one that is not
among the newest of the unread ones, up to a bound; the older ones are missed. A mailbox keeps
account of every batch: it was received, or missed for a later one, or it is unread.
-/

namespace DocStore

variable {α : Type}

/-- The last elements of a list, at most as many as `bound`. -/
def newest (bound : Nat) (batches : List α) : List α := batches.drop (batches.length - bound)

theorem newest_eq_cons {bound : Nat} {batches later : List α} {batch : α}
    (found : newest bound batches = batch :: later) :
    batches = batches.take (batches.length - bound) ++ batch :: later := by
  rw [← found, newest, List.take_append_drop]

theorem length_newest (bound : Nat) (batches : List α) :
    (newest bound batches).length = min batches.length bound := by
  rw [newest, List.length_drop]
  omega

theorem newest_of_length_le {bound : Nat} {batches : List α} (fits : batches.length ≤ bound) :
    newest bound batches = batches := by
  rw [newest, Nat.sub_eq_zero_of_le fits, List.drop_zero]

/-- What is left of the newest batches when the first one is taken is still among the newest. -/
theorem newest_of_newest_eq_cons {bound : Nat} {batches later : List α} {batch : α}
    (found : newest bound batches = batch :: later) : newest bound later = later := by
  have length := length_newest bound batches
  rw [found, List.length_cons] at length
  exact newest_of_length_le (by omega)

/-- The next replies to a reader for whom some batches are left: these first, and then the end. -/
def drained : List α → Nat → List (Received α)
  | _, 0 => []
  | [], count + 1 => .ended :: drained [] count
  | batch :: later, count + 1 => .batch batch :: drained later count

/-- A batch that a reader received, behind those that it missed and before those it has not read. -/
structure Delivery (α : Type) where
  missed : List α
  batch : α
  later : List α

namespace Delivery

/-- All that was unread when the batch was received. -/
def unread (delivery : Delivery α) : List α :=
  delivery.missed ++ delivery.batch :: delivery.later

/-- All that is no longer unread. -/
def passed (delivery : Delivery α) : List α := delivery.missed ++ [delivery.batch]

/-- The received batch is the oldest of the newest unread ones. -/
def Fair (bound : Nat) (delivery : Delivery α) : Prop :=
  delivery.missed.length = delivery.unread.length - bound

end Delivery

structure Mailbox (α : Type) where
  published : List α
  deliveries : List (Delivery α)
  unread : List α

namespace Mailbox

def empty : Mailbox α := ⟨[], [], []⟩

def post (batch : α) (box : Mailbox α) : Mailbox α :=
  { box with published := box.published ++ [batch], unread := box.unread ++ [batch] }

def take? (bound : Nat) (box : Mailbox α) : Option (α × Mailbox α) :=
  match newest bound box.unread with
  | [] => none
  | batch :: later =>
      let missed := box.unread.take (box.unread.length - bound)
      some (batch,
        { box with deliveries := box.deliveries ++ [⟨missed, batch, later⟩], unread := later })

def received (box : Mailbox α) : List α := box.deliveries.map Delivery.batch

theorem take?_of_newest_nil {bound : Nat} {box : Mailbox α} (none : newest bound box.unread = []) :
    box.take? bound = .none := by
  rw [take?, none]

theorem take?_of_newest_cons {bound : Nat} {box : Mailbox α} {batch : α} {later : List α}
    (some : newest bound box.unread = batch :: later) :
    box.take? bound = .some (batch, ⟨box.published, box.deliveries ++
      [⟨box.unread.take (box.unread.length - bound), batch, later⟩], later⟩) := by
  rw [take?, some]

/-- Every published batch is received, missed or unread, in the order of publication. -/
structure Accounts (bound : Nat) (box : Mailbox α) : Prop where
  complete : box.published = box.deliveries.flatMap Delivery.passed ++ box.unread
  fair : ∀ delivery ∈ box.deliveries, delivery.Fair bound

theorem accounts_empty (bound : Nat) : (empty : Mailbox α).Accounts bound :=
  ⟨rfl, fun _ member => nomatch member⟩

/-- What a mailbox has got, and what its reader has taken out of it, since it was another one. -/
structure Grows (bound : Nat) (box after : Mailbox α) (published received : List α) : Prop where
  published : after.published = box.published ++ published
  received : after.received = box.received ++ received
  accounts : box.Accounts bound → after.Accounts bound

variable {bound : Nat} {box between after : Mailbox α} {published more received others : List α}

theorem Grows.refl (bound : Nat) (box : Mailbox α) : box.Grows bound box [] [] :=
  ⟨(List.append_nil _).symm, (List.append_nil _).symm, id⟩

theorem Grows.trans (first : box.Grows bound between published received)
    (rest : between.Grows bound after more others) :
    box.Grows bound after (published ++ more) (received ++ others) where
  published := by rw [rest.published, first.published, List.append_assoc]
  received := by rw [rest.received, first.received, List.append_assoc]
  accounts := rest.accounts ∘ first.accounts

theorem grows_post (bound : Nat) (box : Mailbox α) (batch : α) :
    box.Grows bound (box.post batch) [batch] [] where
  published := rfl
  received := (List.append_nil _).symm
  accounts accounts := by
    refine ⟨?_, accounts.fair⟩
    rw [post, accounts.complete, List.append_assoc]

theorem grows_take {batch : α} {later : List α} (found : newest bound box.unread = batch :: later) :
    ∃ after, box.take? bound = some (batch, after) ∧ after.unread = later ∧
      box.Grows bound after [] [batch] := by
  refine ⟨_, take?_of_newest_cons found, rfl, (List.append_nil _).symm, ?_, fun accounts => ?_⟩
  · rw [received, received, List.map_append]
    rfl
  have parts := newest_eq_cons found
  refine ⟨?_, fun delivery member => ?_⟩
  · calc
      box.published = box.deliveries.flatMap Delivery.passed ++ box.unread := accounts.complete
      _ = _ := by
        rw [List.flatMap_append, List.append_assoc, List.flatMap_singleton, Delivery.passed,
          List.append_assoc]
        exact congrArg _ parts
  · rcases List.mem_append.mp member with earlier | last
    · exact accounts.fair delivery earlier
    · cases List.mem_singleton.mp last
      rw [Delivery.Fair, Delivery.unread, ← parts, List.length_take]
      exact Nat.min_eq_left (Nat.sub_le _ _)

end Mailbox

/-- The mailboxes of all readers. -/
structure Mailboxes (α : Type) where
  boxes : List (String × Mailbox α)
  closed : Bool

namespace Mailboxes

def empty : Mailboxes α := ⟨[], false⟩

def box? (mailboxes : Mailboxes α) (reader : String) : Option (Mailbox α) :=
  mailboxes.boxes.lookup reader

def idle (mailboxes : Mailboxes α) : Received α := if mailboxes.closed then .ended else .pending

def unsubscribe (mailboxes : Mailboxes α) (reader : String) : Mailboxes α :=
  { mailboxes with boxes := mailboxes.boxes.filter fun entry => entry.1 != reader }

def subscribe? (mailboxes : Mailboxes α) (reader : String) : Option (Mailboxes α) :=
  if mailboxes.closed then none
  else
    let others := mailboxes.unsubscribe reader
    some { others with boxes := others.boxes ++ [(reader, .empty)] }

def publish (mailboxes : Mailboxes α) (batch : α) : Nat × Mailboxes α :=
  if mailboxes.closed then (0, mailboxes)
  else
    (mailboxes.boxes.length,
      { mailboxes with boxes := mailboxes.boxes.map fun entry => (entry.1, entry.2.post batch) })

def setBox (mailboxes : Mailboxes α) (reader : String) (box : Mailbox α) : Mailboxes α :=
  { mailboxes with
    boxes := mailboxes.boxes.map fun entry => if entry.1 == reader then (reader, box) else entry }

def receive? (bound : Nat) (mailboxes : Mailboxes α) (reader : String) :
    Option (Received α × Mailboxes α) :=
  (mailboxes.box? reader).map fun box =>
    match box.take? bound with
    | some (batch, after) => (.batch batch, mailboxes.setBox reader after)
    | none => (mailboxes.idle, mailboxes)

def drain? (bound : Nat) (mailboxes : Mailboxes α) (reader : String) :
    Option (List α × Received α × Mailboxes α) :=
  (mailboxes.box? reader).map fun box =>
    (newest bound box.unread, mailboxes.idle, mailboxes.unsubscribe reader)

def close (mailboxes : Mailboxes α) : Bool × Mailboxes α :=
  (!mailboxes.closed, { mailboxes with closed := true })

def broadcast (bound : Nat) : Broadcast (Mailboxes α) α :=
  ⟨subscribe?, publish, receive? bound, drain? bound, unsubscribe, close⟩

variable {mailboxes : Mailboxes α} {reader : String} {box : Mailbox α} {bound : Nat}

theorem box?_unsubscribe (mailboxes : Mailboxes α) (name reader : String) :
    (mailboxes.unsubscribe name).box? reader =
      if reader = name then none else mailboxes.box? reader :=
  Keyed.lookup_erase name reader mailboxes.boxes

theorem box?_subscribe {name : String} {after : Mailboxes α}
    (done : mailboxes.subscribe? name = some after) (reader : String) :
    after.box? reader = if reader = name then some .empty else mailboxes.box? reader := by
  rw [subscribe?] at done
  split at done
  · cases done
  · cases done
    rw [box?, List.lookup_append]
    change ((mailboxes.unsubscribe name).box? reader).or _ = _
    rw [box?_unsubscribe]
    by_cases own : reader = name
    · simp [own]
    · simp [own, List.lookup_cons, beq_eq_false_iff_ne.mpr own]

theorem box?_setBox (mailboxes : Mailboxes α) (name reader : String) (box : Mailbox α) :
    (mailboxes.setBox name box).box? reader =
      if reader = name then (mailboxes.box? reader).map fun _ => box
      else mailboxes.box? reader := by
  simp only [setBox, box?]
  induction mailboxes.boxes with
  | nil => simp
  | cons entry rest ih =>
      obtain ⟨other, stored⟩ := entry
      rw [List.map_cons, List.lookup_cons, List.lookup_cons, ih]
      by_cases here : reader = other
      · subst here
        by_cases own : reader = name <;> simp [own]
      · by_cases own : other = name
        · subst own
          simp [beq_eq_false_iff_ne.mpr here, here]
        · simp [own, beq_eq_false_iff_ne.mpr here]

theorem box?_publish (opened : mailboxes.closed = false) (batch : α) (reader : String) :
    (mailboxes.publish batch).2.box? reader = (mailboxes.box? reader).map (·.post batch) := by
  simp only [publish, opened, Bool.false_eq_true, if_false]
  exact Keyed.lookup_map _ mailboxes.boxes reader

theorem closed_subscribe {name : String} {after : Mailboxes α}
    (done : mailboxes.subscribe? name = some after) : after.closed = mailboxes.closed := by
  rw [subscribe?] at done
  split at done
  · cases done
  · cases done
    rfl

/-! ## Steps -/

/-- What a step makes of all mailboxes, with its reply. -/
inductive Effect (bound : Nat) (mailboxes : Mailboxes α) :
    FeedStep α → FeedReply α → Mailboxes α → Prop where
  | refused {name : String} (closed : mailboxes.closed = true) :
      Effect bound mailboxes (.subscribe name) (.subscribed false) mailboxes
  | subscribed {name : String} {after : Mailboxes α} (opened : mailboxes.closed = false)
      (done : mailboxes.subscribe? name = some after) :
      Effect bound mailboxes (.subscribe name) (.subscribed true) after
  | unheard {batch : α} (closed : mailboxes.closed = true) :
      Effect bound mailboxes (.publish batch) (.reached 0) mailboxes
  | posted {batch : α} (opened : mailboxes.closed = false) :
      Effect bound mailboxes (.publish batch) (.reached mailboxes.boxes.length)
        (mailboxes.publish batch).2
  | noReceiver {name : String} (absent : mailboxes.box? name = none) :
      Effect bound mailboxes (.receive name) .noReader mailboxes
  | idle {name : String} {box : Mailbox α} (found : mailboxes.box? name = some box)
      (nothing : newest bound box.unread = []) :
      Effect bound mailboxes (.receive name) (.received mailboxes.idle) mailboxes
  | taken {name : String} {box after : Mailbox α} {batch : α} {later : List α}
      (found : mailboxes.box? name = some box) (kept : newest bound box.unread = batch :: later)
      (rest : after.unread = later) (grows : box.Grows bound after [] [batch]) :
      Effect bound mailboxes (.receive name) (.received (.batch batch))
        (mailboxes.setBox name after)
  | noDrainer {name : String} (absent : mailboxes.box? name = none) :
      Effect bound mailboxes (.drain name) .noReader mailboxes
  | drained {name : String} {box : Mailbox α} (found : mailboxes.box? name = some box) :
      Effect bound mailboxes (.drain name) (.drained (newest bound box.unread) mailboxes.idle)
        (mailboxes.unsubscribe name)
  | dropped {name : String} :
      Effect bound mailboxes (.unsubscribe name) .dropped (mailboxes.unsubscribe name)
  | closed : Effect bound mailboxes .close (.closed (!mailboxes.closed)) mailboxes.close.2

theorem effect_perform (bound : Nat) (mailboxes : Mailboxes α) (step : FeedStep α) :
    Effect bound mailboxes step ((broadcast bound).perform mailboxes step).1
      ((broadcast bound).perform mailboxes step).2 := by
  cases step with
  | subscribe name =>
      simp only [Broadcast.perform, broadcast]
      cases done : mailboxes.subscribe? name with
      | none =>
          rw [subscribe?] at done
          split at done
          · next closed => exact .refused closed
          · cases done
      | some after =>
          refine .subscribed ?_ done
          rw [subscribe?] at done
          split at done
          · cases done
          · next opened => exact Bool.eq_false_iff.mpr opened
  | publish batch =>
      cases closed : mailboxes.closed with
      | true =>
          simp only [Broadcast.perform, broadcast, publish, closed, if_true]
          exact .unheard closed
      | false =>
          have count : (mailboxes.publish batch).1 = mailboxes.boxes.length := by
            simp [publish, closed]
          simp only [Broadcast.perform, broadcast, count]
          exact .posted closed
  | receive name =>
      simp only [Broadcast.perform, broadcast, receive?]
      cases found : mailboxes.box? name with
      | none => exact .noReceiver found
      | some box =>
          cases kept : newest bound box.unread with
          | nil =>
              simp only [Option.map_some, Mailbox.take?_of_newest_nil kept]
              exact .idle found kept
          | cons batch later =>
              obtain ⟨after, taken, rest, grows⟩ := Mailbox.grows_take kept
              simp only [Option.map_some, taken]
              exact .taken found kept rest grows
  | drain name =>
      simp only [Broadcast.perform, broadcast, drain?]
      cases found : mailboxes.box? name with
      | none => exact .noDrainer found
      | some box => exact .drained found
  | unsubscribe name => exact .dropped
  | close => exact .closed

theorem Effect.closed_eq {step : FeedStep α} {reply : FeedReply α} {after : Mailboxes α}
    (effect : Effect bound mailboxes step reply after) :
    after.closed = (mailboxes.closed || step.isClose) := by
  cases effect with
  | subscribed _ done => exact (closed_subscribe done).trans (Bool.or_false _).symm
  | posted opened => simp [publish, opened, FeedStep.isClose]
  | closed => exact (Bool.or_true _).symm
  | _ => exact (Bool.or_false _).symm

theorem closed_perform (bound : Nat) (mailboxes : Mailboxes α) (step : FeedStep α) :
    ((broadcast bound).perform mailboxes step).2.closed = (mailboxes.closed || step.isClose) :=
  (effect_perform bound mailboxes step).closed_eq

/-- What one step, with its reply, does to the mailbox of a reader who stays. -/
inductive StepOn (bound : Nat) (closed : Bool) (reader : String) (box : Mailbox α) :
    FeedStep α × FeedReply α → Mailbox α → Prop where
  | aside {entry : FeedStep α × FeedReply α} (silent : replyTo? reader entry = none)
      (nothing : closed = true ∨ entry.1.batch? = none) :
      StepOn bound closed reader box entry box
  | posted {batch : α} {reply : FeedReply α} (opened : closed = false) :
      StepOn bound closed reader box (.publish batch, reply) (box.post batch)
  | idle (nothing : newest bound box.unread = []) :
      StepOn bound closed reader box
        (.receive reader, .received (if closed then .ended else .pending)) box
  | taken {batch : α} {later : List α} {after : Mailbox α}
      (kept : newest bound box.unread = batch :: later) (rest : after.unread = later)
      (grows : box.Grows bound after [] [batch]) :
      StepOn bound closed reader box (.receive reader, .received (.batch batch)) after

theorem Effect.stepOn {step : FeedStep α} {reply : FeedReply α} {after : Mailboxes α}
    (effect : Effect bound mailboxes step reply after) (found : mailboxes.box? reader = some box)
    (stays : ¬ Ends reader (step, reply)) :
    ∃ next, after.box? reader = some next ∧
      StepOn bound mailboxes.closed reader box (step, reply) next := by
  have gone : ∀ name, name ≠ reader → (mailboxes.unsubscribe name).box? reader = some box := by
    intro name other
    rw [box?_unsubscribe, if_neg (Ne.symm other), found]
  cases effect with
  | subscribed _ done =>
      have kept := box?_subscribe done reader
      rw [if_neg (Ne.symm stays), found] at kept
      exact ⟨box, kept, .aside rfl (.inr rfl)⟩
  | unheard closed => exact ⟨box, found, .aside rfl (.inl closed)⟩
  | @posted batch opened =>
      exact ⟨box.post batch, (box?_publish opened batch reader).trans (congrArg _ found),
        .posted opened⟩
  | @idle name other opened nothing =>
      by_cases own : name = reader
      · subst own
        rw [opened, Option.some.injEq] at found
        subst found
        exact ⟨other, opened, .idle nothing⟩
      · exact ⟨box, found, .aside (if_neg own) (.inr rfl)⟩
  | @taken name other next _ _ opened kept rest grows =>
      by_cases own : name = reader
      · subst own
        rw [opened, Option.some.injEq] at found
        subst found
        refine ⟨next, ?_, .taken kept rest grows⟩
        rw [box?_setBox, if_pos rfl, opened, Option.map_some]
      · refine ⟨box, ?_, .aside (if_neg own) (.inr rfl)⟩
        rw [box?_setBox, if_neg (Ne.symm own), found]
  | drained => exact ⟨box, gone _ stays, .aside rfl (.inr rfl)⟩
  | dropped => exact ⟨box, gone _ stays, .aside rfl (.inr rfl)⟩
  | _ => exact ⟨box, found, .aside rfl (.inr rfl)⟩

theorem stepOn_perform (found : mailboxes.box? reader = some box) (step : FeedStep α)
    (stays : ¬ Ends reader (step, ((broadcast bound).perform mailboxes step).1)) :
    ∃ after, ((broadcast bound).perform mailboxes step).2.box? reader = some after ∧
      StepOn bound mailboxes.closed reader box
        (step, ((broadcast bound).perform mailboxes step).1) after :=
  (effect_perform bound mailboxes step).stepOn found stays

theorem StepOn.grows {closed : Bool} {entry : FeedStep α × FeedReply α} {after : Mailbox α}
    (step : StepOn bound closed reader box entry after) :
    box.Grows bound after (if closed then [] else entry.1.batch?.toList)
      (receivedBy reader [entry]) := by
  cases step with
  | aside silent nothing =>
      have unread : receivedBy reader [entry] = [] := by
        rw [receivedBy, repliesTo, List.filterMap_cons_none silent]
        rfl
      have unposted : (if closed then [] else entry.1.batch?.toList) = [] := by
        rcases nothing with closed | nothing
        · rw [if_pos closed]
        · rw [nothing, Option.toList_none, ite_self]
      rw [unread, unposted]
      exact .refl bound box
  | posted opened =>
      rw [opened]
      exact Mailbox.grows_post bound box _
  | idle nothing =>
      rw [receivedBy_receive, if_pos rfl]
      cases closed <;> exact .refl bound box
  | taken kept rest grows =>
      rw [receivedBy_receive, if_pos rfl]
      cases closed <;> exact grows

/-- What a course does to the mailbox of a reader who stays. -/
theorem grows_reached (found : mailboxes.box? reader = some box) (steps : List (FeedStep α))
    (stays : ∀ entry ∈ (broadcast bound).course mailboxes steps, ¬ Ends reader entry) :
    ∃ after, ((broadcast bound).reached mailboxes steps).box? reader = some after ∧
      box.Grows bound after (if mailboxes.closed then [] else publishedIn steps)
        (receivedBy reader ((broadcast bound).course mailboxes steps)) := by
  induction steps generalizing mailboxes box with
  | nil =>
      refine ⟨box, found, ?_⟩
      have nothing : (if mailboxes.closed then [] else publishedIn ([] : List (FeedStep α))) = [] :=
        ite_self _
      rw [nothing]
      exact .refl bound box
  | cons step rest ih =>
      obtain ⟨between, opened, first⟩ := stepOn_perform found step (stays _ (.head _))
      obtain ⟨after, reached, others⟩ := ih opened fun entry member => stays entry (.tail _ member)
      refine ⟨after, reached, ?_⟩
      have both := first.grows.trans others
      rw [← receivedBy_append, closed_perform] at both
      have published : (if mailboxes.closed then [] else publishedIn (step :: rest)) =
          (if mailboxes.closed then [] else step.batch?.toList) ++
            if mailboxes.closed || step.isClose then [] else publishedIn rest := by
        rw [publishedIn_cons]
        cases mailboxes.closed <;> rfl
      rw [published]
      exact both

/-- Once closed, a reader who stays gets the batches that are kept for it, and nothing else ever. -/
theorem repliesTo_of_closed (closed : mailboxes.closed = true)
    (found : mailboxes.box? reader = some box) (steps : List (FeedStep α))
    (stays : ∀ entry ∈ (broadcast bound).course mailboxes steps, ¬ Ends reader entry) :
    let replies := repliesTo reader ((broadcast bound).course mailboxes steps)
    replies = drained (newest bound box.unread) replies.length := by
  induction steps generalizing mailboxes box with
  | nil => rfl
  | cons step rest ih =>
      obtain ⟨after, opened, first⟩ := stepOn_perform found step (stays _ (.head _))
      have still : ((broadcast bound).perform mailboxes step).2.closed = true := by
        rw [closed_perform, closed, Bool.true_or]
      have others := ih still opened fun entry member => stays entry (.tail _ member)
      rw [closed] at first
      rw [Broadcast.course]
      generalize (step, ((broadcast bound).perform mailboxes step).1) = entry at first ⊢
      cases first with
      | aside silent _ =>
          rw [repliesTo, List.filterMap_cons_none silent]
          exact others
      | posted absurd => cases absurd
      | idle nothing =>
          simp only [nothing] at others ⊢
          rw [repliesTo, List.filterMap_cons_some (replyTo?_receive reader _), List.length_cons,
            drained]
          exact congrArg _ others
      | taken kept rest _ =>
          simp only [kept, rest, newest_of_newest_eq_cons kept] at others ⊢
          rw [repliesTo, List.filterMap_cons_some (replyTo?_receive reader _), List.length_cons,
            drained]
          exact congrArg _ others

end Mailboxes

end DocStore
