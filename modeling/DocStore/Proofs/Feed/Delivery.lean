import DocStore.Proofs.Feed.Ring
import Mathlib.Data.Set.Card
import Mathlib.Order.Bounds.Basic

/-!
# Delivery

What a feed of some capacity does under any steps, from its start. Its bound is the least power of
two that is not below the capacity. It replies as a ring of so many slots, and as mailboxes of which
so many batches are kept; who reads it, and what a reader who stays has got and will get, is read
off its course.
-/

namespace DocStore

variable {α : Type}

theorem isLeast_leastPowerOfTwo (capacity : Nat) :
    IsLeast {size | max capacity 1 ≤ size ∧ ∃ exponent, size = 2 ^ exponent}
      (Feed.leastPowerOfTwo capacity) := by
  rw [Feed.leastPowerOfTwo]
  split
  · next small =>
      refine ⟨⟨Nat.max_le.mpr ⟨small, Nat.le_refl 1⟩, 0, rfl⟩, fun size member => ?_⟩
      exact Nat.le_trans (Nat.le_max_right capacity 1) member.1
  · next large =>
      have nonzero : capacity - 1 ≠ 0 := by omega
      have above := (Nat.log2_lt nonzero).mp (Nat.lt_succ_self (capacity - 1).log2)
      refine ⟨⟨?_, _, rfl⟩, ?_⟩
      · change max capacity 1 ≤ 2 ^ ((capacity - 1).log2 + 1)
        omega
      · rintro _ ⟨fits, exponent, rfl⟩
        have below : (capacity - 1).log2 < exponent := (Nat.log2_lt nonzero).mpr (by omega)
        exact Nat.pow_le_pow_right (by decide) below

/-! ## Readers of a course -/

/-- A reader subscribed in a course and has not gone since. -/
def Reads (reader : String) (course : List (FeedStep α × FeedReply α)) : Prop :=
  ∃ before during, course = before ++ (.subscribe reader, .subscribed true) :: during ∧
    ∀ entry ∈ during, ¬ Ends reader entry

theorem not_reads_nil (reader : String) :
    ¬ Reads reader ([] : List (FeedStep α × FeedReply α)) := by
  rintro ⟨before, during, split, _⟩
  simp at split

theorem reads_concat {reader : String} {course : List (FeedStep α × FeedReply α)}
    {last : FeedStep α × FeedReply α} :
    Reads reader (course ++ [last]) ↔
      last = (.subscribe reader, .subscribed true) ∨ Reads reader course ∧ ¬ Ends reader last := by
  constructor
  · rintro ⟨before, during, split, stays⟩
    rcases List.eq_nil_or_concat during with rfl | ⟨others, final, rfl⟩
    · obtain ⟨_, same⟩ := List.append_inj' split rfl
      exact .inl (List.cons.inj same).1
    · rw [List.concat_eq_append, ← List.cons_append, ← List.append_assoc] at split
      obtain ⟨rfl, same⟩ := List.append_inj' split rfl
      obtain ⟨rfl, _⟩ := List.cons.inj same
      have kept := fun entry member => stays entry (by simpa using Or.inl member)
      exact .inr ⟨⟨before, others, rfl, kept⟩, stays last (by simp)⟩
  · rintro (rfl | ⟨⟨before, during, rfl, stays⟩, goes⟩)
    · exact ⟨course, [], rfl, fun entry member => nomatch member⟩
    · refine ⟨before, during ++ [last], List.append_assoc .., fun entry member => ?_⟩
      rcases List.mem_append.mp member with early | late
      · exact stays entry early
      · rwa [List.mem_singleton.mp late]

/-- The readers behind a step with its reply. -/
def readersAfter (names : List String) : FeedStep α × FeedReply α → List String
  | (.subscribe name, .subscribed true) => names.filter (· != name) ++ [name]
  | (.unsubscribe name, _) => names.filter (· != name)
  | (.drain name, _) => names.filter (· != name)
  | _ => names

theorem mem_readersAfter (names : List String) (reader : String)
    (entry : FeedStep α × FeedReply α) :
    reader ∈ readersAfter names entry ↔
      entry = (.subscribe reader, .subscribed true) ∨ reader ∈ names ∧ ¬ Ends reader entry := by
  fun_cases readersAfter names entry with
  | case1 name =>
      by_cases own : reader = name
      · subst own
        simp
      · simp [Ends, own, Ne.symm own]
  | case2 name => simp [Ends, @eq_comm String name]
  | case3 name => simp [Ends, @eq_comm String name]
  | case4 entry fresh unsubscribed drained =>
      have stays : ¬ Ends reader entry := by
        fun_cases Ends reader entry with
        | case1 name => exact absurd rfl (fresh name)
        | case2 name reply => exact absurd rfl (unsubscribed name reply)
        | case3 name reply => exact absurd rfl (drained name reply)
        | case4 => exact id
      have other : entry ≠ (.subscribe reader, .subscribed true) := fresh reader
      simp [stays, other]

theorem nodup_readersAfter {names : List String} (unique : names.Nodup)
    (entry : FeedStep α × FeedReply α) : (readersAfter names entry).Nodup := by
  fun_cases readersAfter names entry with
  | case1 name =>
      have apart : List.Disjoint (names.filter (· != name)) [name] := by simp
      exact (unique.filter _).append (List.nodup_singleton name) apart
  | case2 name => exact unique.filter _
  | case3 name => exact unique.filter _
  | case4 => exact unique

theorem mem_readers (reader : String) (course : List (FeedStep α × FeedReply α)) :
    reader ∈ course.foldl readersAfter [] ↔ Reads reader course := by
  induction course using List.reverseRecOn with
  | nil => simp [not_reads_nil]
  | append_singleton course last ih =>
      rw [List.foldl_append, List.foldl_cons, List.foldl_nil, mem_readersAfter, ih, reads_concat]

theorem nodup_readers (course : List (FeedStep α × FeedReply α)) :
    (course.foldl readersAfter []).Nodup := by
  induction course using List.reverseRecOn with
  | nil => exact .nil
  | append_singleton course last ih =>
      rw [List.foldl_append, List.foldl_cons, List.foldl_nil]
      exact nodup_readersAfter ih last

theorem ncard_reads (course : List (FeedStep α × FeedReply α)) :
    {reader | Reads reader course}.ncard = (course.foldl readersAfter []).length := by
  have same : {reader | Reads reader course} =
      ((course.foldl readersAfter []).toFinset : Set String) := by
    ext reader
    simp [mem_readers]
  rw [same, Set.ncard_coe_finset, List.toFinset_card_of_nodup (nodup_readers course)]

namespace Mailboxes

def names (mailboxes : Mailboxes α) : List String := mailboxes.boxes.map (·.1)

theorem names_unsubscribe (mailboxes : Mailboxes α) (name : String) :
    (mailboxes.unsubscribe name).names = mailboxes.names.filter (· != name) := by
  rw [names, names, List.filter_map]
  rfl

theorem names_setBox (mailboxes : Mailboxes α) (name : String) (box : Mailbox α) :
    (mailboxes.setBox name box).names = mailboxes.names := by
  rw [names, names, setBox, List.map_map]
  refine List.map_congr_left fun entry _ => ?_
  by_cases own : entry.1 = name <;> simp [own]

theorem names_subscribe {mailboxes after : Mailboxes α} {name : String}
    (done : mailboxes.subscribe? name = some after) :
    after.names = mailboxes.names.filter (· != name) ++ [name] := by
  rw [subscribe?] at done
  split at done
  · cases done
  · cases done
    rw [← names_unsubscribe]
    exact List.map_append

theorem names_publish (mailboxes : Mailboxes α) (batch : α) :
    (mailboxes.publish batch).2.names = mailboxes.names := by
  rw [publish]
  split
  · rfl
  · exact List.map_map

theorem Effect.names_eq {bound : Nat} {mailboxes after : Mailboxes α} {step : FeedStep α}
    {reply : FeedReply α} (effect : Effect bound mailboxes step reply after) :
    after.names = readersAfter mailboxes.names (step, reply) := by
  cases effect with
  | subscribed _ done => exact names_subscribe done
  | posted => exact names_publish _ _
  | taken => exact names_setBox _ _ _
  | @noDrainer name absent =>
      have unread : name ∉ mailboxes.names := by
        intro member
        obtain ⟨entry, inside, rfl⟩ := List.mem_map.mp member
        simpa using List.lookup_eq_none_iff.mp absent entry inside
      exact (List.filter_eq_self.mpr fun other member => by
        simpa using fun same : other = name => unread (same ▸ member)).symm
  | drained => exact names_unsubscribe _ _
  | dropped => exact names_unsubscribe _ _
  | _ => rfl

theorem names_reached (bound : Nat) (mailboxes : Mailboxes α) (steps : List (FeedStep α)) :
    ((broadcast bound).reached mailboxes steps).names =
      ((broadcast bound).course mailboxes steps).foldl readersAfter mailboxes.names := by
  induction steps generalizing mailboxes with
  | nil => rfl
  | cons step rest ih =>
      rw [Broadcast.reached, Broadcast.course, List.foldl_cons, ih,
        (effect_perform bound mailboxes step).names_eq]

theorem closed_reached (bound : Nat) (mailboxes : Mailboxes α) (steps : List (FeedStep α)) :
    ((broadcast bound).reached mailboxes steps).closed =
      (mailboxes.closed || steps.any FeedStep.isClose) := by
  induction steps generalizing mailboxes with
  | nil => exact (Bool.or_false _).symm
  | cons step rest ih =>
      rw [Broadcast.reached, ih, closed_perform, List.any_cons, Bool.or_assoc]

/-- A subscription that is granted opens an empty mailbox, and nothing is closed then. -/
theorem of_subscribed {bound : Nat} {mailboxes after : Mailboxes α} {reader : String}
    (granted : (broadcast bound).perform mailboxes (.subscribe reader) =
      (.subscribed true, after)) :
    after.closed = false ∧ after.box? reader = some .empty := by
  have effect := effect_perform bound mailboxes (.subscribe reader)
  rw [granted] at effect
  cases effect with
  | subscribed opened done =>
      refine ⟨(closed_subscribe done).trans opened, ?_⟩
      rw [box?_subscribe done, if_pos rfl]

end Mailboxes

/-! ## What a feed delivers -/

theorem Mailbox.Accounts.sublist {bound : Nat} {box : Mailbox α} (accounts : box.Accounts bound) :
    (box.received ++ box.unread).Sublist box.published := by
  rw [accounts.complete, Mailbox.received]
  refine List.Sublist.append ?_ (List.Sublist.refl _)
  induction box.deliveries with
  | nil => exact .slnil
  | cons delivery rest ih =>
      rw [List.map_cons, List.flatMap_cons]
      exact (List.sublist_append_right delivery.missed [delivery.batch]).append ih

namespace Feed

/-- What a feed has delivered, and will, to a reader that stayed since it subscribed. -/
structure Serves (bound : Nat) (feed : Feed α) (reader : String)
    (during : List (FeedStep α × FeedReply α)) (box : Mailbox α) : Prop where
  published : box.published = publishedIn (during.map (·.1))
  received : box.received = receivedBy reader during
  accounts : box.Accounts bound
  inOrder : (receivedBy reader during ++ box.unread).Sublist (publishedIn (during.map (·.1)))
  receives : (feed.receive? reader).map (·.1) =
    some (match newest bound box.unread with
      | batch :: _ => .batch batch
      | [] => if feed.closed then .ended else .pending)
  drains : (feed.drain? reader).map (fun got => (got.1, got.2.1)) =
    some (newest bound box.unread, if feed.closed then .ended else .pending)
  ends : feed.closed = true → ∀ more,
    (∀ entry ∈ Feed.broadcast.course feed more, ¬ Ends reader entry) →
      let replies := repliesTo reader (Feed.broadcast.course feed more)
      replies = drained (newest bound box.unread) replies.length

/-- All that a feed of some capacity does under some steps. -/
structure Delivers (capacity bound : Nat) (steps : List (FeedStep α)) : Prop where
  least : IsLeast {size | max capacity 1 ≤ size ∧ ∃ exponent, size = 2 ^ exponent} bound
  ring : Feed.broadcast.course (ofCapacity capacity) steps =
    Ring.broadcast.course (Ring.ofSize bound) steps
  mailboxes : Feed.broadcast.course (ofCapacity capacity) steps =
    (Mailboxes.broadcast bound).course Mailboxes.empty steps
  serves : ∀ reader before during,
    Feed.broadcast.course (ofCapacity capacity) steps =
        before ++ (.subscribe reader, .subscribed true) :: during →
      (∀ entry ∈ during, ¬ Ends reader entry) →
        ∃ box, ((Mailboxes.broadcast bound).reached .empty steps).box? reader = some box ∧
          (Feed.broadcast.reached (ofCapacity capacity) steps).Serves bound reader during box
  publishes : ∀ batch,
    ((Feed.broadcast.reached (ofCapacity capacity) steps).publish batch).1 =
      if steps.any FeedStep.isClose then 0
      else {reader | Reads reader (Feed.broadcast.course (ofCapacity capacity) steps)}.ncard
  closes : (Feed.broadcast.reached (ofCapacity capacity : Feed α) steps).close.1 =
    !steps.any FeedStep.isClose
  final : steps.any FeedStep.isClose = true →
    (∀ batch, (Feed.broadcast.reached (ofCapacity capacity) steps).publish batch =
        (0, Feed.broadcast.reached (ofCapacity capacity) steps)) ∧
      ∀ reader,
        (Feed.broadcast.reached (ofCapacity capacity : Feed α) steps).subscribe? reader = none

variable {capacity bound : Nat} {feed : Feed α} {mailboxes : Mailboxes α} {reader : String}
  {box : Mailbox α}

theorem mirrors_ofCapacity (capacity : Nat) :
    (ofCapacity capacity : Feed α).Mirrors (leastPowerOfTwo capacity) .empty :=
  ⟨rfl, rfl, [], ⟨rfl, List.drop_nil.symm⟩, .nil⟩

theorem models_ofCapacity (capacity : Nat) :
    (Ring.ofSize (leastPowerOfTwo capacity)).Models (ofCapacity capacity : Feed α) := by
  have least := (isLeast_leastPowerOfTwo capacity).1.1
  refine ⟨List.length_replicate, rfl, rfl, [], ⟨?_, rfl, fun found => nomatch found⟩,
    ⟨rfl, List.drop_nil.symm⟩⟩
  rw [Ring.ofSize, List.length_replicate]
  exact Nat.lt_of_lt_of_le (Nat.lt_of_lt_of_le Nat.one_pos (Nat.le_max_right ..)) least

/-- The answers of a feed to a reader with a mailbox. -/
theorem Mirrors.receives (mirrors : feed.Mirrors bound mailboxes)
    (found : mailboxes.box? reader = some box) :
    (feed.receive? reader).map (·.1) =
      some (match newest bound box.unread with
        | batch :: _ => .batch batch
        | [] => if feed.closed then .ended else .pending) := by
  have both := mirrors.receive? reader
  rw [Mailboxes.receive?, found, Option.map_some] at both
  generalize feed.receive? reader = got at both ⊢
  cases both with
  | some same =>
      rw [Option.map_some, same.1, mirrors.closed]
      cases kept : newest bound box.unread with
      | nil => rw [Mailbox.take?_of_newest_nil kept, Mailboxes.idle]
      | cons batch later => rw [Mailbox.take?_of_newest_cons kept]

theorem Mirrors.drains (mirrors : feed.Mirrors bound mailboxes)
    (found : mailboxes.box? reader = some box) :
    (feed.drain? reader).map (fun got => (got.1, got.2.1)) =
      some (newest bound box.unread, if feed.closed then .ended else .pending) := by
  have both := mirrors.drain? reader
  rw [Mailboxes.drain?, found, Option.map_some] at both
  generalize feed.drain? reader = got at both ⊢
  cases both with
  | some same => rw [Option.map_some, same.1, same.2.1, mirrors.closed, Mailboxes.idle]

/-- What a reader who stays has got, and what becomes of it, by its mailbox. -/
theorem Mirrors.serves (mirrors : feed.Mirrors bound mailboxes)
    {during : List (FeedStep α × FeedReply α)} (found : mailboxes.box? reader = some box)
    (grown : Mailbox.empty.Grows bound box (publishedIn (during.map (·.1)))
      (receivedBy reader during)) : feed.Serves bound reader during box where
  published := grown.published
  received := grown.received
  accounts := grown.accounts (Mailbox.accounts_empty bound)
  inOrder := by
    have ordered := (grown.accounts (Mailbox.accounts_empty bound)).sublist
    rw [grown.received, grown.published] at ordered
    exact ordered
  receives := mirrors.receives found
  drains := mirrors.drains found
  ends closed more stays := by
    rw [(agrees_mailboxes bound).course_eq mirrors more] at stays ⊢
    exact Mailboxes.repliesTo_of_closed (mirrors.closed.symm.trans closed) found more stays

/-- A feed delivers to every reader the oldest of the newest unread batches until it is closed. -/
theorem delivers (capacity : Nat) (steps : List (FeedStep α)) :
    Delivers capacity (leastPowerOfTwo capacity) steps := by
  have start := mirrors_ofCapacity (α := α) capacity
  have agrees := agrees_mailboxes (α := α) (leastPowerOfTwo capacity)
  have courses := agrees.course_eq start steps
  have mirrors := agrees.reached start steps
  have closed : (Feed.broadcast.reached (ofCapacity capacity) steps).closed =
      steps.any FeedStep.isClose := by
    rw [mirrors.closed, Mailboxes.closed_reached]
    rfl
  refine ⟨isLeast_leastPowerOfTwo capacity, ?ring, courses, ?serves, ?publishes, ?closes, ?final⟩
  case ring => exact (Ring.agrees_feed.course_eq (models_ofCapacity capacity) steps).symm
  case serves =>
    -- The grant opens an empty mailbox, and what follows it is a course of its own.
    intro reader before during split stays
    rw [courses] at split
    obtain ⟨between, after, later, granted, rfl, reached⟩ := Broadcast.exists_of_course_eq split
    obtain ⟨opened, own⟩ := Mailboxes.of_subscribed granted
    obtain ⟨box, found, grown⟩ := Mailboxes.grows_reached own later stays
    have published := congrArg publishedIn
      (Broadcast.map_fst_course (Mailboxes.broadcast (leastPowerOfTwo capacity)) after later)
    rw [if_neg (Bool.eq_false_iff.mp opened), ← published] at grown
    rw [← reached] at found
    exact ⟨box, found, mirrors.serves found grown⟩
  case publishes =>
    intro batch
    rw [(mirrors.publish batch).1, Mailboxes.publish, ← mirrors.closed, closed, ncard_reads,
      courses]
    have readers := Mailboxes.names_reached (leastPowerOfTwo capacity) (.empty : Mailboxes α) steps
    split
    · rfl
    · exact (List.length_map _).symm.trans (congrArg List.length readers)
  case closes => rw [close, closed]
  case final =>
    intro shut
    rw [shut] at closed
    refine ⟨fun batch => ?_, fun reader => ?_⟩
    · rw [publish, readerCount, if_pos closed, if_pos rfl]
    · rw [subscribe?, if_pos closed]

/-- A feed for three batches keeps four: two of six unread ones are lost for its reader. -/
theorem delivers_behind :
    let steps : List (FeedStep Nat) := [.subscribe "r", .publish 1, .receive "r", .publish 2,
      .publish 3, .publish 4, .publish 5, .publish 6, .publish 7, .close]
    ((Feed.broadcast.reached (ofCapacity 3) steps).receive? "r").map (·.1) = some (.batch 4) := by
  intro steps
  have stays : ∀ entry ∈ (Feed.broadcast.course (ofCapacity 3) steps).drop 1, ¬ Ends "r" entry :=
    List.forall_iff_forall_mem.mp ⟨id, id, id, id, id, id, id, id, id⟩
  obtain ⟨box, found, serves⟩ := (delivers 3 steps).serves "r" [] _ rfl stays
  obtain rfl : box = ⟨[1, 2, 3, 4, 5, 6, 7], [⟨[], 1, []⟩], [2, 3, 4, 5, 6, 7]⟩ :=
    (Option.some.inj found).symm
  exact serves.receives

end Feed

end DocStore
