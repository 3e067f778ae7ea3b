import DocStore.Proofs.Selector.Reading
import DocStore.Proofs.Selector.Reordered
import DocStore.Query.Compiled

/-!
# The order of the keys of a selector

Selectors that differ in the order of keys are read as trees that differ in the order of clauses and
of the keys inside operands, or both are refused. So the order of keys has no meaning.
-/

namespace DocStore

open Json (EntryRel)

namespace Selector

/-- With its keys in another order, a value is read as a tree with its clauses in another order. -/
def ReadsAlike (place : Place) (json : Json) (selector : Selector) : Prop :=
  ∀ other, Json.Reordered json other → ∃ found, Reads place other found ∧ selector.Reordered found

theorem bound?_reordered {a b : Json} (reordered : Json.Reordered a b) : bound? a = bound? b := by
  cases reordered <;> rfl

theorem readsCondition_reordered {operator : Operator} {operand other : Json}
    {condition : Condition} (reads : ReadsCondition operator operand condition)
    (reordered : Json.Reordered operand other) :
    ∃ found, ReadsCondition operator other found ∧ condition.Reordered found := by
  cases reads with
  | eq => exact ⟨_, .eq other, .eq reordered⟩
  | ne => exact ⟨_, .ne other, .ne reordered⟩
  | compare bounded =>
      rw [bound?_reordered reordered] at bounded
      exact ⟨_, .compare bounded, .compare _ _⟩
  | oneOf =>
      obtain ⟨⟨⟩⟩ | ⟨items⟩ | _ := reordered
      exact ⟨_, .oneOf _, .oneOf items⟩
  | noneOf =>
      obtain ⟨⟨⟩⟩ | ⟨items⟩ | _ := reordered
      exact ⟨_, .noneOf _, .noneOf items⟩
  | present expected =>
      cases reordered
      exact ⟨_, .present expected, .present expected⟩
  | kind expected =>
      cases reordered
      exact ⟨_, .kind expected, .kind expected⟩
  | all =>
      obtain ⟨⟨⟩⟩ | ⟨items⟩ | _ := reordered
      exact ⟨_, .all _, .all items⟩

theorem reordered_object {entries : List (String × Json)} {other : Json}
    (reordered : Json.Reordered (.object entries) other) : ∃ others, other = .object others := by
  cases reordered with
  | scalar isScalar => cases isScalar
  | object => exact ⟨_, rfl⟩

section Entries

variable {as shuffled bs : List (String × Json)}

/-- Both objects have the same keys. -/
theorem forall_isOperatorKey {related : Json → Json → Prop} {answer : Bool}
    (perm : as.Perm shuffled) (values : List.Forall₂ (EntryRel related) shuffled bs)
    (each : ∀ entry ∈ as, isOperatorKey entry.1 = answer) :
    ∀ entry ∈ bs, isOperatorKey entry.1 = answer := by
  intro entry member
  have key : entry.1 ∈ shuffled.map (·.1) := by
    rw [Json.map_key_eq values]
    exact List.mem_map_of_mem member
  obtain ⟨other, inside, same⟩ := List.mem_map.mp key
  rw [← same]
  exact each other (perm.mem_iff.mpr inside)

/-- The entries of the other object are read as clauses that are in another order, too. -/
theorem readsEntries_reordered {place : String → Place} {clauses : List Selector}
    (each : List.Forall₂ (fun entry clause => ReadsAlike (place entry.1) entry.2 clause) as clauses)
    (perm : as.Perm shuffled) (values : List.Forall₂ (EntryRel Json.Reordered) shuffled bs) :
    ∃ found, ReadsEntries place bs found ∧
      ∃ moved, clauses.Perm moved ∧ List.Forall₂ Reordered moved found := by
  obtain ⟨moved, shuffledEach, order⟩ := List.perm_comp_forall₂ perm.symm each
  have entryEach : List.Forall₂ (fun entry clause => ∀ other, EntryRel Json.Reordered entry other →
      ∃ found, Reads (place other.1) other.2 found ∧ Reordered clause found) shuffled moved := by
    refine shuffledEach.imp fun entry clause single other pair => ?_
    obtain ⟨value⟩ := pair
    exact single _ value
  obtain ⟨found, reads, same⟩ := exists_forall₂_of_related entryEach values
  exact ⟨found, readsEntries_iff.mpr reads, moved, order.symm, same⟩

end Entries

/-- Wherever a value is read, it is read alike with its keys in another order. -/
theorem readsAlike {place : Place} {json : Json} {selector : Selector}
    (reads : Reads place json selector) : ReadsAlike place json selector := by
  refine reads.induction ?combinator ?negation ?bareOperator ?named ?object ?literal ?literalObject
    ?operators ?condition ?elemMatch ?negatedField
  case combinator =>
    intro scope combinator items clauses each other reordered
    obtain ⟨⟨⟩⟩ | ⟨pairs⟩ | _ := reordered
    obtain ⟨found, reads, same⟩ := exists_forall₂_of_related each pairs
    exact ⟨_, .combinator combinator (readsItems_iff.mpr reads),
      .combinator combinator (.refl clauses) same⟩
  case negation =>
    intro scope entries clause inner other reordered
    obtain ⟨found, reads, same⟩ := inner other reordered
    obtain ⟨others, rfl⟩ := reordered_object reordered
    exact ⟨_, .negation reads, .not same⟩
  case bareOperator =>
    intro key operand clause isOperator noCombinator noNegation inner other reordered
    obtain ⟨found, reads, same⟩ := inner other reordered
    exact ⟨found, .bareOperator isOperator noCombinator noNegation reads, same⟩
  case named =>
    intro scope key path operand clause noOperator isPath inner other reordered
    obtain ⟨found, reads, same⟩ := inner other reordered
    exact ⟨found, .named noOperator isPath reads, same⟩
  case object =>
    intro scope entries clauses each other reordered
    obtain ⟨⟨⟩⟩ | _ | ⟨distinct, perm, values⟩ := reordered
    obtain ⟨found, reads, moved, order, same⟩ := readsEntries_reordered each perm values
    exact ⟨_, .object reads, .conjunction order same⟩
  case literal =>
    intro path operand noObject other reordered
    have noEntries : other.entries? = none := by
      cases reordered with
      | scalar => exact noObject
      | array => rfl
      | object => cases noObject
    exact ⟨_, .literal noEntries, .field path (.eq reordered)⟩
  case literalObject =>
    intro path entries noOperator other reordered
    obtain ⟨⟨⟩⟩ | _ | ⟨distinct, perm, values⟩ := reordered
    have plain := forall_isOperatorKey perm values noOperator
    exact ⟨_, .literalObject plain, .field path (.eq (.object distinct perm values))⟩
  case operators =>
    intro path entries clauses nonempty areOperators each other reordered
    obtain ⟨⟨⟩⟩ | _ | ⟨distinct, perm, values⟩ := reordered
    obtain ⟨found, reads, moved, order, same⟩ := readsEntries_reordered each perm values
    have others := List.length_pos_iff.mp (Json.length_reordered perm values ▸
      List.length_pos_iff.mpr nonempty)
    have keys := forall_isOperatorKey perm values areOperators
    exact ⟨_, .operators others keys reads, .conjunction order same⟩
  case condition =>
    intro path operator operand condition read other reordered
    obtain ⟨found, reads, same⟩ := readsCondition_reordered read reordered
    exact ⟨_, .condition reads, .field path same⟩
  case elemMatch =>
    intro path entries clause inner other reordered
    obtain ⟨found, reads, same⟩ := inner other reordered
    obtain ⟨others, rfl⟩ := reordered_object reordered
    exact ⟨_, .elemMatch reads, .elemMatch path same⟩
  case negatedField =>
    intro path entries clause inner other reordered
    obtain ⟨found, reads, same⟩ := inner other reordered
    obtain ⟨others, rfl⟩ := reordered_object reordered
    exact ⟨_, .negatedField reads, .not same⟩

theorem read_reordered {json other : Json} {selector : Selector}
    (read : Selector.read json = .ok selector) (reordered : Json.Reordered json other) :
    ∃ found, Selector.read other = .ok found ∧ selector.Reordered found := by
  rcases read_eq_ok_iff.mp read with ⟨rfl, rfl⟩ | reads
  · cases reordered
    exact ⟨everything, rfl, .combinator .and (.refl []) .nil⟩
  · obtain ⟨found, followed, same⟩ := readsAlike reads other reordered
    exact ⟨found, read_eq_ok_iff.mpr (.inr followed), same⟩

end Selector

/-! ## The order of keys has no meaning -/

namespace QuerySpec

/-- Selectors that differ in the order of keys are both read or both refused, and their queries
answer alike for documents that differ in the order of keys. -/
theorem key_order_meaningless {json other document otherDocument : Json}
    (selectors : Json.Reordered json other) (documents : Json.Reordered document otherDocument) :
    ((∃ selector, Selector.read json = .ok selector) ↔
      ∃ selector, Selector.read other = .ok selector) ∧
    ∀ a b, Selector.read json = .ok a → Selector.read other = .ok b →
      a.accepts document = b.accepts otherDocument ∧
      (ofSelector a).compile.predicate.holds document =
        (ofSelector b).compile.predicate.holds otherDocument ∧
      (ofSelector a).compile.predicate.isAlwaysTrue =
        (ofSelector b).compile.predicate.isAlwaysTrue ∧
      (ofSelector a).compile.predicate.isAlwaysFalse =
        (ofSelector b).compile.predicate.isAlwaysFalse := by
  refine ⟨⟨?forward, ?backward⟩, ?answers⟩
  case forward =>
    rintro ⟨selector, read⟩
    obtain ⟨found, readOther, _⟩ := Selector.read_reordered read selectors
    exact ⟨found, readOther⟩
  case backward =>
    rintro ⟨selector, read⟩
    obtain ⟨found, readOther, _⟩ := Selector.read_reordered read selectors.symm
    exact ⟨found, readOther⟩
  case answers =>
    intro a b read readOther
    obtain ⟨found, readFound, reordered⟩ := Selector.read_reordered read selectors
    cases readFound.symm.trans readOther
    have constants := Predicate.sameConstant_ofSelector reordered
    exact ⟨reordered.sameAnswers_accepts document otherDocument documents,
      Predicate.sameAnswers_holds reordered document otherDocument documents,
      constants.alwaysTrue, constants.alwaysFalse⟩

theorem key_order_meaningless_sample :
    let xy : Json := .object [("x", .ofNat 1), ("y", .ofNat 2)]
    let yx : Json := .object [("y", .ofNat 2), ("x", .ofNat 1)]
    let text : Json := .object [("$ne", .string "z")]
    let json : Json := .object [("a", xy), ("b", text)]
    let other : Json := .object [("b", text), ("a", yx)]
    let document : Json := .object [("a", yx), ("b", xy)]
    let otherDocument : Json := .object [("b", yx), ("a", xy)]
    ∃ a b, Selector.read json = .ok a ∧ Selector.read other = .ok b ∧
      a.accepts document = true ∧ b.accepts otherDocument = true := by
  intro xy yx text json other document otherDocument
  have scalar (n : Nat) : Json.Reordered (.ofNat n) (.ofNat n) := .scalar rfl
  have swapped : Json.Reordered xy yx :=
    .object (by decide) (.swap _ _ _) (.cons (.value (scalar 2)) (.cons (.value (scalar 1)) .nil))
  have fixed : Json.Reordered text text :=
    .object (by decide) (.refl _) (.cons (.value (.scalar rfl)) .nil)
  have selectors : Json.Reordered json other :=
    .object (by decide) (.swap _ _ _) (.cons (.value fixed) (.cons (.value swapped) .nil))
  have documents : Json.Reordered document otherDocument :=
    .object (by decide) (.swap _ _ _)
      (.cons (.value swapped) (.cons (.value swapped.symm) .nil))
  obtain ⟨_, answers⟩ := key_order_meaningless selectors documents
  refine ⟨_, _, rfl, rfl, by decide, ?_⟩
  rw [← (answers _ _ rfl rfl).1]
  decide

end QuerySpec

end DocStore
