import DocStore.Predicate
import DocStore.Proofs.Json.Reordered
import DocStore.Proofs.Lowering
import DocStore.Selector.Reader

/-!
# Selector trees with their clauses in another order

Two trees may differ in the order of the clauses of combinators, and in the order of keys inside
operands. Neither shows in what such a tree accepts, nor in what its predicate holds of, nor in the
constants that the predicate folds to.
-/

namespace DocStore

/-! ## Trees in another order -/

/-- The same condition with operands that differ in the order of keys. -/
inductive Condition.Reordered : Condition → Condition → Prop where
  | eq {a b : Json} (operand : Json.Reordered a b) : Reordered (.eq a) (.eq b)
  | ne {a b : Json} (operand : Json.Reordered a b) : Reordered (.ne a) (.ne b)
  | compare (comparison : Comparison) (bound : Binary64) :
      Reordered (.compare comparison bound) (.compare comparison bound)
  | oneOf {as bs : List Json} (operands : List.Forall₂ Json.Reordered as bs) :
      Reordered (.oneOf as) (.oneOf bs)
  | noneOf {as bs : List Json} (operands : List.Forall₂ Json.Reordered as bs) :
      Reordered (.noneOf as) (.noneOf bs)
  | present (expected : Bool) : Reordered (.present expected) (.present expected)
  | kind (expected : Json.Kind) : Reordered (.kind expected) (.kind expected)
  | all {as bs : List Json} (operands : List.Forall₂ Json.Reordered as bs) :
      Reordered (.all as) (.all bs)

/-- The same tree up to the order of the clauses of combinators. -/
inductive Selector.Reordered : Selector → Selector → Prop where
  | combinator (combinator : Combinator) {as shuffled bs : List Selector} (perm : as.Perm shuffled)
      (clauses : List.Forall₂ Reordered shuffled bs) :
      Reordered (combinator.apply as) (combinator.apply bs)
  | not {a b : Selector} (clause : Reordered a b) : Reordered (.not a) (.not b)
  | field (path : FieldPath) {a b : Condition} (condition : Condition.Reordered a b) :
      Reordered (.field path a) (.field path b)
  | elemMatch (path : FieldPath) {a b : Selector} (clause : Reordered a b) :
      Reordered (.elemMatch path a) (.elemMatch path b)

namespace Selector

namespace Reordered

@[elab_as_elim]
theorem induction {motive : Selector → Selector → Prop}
    (combinator : ∀ (combinator : Combinator) as shuffled bs, as.Perm shuffled →
      List.Forall₂ motive shuffled bs → motive (combinator.apply as) (combinator.apply bs))
    (not : ∀ a b, motive a b → motive (.not a) (.not b))
    (field : ∀ path a b, Condition.Reordered a b → motive (.field path a) (.field path b))
    (elemMatch : ∀ path a b, motive a b → motive (.elemMatch path a) (.elemMatch path b))
    {a b : Selector} (reordered : Reordered a b) : motive a b :=
  @Reordered.rec (fun a b _ => motive a b) (fun as bs _ => List.Forall₂ motive as bs)
    (fun kind _ _ _ perm _ clauses => combinator kind _ _ _ perm clauses)
    (fun _ clause => not _ _ clause) (fun path _ _ condition => field path _ _ condition)
    (fun path _ _ _ clause => elemMatch path _ _ clause)
    .nil (fun _ _ first rest => .cons first rest) a b reordered

/-- A single clause stands for itself on both sides. -/
theorem conjunction {as shuffled bs : List Selector} (perm : as.Perm shuffled)
    (clauses : List.Forall₂ Reordered shuffled bs) :
    Reordered (Selector.conjunction as) (Selector.conjunction bs) := by
  have all : Reordered (.and as) (.and bs) := .combinator .and perm clauses
  match as with
  | [] =>
      cases perm.nil_eq
      cases clauses
      exact all
  | [only] =>
      cases perm.singleton_eq
      obtain ⟨⟩ | ⟨first, ⟨⟩⟩ := clauses
      exact first
  | first :: second :: rest =>
      have length := perm.length_eq.trans clauses.length_eq
      match bs with
      | [] => cases length
      | [only] => cases length
      | _ :: _ :: _ => exact all

end Reordered

end Selector

/-! ## What the trees say -/

theorem Json.items?_eq_none {json : Json} (isScalar : json.isScalar = true) :
    json.items? = none := by
  cases json <;> first | rfl | cases isScalar

theorem equals_reordered {value other : Option Json}
    (values : Option.Rel Json.Reordered value other) {a b : Json} (operands : Json.Reordered a b) :
    Condition.equals value a = Condition.equals other b := by
  have texts : value.bind Json.text? = other.bind Json.text? := by
    cases values with
    | none => rfl
    | some found => exact found.text?_eq
  have equal : value.any (Json.equal · a) = other.any (Json.equal · b) := by
    cases values with
    | none => rfl
    | some found => exact found.equal_eq operands
  cases operands with
  | scalar isScalar => cases a <;> simp only [Condition.equals, texts, equal]
  | array => exact equal
  | object => exact equal

theorem Condition.Reordered.accepts_eq {value other : Option Json}
    (values : Option.Rel Json.Reordered value other) {a b : Condition}
    (conditions : Reordered a b) : a.accepts value = b.accepts other := by
  cases conditions with
  | eq operand => exact equals_reordered values operand
  | ne operand => exact congrArg Bool.not (equals_reordered values operand)
  | compare comparison bound =>
      cases values with
      | none => rfl
      | some found => simp only [accepts, Option.bind_some, found.double?_eq]
  | oneOf operands =>
      exact any_forall₂ (operands.imp fun _ _ operand => equals_reordered values operand)
  | noneOf operands =>
      have any := any_forall₂ (operands.imp fun _ _ operand => equals_reordered values operand)
      exact congrArg Bool.not any
  | present expected => cases values <;> rfl
  | kind expected =>
      cases values with
      | none => rfl
      | some found => simp only [accepts, Option.any_some, found.kind_eq]
  | all operands =>
      cases values with
      | none => rfl
      | some found =>
          have held := found.contains_eq (.array operands)
          simp only [accepts, Option.any_some, found.kind_eq, held]

section Clauses

variable {as shuffled bs : List Selector} {p q : Selector → Bool}

theorem all_reordered (perm : as.Perm shuffled)
    (same : List.Forall₂ (fun a b => p a = q b) shuffled bs) : as.all p = bs.all q :=
  perm.all_eq.trans (all_forall₂ same)

theorem any_reordered (perm : as.Perm shuffled)
    (same : List.Forall₂ (fun a b => p a = q b) shuffled bs) : as.any p = bs.any q :=
  perm.any_eq.trans (any_forall₂ same)

/-- Whether the clauses pass a test as their combinator asks. -/
def Combinator.passes (test : Selector → Bool) (clauses : List Selector) : Combinator → Bool
  | and => clauses.all test
  | or => clauses.any test
  | nor => !clauses.any test

theorem passes_reordered (combinator : Combinator) (perm : as.Perm shuffled)
    (same : List.Forall₂ (fun a b => p a = q b) shuffled bs) :
    combinator.passes p as = combinator.passes q bs := by
  cases combinator with
  | and => exact all_reordered perm same
  | or => exact any_reordered perm same
  | nor => exact congrArg Bool.not (any_reordered perm same)

end Clauses

/-- Two tests answer alike for values that differ in the order of keys. -/
def SameAnswers (p q : Json → Bool) : Prop :=
  ∀ json other, Json.Reordered json other → p json = q other

theorem items_reordered {value other : Option Json}
    (values : Option.Rel Json.Reordered value other) :
    List.Forall₂ Json.Reordered ((value.bind Json.items?).getD [])
      ((other.bind Json.items?).getD []) := by
  cases values with
  | none => exact .nil
  | some found =>
      cases found with
      | scalar isScalar =>
          rw [Option.bind_some, Json.items?_eq_none isScalar]
          exact .nil
      | array items => exact items
      | object => exact .nil

/-- Some item passes the one test when some item in another order of keys passes the other. -/
theorem anyItem_reordered {value other : Option Json} {p q : Json → Bool}
    (values : Option.Rel Json.Reordered value other) (same : SameAnswers p q) :
    ((value.bind Json.items?).getD []).any p = ((other.bind Json.items?).getD []).any q :=
  any_forall₂ ((items_reordered values).imp same)

namespace Selector

theorem accepts_combinator (combinator : Combinator) (clauses : List Selector) (json : Json) :
    (combinator.apply clauses).accepts json =
      combinator.passes (fun clause => clause.accepts json) clauses := by
  cases combinator with
  | and => exact allAccept_eq_all clauses json
  | or => exact anyAccepts_eq_any clauses json
  | nor => exact congrArg Bool.not (anyAccepts_eq_any clauses json)

theorem Reordered.sameAnswers_accepts {a b : Selector} (reordered : Reordered a b) :
    SameAnswers a.accepts b.accepts := by
  refine reordered.induction ?combinator ?not ?field ?elemMatch
  case combinator =>
    intro combinator as shuffled bs perm clauses document other documents
    rw [accepts_combinator, accepts_combinator]
    have same := clauses.imp fun _ _ same => same document other documents
    exact passes_reordered combinator perm same
  case not =>
    intro a b same document other documents
    exact congrArg Bool.not (same document other documents)
  case field =>
    intro path a b condition document other documents
    exact condition.accepts_eq (FieldPath.lookup_reordered documents path)
  case elemMatch =>
    intro path a b same document other documents
    rw [accepts_elemMatch, accepts_elemMatch]
    exact anyItem_reordered (FieldPath.lookup_reordered documents path) same

end Selector

/-! ## What their predicates say -/

namespace Predicate

theorem holds_combinator (combinator : Combinator) (clauses : List Selector) (json : Json) :
    (ofSelector (combinator.apply clauses)).holds json =
      combinator.passes (fun clause => (ofSelector clause).holds json) clauses := by
  cases combinator with
  | and =>
      rw [Combinator.apply, ofSelector, holds, allHold_eq_all, ofSelectors_eq_map, List.all_map]
      rfl
  | or =>
      rw [Combinator.apply, ofSelector, holds, anyHolds_eq_any, ofSelectors_eq_map, List.any_map]
      rfl
  | nor =>
      rw [Combinator.apply, ofSelector, holds_negate, holds, anyHolds_eq_any, ofSelectors_eq_map,
        List.any_map]
      rfl

theorem sameAnswers_holds {a b : Selector} (reordered : Selector.Reordered a b) :
    SameAnswers (ofSelector a).holds (ofSelector b).holds := by
  refine reordered.induction ?combinator ?not ?field ?elemMatch
  case combinator =>
    intro combinator as shuffled bs perm clauses document other documents
    rw [holds_combinator, holds_combinator]
    have same := clauses.imp fun _ _ same => same document other documents
    exact passes_reordered combinator perm same
  case not =>
    intro a b same document other documents
    rw [ofSelector, ofSelector, holds_negate, holds_negate, same document other documents]
  case field =>
    intro path a b condition document other documents
    rw [ofSelector, ofSelector, holds_ofCondition, holds_ofCondition]
    exact condition.accepts_eq (FieldPath.lookup_reordered documents path)
  case elemMatch =>
    intro path a b same document other documents
    rw [ofSelector, ofSelector, holds_elemMatch, holds_elemMatch]
    exact anyItem_reordered (FieldPath.lookup_reordered documents path) same

/-- Two predicates fold to the same constant or to none. -/
structure SameConstant (a b : Predicate) : Prop where
  alwaysTrue : a.isAlwaysTrue = b.isAlwaysTrue
  alwaysFalse : a.isAlwaysFalse = b.isAlwaysFalse

theorem isAlwaysTrue_negate (predicate : Predicate) :
    (negate predicate).isAlwaysTrue = predicate.isAlwaysFalse := by
  cases predicate <;> rfl

theorem isAlwaysFalse_negate (predicate : Predicate) :
    (negate predicate).isAlwaysFalse = predicate.isAlwaysTrue := by
  cases predicate with
  | const value => cases value <;> rfl
  | _ => rfl

theorem SameConstant.negate {a b : Predicate} (same : SameConstant a b) :
    SameConstant a.negate b.negate where
  alwaysTrue := by rw [isAlwaysTrue_negate, isAlwaysTrue_negate, same.alwaysFalse]
  alwaysFalse := by rw [isAlwaysFalse_negate, isAlwaysFalse_negate, same.alwaysTrue]

/-- A leaf is no constant. -/
theorem equality_constant (path : FieldPath) (operand : Json) :
    (equality path operand).isAlwaysTrue = false ∧
      (equality path operand).isAlwaysFalse = false := by
  cases operand <;> exact ⟨rfl, rfl⟩

/-- Only the membership in nothing is a constant. -/
theorem membership_constant (path : FieldPath) (operands : List Json) :
    (membership path operands).isAlwaysTrue = false ∧
      (membership path operands).isAlwaysFalse = operands.isEmpty := by
  rw [membership, isAlwaysTrue, isAlwaysFalse, anyAlwaysTrue_eq_any, allAlwaysFalse_eq_all]
  cases operands with
  | nil => exact ⟨rfl, rfl⟩
  | cons operand rest =>
      simp [equality_constant]

theorem sameConstant_ofCondition (path : FieldPath) {a b : Condition}
    (conditions : Condition.Reordered a b) :
    SameConstant (ofCondition path a) (ofCondition path b) := by
  have equalities (a b : Json) : SameConstant (equality path a) (equality path b) := by
    constructor
    · rw [(equality_constant path a).1, (equality_constant path b).1]
    · rw [(equality_constant path a).2, (equality_constant path b).2]
  have memberships {as bs : List Json} (operands : List.Forall₂ Json.Reordered as bs) :
      SameConstant (membership path as) (membership path bs) := by
    constructor
    · rw [(membership_constant path as).1, (membership_constant path bs).1]
    · rw [(membership_constant path as).2, (membership_constant path bs).2]
      cases operands <;> rfl
  cases conditions with
  | eq => exact equalities _ _
  | ne => exact (equalities _ _).negate
  | oneOf operands => exact memberships operands
  | noneOf operands => exact (memberships operands).negate
  | _ => exact ⟨rfl, rfl⟩

section Clauses

variable {as shuffled bs : List Selector}

theorem sameConstant_and (perm : as.Perm shuffled)
    (same : List.Forall₂ (fun a b => SameConstant (ofSelector a) (ofSelector b)) shuffled bs) :
    SameConstant (.and (ofSelectors as)) (.and (ofSelectors bs)) := by
  rw [ofSelectors_eq_map, ofSelectors_eq_map]
  constructor
  · simp only [isAlwaysTrue, allAlwaysTrue_eq_all, List.all_map]
    exact all_reordered perm (same.imp fun _ _ single => single.alwaysTrue)
  · simp only [isAlwaysFalse, anyAlwaysFalse_eq_any, List.any_map]
    exact any_reordered perm (same.imp fun _ _ single => single.alwaysFalse)

theorem sameConstant_or (perm : as.Perm shuffled)
    (same : List.Forall₂ (fun a b => SameConstant (ofSelector a) (ofSelector b)) shuffled bs) :
    SameConstant (.or (ofSelectors as)) (.or (ofSelectors bs)) := by
  rw [ofSelectors_eq_map, ofSelectors_eq_map]
  constructor
  · simp only [isAlwaysTrue, anyAlwaysTrue_eq_any, List.any_map]
    exact any_reordered perm (same.imp fun _ _ single => single.alwaysTrue)
  · simp only [isAlwaysFalse, allAlwaysFalse_eq_all, List.all_map]
    exact all_reordered perm (same.imp fun _ _ single => single.alwaysFalse)

end Clauses

theorem sameConstant_ofSelector {a b : Selector} (reordered : Selector.Reordered a b) :
    SameConstant (ofSelector a) (ofSelector b) := by
  refine reordered.induction ?combinator ?not ?field ?elemMatch
  case combinator =>
    intro combinator as shuffled bs perm clauses
    cases combinator with
    | and => exact sameConstant_and perm clauses
    | or => exact sameConstant_or perm clauses
    | nor => exact (sameConstant_or perm clauses).negate
  case not => exact fun a b same => same.negate
  case field => exact fun path a b condition => sameConstant_ofCondition path condition
  case elemMatch => exact fun _ _ _ _ => ⟨rfl, rfl⟩

end Predicate

end DocStore
