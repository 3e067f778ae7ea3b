import DocStore.Proofs.Induction
import DocStore.Proofs.Pointwise
import DocStore.Selector.Reader

/-!
# How selectors are read

What a value is read as depends on where it stands: under a key of a selector object, as an item of
a combinator's list, as the operand of a field, or as the operand of an operator. The relation below
has one rule for each way of reading a value in one of these places, and the reader succeeds with a
selector exactly when the rules lead to it.
-/

namespace DocStore

namespace Combinator

def key : Combinator → String
  | and => "$and"
  | or => "$or"
  | nor => "$nor"

theorem ofKey?_eq_some_iff {name : String} {combinator : Combinator} :
    ofKey? name = some combinator ↔ name = combinator.key := by
  constructor
  · intro named
    unfold ofKey? at named
    split at named <;> cases named <;> rfl
  · rintro rfl
    cases combinator <;> rfl

end Combinator

namespace Operator

def key : Operator → String
  | eq => "$eq"
  | ne => "$ne"
  | compare .gt => "$gt"
  | compare .gte => "$gte"
  | compare .lt => "$lt"
  | compare .lte => "$lte"
  | oneOf => "$in"
  | noneOf => "$nin"
  | present => "$exists"
  | kind => "$type"
  | all => "$all"
  | elemMatch => "$elemMatch"
  | not => "$not"

theorem ofKey?_eq_some_iff {name : String} {operator : Operator} :
    ofKey? name = some operator ↔ name = operator.key := by
  constructor
  · intro named
    unfold ofKey? at named
    split at named <;> cases named <;> rfl
  · rintro rfl
    cases operator with
    | compare comparison => cases comparison <;> rfl
    | _ => rfl

end Operator

namespace Json.Kind

theorem ofName?_eq_some_iff {name : String} {kind : Kind} :
    ofName? name = some kind ↔ name = kind.name := by
  constructor
  · intro named
    unfold ofName? at named
    split at named <;> cases named <;> rfl
  · rintro rfl
    cases kind <;> rfl

end Json.Kind

namespace Selector

/-! ## Keys -/

theorem mem_combinators {key : String} :
    key ∈ ["$and", "$or", "$nor"] ↔ ∃ combinator : Combinator, key = combinator.key := by
  constructor
  · intro named
    simp only [List.mem_cons, List.not_mem_nil, or_false] at named
    rcases named with rfl | rfl | rfl
    · exact ⟨.and, rfl⟩
    · exact ⟨.or, rfl⟩
    · exact ⟨.nor, rfl⟩
  · rintro ⟨combinator, rfl⟩
    cases combinator <;> decide

theorem notMem_selectorKeys {key : String} :
    key ∉ ["$and", "$or", "$nor", "$not"] ↔ Combinator.ofKey? key = none ∧ key ≠ "$not" := by
  have split : key ∈ ["$and", "$or", "$nor", "$not"] ↔
      (∃ combinator, Combinator.ofKey? key = some combinator) ∨ key = "$not" := by
    simp only [Combinator.ofKey?_eq_some_iff, ← mem_combinators]
    simp [or_assoc]
  rw [split, not_or, Option.eq_none_iff_forall_ne_some, not_exists]

/-! ## The rules -/

/-- Where a value stands in a selector. -/
inductive Place where
  | clause (scope : Scope) (key : String)
  | item (scope : Scope)
  | field (path : FieldPath)
  | operator (path : FieldPath) (key : String)

/-- Conditions that do not contain a selector. -/
inductive ReadsCondition : Operator → Json → Condition → Prop where
  | eq (operand : Json) : ReadsCondition .eq operand (.eq operand)
  | ne (operand : Json) : ReadsCondition .ne operand (.ne operand)
  | compare {comparison : Comparison} {operand : Json} {bound : Double}
      (bounded : bound? operand = some bound) :
      ReadsCondition (.compare comparison) operand (.compare comparison (.finite bound))
  | oneOf (items : List Json) : ReadsCondition .oneOf (.array items) (.oneOf items)
  | noneOf (items : List Json) : ReadsCondition .noneOf (.array items) (.noneOf items)
  | present (expected : Bool) : ReadsCondition .present (.bool expected) (.present expected)
  | kind (expected : Json.Kind) : ReadsCondition .kind (.string expected.name) (.kind expected)
  | all (items : List Json) : ReadsCondition .all (.array items) (.all items)

mutual

inductive Reads : Place → Json → Selector → Prop where
  | combinator {scope : Scope} (combinator : Combinator) {items : List Json}
      {clauses : List Selector} (read : ReadsItems scope items clauses) :
      Reads (.clause scope combinator.key) (.array items) (combinator.apply clauses)
  | negation {scope : Scope} {entries : List (String × Json)} {clause : Selector}
      (read : Reads (.item scope) (.object entries) clause) :
      Reads (.clause scope "$not") (.object entries) (.not clause)
  | bareOperator {key : String} {operand : Json} {clause : Selector}
      (isOperator : isOperatorKey key = true) (noCombinator : Combinator.ofKey? key = none)
      (noNegation : key ≠ "$not") (read : Reads (.operator .root key) operand clause) :
      Reads (.clause .element key) operand clause
  | named {scope : Scope} {key : String} {path : FieldPath} {operand : Json} {clause : Selector}
      (noOperator : isOperatorKey key = false) (isPath : FieldPath.ofString key = .ok path)
      (read : Reads (.field path) operand clause) : Reads (.clause scope key) operand clause
  | object {scope : Scope} {entries : List (String × Json)} {clauses : List Selector}
      (read : ReadsEntries (.clause scope) entries clauses) :
      Reads (.item scope) (.object entries) (conjunction clauses)
  | literal {path : FieldPath} {operand : Json} (noObject : operand.entries? = none) :
      Reads (.field path) operand (.field path (.eq operand))
  | literalObject {path : FieldPath} {entries : List (String × Json)}
      (noOperator : ∀ entry ∈ entries, isOperatorKey entry.1 = false) :
      Reads (.field path) (.object entries) (.field path (.eq (.object entries)))
  | operators {path : FieldPath} {entries : List (String × Json)} {clauses : List Selector}
      (nonempty : entries ≠ []) (areOperators : ∀ entry ∈ entries, isOperatorKey entry.1 = true)
      (read : ReadsEntries (.operator path) entries clauses) :
      Reads (.field path) (.object entries) (conjunction clauses)
  | condition {path : FieldPath} {operator : Operator} {operand : Json} {condition : Condition}
      (read : ReadsCondition operator operand condition) :
      Reads (.operator path operator.key) operand (.field path condition)
  | elemMatch {path : FieldPath} {entries : List (String × Json)} {clause : Selector}
      (read : Reads (.item .element) (.object entries) clause) :
      Reads (.operator path "$elemMatch") (.object entries) (.elemMatch path clause)
  | negatedField {path : FieldPath} {entries : List (String × Json)} {clause : Selector}
      (read : Reads (.field path) (.object entries) clause) :
      Reads (.operator path "$not") (.object entries) (.not clause)

inductive ReadsItems : Scope → List Json → List Selector → Prop where
  | nil {scope : Scope} : ReadsItems scope [] []
  | cons {scope : Scope} {item : Json} {rest : List Json} {clause : Selector}
      {clauses : List Selector} (first : Reads (.item scope) item clause)
      (others : ReadsItems scope rest clauses) : ReadsItems scope (item :: rest) (clause :: clauses)

inductive ReadsEntries : (String → Place) → List (String × Json) → List Selector → Prop where
  | nil {place : String → Place} : ReadsEntries place [] []
  | cons {place : String → Place} {key : String} {operand : Json} {rest : List (String × Json)}
      {clause : Selector} {clauses : List Selector} (first : Reads (place key) operand clause)
      (others : ReadsEntries place rest clauses) :
      ReadsEntries place ((key, operand) :: rest) (clause :: clauses)

end

theorem Reads.induction {motive : Place → Json → Selector → Prop}
    (combinator : ∀ scope (combinator : Combinator) items clauses,
      List.Forall₂ (motive (.item scope)) items clauses →
      motive (.clause scope combinator.key) (.array items) (combinator.apply clauses))
    (negation : ∀ scope entries clause, motive (.item scope) (.object entries) clause →
      motive (.clause scope "$not") (.object entries) (.not clause))
    (bareOperator : ∀ key operand clause, isOperatorKey key = true →
      Combinator.ofKey? key = none → key ≠ "$not" → motive (.operator .root key) operand clause →
      motive (.clause .element key) operand clause)
    (named : ∀ scope key path operand clause, isOperatorKey key = false →
      FieldPath.ofString key = .ok path → motive (.field path) operand clause →
      motive (.clause scope key) operand clause)
    (object : ∀ scope entries clauses,
      List.Forall₂ (fun entry clause => motive (.clause scope entry.1) entry.2 clause)
        entries clauses →
      motive (.item scope) (.object entries) (conjunction clauses))
    (literal : ∀ path operand, operand.entries? = none →
      motive (.field path) operand (.field path (.eq operand)))
    (literalObject : ∀ path entries, (∀ entry ∈ entries, isOperatorKey entry.1 = false) →
      motive (.field path) (.object entries) (.field path (.eq (.object entries))))
    (operators : ∀ path entries clauses, entries ≠ [] →
      (∀ entry ∈ entries, isOperatorKey entry.1 = true) →
      List.Forall₂ (fun entry clause => motive (.operator path entry.1) entry.2 clause)
        entries clauses →
      motive (.field path) (.object entries) (conjunction clauses))
    (condition : ∀ path operator operand condition, ReadsCondition operator operand condition →
      motive (.operator path operator.key) operand (.field path condition))
    (elemMatch : ∀ path entries clause, motive (.item .element) (.object entries) clause →
      motive (.operator path "$elemMatch") (.object entries) (.elemMatch path clause))
    (negatedField : ∀ path entries clause, motive (.field path) (.object entries) clause →
      motive (.operator path "$not") (.object entries) (.not clause))
    {place : Place} {json : Json} {selector : Selector} (reads : Reads place json selector) :
    motive place json selector :=
  @Reads.rec (fun place json selector _ => motive place json selector)
    (fun scope items clauses _ => List.Forall₂ (motive (.item scope)) items clauses)
    (fun place entries clauses _ =>
      List.Forall₂ (fun entry clause => motive (place entry.1) entry.2 clause) entries clauses)
    (fun {_} kind {_ _} _ items => combinator _ kind _ _ items) (fun _ read => negation _ _ _ read)
    (fun isOperator noCombinator noNegation _ read =>
      bareOperator _ _ _ isOperator noCombinator noNegation read)
    (fun noOperator isPath _ read => named _ _ _ _ _ noOperator isPath read)
    (fun _ entries => object _ _ _ entries) (fun noObject => literal _ _ noObject)
    (fun noOperator => literalObject _ _ noOperator)
    (fun nonempty areOperators _ entries => operators _ _ _ nonempty areOperators entries)
    (fun read => condition _ _ _ _ read) (fun _ read => elemMatch _ _ _ read)
    (fun _ read => negatedField _ _ _ read) .nil (fun _ _ first others => .cons first others)
    .nil (fun _ _ first others => by exact .cons first others) place json selector reads

theorem readsItems_iff {scope : Scope} {items : List Json} {clauses : List Selector} :
    ReadsItems scope items clauses ↔ List.Forall₂ (Reads (.item scope)) items clauses := by
  constructor
  · intro read
    induction items generalizing clauses with
    | nil =>
        cases read
        exact .nil
    | cons item rest ih =>
        obtain ⟨⟩ | ⟨first, others⟩ := read
        exact .cons first (ih others)
  · intro each
    induction each with
    | nil => exact .nil
    | cons first others ih => exact .cons first ih

theorem readsEntries_iff {place : String → Place} {entries : List (String × Json)}
    {clauses : List Selector} : ReadsEntries place entries clauses ↔
      List.Forall₂ (fun entry clause => Reads (place entry.1) entry.2 clause) entries clauses := by
  constructor
  · intro read
    induction entries generalizing clauses with
    | nil =>
        cases read
        exact .nil
    | cons entry rest ih =>
        obtain ⟨⟩ | ⟨first, others⟩ := read
        exact .cons first (ih others)
  · intro each
    induction each with
    | nil => exact .nil
    | cons first others ih => exact .cons first ih

/-! ## The reader follows the rules -/

/-- The clause under a key of a selector object. -/
def readClause (scope : Scope) (key : String) (operand : Json) : Except Error Selector :=
  match Combinator.ofKey? key with
  | some combinator =>
      match operand with
      | .array items => (readSelectors scope key items).map combinator.apply
      | _ => .error (.invalidOperand key rootName .selectors)
  | none =>
      if key = "$not" then
        match operand with
        | .object entries =>
            (readClauses scope entries).map fun clauses => .not (conjunction clauses)
        | _ => .error (.invalidOperand key rootName .selector)
      else if isOperatorKey key then
        match scope with
        | .element => readOperator FieldPath.root key operand
        | .document => .error (bareOperatorFault key)
      else
        match FieldPath.ofString key with
        | .ok path => readField path operand
        | .error fault => .error fault

/-- An item of a combinator's list. -/
def readItem (scope : Scope) (key : String) : Json → Except Error Selector
  | .object entries => (readClauses scope entries).map conjunction
  | other => .error (.invalidOperand key rootName (.selectorItem other.kind))

theorem readClauses_cons (scope : Scope) (key : String) (operand : Json)
    (rest : List (String × Json)) :
    readClauses scope ((key, operand) :: rest) = (do
      let clause ← readClause scope key operand
      let clauses ← readClauses scope rest
      return clause :: clauses) := by
  rw [readClauses.eq_def, readClause.eq_def]
  dsimp only
  cases Combinator.ofKey? key with
  | some combinator => cases operand <;> rfl
  | none =>
      by_cases negation : key = "$not"
      · simp only [if_pos negation]
        cases operand <;> rfl
      · simp only [if_neg negation]
        by_cases isOperator : isOperatorKey key = true
        · simp only [if_pos isOperator]
          cases scope <;> rfl
        · simp only [if_neg isOperator]
          cases FieldPath.ofString key <;> rfl

theorem readSelectors_cons (scope : Scope) (key : String) (item : Json) (rest : List Json) :
    readSelectors scope key (item :: rest) = (do
      let clause ← readItem scope key item
      let clauses ← readSelectors scope key rest
      return clause :: clauses) := by
  cases item <;> rfl

theorem readOperators_cons (path : FieldPath) (key : String) (operand : Json)
    (rest : List (String × Json)) :
    readOperators path ((key, operand) :: rest) = (do
      let clause ← readOperator path key operand
      let clauses ← readOperators path rest
      return clause :: clauses) := rfl

theorem readClauses_eq_mapM (scope : Scope) (entries : List (String × Json)) :
    readClauses scope entries = entries.mapM fun entry => readClause scope entry.1 entry.2 := by
  induction entries with
  | nil => rfl
  | cons entry rest ih => rw [readClauses_cons, ih, List.mapM_cons]

theorem readSelectors_eq_mapM (scope : Scope) (key : String) (items : List Json) :
    readSelectors scope key items = items.mapM (readItem scope key) := by
  induction items with
  | nil => rfl
  | cons item rest ih => rw [readSelectors_cons, ih, List.mapM_cons]

theorem readOperators_eq_mapM (path : FieldPath) (entries : List (String × Json)) :
    readOperators path entries = entries.mapM fun entry => readOperator path entry.1 entry.2 := by
  induction entries with
  | nil => rfl
  | cons entry rest ih => rw [readOperators_cons, ih, List.mapM_cons]

theorem map_eq_ok {α β : Type} {f : α → β} {result : Except Error α} {value : β} :
    result.map f = .ok value ↔ ∃ found, result = .ok found ∧ f found = value := by
  cases result <;> simp [Except.map]

theorem require_eq_ok {α : Type} {value : Option α} {fault : Error} {found : α} :
    require value fault = .ok found ↔ value = some found := by
  cases value <;> simp [require]

theorem readCondition_eq_ok_iff {path : FieldPath} {key : String} {operator : Operator}
    {operand : Json} {condition : Condition} :
    readCondition path key operator operand = .ok condition ↔
      ReadsCondition operator operand condition := by
  constructor
  · intro read
    cases operator with
    | eq =>
        cases read
        exact .eq operand
    | ne =>
        cases read
        exact .ne operand
    | compare comparison =>
        obtain ⟨bound, bounded, rfl⟩ := map_eq_ok.mp read
        exact .compare (require_eq_ok.mp bounded)
    | oneOf =>
        obtain ⟨items, found, rfl⟩ := map_eq_ok.mp read
        cases operand <;> cases require_eq_ok.mp found
        exact .oneOf items
    | noneOf =>
        obtain ⟨items, found, rfl⟩ := map_eq_ok.mp read
        cases operand <;> cases require_eq_ok.mp found
        exact .noneOf items
    | present =>
        obtain ⟨expected, found, rfl⟩ := map_eq_ok.mp read
        cases operand <;> cases require_eq_ok.mp found
        exact .present expected
    | kind =>
        obtain ⟨kind, found, rfl⟩ := map_eq_ok.mp read
        obtain ⟨name, isString, named⟩ := Option.bind_eq_some_iff.mp (require_eq_ok.mp found)
        cases operand <;> cases isString
        cases Json.Kind.ofName?_eq_some_iff.mp named
        exact .kind kind
    | all =>
        obtain ⟨items, found, rfl⟩ := map_eq_ok.mp read
        cases operand <;> cases require_eq_ok.mp found
        exact .all items
    | elemMatch => cases read
    | not => cases read
  · intro reads
    cases reads with
    | compare bounded => exact map_eq_ok.mpr ⟨_, require_eq_ok.mpr bounded, rfl⟩
    | kind expected =>
        have named : Json.Kind.ofName? expected.name = some expected :=
          Json.Kind.ofName?_eq_some_iff.mpr rfl
        exact map_eq_ok.mpr ⟨_, require_eq_ok.mpr named, rfl⟩
    | _ => rfl

/-- Reading a value in one of the places succeeds as the rules say. -/
structure FollowsRules (json : Json) : Prop where
  clause : ∀ scope key selector,
    readClause scope key json = .ok selector ↔ Reads (.clause scope key) json selector
  item : ∀ scope key selector,
    readItem scope key json = .ok selector ↔ Reads (.item scope) json selector
  field : ∀ path selector,
    readField path json = .ok selector ↔ Reads (.field path) json selector
  operator : ∀ path key selector,
    readOperator path key json = .ok selector ↔ Reads (.operator path key) json selector

theorem readSelectors_eq_ok_iff {items : List Json} (each : ∀ item ∈ items, FollowsRules item)
    {scope : Scope} (key : String) {clauses : List Selector} :
    readSelectors scope key items = .ok clauses ↔ ReadsItems scope items clauses := by
  rw [readSelectors_eq_mapM, mapM_eq_ok_iff, readsItems_iff]
  exact forall₂_congr_of_mem fun item member => (each item member).item scope key

theorem readClauses_eq_ok_iff {entries : List (String × Json)}
    (each : ∀ entry ∈ entries, FollowsRules entry.2) {scope : Scope} {clauses : List Selector} :
    readClauses scope entries = .ok clauses ↔ ReadsEntries (.clause scope) entries clauses := by
  rw [readClauses_eq_mapM, mapM_eq_ok_iff, readsEntries_iff]
  exact forall₂_congr_of_mem fun entry member => (each entry member).clause scope entry.1

theorem readOperators_eq_ok_iff {entries : List (String × Json)}
    (each : ∀ entry ∈ entries, FollowsRules entry.2) {path : FieldPath} {clauses : List Selector} :
    readOperators path entries = .ok clauses ↔ ReadsEntries (.operator path) entries clauses := by
  rw [readOperators_eq_mapM, mapM_eq_ok_iff, readsEntries_iff]
  exact forall₂_congr_of_mem fun entry member => (each entry member).operator path entry.1

theorem isOperatorKey_key (combinator : Combinator) : isOperatorKey combinator.key = true := by
  cases combinator <;> rfl

/-- A key without a dollar sign in front names no combinator. -/
theorem ofKey?_eq_none {key : String} (plain : isOperatorKey key = false) :
    Combinator.ofKey? key = none := by
  refine Option.eq_none_iff_forall_ne_some.mpr fun combinator named => ?_
  rw [Combinator.ofKey?_eq_some_iff.mp named, isOperatorKey_key] at plain
  cases plain

theorem ne_not_of_plain {key : String} (plain : isOperatorKey key = false) : key ≠ "$not" := by
  rintro rfl
  cases plain

/-- What a value holds is read as the rules say. -/
structure Below (json : Json) : Prop where
  items : ∀ items, json = .array items → ∀ item ∈ items, FollowsRules item
  entries : ∀ entries, json = .object entries → ∀ entry ∈ entries, FollowsRules entry.2

theorem reads_object_iff {scope : Scope} {entries : List (String × Json)} {selector : Selector} :
    Reads (.item scope) (.object entries) selector ↔
      ∃ clauses, ReadsEntries (.clause scope) entries clauses ∧ conjunction clauses = selector := by
  constructor
  · rintro ⟨⟩
    exact ⟨_, ‹_›, rfl⟩
  · rintro ⟨clauses, read, rfl⟩
    exact .object read

namespace Below

variable {json : Json}

theorem readItem_iff (below : Below json) (scope : Scope) (key : String) (selector : Selector) :
    readItem scope key json = .ok selector ↔ Reads (.item scope) json selector := by
  cases json with
  | object entries =>
      rw [readItem, map_eq_ok, reads_object_iff]
      simp only [readClauses_eq_ok_iff (below.entries entries rfl)]
  | _ => exact ⟨nofun, nofun⟩

/-- A mix of operators and other keys is neither an object of operators nor a literal. -/
theorem fieldClause_iff {entries : List (String × Json)} (below : Below (.object entries))
    (path : FieldPath) (selector : Selector) :
    fieldClause path entries (readOperators path entries) = .ok selector ↔
      Reads (.field path) (.object entries) selector := by
  constructor
  · intro read
    rw [fieldClause] at read
    split at read
    · next empty =>
        cases List.isEmpty_iff.mp empty
        cases read
        exact .literalObject nofun
    · next nonempty =>
        split at read
        · next areOperators =>
            obtain ⟨clauses, operators, rfl⟩ := map_eq_ok.mp read
            exact .operators (mt List.isEmpty_iff.mpr nonempty) (List.all_eq_true.mp areOperators)
              ((readOperators_eq_ok_iff (below.entries entries rfl)).mp operators)
        · split at read
          · cases read
          · next noOperator =>
              cases read
              refine .literalObject fun entry member => ?_
              exact Bool.eq_false_iff.mpr fun isOperator =>
                noOperator (List.any_eq_true.mpr ⟨entry, member, isOperator⟩)
  · intro reads
    rw [fieldClause]
    cases reads with
    | literal noObject => cases noObject
    | literalObject noOperator =>
        cases entries with
        | nil => rfl
        | cons entry rest =>
            have noneIs : ¬ (entry :: rest).any (fun entry => isOperatorKey entry.1) = true := by
              simpa using noOperator
            have notAll : ¬ (entry :: rest).all (fun entry => isOperatorKey entry.1) = true := by
              simp [noOperator entry (.head rest)]
            rw [if_neg notAll, if_neg noneIs]
            rfl
    | operators nonempty areOperators operators =>
        rw [if_neg (mt List.isEmpty_iff.mp nonempty), if_pos (List.all_eq_true.mpr areOperators)]
        have read := (readOperators_eq_ok_iff (below.entries entries rfl)).mpr operators
        exact map_eq_ok.mpr ⟨_, read, rfl⟩

theorem readField_iff (below : Below json) (path : FieldPath) (selector : Selector) :
    readField path json = .ok selector ↔ Reads (.field path) json selector := by
  cases json with
  | object entries =>
      rw [readField]
      exact below.fieldClause_iff path selector
  | _ =>
      constructor
      · intro read
        cases read
        exact .literal rfl
      · intro reads
        cases reads
        rfl

theorem readOperator_iff (below : Below json) (path : FieldPath) (key : String)
    (selector : Selector) :
    readOperator path key json = .ok selector ↔ Reads (.operator path key) json selector := by
  constructor
  · intro read
    unfold readOperator at read
    split at read
    · next entries =>
        split at read
        · cases read
        · next named =>
            cases Operator.ofKey?_eq_some_iff.mp named
            obtain ⟨clauses, inner, rfl⟩ := map_eq_ok.mp read
            have followed := (readClauses_eq_ok_iff (below.entries entries rfl)).mp inner
            exact .elemMatch (.object followed)
        · next named =>
            cases Operator.ofKey?_eq_some_iff.mp named
            obtain ⟨clause, inner, rfl⟩ := map_eq_ok.mp read
            exact .negatedField ((below.fieldClause_iff path clause).mp inner)
        · next operator _ _ named =>
            cases Operator.ofKey?_eq_some_iff.mp named
            obtain ⟨condition, inner, rfl⟩ := map_eq_ok.mp read
            exact .condition (readCondition_eq_ok_iff.mp inner)
    · split at read
      · cases read
      · next operator named =>
          cases Operator.ofKey?_eq_some_iff.mp named
          obtain ⟨condition, inner, rfl⟩ := map_eq_ok.mp read
          exact .condition (readCondition_eq_ok_iff.mp inner)
  · intro reads
    cases reads with
    | @condition _ operator _ condition reads =>
        have named : Operator.ofKey? operator.key = some operator :=
          Operator.ofKey?_eq_some_iff.mpr rfl
        have read : (readCondition path operator.key operator json).map (Selector.field path) =
            .ok (Selector.field path condition) :=
          map_eq_ok.mpr ⟨_, readCondition_eq_ok_iff.mpr reads, rfl⟩
        unfold readOperator
        rw [named]
        cases json with
        | object entries => cases reads <;> exact read
        | _ => exact read
    | elemMatch reads =>
        obtain ⟨clauses, inner, rfl⟩ := reads_object_iff.mp reads
        have read := (readClauses_eq_ok_iff (below.entries _ rfl)).mpr inner
        exact map_eq_ok.mpr ⟨_, read, rfl⟩
    | negatedField reads =>
        exact map_eq_ok.mpr ⟨_, (below.fieldClause_iff path _).mpr reads, rfl⟩

theorem readClause_iff (below : Below json) (scope : Scope) (key : String) (selector : Selector) :
    readClause scope key json = .ok selector ↔ Reads (.clause scope key) json selector := by
  constructor
  · intro read
    unfold readClause at read
    split at read
    · next combinator named =>
        cases Combinator.ofKey?_eq_some_iff.mp named
        split at read
        · next items =>
            obtain ⟨clauses, inner, rfl⟩ := map_eq_ok.mp read
            have each := below.items items rfl
            exact .combinator combinator ((readSelectors_eq_ok_iff each combinator.key).mp inner)
        · cases read
    · next noCombinator =>
        split at read
        · next negation =>
            cases negation
            split at read
            · next entries =>
                obtain ⟨clauses, inner, rfl⟩ := map_eq_ok.mp read
                have followed := (readClauses_eq_ok_iff (below.entries entries rfl)).mp inner
                exact .negation (.object followed)
            · cases read
        · next noNegation =>
            split at read
            · next isOperator =>
                cases scope with
                | element =>
                    have followed := (below.readOperator_iff .root key selector).mp read
                    exact .bareOperator isOperator noCombinator noNegation followed
                | document => cases read
            · next noOperator =>
                split at read
                · next path isPath =>
                    have followed := (below.readField_iff path selector).mp read
                    exact .named (Bool.eq_false_iff.mpr noOperator) isPath followed
                · cases read
  · intro reads
    unfold readClause
    cases reads with
    | combinator combinator reads =>
        rw [Combinator.ofKey?_eq_some_iff.mpr rfl]
        have read := (readSelectors_eq_ok_iff (below.items _ rfl) combinator.key).mpr reads
        exact map_eq_ok.mpr ⟨_, read, rfl⟩
    | negation reads =>
        obtain ⟨clauses, inner, rfl⟩ := reads_object_iff.mp reads
        have read := (readClauses_eq_ok_iff (below.entries _ rfl)).mpr inner
        exact map_eq_ok.mpr ⟨_, read, rfl⟩
    | bareOperator isOperator noCombinator noNegation reads =>
        rw [noCombinator]
        simp only [if_neg noNegation, if_pos isOperator]
        exact (below.readOperator_iff .root key selector).mpr reads
    | named noOperator isPath reads =>
        rw [ofKey?_eq_none noOperator]
        simp only [if_neg (ne_not_of_plain noOperator), noOperator, isPath]
        exact (below.readField_iff _ selector).mpr reads

end Below

theorem followsRules (json : Json) : FollowsRules json := by
  have of_below {json : Json} (below : Below json) : FollowsRules json :=
    ⟨below.readClause_iff, below.readItem_iff, below.readField_iff, below.readOperator_iff⟩
  induction json with
  | array items ih => exact of_below ⟨by rintro _ ⟨⟩; exact ih, nofun⟩
  | object entries ih => exact of_below ⟨nofun, by rintro _ ⟨⟩; exact ih⟩
  | _ => exact of_below ⟨nofun, nofun⟩

/-- The reader succeeds exactly where the rules do, and with the same selector. -/
theorem read_eq_ok_iff {json : Json} {selector : Selector} : read json = .ok selector ↔
    (json = .null ∧ selector = everything) ∨ Reads (.item .document) json selector := by
  cases json with
  | null =>
      constructor
      · intro read
        cases read
        exact .inl ⟨rfl, rfl⟩
      · rintro (⟨_, rfl⟩ | ⟨⟨⟩⟩)
        rfl
  | object entries =>
      have asItem : read (.object entries) = readItem .document "" (.object entries) := rfl
      rw [asItem, (followsRules _).item]
      simp
  | _ => exact ⟨nofun, by rintro (⟨⟨⟩, _⟩ | ⟨⟨⟩⟩)⟩

end Selector

end DocStore
