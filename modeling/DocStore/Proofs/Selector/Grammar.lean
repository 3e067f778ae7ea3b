import DocStore.Proofs.FieldPath
import DocStore.Proofs.Selector.Reading
import DocStore.Proofs.Text.Numeral

/-!
# The grammar of selectors

Which values are selectors, said without reading one. What stands under a key depends on the key
alone, and on whether the object is a selector of documents or of elements: combinators and `$not`
take selectors again, other keys with a dollar sign are operators and stand for elements only, and
plain keys are paths with an operand. The reader accepts the values of this grammar and no others.
-/

namespace DocStore.Selector

/-! ## The grammar -/

/-- What a value inside a selector has to be. -/
inductive Role where
  | selector (scope : Scope)
  | member (scope : Scope) (key : String)
  | operand
  | argument (operator : String)

/-- A number, or a string with a numeral for a finite number between blanks. -/
inductive Numeric : Json → Prop where
  | number (value : Number) : Numeric (.number value)
  | string {text : String} {left core right : List Char}
      (split : text.toList = left ++ (core ++ right)) (isLeft : Numeral.Blank left)
      (isRight : Numeral.Blank right) (isFinite : Numeral.IsFinite core) : Numeric (.string text)

inductive WellFormed : Role → Json → Prop where
  | selector {scope : Scope} {entries : List (String × Json)}
      (each : ∀ entry ∈ entries, WellFormed (.member scope entry.1) entry.2) :
      WellFormed (.selector scope) (.object entries)
  | combinator {scope : Scope} {key : String} {items : List Json}
      (named : key ∈ ["$and", "$or", "$nor"])
      (each : ∀ item ∈ items, WellFormed (.selector scope) item) :
      WellFormed (.member scope key) (.array items)
  | negation {scope : Scope} {json : Json} (clause : WellFormed (.selector scope) json) :
      WellFormed (.member scope "$not") json
  | bareOperator {key : String} {json : Json} (dollar : isOperatorKey key = true)
      (other : key ∉ ["$and", "$or", "$nor", "$not"]) (argument : WellFormed (.argument key) json) :
      WellFormed (.member .element key) json
  | field {scope : Scope} {key : String} {segments : List String} {json : Json}
      (plain : isOperatorKey key = false) (path : FieldPath.Dotted key segments)
      (operand : WellFormed .operand json) : WellFormed (.member scope key) json
  | literal {json : Json} (noObject : json.kind ≠ .object) : WellFormed .operand json
  | literalObject {entries : List (String × Json)}
      (plain : ∀ entry ∈ entries, isOperatorKey entry.1 = false) :
      WellFormed .operand (.object entries)
  | operators {entries : List (String × Json)} (nonempty : entries ≠ [])
      (dollar : ∀ entry ∈ entries, isOperatorKey entry.1 = true)
      (each : ∀ entry ∈ entries, WellFormed (.argument entry.1) entry.2) :
      WellFormed .operand (.object entries)
  | equality {key : String} (named : key ∈ ["$eq", "$ne"]) (json : Json) :
      WellFormed (.argument key) json
  | comparison {key : String} {json : Json} (named : key ∈ ["$gt", "$gte", "$lt", "$lte"])
      (numeric : Numeric json) : WellFormed (.argument key) json
  | list {key : String} (named : key ∈ ["$in", "$nin", "$all"]) (items : List Json) :
      WellFormed (.argument key) (.array items)
  | present (expected : Bool) : WellFormed (.argument "$exists") (.bool expected)
  | kind {name : String}
      (named : name ∈ ["null", "boolean", "number", "string", "array", "object"]) :
      WellFormed (.argument "$type") (.string name)
  | elemMatch {json : Json} (clause : WellFormed (.selector .element) json) :
      WellFormed (.argument "$elemMatch") json
  | negatedOperand {entries : List (String × Json)}
      (operand : WellFormed .operand (.object entries)) :
      WellFormed (.argument "$not") (.object entries)

/-! ## What is read keeps to the grammar -/

theorem numeric_iff {json : Json} : Numeric json ↔ ∃ bound, bound? json = some bound := by
  cases json with
  | number value => exact ⟨fun _ => ⟨_, rfl⟩, fun _ => .number value⟩
  | string text =>
      have finite := Numeral.double?_trimBlank_isSome_iff text.toList
      rw [Option.isSome_iff_exists] at finite
      constructor
      · rintro (_ | ⟨split, isLeft, isRight, isFinite⟩)
        exact finite.mpr ⟨_, _, _, split, isLeft, isRight, isFinite⟩
      · intro bounded
        obtain ⟨left, core, right, split, isLeft, isRight, isFinite⟩ := finite.mp bounded
        exact .string split isLeft isRight isFinite
  | _ => exact ⟨nofun, nofun⟩

theorem mem_comparisons {key : String} : key ∈ ["$gt", "$gte", "$lt", "$lte"] ↔
    ∃ comparison, key = (Operator.compare comparison).key := by
  constructor
  · intro named
    simp only [List.mem_cons, List.not_mem_nil, or_false] at named
    rcases named with rfl | rfl | rfl | rfl
    · exact ⟨.gt, rfl⟩
    · exact ⟨.gte, rfl⟩
    · exact ⟨.lt, rfl⟩
    · exact ⟨.lte, rfl⟩
  · rintro ⟨comparison, rfl⟩
    cases comparison <;> decide

theorem mem_kinds {name : String} :
    name ∈ ["null", "boolean", "number", "string", "array", "object"] ↔
      ∃ kind : Json.Kind, name = kind.name := by
  constructor
  · intro named
    simp only [List.mem_cons, List.not_mem_nil, or_false] at named
    rcases named with rfl | rfl | rfl | rfl | rfl | rfl
    · exact ⟨.null, rfl⟩
    · exact ⟨.boolean, rfl⟩
    · exact ⟨.number, rfl⟩
    · exact ⟨.string, rfl⟩
    · exact ⟨.array, rfl⟩
    · exact ⟨.object, rfl⟩
  · rintro ⟨kind, rfl⟩
    cases kind <;> decide

/-- What a value in a place has to be. -/
def Place.role : Place → Role
  | clause scope key => .member scope key
  | item scope => .selector scope
  | field _ => .operand
  | operator _ key => .argument key

theorem wellFormed_argument {operator : Operator} {operand : Json} {condition : Condition}
    (reads : ReadsCondition operator operand condition) :
    WellFormed (.argument operator.key) operand := by
  cases reads with
  | eq => exact .equality (by decide) operand
  | ne => exact .equality (by decide) operand
  | @compare comparison _ _ bounded =>
      exact .comparison (mem_comparisons.mpr ⟨comparison, rfl⟩) (numeric_iff.mpr ⟨_, bounded⟩)
  | oneOf items => exact .list (by decide) items
  | noneOf items => exact .list (by decide) items
  | present expected => exact .present expected
  | kind expected => exact .kind (mem_kinds.mpr ⟨expected, rfl⟩)
  | all items => exact .list (by decide) items

theorem wellFormed_of_reads {place : Place} {json : Json} {selector : Selector}
    (reads : Reads place json selector) : WellFormed place.role json := by
  refine reads.induction (motive := fun place json _ => WellFormed place.role json) ?combinator
    ?negation ?bareOperator ?named ?object ?literal ?literalObject ?operators ?condition ?elemMatch
    ?negatedField
  case combinator =>
    intro scope combinator items clauses each
    exact .combinator (mem_combinators.mpr ⟨combinator, rfl⟩) (forall_left each)
  case negation =>
    intro scope entries clause inner
    exact .negation inner
  case bareOperator =>
    intro key operand clause isOperator noCombinator noNegation inner
    exact .bareOperator isOperator (notMem_selectorKeys.mpr ⟨noCombinator, noNegation⟩) inner
  case named =>
    intro scope key path operand clause noOperator isPath inner
    exact .field noOperator ((FieldPath.ofString_eq_ok_iff key path).mp isPath) inner
  case object =>
    intro scope entries clauses each
    exact .selector (forall_left each)
  case literal =>
    intro path operand noObject
    refine .literal fun isObject => ?_
    cases operand with
    | object => cases noObject
    | _ => cases isObject
  case literalObject =>
    intro path entries noOperator
    exact .literalObject noOperator
  case operators =>
    intro path entries clauses nonempty areOperators each
    exact .operators nonempty areOperators (forall_left each)
  case condition =>
    intro path operator operand condition read
    exact wellFormed_argument read
  case elemMatch =>
    intro path entries clause inner
    exact .elemMatch inner
  case negatedField =>
    intro path entries clause inner
    exact .negatedOperand inner

/-! ## What keeps to the grammar is read -/

/-- A value is read wherever it has this role. -/
def Readable : Role → Json → Prop
  | .selector scope, json => ∃ selector, Reads (.item scope) json selector
  | .member scope key, json => ∃ selector, Reads (.clause scope key) json selector
  | .operand, json => ∀ path, ∃ selector, Reads (.field path) json selector
  | .argument operator, json => ∀ path, ∃ selector, Reads (.operator path operator) json selector

theorem exists_readsEntries {place : String → Place} {entries : List (String × Json)}
    (each : ∀ entry ∈ entries, ∃ selector, Reads (place entry.1) entry.2 selector) :
    ∃ clauses, ReadsEntries place entries clauses := by
  obtain ⟨clauses, read⟩ := exists_forall₂ each
  exact ⟨clauses, readsEntries_iff.mpr read⟩

/-- A condition is read on every path. -/
theorem readable_argument {operator : Operator} {operand : Json} {condition : Condition}
    (reads : ReadsCondition operator operand condition) :
    Readable (.argument operator.key) operand :=
  fun path => ⟨.field path condition, .condition reads⟩

theorem readable_of_wellFormed {role : Role} {json : Json} (wellFormed : WellFormed role json) :
    Readable role json := by
  induction wellFormed with
  | selector each ih =>
      obtain ⟨clauses, read⟩ := exists_readsEntries ih
      exact ⟨_, .object read⟩
  | combinator named each ih =>
      obtain ⟨combinator, rfl⟩ := mem_combinators.mp named
      obtain ⟨clauses, read⟩ := exists_forall₂ ih
      exact ⟨_, .combinator combinator (readsItems_iff.mpr read)⟩
  | negation clause ih =>
      obtain ⟨selector, reads⟩ := ih
      cases reads with
      | object entries => exact ⟨_, .negation (.object entries)⟩
  | bareOperator dollar other argument ih =>
      obtain ⟨selector, read⟩ := ih .root
      obtain ⟨noCombinator, noNegation⟩ := notMem_selectorKeys.mp other
      exact ⟨selector, .bareOperator dollar noCombinator noNegation read⟩
  | @field _ key segments _ plain path operand ih =>
      obtain ⟨selector, read⟩ := ih ⟨segments⟩
      exact ⟨selector, .named plain ((FieldPath.ofString_eq_ok_iff key ⟨segments⟩).mpr path) read⟩
  | @literal json noObject =>
      intro path
      have noEntries : json.entries? = none := by
        cases json with
        | object => exact absurd rfl noObject
        | _ => rfl
      exact ⟨_, .literal noEntries⟩
  | literalObject plain => exact fun path => ⟨_, .literalObject plain⟩
  | operators nonempty dollar each ih =>
      intro path
      obtain ⟨clauses, read⟩ := exists_readsEntries fun entry member => ih entry member path
      exact ⟨_, .operators nonempty dollar read⟩
  | equality named json =>
      simp only [List.mem_cons, List.not_mem_nil, or_false] at named
      rcases named with rfl | rfl
      · exact readable_argument (.eq json)
      · exact readable_argument (.ne json)
  | comparison named numeric =>
      obtain ⟨bound, bounded⟩ := numeric_iff.mp numeric
      obtain ⟨comparison, rfl⟩ := mem_comparisons.mp named
      exact readable_argument (.compare bounded)
  | list named items =>
      simp only [List.mem_cons, List.not_mem_nil, or_false] at named
      rcases named with rfl | rfl | rfl
      · exact readable_argument (.oneOf items)
      · exact readable_argument (.noneOf items)
      · exact readable_argument (.all items)
  | present expected => exact readable_argument (.present expected)
  | kind named =>
      obtain ⟨kind, rfl⟩ := mem_kinds.mp named
      exact readable_argument (.kind kind)
  | elemMatch clause ih =>
      obtain ⟨selector, reads⟩ := ih
      cases reads with
      | object entries => exact fun path => ⟨_, .elemMatch (.object entries)⟩
  | negatedOperand operand ih =>
      intro path
      obtain ⟨selector, read⟩ := ih path
      exact ⟨_, .negatedField read⟩

/-! ## The reader accepts the grammar -/

mutual

/-- The operands of the comparisons in a tree. -/
def bounds : Selector → List Binary64
  | .and clauses => boundsOfAll clauses
  | .or clauses => boundsOfAll clauses
  | .nor clauses => boundsOfAll clauses
  | .not clause => bounds clause
  | .field _ (.compare _ bound) => [bound]
  | .field _ _ => []
  | .elemMatch _ clause => bounds clause

def boundsOfAll : List Selector → List Binary64
  | [] => []
  | clause :: rest => bounds clause ++ boundsOfAll rest

end

theorem boundsOfAll_eq_flatMap (clauses : List Selector) :
    boundsOfAll clauses = clauses.flatMap bounds := by
  induction clauses with
  | nil => rfl
  | cons clause rest ih => rw [boundsOfAll, ih, List.flatMap_cons]

/-- Every bound is a finite number. -/
def ComparesFinite (selector : Selector) : Prop :=
  ∀ bound ∈ selector.bounds, ∃ value : Double, bound = value

theorem comparesFinite_all {clauses : List Selector}
    (each : ∀ clause ∈ clauses, clause.ComparesFinite) :
    ∀ bound ∈ boundsOfAll clauses, ∃ value : Double, bound = value := by
  rw [boundsOfAll_eq_flatMap]
  intro bound member
  obtain ⟨clause, inside, bounded⟩ := List.mem_flatMap.mp member
  exact each clause inside bound bounded

theorem comparesFinite_conjunction {clauses : List Selector}
    (each : ∀ clause ∈ clauses, clause.ComparesFinite) :
    (conjunction clauses).ComparesFinite := by
  match clauses with
  | [] => exact comparesFinite_all each
  | [clause] => exact each clause (.head _)
  | first :: second :: rest => exact comparesFinite_all each

theorem comparesFinite_of_reads {place : Place} {json : Json} {selector : Selector}
    (reads : Reads place json selector) : selector.ComparesFinite := by
  refine reads.induction (motive := fun _ _ selector => selector.ComparesFinite) ?combinator
    ?negation ?bareOperator ?named ?object ?literal ?literalObject ?operators ?condition ?elemMatch
    ?negatedField
  case combinator =>
    intro scope combinator items clauses each
    cases combinator <;> exact comparesFinite_all (forall_right each)
  case negation => exact fun _ _ _ inner => inner
  case bareOperator => exact fun _ _ _ _ _ _ inner => inner
  case named => exact fun _ _ _ _ _ _ _ inner => inner
  case object => exact fun _ _ _ each => comparesFinite_conjunction (forall_right each)
  case literal => exact fun _ _ _ _ member => nomatch member
  case literalObject => exact fun _ _ _ _ member => nomatch member
  case operators => exact fun _ _ _ _ _ each => comparesFinite_conjunction (forall_right each)
  case condition =>
    intro path operator operand condition read
    cases read with
    | @compare comparison operand bound bounded => exact List.forall_mem_singleton.mpr ⟨bound, rfl⟩
    | _ => exact fun _ member => nomatch member
  case elemMatch => exact fun _ _ _ inner => inner
  case negatedField => exact fun _ _ _ inner => inner

/-- Null and the values of the grammar are accepted, nothing else is, and what is accepted compares
with finite numbers only. -/
theorem read_accepts_grammar (json : Json) :
    ((∃ selector, read json = .ok selector) ↔
      json = .null ∨ WellFormed (.selector .document) json) ∧
    ∀ selector, read json = .ok selector →
      ∀ bound ∈ selector.bounds,
        ∃ value : Double, bound = value ∧ |value.toRat| < Double.limit := by
  refine ⟨⟨?accepted, ?inGrammar⟩, ?finite⟩
  case accepted =>
    rintro ⟨selector, read⟩
    rcases read_eq_ok_iff.mp read with ⟨isNull, _⟩ | reads
    · exact .inl isNull
    · exact .inr (wellFormed_of_reads reads)
  case inGrammar =>
    rintro (rfl | wellFormed)
    · exact ⟨everything, rfl⟩
    · obtain ⟨selector, reads⟩ := readable_of_wellFormed wellFormed
      exact ⟨selector, read_eq_ok_iff.mpr (.inr reads)⟩
  case finite =>
    intro selector read bound member
    rcases read_eq_ok_iff.mp read with ⟨_, rfl⟩ | reads
    · cases member
    · obtain ⟨value, rfl⟩ := comparesFinite_of_reads reads bound member
      exact ⟨value, rfl, value.abs_toRat_lt_limit⟩

theorem read_accepts_grammar_sample :
    let json : Json := .object [("a.0", .object [("$elemMatch", .object
      [("$gt", .string " -1.5e3 "), ("$not", .object [("b", .object [("$in", .array [])])])])])]
    WellFormed (.selector .document) json ∧ ∃ selector, read json = .ok selector ∧
      selector.bounds.length = 1 ∧
      ∀ bound ∈ selector.bounds,
        ∃ value : Double, bound = value ∧ |value.toRat| < Double.limit := by
  intro json
  obtain ⟨accepts, finite⟩ := read_accepts_grammar json
  have accepted : read json = .ok _ := rfl
  exact ⟨(accepts.mp ⟨_, accepted⟩).resolve_left nofun, _, accepted, rfl, finite _ accepted⟩

end DocStore.Selector
