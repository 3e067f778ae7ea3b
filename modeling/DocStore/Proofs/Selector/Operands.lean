import DocStore.Proofs.Induction
import DocStore.Proofs.Selector.Reading
import DocStore.Proofs.Sql.Placeholders

/-!
# The operands of a selector

A walk through a selector as it was sent, from left to right and into the depth, meets operands. The
query that the selector is compiled to binds exactly these, in the order of the walk, and has one
placeholder for each of them in its text.
-/

namespace DocStore

open Sql

namespace Selector

/-! ## The walk -/

/-- What is met in an equality with a value. -/
def equalityOperands : Json → List Param
  | .null => []
  | .string text => [.text text]
  | value => [.json value]

/-- What is met under an operator without a selector in it. -/
def conditionOperands (key : String) (operand : Json) : List Param :=
  if key ∈ ["$eq", "$ne"] then equalityOperands operand
  else if key ∈ ["$gt", "$gte", "$lt", "$lte"] then
    (bound? operand).toList.map fun bound : Double => .float bound
  else if key ∈ ["$in", "$nin"] then (operand.items?.getD []).flatMap equalityOperands
  else if key = "$type" then operand.string?.toList.map .text
  else if key = "$all" then [.json operand]
  else []

/-- The operand of a field is an object of operators, or a literal. -/
def areOperators (entries : List (String × Json)) : Bool :=
  !entries.isEmpty && entries.all fun entry => isOperatorKey entry.1

mutual

/-- What is met in the entries of a selector. -/
def memberOperands : List (String × Json) → List Param
  | [] => []
  | (key, operand) :: rest =>
      (if key ∈ ["$and", "$or", "$nor"] then
        match operand with
        | .array items => itemOperands items
        | _ => []
      else if key = "$not" then
        match operand with
        | .object entries => memberOperands entries
        | _ => []
      else if isOperatorKey key then operatorOperands key operand
      else fieldOperands operand) ++ memberOperands rest

/-- What is met in the selectors of a list. -/
def itemOperands : List Json → List Param
  | [] => []
  | item :: rest =>
      (match item with
        | .object entries => memberOperands entries
        | _ => []) ++ itemOperands rest

def fieldOperands : Json → List Param
  | .object entries =>
      if areOperators entries then entryOperands entries else [.json (.object entries)]
  | literal => equalityOperands literal

/-- What is met in the operators on a field. -/
def entryOperands : List (String × Json) → List Param
  | [] => []
  | (key, operand) :: rest => operatorOperands key operand ++ entryOperands rest

def operatorOperands (key : String) : Json → List Param
  | .object entries =>
      if key = "$elemMatch" then memberOperands entries
      else if key = "$not" then
        if areOperators entries then entryOperands entries else [.json (.object entries)]
      else conditionOperands key (.object entries)
  | operand => conditionOperands key operand

end

/-- What is met in a selector, in the order of the walk. -/
def operands : Json → List Param
  | .object entries => memberOperands entries
  | _ => []

/-! ## One step of the walk -/

/-- What is met under one key of a selector. -/
def clauseOperands (key : String) (operand : Json) : List Param :=
  if key ∈ ["$and", "$or", "$nor"] then (operand.items?.getD []).flatMap operands
  else if key = "$not" then operands operand
  else if isOperatorKey key then operatorOperands key operand
  else fieldOperands operand

theorem itemOperands_eq_flatMap (items : List Json) :
    itemOperands items = items.flatMap operands := by
  induction items with
  | nil => rfl
  | cons item rest ih =>
      rw [itemOperands.eq_def, List.flatMap_cons, ← ih]
      cases item <;> rfl

theorem memberOperands_eq_flatMap (entries : List (String × Json)) :
    memberOperands entries = entries.flatMap fun entry => clauseOperands entry.1 entry.2 := by
  induction entries with
  | nil => rfl
  | cons entry rest ih =>
      obtain ⟨key, operand⟩ := entry
      rw [memberOperands.eq_def, List.flatMap_cons, ← ih, clauseOperands]
      simp only [← itemOperands_eq_flatMap]
      cases operand <;> rfl

theorem entryOperands_eq_flatMap (entries : List (String × Json)) :
    entryOperands entries = entries.flatMap fun entry => operatorOperands entry.1 entry.2 := by
  induction entries with
  | nil => rfl
  | cons entry rest ih => rw [entryOperands, ih, List.flatMap_cons]

end Selector

/-! ## What a tree binds -/

namespace Predicate

open Selector

theorem paramsOfAll_eq_flatMap (parts : List Predicate) :
    paramsOfAll parts = parts.flatMap params := by
  induction parts with
  | nil => rfl
  | cons part rest ih => rw [paramsOfAll, ih, List.flatMap_cons]

theorem params_negate (predicate : Predicate) : predicate.negate.params = predicate.params := by
  cases predicate <;> rfl

theorem params_equality (path : FieldPath) (operand : Json) :
    (equality path operand).params = equalityOperands operand := by
  cases operand <;> rfl

theorem params_membership (path : FieldPath) (operands : List Json) :
    (membership path operands).params = operands.flatMap equalityOperands := by
  rw [membership, params, paramsOfAll_eq_flatMap, List.flatMap_map]
  simp only [params_equality]

theorem params_combinator (combinator : Combinator) (clauses : List Selector) :
    (ofSelector (combinator.apply clauses)).params =
      clauses.flatMap fun clause => (ofSelector clause).params := by
  have all : paramsOfAll (ofSelectors clauses) =
      clauses.flatMap fun clause => (ofSelector clause).params := by
    rw [paramsOfAll_eq_flatMap, ofSelectors_eq_map, List.flatMap_map]
  cases combinator with
  | and => exact all
  | or => exact all
  | nor =>
      rw [Combinator.apply, ofSelector, params_negate]
      exact all

theorem params_conjunction (clauses : List Selector) :
    (ofSelector (conjunction clauses)).params =
      clauses.flatMap fun clause => (ofSelector clause).params := by
  match clauses with
  | [] => rfl
  | [only] => exact (List.append_nil _).symm
  | first :: second :: rest => exact params_combinator .and (first :: second :: rest)

/-- A condition binds what is met under its operator. -/
theorem params_ofCondition {operator : Operator} {operand : Json} {condition : Condition}
    (reads : ReadsCondition operator operand condition) (path : FieldPath) :
    (ofCondition path condition).params = conditionOperands operator.key operand := by
  cases reads with
  | eq => exact params_equality path operand
  | ne =>
      rw [ofCondition, params_negate]
      exact params_equality path operand
  | @compare comparison _ bound bounded =>
      have met : conditionOperands (Operator.compare comparison).key operand =
          (bound? operand).toList.map fun bound : Double => .float bound := by
        cases comparison <;> rfl
      rw [met, bounded]
      rfl
  | oneOf items => exact params_membership path items
  | noneOf items =>
      rw [ofCondition, params_negate]
      exact params_membership path items
  | present expected => cases expected <;> rfl
  | kind expected => rfl
  | all items => rfl

end Predicate

namespace Selector

/-- What is met in a value that stands in a place. -/
def operandsAt : Place → Json → List Param
  | .clause _ key, json => clauseOperands key json
  | .item _, json => operands json
  | .field _, json => fieldOperands json
  | .operator _ key, json => operatorOperands key json

theorem clauseOperands_combinator (combinator : Combinator) (items : List Json) :
    clauseOperands combinator.key (.array items) = items.flatMap operands := by
  rw [clauseOperands, if_pos (mem_combinators.mpr ⟨combinator, rfl⟩)]
  rfl

theorem clauseOperands_operator {key : String} (isOperator : isOperatorKey key = true)
    (noCombinator : Combinator.ofKey? key = none) (noNegation : key ≠ "$not") (operand : Json) :
    clauseOperands key operand = operatorOperands key operand := by
  have unnamed : key ∉ ["$and", "$or", "$nor"] := by
    intro named
    obtain ⟨combinator, isKey⟩ := mem_combinators.mp named
    rw [Combinator.ofKey?_eq_some_iff.mpr isKey] at noCombinator
    cases noCombinator
  rw [clauseOperands, if_neg unnamed, if_neg noNegation, if_pos isOperator]

theorem clauseOperands_field {key : String} (plain : isOperatorKey key = false) (operand : Json) :
    clauseOperands key operand = fieldOperands operand := by
  have unnamed : key ∉ ["$and", "$or", "$nor"] := by
    intro named
    obtain ⟨combinator, rfl⟩ := mem_combinators.mp named
    rw [isOperatorKey_key] at plain
    cases plain
  rw [clauseOperands, if_neg unnamed, if_neg (ne_not_of_plain plain), if_neg (by simp [plain])]

theorem areOperators_eq_true {entries : List (String × Json)} (nonempty : entries ≠ [])
    (each : ∀ entry ∈ entries, isOperatorKey entry.1 = true) : areOperators entries = true := by
  have all := List.all_eq_true.mpr each
  rw [areOperators, all, List.isEmpty_eq_false_iff.mpr nonempty]
  rfl

theorem areOperators_eq_false {entries : List (String × Json)}
    (each : ∀ entry ∈ entries, isOperatorKey entry.1 = false) : areOperators entries = false := by
  cases entries with
  | nil => rfl
  | cons entry rest =>
      rw [areOperators, List.all_cons, each entry (.head rest)]
      rfl

theorem operatorOperands_condition {operator : Operator} {operand : Json} {condition : Condition}
    (reads : ReadsCondition operator operand condition) :
    operatorOperands operator.key operand = conditionOperands operator.key operand := by
  cases reads with
  | @compare comparison => cases comparison <;> cases operand <;> rfl
  | _ => first | rfl | cases operand <;> rfl

/-- What the tree binds that a value is read as is what is met in the value. -/
theorem params_eq_operandsAt {place : Place} {json : Json} {selector : Selector}
    (reads : Reads place json selector) :
    (Predicate.ofSelector selector).params = operandsAt place json := by
  refine reads.induction
    (motive := fun place json selector =>
      (Predicate.ofSelector selector).params = operandsAt place json)
    ?combinator ?negation ?bareOperator ?named ?object ?literal ?literalObject ?operators ?condition
    ?elemMatch ?negatedField
  case combinator =>
    intro scope combinator items clauses each
    rw [Predicate.params_combinator, operandsAt, clauseOperands_combinator]
    exact (flatMap_forall₂ (each.imp fun _ _ met => met.symm)).symm
  case negation =>
    intro scope entries clause met
    rw [Predicate.ofSelector, Predicate.params_negate, met]
    rfl
  case bareOperator =>
    intro key operand clause isOperator noCombinator noNegation met
    rw [met, operandsAt, operandsAt, clauseOperands_operator isOperator noCombinator noNegation]
  case named =>
    intro scope key path operand clause noOperator isPath met
    rw [met, operandsAt, operandsAt, clauseOperands_field noOperator]
  case object =>
    intro scope entries clauses each
    rw [Predicate.params_conjunction, operandsAt, operands, memberOperands_eq_flatMap]
    exact (flatMap_forall₂ (each.imp fun _ _ met => met.symm)).symm
  case literal =>
    intro path operand noObject
    cases operand with
    | object => cases noObject
    | _ => rfl
  case literalObject =>
    intro path entries noOperator
    rw [operandsAt, fieldOperands, areOperators_eq_false noOperator]
    rfl
  case operators =>
    intro path entries clauses nonempty isOperator each
    rw [Predicate.params_conjunction, operandsAt, fieldOperands,
      areOperators_eq_true nonempty isOperator, if_pos rfl, entryOperands_eq_flatMap]
    exact (flatMap_forall₂ (each.imp fun _ _ met => met.symm)).symm
  case condition =>
    intro path operator operand condition read
    exact (Predicate.params_ofCondition read path).trans (operatorOperands_condition read).symm
  case elemMatch =>
    intro path entries clause met
    exact met
  case negatedField =>
    intro path entries clause met
    rw [Predicate.ofSelector, Predicate.params_negate, met]
    rfl

theorem params_of_read {json : Json} {selector : Selector} (accepted : read json = .ok selector) :
    (Predicate.ofSelector selector).params = operands json := by
  rcases read_eq_ok_iff.mp accepted with ⟨rfl, rfl⟩ | reads
  · rfl
  · exact params_eq_operandsAt reads

end Selector

namespace CompiledQuery

/-- A query binds the operands of its selector in the order of the walk, and the placeholders of its
filter and of its statements number them, each one once and in this order. -/
theorem binds_operands_in_order {json : Json} {spec : QuerySpec}
    (accepted : Selector.read json = .ok spec.selector) :
    let query := spec.compile
    let numbers := List.range' 1 (Selector.operands json).length
    query.params = Selector.operands json ∧
    placeholders? query.predicate.filter.text = some numbers ∧
    ∀ table, placeholders? (query.selectStatement table).text = some numbers ∧
      placeholders? (query.countStatement table).text = some numbers := by
  intro query numbers
  have bound : query.params = Selector.operands json := Selector.params_of_read accepted
  have count : numbers = List.range' 1 query.params.length := by rw [bound]
  rw [count]
  exact ⟨bound, query.placeholders?_filter, fun table =>
    ⟨query.placeholders?_select table, query.placeholders?_count table⟩⟩

theorem binds_operands_in_order_sample :
    let json : Json := .object [("a", .object [("$elemMatch", .object
      [("$gt", .ofNat 7), ("b", .object [("$nin", .array [.string "$9", .null, .bool true])])])]),
      ("$nor", .array [.object [("c", .object [("$not", .object [("$all", .array [])])])]]),
      ("d", .object [("$type", .string "null"), ("$exists", .bool false)]), ("e", .null)]
    ∃ selector, Selector.read json = .ok selector ∧
      (QuerySpec.ofSelector selector).compile.params = [.float (.ofInt 7), .text "$9",
        .json (.bool true), .json (.array []), .text "null"] ∧
      placeholders? ((QuerySpec.ofSelector selector).compile.selectStatement "$1").text =
        some [1, 2, 3, 4, 5] := by
  intro json
  obtain ⟨selector, accepted⟩ : ∃ selector, Selector.read json = .ok selector := ⟨_, rfl⟩
  have spec : Selector.read json = .ok (QuerySpec.ofSelector selector).selector := accepted
  obtain ⟨params, _, statements⟩ := binds_operands_in_order spec
  exact ⟨selector, accepted, params, (statements "$1").1⟩

end CompiledQuery

end DocStore
