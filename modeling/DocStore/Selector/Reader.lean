import DocStore.Selector
import DocStore.Text.CharClass

/-!
# Reading selectors

A selector object holds combinators and fields. A field's operand is a literal, or an object of
operators only. Inside an element match a bare operator applies to the element itself, elsewhere it
is refused. The first fault in key order is reported.
-/

namespace DocStore

inductive Combinator where
  | and
  | or
  | nor
  deriving DecidableEq

namespace Combinator

def ofKey? : String → Option Combinator
  | "$and" => some and
  | "$or" => some or
  | "$nor" => some nor
  | _ => none

def apply : Combinator → List Selector → Selector
  | and => Selector.and
  | or => Selector.or
  | nor => Selector.nor

end Combinator

inductive Operator where
  | eq
  | ne
  | compare (comparison : Comparison)
  | oneOf
  | noneOf
  | present
  | kind
  | all
  | elemMatch
  | not
  deriving DecidableEq

namespace Operator

def ofKey? : String → Option Operator
  | "$eq" => some eq
  | "$ne" => some ne
  | "$gt" => some (compare .gt)
  | "$gte" => some (compare .gte)
  | "$lt" => some (compare .lt)
  | "$lte" => some (compare .lte)
  | "$in" => some oneOf
  | "$nin" => some noneOf
  | "$exists" => some present
  | "$type" => some kind
  | "$all" => some all
  | "$elemMatch" => some elemMatch
  | "$not" => some not
  | _ => none

end Operator

namespace Selector

/-- Where a selector object stands: at a document, or at an element of an array. -/
inductive Scope where
  | document
  | element
  deriving DecidableEq

def isOperatorKey (key : String) : Bool := key.toList.head? == some '$'

/-- The name that errors give to the place of a combinator. -/
def rootName : String := "<root>"

/-- A number, or a string whose trimmed text is a numeral. -/
def bound? : Json → Option Double
  | .number value => some value.toDouble
  | .string text => Numeral.double? (Text.trimBlank text.toList)
  | _ => none

def require {α : Type} (value : Option α) (fault : Error) : Except Error α :=
  match value with
  | some value => .ok value
  | none => .error fault

/-- The conditions that do not contain a selector. -/
def readCondition (path : FieldPath) (key : String) (operator : Operator) (operand : Json) :
    Except Error Condition :=
  let fault := Error.invalidOperand key path.display
  match operator with
  | .eq => .ok (.eq operand)
  | .ne => .ok (.ne operand)
  | .compare comparison =>
      (require (bound? operand) (fault .number)).map fun bound =>
        .compare comparison (.finite bound)
  | .oneOf => (require operand.items? (fault .array)).map .oneOf
  | .noneOf => (require operand.items? (fault .array)).map .noneOf
  | .present => (require operand.bool? (fault .boolean)).map .present
  | .kind =>
      (require (operand.string?.bind Json.Kind.ofName?) (fault .kindName)).map .kind
  | .all => (require operand.items? (fault .array)).map .all
  | .elemMatch => .error (fault .selector)
  | .not => .error (fault .operators)

/-- The clause of a field whose operand is an object, given its entries read as operators. -/
def fieldClause (path : FieldPath) (entries : List (String × Json))
    (operators : Except Error (List Selector)) : Except Error Selector :=
  if entries.isEmpty then .ok (.field path (.eq (.object entries)))
  else if entries.all fun entry => isOperatorKey entry.1 then operators.map conjunction
  else if entries.any fun entry => isOperatorKey entry.1 then
    .error (.invalidSelector (.mixedKeys path.display))
  else .ok (.field path (.eq (.object entries)))

/-- Why an operator key that is no combinator is refused at a document. -/
def bareOperatorFault (key : String) : Error :=
  if (Operator.ofKey? key).isSome then .invalidSelector (.bareOperator key)
  else .unsupportedOperator key rootName

mutual

def readClauses (scope : Scope) : List (String × Json) → Except Error (List Selector)
  | [] => .ok []
  | (key, operand) :: rest => do
      let clause ←
        match Combinator.ofKey? key with
        | some combinator =>
            match operand with
            | .array items => (readSelectors scope key items).map combinator.apply
            | _ => .error (.invalidOperand key rootName .selectors)
        | none =>
            if key = "$not" then
              match operand with
              | .object entries =>
                  (readClauses scope entries).map fun clauses => .not (conjunction clauses)
              | _ => .error (.invalidOperand key rootName .selector)
            else if isOperatorKey key then
              match scope with
              | .element => readOperator FieldPath.root key operand
              | .document => .error (bareOperatorFault key)
            else
              match FieldPath.ofString key with
              | .ok path => readField path operand
              | .error fault => .error fault
      let clauses ← readClauses scope rest
      return clause :: clauses

def readSelectors (scope : Scope) (key : String) : List Json → Except Error (List Selector)
  | [] => .ok []
  | item :: rest => do
      let clause ←
        match item with
        | .object entries => (readClauses scope entries).map conjunction
        | other => .error (.invalidOperand key rootName (.selectorItem other.kind))
      let clauses ← readSelectors scope key rest
      return clause :: clauses

def readField (path : FieldPath) : Json → Except Error Selector
  | .object entries => fieldClause path entries (readOperators path entries)
  | operand => .ok (.field path (.eq operand))

def readOperators (path : FieldPath) : List (String × Json) → Except Error (List Selector)
  | [] => .ok []
  | (key, operand) :: rest => do
      let clause ← readOperator path key operand
      let clauses ← readOperators path rest
      return clause :: clauses

def readOperator (path : FieldPath) (key : String) : Json → Except Error Selector
  | .object entries =>
      match Operator.ofKey? key with
      | none => .error (.unsupportedOperator key path.display)
      | some .elemMatch =>
          (readClauses .element entries).map fun clauses => .elemMatch path (conjunction clauses)
      | some .not => (fieldClause path entries (readOperators path entries)).map .not
      | some operator => (readCondition path key operator (.object entries)).map (.field path)
  | operand =>
      match Operator.ofKey? key with
      | none => .error (.unsupportedOperator key path.display)
      | some operator => (readCondition path key operator operand).map (.field path)

end

/-- Null selects everything. -/
def read : Json → Except Error Selector
  | .null => .ok everything
  | .object entries => (readClauses .document entries).map conjunction
  | other => .error (.invalidSelector (.notObject other.kind))

end Selector

end DocStore
