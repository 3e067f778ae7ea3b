import DocStore.Comparison
import DocStore.FieldPath
import DocStore.Json.Containment
import DocStore.Json.Text

/-!
# Selectors

A selector tree and what it accepts. String operands are compared with the text form of a field,
null stands for a field without a text form, and every other operand is compared as a value.
-/

namespace DocStore

inductive Condition where
  | eq (operand : Json)
  | ne (operand : Json)
  | compare (comparison : Comparison) (bound : Binary64)
  | oneOf (operands : List Json)
  | noneOf (operands : List Json)
  | present (expected : Bool)
  | kind (expected : Json.Kind)
  | all (operands : List Json)

namespace Condition

def equals (value : Option Json) : Json → Bool
  | .null => (value.bind Json.text?).isNone
  | .string expected => value.bind Json.text? == some expected
  | operand => value.any (Json.equal · operand)

def accepts (value : Option Json) : Condition → Bool
  | eq operand => equals value operand
  | ne operand => !equals value operand
  | compare comparison bound =>
      (value.bind Json.double?).any fun number : Double => comparison.holds number bound
  | oneOf operands => operands.any (equals value)
  | noneOf operands => !operands.any (equals value)
  | present expected => value.isSome == expected
  | kind expected => value.any fun json => json.kind == expected
  | all operands =>
      value.any fun json => json.kind == .array && Json.contains json (.array operands)

end Condition

inductive Selector where
  | and (clauses : List Selector)
  | or (clauses : List Selector)
  | nor (clauses : List Selector)
  | not (clause : Selector)
  | field (path : FieldPath) (condition : Condition)
  | elemMatch (path : FieldPath) (clause : Selector)

namespace Selector

/-- Accepts every value. -/
def everything : Selector := .and []

/-- A single clause stands for itself. -/
def conjunction : List Selector → Selector
  | [clause] => clause
  | clauses => .and clauses

mutual

def accepts : Selector → Json → Bool
  | .and clauses, json => allAccept clauses json
  | .or clauses, json => anyAccepts clauses json
  | .nor clauses, json => !anyAccepts clauses json
  | .not clause, json => !accepts clause json
  | .field path condition, json => condition.accepts (path.lookup json)
  | .elemMatch path clause, json =>
      match path.lookup json with
      | some (.array items) => items.any fun item => accepts clause item
      | _ => false

def allAccept : List Selector → Json → Bool
  | [], _ => true
  | clause :: rest, json => accepts clause json && allAccept rest json

def anyAccepts : List Selector → Json → Bool
  | [], _ => false
  | clause :: rest, json => accepts clause json || anyAccepts rest json

end

end Selector

end DocStore
