import DocStore.Selector

/-!
# Predicates

The filters that a table evaluates. Each leaf stands for one expression on the stored column, and
a selector is lowered onto them.
-/

namespace DocStore

inductive Predicate where
  | const (value : Bool)
  | and (parts : List Predicate)
  | or (parts : List Predicate)
  | not (part : Predicate)
  | textEq (path : FieldPath) (value : String)
  | jsonEq (path : FieldPath) (value : Json)
  | isNull (path : FieldPath)
  | compare (path : FieldPath) (comparison : Comparison) (value : Binary64)
  | exists (path : FieldPath)
  | kindIs (path : FieldPath) (kind : Json.Kind)
  | contains (path : FieldPath) (value : Json)
  | elemMatch (path : FieldPath) (part : Predicate)

namespace Predicate

mutual

def holds : Predicate → Json → Bool
  | .const value, _ => value
  | .and parts, json => allHold parts json
  | .or parts, json => anyHolds parts json
  | .not part, json => !holds part json
  | .textEq path value, json => (path.lookup json).bind Json.text? == some value
  | .jsonEq path value, json => (path.lookup json).any (Json.equal · value)
  | .isNull path, json => ((path.lookup json).bind Json.text?).isNone
  | .compare path comparison value, json =>
      ((path.lookup json).bind Json.double?).any fun number : Double =>
        comparison.holds number value
  | .exists path, json => (path.lookup json).isSome
  | .kindIs path kind, json => (path.lookup json).any fun found => found.kind == kind
  | .contains path value, json => (path.lookup json).any (Json.contains · value)
  | .elemMatch path part, json =>
      match path.lookup json with
      | some (.array items) => items.any fun item => holds part item
      | _ => false

def allHold : List Predicate → Json → Bool
  | [], _ => true
  | part :: rest, json => holds part json && allHold rest json

def anyHolds : List Predicate → Json → Bool
  | [], _ => false
  | part :: rest, json => holds part json || anyHolds rest json

end

mutual

/-- Holds of every value, as far as constants show. -/
def isAlwaysTrue : Predicate → Bool
  | .const value => value
  | .and parts => allAlwaysTrue parts
  | .or parts => anyAlwaysTrue parts
  | .not part => isAlwaysFalse part
  | _ => false

def allAlwaysTrue : List Predicate → Bool
  | [] => true
  | part :: rest => isAlwaysTrue part && allAlwaysTrue rest

def anyAlwaysTrue : List Predicate → Bool
  | [] => false
  | part :: rest => isAlwaysTrue part || anyAlwaysTrue rest

/-- Holds of no value, as far as constants show. -/
def isAlwaysFalse : Predicate → Bool
  | .const value => !value
  | .and parts => anyAlwaysFalse parts
  | .or parts => allAlwaysFalse parts
  | .not part => isAlwaysTrue part
  | _ => false

def allAlwaysFalse : List Predicate → Bool
  | [] => true
  | part :: rest => isAlwaysFalse part && allAlwaysFalse rest

def anyAlwaysFalse : List Predicate → Bool
  | [] => false
  | part :: rest => isAlwaysFalse part || anyAlwaysFalse rest

end

/-- The negation, folded into a constant. -/
def negate : Predicate → Predicate
  | .const value => .const !value
  | other => .not other

def equality (path : FieldPath) : Json → Predicate
  | .null => .isNull path
  | .string value => .textEq path value
  | operand => .jsonEq path operand

def membership (path : FieldPath) (operands : List Json) : Predicate :=
  .or (operands.map (equality path))

def ofCondition (path : FieldPath) : Condition → Predicate
  | .eq operand => equality path operand
  | .ne operand => negate (equality path operand)
  | .compare comparison bound => .compare path comparison bound
  | .oneOf operands => membership path operands
  | .noneOf operands => negate (membership path operands)
  | .present true => .exists path
  | .present false => negate (.exists path)
  | .kind expected => .kindIs path expected
  | .all operands => .contains path (.array operands)

mutual

def ofSelector : Selector → Predicate
  | .and clauses => .and (ofSelectors clauses)
  | .or clauses => .or (ofSelectors clauses)
  | .nor clauses => negate (.or (ofSelectors clauses))
  | .not clause => negate (ofSelector clause)
  | .field path condition => ofCondition path condition
  | .elemMatch path clause => .elemMatch path (ofSelector clause)

def ofSelectors : List Selector → List Predicate
  | [] => []
  | clause :: rest => ofSelector clause :: ofSelectors rest

end

end Predicate

end DocStore
