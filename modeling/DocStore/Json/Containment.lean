import DocStore.Json

/-!
# Equality and containment

Equality compares numbers by value and ignores the order of object keys. A container holds a value
when every part of the value is found in it; only at the top level may an array hold a bare scalar.
-/

namespace DocStore.Json

mutual

def equal : Json → Json → Bool
  | .null, .null => true
  | .bool a, .bool b => a == b
  | .number a, .number b => a.equal b
  | .string a, .string b => a == b
  | .array a, .array b => equalItems a b
  | .object a, .object b => a.length == b.length && entriesIn a b
  | _, _ => false

def equalItems : List Json → List Json → Bool
  | [], [] => true
  | a :: as, b :: bs => equal a b && equalItems as bs
  | _, _ => false

/-- Every entry has an equal one under its key. -/
def entriesIn : List (String × Json) → List (String × Json) → Bool
  | [], _ => true
  | (key, a) :: rest, entries =>
      (match entries.lookup key with
        | some b => equal a b
        | none => false) && entriesIn rest entries

end

mutual

/-- Whether a value is held by another one, below the top level. -/
def within : Json → Json → Bool
  | .object wanted, .object held => entriesWithin wanted held
  | .array wanted, .array held => itemsWithin wanted held
  | .null, held => equal .null held
  | .bool value, held => equal (.bool value) held
  | .number value, held => equal (.number value) held
  | .string value, held => equal (.string value) held
  | _, _ => false

def itemsWithin : List Json → List Json → Bool
  | [], _ => true
  | wanted :: rest, held => held.any (fun item => within wanted item) && itemsWithin rest held

def entriesWithin : List (String × Json) → List (String × Json) → Bool
  | [], _ => true
  | (key, wanted) :: rest, held =>
      (match held.lookup key with
        | some value => within wanted value
        | none => false) && entriesWithin rest held

end

def contains (container wanted : Json) : Bool :=
  match container with
  | .array held =>
      if wanted.isScalar then held.any fun item => item.isScalar && equal item wanted
      else within wanted container
  | _ => within wanted container

end DocStore.Json
