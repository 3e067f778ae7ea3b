import DocStore.Number

/-!
# JSON values

Objects are lists of pairs in the order in which their keys were written. Looking a key up ignores
that order.
-/

namespace DocStore

inductive Json where
  | null
  | bool (value : Bool)
  | number (value : Number)
  | string (value : String)
  | array (items : List Json)
  | object (entries : List (String × Json))

namespace Json

instance : Inhabited Json := ⟨.null⟩

inductive Kind where
  | null
  | boolean
  | number
  | string
  | array
  | object
  deriving DecidableEq

namespace Kind

def name : Kind → String
  | null => "null"
  | boolean => "boolean"
  | number => "number"
  | string => "string"
  | array => "array"
  | object => "object"

def ofName? : String → Option Kind
  | "null" => some null
  | "boolean" => some boolean
  | "number" => some number
  | "string" => some string
  | "array" => some array
  | "object" => some object
  | _ => none

end Kind

def kind : Json → Kind
  | .null => .null
  | .bool _ => .boolean
  | .number _ => .number
  | .string _ => .string
  | .array _ => .array
  | .object _ => .object

def bool? : Json → Option Bool
  | .bool value => some value
  | _ => none

def number? : Json → Option Number
  | .number value => some value
  | _ => none

def string? : Json → Option String
  | .string value => some value
  | _ => none

def items? : Json → Option (List Json)
  | .array items => some items
  | _ => none

def entries? : Json → Option (List (String × Json))
  | .object entries => some entries
  | _ => none

/-- The member of an object under a key. -/
def field? (json : Json) (key : String) : Option Json :=
  json.entries?.bind (·.lookup key)

/-- The value of a number as a double. -/
def double? (json : Json) : Option Double := json.number?.map Number.toDouble

def isScalar : Json → Bool
  | .array _ => false
  | .object _ => false
  | _ => true

def ofOption (json : Option Json) : Json := json.getD .null

def ofNat (n : Nat) : Json := .number (.integer n)

def ofInt (n : Int) : Json := .number (.integer n)

def ofDouble (d : Double) : Json := .number (.double d)

end Json

end DocStore
