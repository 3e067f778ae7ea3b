import DocStore.Json

/-!
# Errors of queries, schemas and documents

Each constructor is a cause; `message` gives its wording.
-/

namespace DocStore

/-- What an operator wanted in place of its operand. -/
inductive OperandFault where
  | selectors
  | selector
  | selectorItem (found : Json.Kind)
  | number
  | array
  | boolean
  | kindName
  | operators
  deriving DecidableEq

namespace OperandFault

def message : OperandFault → String
  | selectors => "expected an array of selectors"
  | selector => "expected a selector object"
  | selectorItem found => "expected a selector object, got " ++ found.name
  | number => "expected a number"
  | array => "expected an array"
  | boolean => "expected a boolean"
  | kindName => "expected a JSON type name"
  | operators => "expected an operator object"

end OperandFault

inductive SelectorFault where
  | notObject (found : Json.Kind)
  | bareOperator (operator : String)
  | mixedKeys (field : String)
  deriving DecidableEq

namespace SelectorFault

def message : SelectorFault → String
  | notObject found => "expected an object, got " ++ found.name
  | bareOperator operator => "operator " ++ operator ++ " must be applied to a field"
  | mixedKeys field => "field '" ++ field ++ "' mixes operators and literal keys"

end SelectorFault

inductive Error where
  | unsupportedOperator (operator field : String)
  | invalidOperand (operator field : String) (fault : OperandFault)
  | invalidSelector (fault : SelectorFault)
  | invalidFieldPath (field : String)
  | missingPrimaryKey
  | missingSchemaVersion
  | invalidDocument (found : Json.Kind)
  | missingPrimaryKeyValue (field : String)
  deriving DecidableEq

namespace Error

def message : Error → String
  | unsupportedOperator operator field =>
      "unsupported operator '" ++ operator ++ "' on field '" ++ field ++ "'"
  | invalidOperand operator field fault =>
      "invalid operand for '" ++ operator ++ "' on field '" ++ field ++ "': " ++ fault.message
  | invalidSelector fault => "invalid selector: " ++ fault.message
  | invalidFieldPath field => "invalid field path '" ++ field ++ "'"
  | missingPrimaryKey => "schema has no primary key"
  | missingSchemaVersion => "schema has no numeric version"
  | invalidDocument found => "invalid document: expected an object, got " ++ found.name
  | missingPrimaryKeyValue field =>
      "document has no usable primary key field '" ++ field ++ "'"

end Error

end DocStore
