import DocStore.Proofs.Sql.Spelling

/-!
# Reading expressions with precedence

How a database groups the lexemes of a condition. Casts bind most tightly, then the operators on
JSON values, comparisons, tests for null, `NOT`, `AND` and `OR`; operators of one level group to the
left, and comparisons and tests do not chain.
-/

namespace DocStore.Sql

/-- How tightly an operator binds. -/
def BinaryOp.level : BinaryOp → Nat
  | or => 0
  | and => 1
  | distinct => 3
  | notDistinct => 3
  | eq => 4
  | gt => 4
  | gte => 4
  | lt => 4
  | lte => 4
  | key => 5
  | keyText => 5
  | path => 5
  | pathText => 5
  | contains => 5

/-- Whether an operand of the same level may stand on the left. -/
def BinaryOp.groupsLeft (op : BinaryOp) : Bool := op.level != 3 && op.level != 4

/-- The least level of an operand on the left. -/
def BinaryOp.leftLevel (op : BinaryOp) : Nat := if op.groupsLeft then op.level else op.level + 1

namespace Expr

def level : Expr → Nat
  | binary op _ _ => op.level
  | not _ => 2
  | isNull _ => 3
  | isNotNull _ => 3
  | cast _ _ => 6
  | _ => 7

end Expr

/-- What may follow an operand. -/
inductive Suffix where
  | binary (op : BinaryOp)
  | isNull
  | isNotNull
  | cast (type : CastType)

namespace Suffix

def level : Suffix → Nat
  | binary op => op.level
  | isNull => 3
  | isNotNull => 3
  | cast _ => 6

/-- The least level of an operand in front. -/
def leftLevel : Suffix → Nat
  | binary op => op.leftLevel
  | isNull => 4
  | isNotNull => 4
  | cast _ => 6

theorem level_ne_two (suffix : Suffix) : suffix.level ≠ 2 := by
  cases suffix with
  | binary op => cases op <;> decide
  | isNull => decide
  | isNotNull => decide
  | cast type => exact (by decide : 6 ≠ 2)

theorem level_le_leftLevel (suffix : Suffix) : suffix.level ≤ suffix.leftLevel := by
  cases suffix with
  | binary op => cases op <;> decide
  | isNull => decide
  | isNotNull => decide
  | cast type => exact Nat.le_refl 6

end Suffix

namespace Reader

def castType? : List Lexeme → Option (CastType × List Lexeme)
  | .word "text" :: .mark '[' :: .mark ']' :: rest => some (.textArray, rest)
  | .word "text" :: rest => some (.text, rest)
  | .word "jsonb" :: rest => some (.jsonb, rest)
  | .word "float8" :: rest => some (.float8, rest)
  | _ => none

def operator? : String → Option BinaryOp
  | "->" => some .key
  | "->>" => some .keyText
  | "#>" => some .path
  | "#>>" => some .pathText
  | "=" => some .eq
  | "@>" => some .contains
  | ">" => some .gt
  | ">=" => some .gte
  | "<" => some .lt
  | "<=" => some .lte
  | _ => none

def suffix? : List Lexeme → Option (Suffix × List Lexeme)
  | .cast :: rest => (castType? rest).map fun (type, rest) => (.cast type, rest)
  | .operator symbol :: rest => (operator? symbol).map fun op => (.binary op, rest)
  | .word "AND" :: rest => some (.binary .and, rest)
  | .word "OR" :: rest => some (.binary .or, rest)
  | .word "IS" :: .word "NULL" :: rest => some (.isNull, rest)
  | .word "IS" :: .word "DISTINCT" :: .word "FROM" :: rest => some (.binary .distinct, rest)
  | .word "IS" :: .word "NOT" :: .word "NULL" :: rest => some (.isNotNull, rest)
  | .word "IS" :: .word "NOT" :: .word "DISTINCT" :: .word "FROM" :: rest =>
      some (.binary .notDistinct, rest)
  | _ => none

/-- The literals of an array, up to its closing bracket. -/
def items? : List Lexeme → Option (List String × List Lexeme)
  | .literal item :: .mark ']' :: rest => some ([item], rest)
  | .literal item :: .mark ',' :: rest =>
      (items? rest).map fun (items, rest) => (item :: items, rest)
  | _ => none

/-- A key that stands for itself in an array that is written as a text. -/
def isPlainKey (key : String) : Bool :=
  !key.isEmpty && key.toList.all (fun c => c.isAlphanum || c == '_') &&
    key.toList.map Char.toLower != "null".toList

/-- The keys between braces; keys that would have to be quoted are not read. -/
def keys? (content : String) : Option Expr :=
  match content.toList with
  | [] => none
  | opening :: rest =>
      let inner := rest.dropLast
      let keys := if inner.isEmpty then [] else (inner.splitOn ',').map String.ofList
      if opening = '\x7b' ∧ rest.getLast? = some '\x7d' ∧ keys.all isPlainKey then
        some (.pathString keys)
      else none

/-- A plain text on the right of a path operator is an array of keys. -/
def rightOperand? : BinaryOp → Expr → Option Expr
  | .path, .string content => keys? content
  | .pathText, .string content => keys? content
  | _, right => some right

/-- The alias of the elements that a condition is about. -/
def binding? : List Lexeme → Option (Nat × List Lexeme)
  | .word "AS" :: .element depth :: .mark '(' :: .word "value" :: .mark ')' :: .word "WHERE" ::
      rest => some (depth, rest)
  | _ => none

/-- Drops the lexeme that must follow what was read. -/
def closed? {α : Type} (closing : Lexeme) : α × List Lexeme → Option (α × List Lexeme)
  | (result, token :: rest) => if token = closing then some (result, rest) else none
  | (_, []) => none

/-- What was read, when it left a shorter rest. -/
def shorter {α : Type} (tokens : List Lexeme) (read : Option (α × List Lexeme)) :
    Option (α × { rest : List Lexeme // rest.length < tokens.length }) :=
  read.bind fun (result, rest) =>
    if less : rest.length < tokens.length then some (result, ⟨rest, less⟩) else none

mutual

/-- Reads an expression whose operators bind at least as tightly as `least`. -/
def expression? (least : Nat) (tokens : List Lexeme) : Option (Expr × List Lexeme) :=
  (shorter tokens (operand? tokens)).bind fun (first, rest) => extend? least first rest.val
termination_by (tokens.length, 1)

/-- Reads what follows an operand, as long as it binds tightly enough. -/
def extend? (least : Nat) (first : Expr) (tokens : List Lexeme) : Option (Expr × List Lexeme) :=
  match shorter tokens (suffix? tokens) with
  | none => some (first, tokens)
  | some (suffix, rest) =>
      if suffix.level < least then some (first, tokens)
      else if first.level < suffix.leftLevel then none
      else
        (shorter tokens (complete? first suffix rest.val)).bind fun (whole, rest) =>
          extend? least whole rest.val
termination_by (tokens.length, 0)

/-- Reads the rest of an expression that began with an operand and a suffix. -/
def complete? (first : Expr) (suffix : Suffix) (tokens : List Lexeme) :
    Option (Expr × List Lexeme) :=
  match suffix with
  | .isNull => some (.isNull first, tokens)
  | .isNotNull => some (.isNotNull first, tokens)
  | .cast type => some (.cast first type, tokens)
  | .binary op =>
      (expression? (op.level + 1) tokens).bind fun (second, rest) =>
        (rightOperand? op second).map fun second => (.binary op first second, rest)
termination_by (tokens.length, 2)

/-- Reads an expression up to a closing lexeme. -/
def before? (closing : Lexeme) (tokens : List Lexeme) : Option (Expr × List Lexeme) :=
  (expression? 0 tokens).bind (closed? closing)
termination_by (tokens.length, 2)

def operand? (tokens : List Lexeme) : Option (Expr × List Lexeme) :=
  match tokens with
  | .literal value :: rest => some (.string value, rest)
  | .param number :: rest => some (.param number, rest)
  | .element depth :: .mark '.' :: .word "value" :: rest => some (.element depth, rest)
  | .word "id" :: rest => some (.id, rest)
  | .word "data" :: rest => some (.data, rest)
  | .word "TRUE" :: rest => some (.truth true, rest)
  | .word "FALSE" :: rest => some (.truth false, rest)
  | .word "ARRAY" :: .mark '[' :: rest =>
      (items? rest).map fun (items, rest) => (.textArray items, rest)
  | .mark '(' :: rest => (before? (.mark ')') rest).map fun (inner, rest) => (.paren inner, rest)
  | .word "jsonb_typeof" :: .mark '(' :: rest =>
      (before? (.mark ')') rest).map fun (inner, rest) => (.typeOf inner, rest)
  | .word "ANY" :: .mark '(' :: rest =>
      (before? (.mark ')') rest).map fun (inner, rest) => (.anyOf inner, rest)
  | .word "NOT" :: rest => (expression? 2 rest).map fun (inner, rest) => (.not inner, rest)
  | .word "COALESCE" :: .mark '(' :: rest =>
      (shorter rest (before? (.mark ',') rest)).bind fun (first, rest) =>
        (before? (.mark ')') rest.val).map fun (second, rest) => (.coalesce first second, rest)
  | .word "CASE" :: .word "WHEN" :: rest =>
      (shorter rest (before? (.word "THEN") rest)).bind fun (condition, rest) =>
        (shorter rest.val (before? (.word "ELSE") rest.val)).bind fun (whenTrue, rest) =>
          (before? (.word "END") rest.val).map fun (otherwise, rest) =>
            (.cases condition whenTrue otherwise, rest)
  | .word "EXISTS" :: .mark '(' :: .word "SELECT" :: .number 1 :: .word "FROM" ::
      .word "jsonb_array_elements" :: .mark '(' :: rest =>
      (shorter rest (before? (.mark ')') rest)).bind fun (items, rest) =>
        (shorter rest.val (binding? rest.val)).bind fun (depth, rest) =>
          (before? (.mark ')') rest.val).map fun (condition, rest) =>
            (.existsElement items depth condition, rest)
  | _ => none
termination_by (tokens.length, 0)

end

attribute [simp] operand?

/-- What was read, when nothing is left over. -/
def whole? {α : Type} : α × List Lexeme → Option α
  | (result, []) => some result
  | _ => none

end Reader

/-- The lexemes that a reader looks at. -/
def Expr.tokens (expr : Expr) : List Lexeme := expr.lexemes.filter (· ≠ .blank)

/-- The expression that a text stands for. -/
def Expr.ofText? (text : String) : Option Expr :=
  (lexemes? text).bind fun lexemes =>
    (Reader.expression? 0 (lexemes.filter (· ≠ .blank))).bind Reader.whole?

end DocStore.Sql
