import DocStore.Proofs.Json.Alike
import DocStore.Sql.Statement

/-!
# The value of an expression

How a database evaluates an expression on a row, with SQL null as a value. Operators pass null on,
`AND` and `OR` are three-valued, and no value at all stands for a statement that fails. What the
database does with JSON values is left open; `Documented` says what its manual promises.
-/

namespace DocStore

namespace Sql

/-- What a database does with JSON values and with texts that are cast. -/
structure Database where
  member : Json → String → Option Json
  memberText : Json → String → Option String
  at? : Json → List String → Option Json
  textAt? : Json → List String → Option String
  equal : Json → Json → Bool
  contains : Json → Json → Bool
  typeOf : Json → String
  float8? : String → Option Binary64
  jsonb? : String → Option Json

/-- A text key finds members of objects only; a path finds what the field path finds. -/
structure Database.Documented (db : Database) : Prop where
  member_object : ∀ entries key,
    db.member (.object entries) key = FieldPath.lookup ⟨[key]⟩ (.object entries)
  member_other : ∀ json key, json.kind ≠ .object → db.member json key = none
  memberText : ∀ json key, db.memberText json key = (db.member json key).bind Json.text?
  at? : ∀ json keys, db.at? json keys = FieldPath.lookup ⟨keys⟩ json
  textAt? : ∀ json keys, db.textAt? json keys = (FieldPath.lookup ⟨keys⟩ json).bind Json.text?
  equal : ∀ a b, db.equal a b = Json.equal a b
  contains : ∀ container wanted, db.contains container wanted = Json.contains container wanted
  typeOf : ∀ json, db.typeOf json = json.kind.name
  noItems : db.jsonb? "[]" = some (.array [])

/-- The text of each number of a value is cast to the double of the number. -/
def Database.CastsNumbers (db : Database) (json : Json) : Prop :=
  ∀ number, json.HasNumber number → db.float8? number.text = some (.finite number.toDouble)

inductive Value where
  | null
  | bool (value : Bool)
  | text (value : String)
  | float (value : Binary64)
  | json (value : Json)
  | texts (values : List String)

namespace Value

def ofText? : Option String → Value
  | some value => text value
  | none => null

def ofJson? : Option Json → Value
  | some value => json value
  | none => null

def ofArg : Arg → Value
  | .param (.text value) => text value
  | .param (.float value) => float value
  | .param (.json value) => json value
  | .texts values => texts values
  | .null => null

/-- The value of a condition that is true, false or, as `none`, neither of the two. -/
def ofTruth : Option Bool → Value
  | some value => bool value
  | none => null

def truth? : Value → Option (Option Bool)
  | bool value => some (some value)
  | null => some none
  | _ => none

def isNull : Value → Bool
  | null => true
  | _ => false

/-- The elements that a value is expanded to, none for null. -/
def elements? : Value → Option (List Json)
  | null => some []
  | json (.array items) => some items
  | _ => none

end Value

namespace Truth

def not : Option Bool → Option Bool
  | some value => some !value
  | none => none

def and : Option Bool → Option Bool → Option Bool
  | some false, _ => some false
  | _, some false => some false
  | some true, some true => some true
  | _, _ => none

def or : Option Bool → Option Bool → Option Bool
  | some true, _ => some true
  | _, some true => some true
  | some false, some false => some false
  | _, _ => none

end Truth

/-! ### The order of floating-point numbers -/

namespace Float8

/-- A database orders all of them: NaN equals itself and comes after every other number. -/
def place (value : Binary64) : Int := value.place?.getD (2047 * binade + 1)

def same (a b : Binary64) : Bool := place a == place b

def compares : Comparison → Binary64 → Binary64 → Bool
  | .gt, a, b => decide (place b < place a)
  | .gte, a, b => decide (place b ≤ place a)
  | .lt, a, b => decide (place a < place b)
  | .lte, a, b => decide (place a ≤ place b)

theorem exists_place? {value : Binary64} (number : value ≠ .nan) :
    ∃ rank, value.place? = some rank ∧ rank ≤ 2047 * binade := by
  match value with
  | .finite value =>
      have bounded := value.rank_lt
      refine ⟨value.signedRank, rfl, ?_⟩
      rw [Double.signedRank]
      split <;> omega
  | .infinite true => exact ⟨_, rfl, by decide⟩
  | .infinite false => exact ⟨_, rfl, le_rfl⟩
  | .nan => exact absurd rfl number

/-- Without NaN the comparisons are those of the numbers. -/
theorem compares_eq_holds (comparison : Comparison) {a b : Binary64} (left : a ≠ .nan)
    (right : b ≠ .nan) : compares comparison a b = comparison.holds a b := by
  obtain ⟨m, placedLeft, _⟩ := exists_place? left
  obtain ⟨n, placedRight, _⟩ := exists_place? right
  cases comparison <;>
    simp [compares, Comparison.holds, Binary64.lt, Binary64.le, place, placedLeft, placedRight]

/-- Whether the comparison holds with a number above all others. -/
def below : Comparison → Bool
  | .gt | .gte => false
  | .lt | .lte => true

theorem compares_nan (comparison : Comparison) {a : Binary64} (number : a ≠ .nan) :
    compares comparison a .nan = below comparison := by
  obtain ⟨m, placed, bounded⟩ := exists_place? number
  have last : place .nan = 2047 * binade + 1 := rfl
  have before : place a = m := by rw [place, placed, Option.getD_some]
  cases comparison <;> simp only [compares, below, last, before, decide_eq_true_eq,
    decide_eq_false_iff_not] <;> omega

end Float8

namespace Database

variable (db : Database)

/-- Whether two values of one type are equal. -/
def same? : Value → Value → Option Bool
  | .bool a, .bool b => some (a == b)
  | .text a, .text b => some (a == b)
  | .float a, .float b => some (Float8.same a b)
  | .json a, .json b => some (db.equal a b)
  | _, _ => none

/-- Null is not distinct from null, and distinct from every other value. -/
def distinct? : Value → Value → Option Bool
  | .null, .null => some false
  | .null, _ => some true
  | _, .null => some true
  | a, b => (db.same? a b).map Bool.not

/-- An operator on two values of which neither is null. -/
def operate? : BinaryOp → Value → Value → Option Value
  | .key, .json value, .text key => some (.ofJson? (db.member value key))
  | .keyText, .json value, .text key => some (.ofText? (db.memberText value key))
  | .path, .json value, .texts keys => some (.ofJson? (db.at? value keys))
  | .pathText, .json value, .texts keys => some (.ofText? (db.textAt? value keys))
  | .eq, a, b => (db.same? a b).map .bool
  | .contains, .json container, .json wanted => some (.bool (db.contains container wanted))
  | .gt, .float a, .float b => some (.bool (Float8.compares .gt a b))
  | .gte, .float a, .float b => some (.bool (Float8.compares .gte a b))
  | .lt, .float a, .float b => some (.bool (Float8.compares .lt a b))
  | .lte, .float a, .float b => some (.bool (Float8.compares .lte a b))
  | _, _, _ => none

def binary? : BinaryOp → Value → Value → Option Value
  | .and, a, b => a.truth?.bind fun a => b.truth?.map fun b => .ofTruth (Truth.and a b)
  | .or, a, b => a.truth?.bind fun a => b.truth?.map fun b => .ofTruth (Truth.or a b)
  | .distinct, a, b => (db.distinct? a b).map .bool
  | .notDistinct, a, b => (db.distinct? a b).map fun distinct => .bool !distinct
  | _, .null, _ => some .null
  | _, _, .null => some .null
  | op, a, b => db.operate? op a b

def typeOf? : Value → Option Value
  | .null => some .null
  | .json value => some (.text (db.typeOf value))
  | _ => none

def cast? : Value → CastType → Option Value
  | .null, _ => some .null
  | .json value, .jsonb => some (.json value)
  | .text value, .jsonb => (db.jsonb? value).map .json
  | .text value, .float8 => (db.float8? value).map .float
  | .float value, .float8 => some (.float value)
  | .text value, .text => some (.text value)
  | .texts values, .textArray => some (.texts values)
  | _, _ => none

end Database

/-- What the names in an expression stand for: the columns of a row, the arguments of the statement
and the elements that are bound. -/
structure Scope where
  id : String
  data : Json
  args : List Arg
  element? : Nat → Option Json

def Scope.ofRow (id : String) (data : Json) (args : List Arg) : Scope :=
  ⟨id, data, args, fun _ => none⟩

/-- Binds an element at a depth. -/
def Scope.bind (scope : Scope) (depth : Nat) (element : Json) : Scope :=
  { scope with
    element? := fun other => if other = depth then some element else scope.element? other }

namespace Expr

/-- The value of an expression; `none` when an operator does not take its operands, a cast fails or
a name is not bound. -/
def eval (db : Database) : Expr → Scope → Option Value
  | column "id", scope => some (.text scope.id)
  | column "data", scope => some (.json scope.data)
  | column _, _ => none
  | element depth, scope => (scope.element? depth).map .json
  | truth value, _ => some (.bool value)
  | string value, _ => some (.text value)
  | pathString segments, _ => some (.texts segments)
  | textArray items, _ => some (.texts items)
  | param 0, _ => none
  | param (index + 1), scope => scope.args[index]?.map .ofArg
  | paren inner, scope => inner.eval db scope
  | cast inner type, scope => (inner.eval db scope).bind (db.cast? · type)
  | binary op left right, scope =>
      (left.eval db scope).bind fun a => (right.eval db scope).bind fun b => db.binary? op a b
  | not inner, scope =>
      ((inner.eval db scope).bind Value.truth?).map fun truth => .ofTruth (Truth.not truth)
  | isNull inner, scope => (inner.eval db scope).map fun value => .bool value.isNull
  | isNotNull inner, scope => (inner.eval db scope).map fun value => .bool !value.isNull
  | anyOf _, _ => none
  | typeOf inner, scope => (inner.eval db scope).bind db.typeOf?
  | coalesce first second, scope =>
      (first.eval db scope).bind fun value =>
        if value.isNull then second.eval db scope else some value
  | cases condition whenTrue otherwise, scope =>
      ((condition.eval db scope).bind Value.truth?).bind fun truth =>
        if truth = some true then whenTrue.eval db scope else otherwise.eval db scope
  | existsElement items depth condition, scope =>
      ((items.eval db scope).bind Value.elements?).bind fun elements =>
        (elements.mapM fun element =>
          (condition.eval db (scope.bind depth element)).bind Value.truth?).map fun truths =>
            .bool (truths.any (· == some true))

section Eval

variable {db : Database} {scope : Scope}

@[simp]
theorem eval_data : data.eval db scope = some (.json scope.data) := rfl

@[simp]
theorem eval_element (depth : Nat) :
    (element depth).eval db scope = (scope.element? depth).map .json := rfl

@[simp]
theorem eval_truth (value : Bool) : (truth value).eval db scope = some (.bool value) := rfl

@[simp]
theorem eval_string (value : String) : (string value).eval db scope = some (.text value) := rfl

@[simp]
theorem eval_pathString (segments : List String) :
    (pathString segments).eval db scope = some (.texts segments) := rfl

@[simp]
theorem eval_textArray (items : List String) :
    (textArray items).eval db scope = some (.texts items) := rfl

@[simp]
theorem eval_param (index : Nat) :
    (param (index + 1)).eval db scope = scope.args[index]?.map .ofArg := rfl

@[simp]
theorem eval_paren (inner : Expr) : (paren inner).eval db scope = inner.eval db scope := rfl

@[simp]
theorem eval_cast (inner : Expr) (type : CastType) :
    (cast inner type).eval db scope = (inner.eval db scope).bind (db.cast? · type) := rfl

@[simp]
theorem eval_binary (op : BinaryOp) (left right : Expr) :
    (binary op left right).eval db scope =
      (left.eval db scope).bind fun a => (right.eval db scope).bind fun b =>
        db.binary? op a b := rfl

@[simp]
theorem eval_not (inner : Expr) :
    (not inner).eval db scope =
      ((inner.eval db scope).bind Value.truth?).map fun truth => .ofTruth (Truth.not truth) := rfl

@[simp]
theorem eval_isNull (inner : Expr) :
    (isNull inner).eval db scope =
      (inner.eval db scope).map fun value => .bool value.isNull := rfl

@[simp]
theorem eval_isNotNull (inner : Expr) :
    (isNotNull inner).eval db scope =
      (inner.eval db scope).map fun value => .bool !value.isNull := rfl

@[simp]
theorem eval_typeOf (inner : Expr) :
    (typeOf inner).eval db scope = (inner.eval db scope).bind db.typeOf? := rfl

@[simp]
theorem eval_coalesce (first second : Expr) :
    (coalesce first second).eval db scope =
      (first.eval db scope).bind fun value =>
        if value.isNull then second.eval db scope else some value := rfl

@[simp]
theorem eval_cases (condition whenTrue otherwise : Expr) :
    (cases condition whenTrue otherwise).eval db scope =
      ((condition.eval db scope).bind Value.truth?).bind fun truth =>
        if truth = some true then whenTrue.eval db scope else otherwise.eval db scope := rfl

@[simp]
theorem eval_existsElement (items : Expr) (depth : Nat) (condition : Expr) :
    (existsElement items depth condition).eval db scope =
      ((items.eval db scope).bind Value.elements?).bind fun elements =>
        (elements.mapM fun element =>
          (condition.eval db (scope.bind depth element)).bind Value.truth?).map fun truths =>
            .bool (truths.any (· == some true)) := rfl

end Eval

end Expr

end Sql

end DocStore
