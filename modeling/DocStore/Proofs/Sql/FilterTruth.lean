import DocStore.Json.Reader
import DocStore.Proofs.Sql.FilterText
import DocStore.Proofs.Sql.Truth
import Mathlib.Data.List.Forall2

/-!
# Filters mean what their predicates mean

The text of a filter, read with the precedence of operators and evaluated on the stored document,
is true where the predicate holds and false everywhere else. It is never null, so that a negation
around it is the negation of the predicate. The exception are comparisons with NaN, which hold of no
number, while a database puts NaN after every number.
-/

namespace DocStore

open Sql

/-! ## Numbers below a path -/

namespace Json

theorem HasNumber.of_step {number : Number} {json found : Json} {segment : String}
    (step : FieldPath.step json segment = some found) (inside : found.HasNumber number) :
    json.HasNumber number := by
  cases json with
  | object entries =>
      obtain ⟨before, behind, rfl, _⟩ := List.lookup_eq_some_iff.mp step
      exact .entry (List.mem_append_right before (.head behind)) inside
  | array items =>
      obtain ⟨position, _, item⟩ := Option.bind_eq_some_iff.mp step
      simp only [FieldPath.itemAt?, Option.ite_none_left_eq_some] at item
      exact .item (List.mem_of_getElem? item.2) inside
  | _ => cases step

theorem HasNumber.of_lookup {number : Number} {json found : Json} {path : FieldPath}
    (looked : path.lookup json = some found) (inside : found.HasNumber number) :
    json.HasNumber number := by
  obtain ⟨segments⟩ := path
  rw [FieldPath.lookup] at looked
  induction segments generalizing json with
  | nil =>
      cases looked
      exact inside
  | cons segment rest ih =>
      rw [List.foldlM_cons] at looked
      obtain ⟨next, step, others⟩ := Option.bind_eq_some_iff.mp looked
      exact .of_step step (ih others)

theorem Kind.name_injective (a b : Kind) : (a.name == b.name) = (a == b) := by
  cases a <;> cases b <;> rfl

theorem text?_number (number : Number) : (Json.number number).text? = some number.text := by
  simp [text?, canonical, print]

end Json

namespace Sql

variable {db : Database}

/-! ## The parts of a condition -/

theorem eval_orFalse {scope : Scope} {condition : Expr} {truth : Option Bool}
    (evaluates : condition.eval db scope = some (.ofTruth truth)) :
    (orFalse condition).eval db scope = some (.bool (truth.getD false)) := by
  rw [orFalse, Expr.eval_coalesce, evaluates]
  cases truth with
  | none => rfl
  | some value => rfl

theorem member_eq (documented : db.Documented) {key : String}
    (notIndex : Numeral.index? key.toList = none) (json : Json) :
    db.member json key = FieldPath.lookup ⟨[key]⟩ json := by
  cases json with
  | object entries => exact documented.member_object entries key
  | array items =>
      rw [documented.member_other _ _ (by simp [Json.kind])]
      simp [FieldPath.lookup, FieldPath.step, notIndex]
  | _ =>
      rw [documented.member_other _ _ (by simp [Json.kind])]
      rfl

theorem simpleKey?_eq_some {path : FieldPath} {key : String} (simple : simpleKey? path = some key) :
    path = ⟨[key]⟩ ∧ Numeral.index? key.toList = none := by
  unfold simpleKey? at simple
  split at simple
  · next segment single =>
      split at simple
      · next isNone =>
          cases simple
          exact ⟨congrArg FieldPath.mk single, Option.isNone_iff_eq_none.mp isNone⟩
      · cases simple
  · cases simple

theorem eq_root_of_isRoot {path : FieldPath} (isRoot : path.isRoot = true) : path = ⟨[]⟩ :=
  congrArg FieldPath.mk (List.isEmpty_iff.mp isRoot)

/-- The value at a path, where SQL null stands for an absent one. -/
theorem eval_jsonAt (documented : db.Documented) {scope : Scope} {root : Expr} {json : Json}
    (rooted : root.eval db scope = some (.json json)) (path : FieldPath) :
    (jsonAt root path).eval db scope = some (.ofJson? (path.lookup json)) := by
  by_cases isRoot : path.isRoot = true
  · rw [jsonAt, if_pos isRoot, rooted, eq_root_of_isRoot isRoot]
    rfl
  · rw [jsonAt, if_neg isRoot]
    cases simple : simpleKey? path with
    | some key =>
        obtain ⟨rfl, notIndex⟩ := simpleKey?_eq_some simple
        simp [rooted, Database.binary?, Database.operate?, member_eq documented notIndex]
    | none =>
        simp [rooted, pathArray, Database.cast?, Database.binary?, Database.operate?,
          documented.at?]

/-- The text at a path, where SQL null stands for an absent value and for JSON null. -/
theorem eval_textAt (documented : db.Documented) {scope : Scope} {root : Expr} {json : Json}
    (rooted : root.eval db scope = some (.json json)) (path : FieldPath) :
    (textAt root path).eval db scope =
      some (.ofText? ((path.lookup json).bind Json.text?)) := by
  by_cases isRoot : path.isRoot = true
  · rw [textAt, if_pos isRoot, eq_root_of_isRoot isRoot]
    simp [rooted, Database.binary?, Database.operate?, documented.textAt?]
  · rw [textAt, if_neg isRoot]
    cases simple : simpleKey? path with
    | some key =>
        obtain ⟨rfl, notIndex⟩ := simpleKey?_eq_some simple
        simp [rooted, Database.binary?, Database.operate?, documented.memberText,
          member_eq documented notIndex]
    | none =>
        simp [rooted, pathArray, Database.cast?, Database.binary?, Database.operate?,
          documented.textAt?]

theorem eval_typeOf_found (documented : db.Documented) {scope : Scope} {expr : Expr}
    {found : Option Json} (evaluates : expr.eval db scope = some (.ofJson? found)) :
    (Expr.typeOf expr).eval db scope = some (.ofText? (found.map fun json => json.kind.name)) := by
  rw [Expr.eval_typeOf, evaluates]
  cases found with
  | none => rfl
  | some json => simp [Value.ofJson?, Value.ofText?, Database.typeOf?, documented.typeOf]

/-- Equality of texts is null where one of them is absent. -/
theorem eval_textEq {scope : Scope} {left right : Expr} {found : Option String} {value : String}
    (leftEvaluates : left.eval db scope = some (.ofText? found))
    (rightEvaluates : right.eval db scope = some (.text value)) :
    (Expr.binary .eq left right).eval db scope = some (.ofTruth (found.map (· == value))) := by
  rw [Expr.eval_binary, leftEvaluates, rightEvaluates]
  cases found <;> rfl

theorem eval_hasType (documented : db.Documented) {scope : Scope} {expr : Expr}
    {found : Option Json} (evaluates : expr.eval db scope = some (.ofJson? found))
    (kind : Json.Kind) :
    (hasType expr kind).eval db scope =
      some (.ofTruth (found.map fun json => json.kind == kind)) := by
  have name : (Expr.string kind.name).eval db scope = some (.text kind.name) := rfl
  rw [hasType, eval_textEq (eval_typeOf_found documented evaluates) name, Option.map_map]
  exact congrArg (fun truth => some (Value.ofTruth truth))
    (congrArg (found.map ·) (funext fun json => Json.Kind.name_injective json.kind kind))

theorem eval_itemsOf (documented : db.Documented) {scope : Scope} {expr : Expr}
    {found : Option Json} (evaluates : expr.eval db scope = some (.ofJson? found)) :
    (itemsOf expr).eval db scope =
      some (.json (.array ((found.bind Json.items?).getD []))) := by
  have noItems : (Expr.cast (.string "[]") .jsonb).eval db scope = some (.json (.array [])) := by
    simp [Database.cast?, documented.noItems]
  rw [itemsOf, Expr.eval_cases, eval_hasType documented evaluates, evaluates, noItems]
  cases found with
  | none => rfl
  | some json =>
      cases json with
      | array items => rfl
      | _ => rfl

/-- The expressions have these truth values, one by one. -/
def AllEvaluate (db : Database) (scope : Scope) : List Expr → List Bool → Prop :=
  List.Forall₂ fun part value => part.eval db scope = some (.bool value)

theorem eval_foldl {scope : Scope} {op : BinaryOp} {combine : Bool → Bool → Bool}
    (combines : ∀ a b, db.binary? op (.bool a) (.bool b) = some (.bool (combine a b)))
    {parts : List Expr} {values : List Bool} (evaluate : AllEvaluate db scope parts values)
    {first : Expr} {value : Bool} (firstEvaluates : first.eval db scope = some (.bool value)) :
    (parts.foldl (.binary op) first).eval db scope =
      some (.bool (values.foldl combine value)) := by
  induction evaluate generalizing first value with
  | nil => exact firstEvaluates
  | @cons part second _ _ partEvaluates _ ih =>
      have whole : (Expr.binary op first part).eval db scope =
          some (.bool (combine value second)) := by
        rw [Expr.eval_binary, firstEvaluates, partEvaluates]
        exact combines value second
      exact ih whole

/-- Joined conditions are combined, where the value of the empty list is neutral. -/
theorem eval_join {scope : Scope} {op : BinaryOp} {combine : Bool → Bool → Bool} {empty : Bool}
    (combines : ∀ a b, db.binary? op (.bool a) (.bool b) = some (.bool (combine a b)))
    (neutral : ∀ value, combine empty value = value) {parts : List Expr} {values : List Bool}
    (evaluate : AllEvaluate db scope parts values) :
    (join op empty parts).eval db scope = some (.bool (values.foldl combine empty)) := by
  cases evaluate with
  | nil => rfl
  | cons firstEvaluates restEvaluate =>
      rw [List.foldl_cons, neutral]
      cases restEvaluate with
      | nil => exact firstEvaluates
      | cons secondEvaluates others =>
          exact eval_foldl combines (.cons secondEvaluates others) firstEvaluates

/-- The arguments from a position on are the parameters of a condition. -/
def Scope.Binds (scope : Scope) (bound : Nat) (params : List Param) : Prop :=
  ∀ index param, params[index]? = some param → scope.args[bound + index]? = some (.param param)

theorem eval_boundParam {scope : Scope} {bound : Nat} {param : Param}
    (binds : scope.Binds bound [param]) :
    (Expr.param (bound + 1)).eval db scope = some (.ofArg (.param param)) := by
  have found : scope.args[bound]? = some (.param param) := binds 0 param rfl
  rw [Expr.eval_param, found]
  rfl

end Sql

namespace Predicate

attribute [simp] holds condition

variable {db : Database}

/-! ## Comparisons with NaN -/

mutual

/-- The predicate with NaN after every number: a comparison with it holds of all numbers or of
none. -/
def nanLast : Predicate → Predicate
  | .and parts => .and (allNanLast parts)
  | .or parts => .or (allNanLast parts)
  | .not part => .not (nanLast part)
  | .compare path comparison .nan =>
      if Float8.below comparison then .kindIs path .number else .const false
  | .elemMatch path part => .elemMatch path (nanLast part)
  | other => other

def allNanLast : List Predicate → List Predicate
  | [] => []
  | part :: rest => nanLast part :: allNanLast rest

end

/-- No operand is NaN. -/
def NanFree (predicate : Predicate) : Prop := Param.float .nan ∉ predicate.params

theorem allNanLast_eq_self {parts : List Predicate}
    (same : ∀ part ∈ parts, part.NanFree → part.nanLast = part)
    (free : Param.float .nan ∉ paramsOfAll parts) : allNanLast parts = parts := by
  induction parts with
  | nil => rfl
  | cons part rest ih =>
      rw [paramsOfAll, List.mem_append, not_or] at free
      rw [allNanLast, same part (.head rest) free.1,
        ih (fun other member => same other (.tail part member)) free.2]

theorem nanLast_eq_self {predicate : Predicate} (free : predicate.NanFree) :
    predicate.nanLast = predicate := by
  induction predicate using Predicate.induction with
  | and parts ih => exact congrArg Predicate.and (allNanLast_eq_self ih free)
  | or parts ih => exact congrArg Predicate.or (allNanLast_eq_self ih free)
  | not part ih => exact congrArg Predicate.not (ih free)
  | compare path comparison value =>
      cases value with
      | nan => exact absurd (.head []) free
      | _ => rfl
  | elemMatch path part ih => exact congrArg (Predicate.elemMatch path) (ih free)
  | _ => rfl

/-! ## The value of a condition -/

theorem foldl_and (parts : List Predicate) (json : Json) (value : Bool) :
    (parts.map fun part => part.holds json).foldl (· && ·) value =
      (value && allHold parts json) := by
  induction parts generalizing value with
  | nil => rw [allHold, Bool.and_true]; rfl
  | cons part rest ih => rw [List.map_cons, List.foldl_cons, ih, allHold, Bool.and_assoc]

theorem foldl_or (parts : List Predicate) (json : Json) (value : Bool) :
    (parts.map fun part => part.holds json).foldl (· || ·) value =
      (value || anyHolds parts json) := by
  induction parts generalizing value with
  | nil => rw [anyHolds, Bool.or_false]; rfl
  | cons part rest ih => rw [List.map_cons, List.foldl_cons, ih, anyHolds, Bool.or_assoc]

/-- The condition of a predicate, wherever its root and its parameters stand, has the truth value
of a second predicate on the value of the root. -/
def Decides (db : Database) (predicate decided : Predicate) : Prop :=
  ∀ (root : Expr) (depth bound : Nat) (scope : Scope) (json : Json),
    root.eval db scope = some (.json json) → db.CastsNumbers json →
    scope.Binds bound predicate.params →
      (predicate.condition root depth bound).eval db scope =
        some (.bool (decided.holds json))

theorem binds_append {scope : Scope} {bound : Nat} {first rest : List Param}
    (binds : scope.Binds bound (first ++ rest)) :
    scope.Binds bound first ∧ scope.Binds (bound + first.length) rest := by
  constructor
  · intro index param found
    have inside : index < first.length := (List.getElem?_eq_some_iff.mp found).1
    apply binds
    rw [List.getElem?_append_left inside]
    exact found
  · intro index param found
    rw [Nat.add_assoc]
    apply binds
    rw [List.getElem?_append_right (Nat.le_add_right _ _), Nat.add_sub_cancel_left]
    exact found

theorem evaluate_conditions {parts : List Predicate}
    (decides : ∀ part ∈ parts, part.Decides db part.nanLast) {root : Expr} {scope : Scope}
    {json : Json} (rooted : root.eval db scope = some (.json json)) (casts : db.CastsNumbers json)
    (depth : Nat) {bound : Nat} (binds : scope.Binds bound (paramsOfAll parts)) :
    AllEvaluate db scope (conditions root depth bound parts)
      ((allNanLast parts).map fun part => part.holds json) := by
  induction parts generalizing bound with
  | nil => exact .nil
  | cons part rest ih =>
      obtain ⟨partBinds, restBinds⟩ := binds_append binds
      exact .cons (decides part (.head rest) root depth bound scope json rooted casts partBinds)
        (ih (fun other member => decides other (.tail part member)) restBinds)

theorem map_getD_false {α : Type} (found : Option α) (p : α → Bool) :
    (found.map p).getD false = found.any p := by
  cases found <;> rfl

/-- A comparison of the value at a path with a JSON parameter. -/
theorem eval_jsonParam (documented : db.Documented) {op : BinaryOp} {compares : Json → Json → Bool}
    (operates : ∀ a b, db.binary? op (.json a) (.json b) = some (.bool (compares a b)))
    (passesNull : ∀ b, db.binary? op .null (.json b) = some .null) {root : Expr} {scope : Scope}
    {json : Json} (rooted : root.eval db scope = some (.json json)) (path : FieldPath)
    {bound : Nat} {value : Json} (binds : scope.Binds bound [.json value]) :
    (orFalse (.binary op (jsonAt root path) (.cast (.param (bound + 1)) .jsonb))).eval db scope =
      some (.bool ((path.lookup json).any (compares · value))) := by
  have cast : (Expr.cast (.param (bound + 1)) .jsonb).eval db scope = some (.json value) := by
    rw [Expr.eval_cast, eval_boundParam binds]
    rfl
  have compared : (Expr.binary op (jsonAt root path) (.cast (.param (bound + 1)) .jsonb)).eval
      db scope = some (.ofTruth ((path.lookup json).map (compares · value))) := by
    rw [Expr.eval_binary, eval_jsonAt documented rooted, cast]
    cases path.lookup json with
    | none => exact passesNull value
    | some found => exact operates found value
  rw [eval_orFalse compared, map_getD_false]

theorem decides_const (value : Bool) : (const value).Decides db (const value) := by
  intro root depth bound scope json _ _ _
  rw [condition, Expr.eval_truth, holds]

theorem decides_textEq (documented : db.Documented) (path : FieldPath) (value : String) :
    (textEq path value).Decides db (textEq path value) := by
  intro root depth bound scope json rooted _ binds
  have compared := eval_textEq (eval_textAt documented rooted path) (eval_boundParam binds)
  rw [condition, holds, eval_orFalse compared]
  cases (path.lookup json).bind Json.text? <;> rfl

theorem decides_jsonEq (documented : db.Documented) (path : FieldPath) (value : Json) :
    (jsonEq path value).Decides db (jsonEq path value) := by
  intro root depth bound scope json rooted _ binds
  have equal : ∀ a b, db.binary? .eq (.json a) (.json b) = some (.bool (Json.equal a b)) := by
    intro a b
    rw [← documented.equal]
    rfl
  exact eval_jsonParam documented equal (fun _ => rfl) rooted path binds

theorem decides_contains (documented : db.Documented) (path : FieldPath) (value : Json) :
    (contains path value).Decides db (contains path value) := by
  intro root depth bound scope json rooted _ binds
  have contains : ∀ a b,
      db.binary? .contains (.json a) (.json b) = some (.bool (Json.contains a b)) := by
    intro a b
    rw [← documented.contains]
    rfl
  exact eval_jsonParam documented contains (fun _ => rfl) rooted path binds

theorem decides_isNull (documented : db.Documented) (path : FieldPath) :
    (isNull path).Decides db (isNull path) := by
  intro root depth bound scope json rooted _ _
  rw [condition, holds, Expr.eval_paren, Expr.eval_isNull, eval_textAt documented rooted path]
  cases (path.lookup json).bind Json.text? <;> rfl

theorem decides_exists (documented : db.Documented) (path : FieldPath) :
    (Predicate.exists path).Decides db (Predicate.exists path) := by
  intro root depth bound scope json rooted _ _
  rw [condition, holds, Expr.eval_paren, Expr.eval_isNotNull, eval_jsonAt documented rooted path]
  cases path.lookup json <;> rfl

theorem decides_kindIs (documented : db.Documented) (path : FieldPath) (kind : Json.Kind) :
    (kindIs path kind).Decides db (kindIs path kind) := by
  intro root depth bound scope json rooted _ binds
  have compared := eval_textEq (eval_typeOf_found documented (eval_jsonAt documented rooted path))
    (eval_boundParam binds)
  rw [condition, holds, eval_orFalse compared, Option.map_map, map_getD_false]
  exact congrArg (fun p => some (Value.bool ((path.lookup json).any p)))
    (funext fun found => Json.Kind.name_injective found.kind kind)

/-- The text of a number is cast to its double; every other value is kept from the cast. -/
theorem eval_compare (documented : db.Documented) (path : FieldPath) (comparison : Comparison)
    (value : Binary64) {root : Expr} {depth bound : Nat} {scope : Scope} {json : Json}
    (rooted : root.eval db scope = some (.json json)) (casts : db.CastsNumbers json)
    (binds : scope.Binds bound [.float value]) :
    ((compare path comparison value).condition root depth bound).eval db scope =
      some (.bool (((path.lookup json).bind Json.double?).any fun number : Double =>
        Float8.compares comparison number value)) := by
  have guard := eval_hasType documented (eval_jsonAt documented rooted path) .number
  rw [condition, Expr.eval_paren, Expr.eval_cases, guard]
  cases looked : path.lookup json with
  | none => rfl
  | some found =>
      cases found with
      | number number =>
          have text : (textAt root path).eval db scope = some (.text number.text) := by
            rw [eval_textAt documented rooted path, looked, Option.bind_some, Json.text?_number]
            rfl
          have cast : (Expr.cast (textAt root path) .float8).eval db scope =
              some (.float number.toDouble) := by
            have casted := casts number (.of_lookup looked .here)
            rw [Expr.eval_cast, text, Option.bind_some, Database.cast?, casted]
            rfl
          have param : (Expr.param (bound + 1)).eval db scope = some (.float value) :=
            eval_boundParam binds
          have compared : (Expr.binary (comparisonOp comparison) (.cast (textAt root path) .float8)
              (.param (bound + 1))).eval db scope =
                some (.bool (Float8.compares comparison number.toDouble value)) := by
            rw [Expr.eval_binary, cast, param]
            cases comparison <;> rfl
          exact compared
      | _ => rfl

theorem decides_compare (documented : db.Documented) (path : FieldPath) (comparison : Comparison)
    {value : Binary64} (number : value ≠ .nan) :
    (compare path comparison value).Decides db (compare path comparison value) := by
  intro root depth bound scope json rooted casts binds
  rw [eval_compare documented path comparison value rooted casts binds, holds]
  have same (found : Double) : Float8.compares comparison found value =
      comparison.holds found value := Float8.compares_eq_holds comparison nofun number
  simp only [same]

/-- A comparison with NaN tells numbers from other values at most. -/
theorem decides_compare_nan (documented : db.Documented) (path : FieldPath)
    (comparison : Comparison) : (compare path comparison .nan).Decides db
      (if Float8.below comparison then .kindIs path .number else .const false) := by
  intro root depth bound scope json rooted casts binds
  rw [eval_compare documented path comparison .nan rooted casts binds]
  have last (found : Double) : Float8.compares comparison found .nan =
      Float8.below comparison := Float8.compares_nan comparison nofun
  simp only [last]
  cases Float8.below comparison with
  | false => simp
  | true =>
      simp only [if_true, holds]
      cases path.lookup json with
      | none => rfl
      | some found => cases found <;> rfl

theorem mapM_eq_map {α β : Type} {f : α → Option β} {g : α → β} {items : List α}
    (same : ∀ item ∈ items, f item = some (g item)) : items.mapM f = some (items.map g) := by
  induction items with
  | nil => rfl
  | cons item rest ih =>
      have others := ih fun other member => same other (.tail item member)
      rw [List.mapM_cons, same item (.head rest), others]
      rfl

theorem decides_elemMatch (documented : db.Documented) (path : FieldPath) {part decided : Predicate}
    (decides : part.Decides db decided) :
    (elemMatch path part).Decides db (elemMatch path decided) := by
  intro root depth bound scope json rooted casts binds
  have items := eval_itemsOf documented (eval_jsonAt documented rooted path)
  have elements : ∀ item ∈ ((path.lookup json).bind Json.items?).getD [],
      ((part.condition (.element (depth + 1)) (depth + 1) bound).eval db
        (scope.bind (depth + 1) item)).bind Value.truth? = some (some (decided.holds item)) := by
    intro item member
    have rootedItem : (Expr.element (depth + 1)).eval db (scope.bind (depth + 1) item) =
        some (.json item) := by
      simp [Scope.bind]
    have itemCasts : db.CastsNumbers item := by
      intro number inside
      cases looked : path.lookup json with
      | none => simp [looked] at member
      | some found =>
          cases found with
          | array _ =>
              rw [looked] at member
              exact casts number (.of_lookup looked (.item member inside))
          | _ => simp [looked, Json.items?] at member
    rw [decides _ _ _ _ item rootedItem itemCasts binds]
    rfl
  rw [condition, holds_elemMatch, Expr.eval_existsElement, items, Option.bind_some, Value.elements?,
    Option.bind_some]
  simp only [mapM_eq_map elements, Option.map_some, List.any_map]
  simp only [Function.comp_def, Option.some_beq_some, beq_true]

theorem decides_of_documented (documented : db.Documented) (predicate : Predicate) :
    predicate.Decides db predicate.nanLast := by
  induction predicate with
  | const value => exact decides_const value
  | and parts ih =>
      intro root depth bound scope json rooted casts binds
      rw [condition, nanLast, holds, eval_join (fun a b => by cases a <;> cases b <;> rfl)
        Bool.true_and (evaluate_conditions ih rooted casts depth binds), foldl_and, Bool.true_and]
  | or parts ih =>
      intro root depth bound scope json rooted casts binds
      rw [condition, nanLast, holds, eval_join (fun a b => by cases a <;> cases b <;> rfl)
        Bool.false_or (evaluate_conditions ih rooted casts depth binds), foldl_or, Bool.false_or]
  | not part ih =>
      intro root depth bound scope json rooted casts binds
      have inner := ih root depth bound scope json rooted casts binds
      rw [condition, nanLast, holds, Expr.eval_not, Expr.eval_paren, inner]
      rfl
  | textEq path value => exact decides_textEq documented path value
  | jsonEq path value => exact decides_jsonEq documented path value
  | isNull path => exact decides_isNull documented path
  | compare path comparison value =>
      cases value with
      | nan => exact decides_compare_nan documented path comparison
      | _ => exact decides_compare documented path comparison nofun
  | present path => exact decides_exists documented path
  | kindIs path kind => exact decides_kindIs documented path kind
  | contains path value => exact decides_contains documented path value
  | elemMatch path part ih => exact decides_elemMatch documented path ih

theorem eval_filter {db : Database} (documented : db.Documented) (predicate : Predicate)
    (id : String) (document : Json) (casts : db.CastsNumbers document) :
    predicate.filter.eval db (.ofRow id document (predicate.params.map Arg.param)) =
      some (.bool (predicate.nanLast.holds document)) := by
  have binds : (Scope.ofRow id document (predicate.params.map Arg.param)).Binds 0
      predicate.params := by
    intro index param found
    rw [Nat.zero_add]
    simp [Scope.ofRow, found]
  exact decides_of_documented documented predicate .data 0 0 _ document rfl casts binds

/-- The text of a filter, with its parameters as arguments, is true or false of a document as the
predicate with NaN after every number, and that is the predicate itself when no operand is NaN. -/
theorem filter_text_decides {db : Database} (documented : db.Documented) (predicate : Predicate)
    (id : String) (document : Json) (casts : db.CastsNumbers document) :
    ∃ condition, Expr.ofText? predicate.filter.text = some condition ∧
      condition.eval db (.ofRow id document (predicate.params.map Arg.param)) =
        some (.bool (predicate.nanLast.holds document)) ∧
      (predicate.NanFree → predicate.nanLast.holds document = predicate.holds document) := by
  refine ⟨predicate.filter, ofText?_filter predicate, ?decided, ?nanFree⟩
  case decided => exact eval_filter documented predicate id document casts
  case nanFree =>
    intro free
    rw [nanLast_eq_self free]

end Predicate

/-! ## A database that keeps the promises -/

/-- A database that reads JSON and numerals as the store itself does. -/
def Sql.Database.plain : Database where
  member
    | .object entries, key => entries.lookup key
    | _, _ => none
  memberText
    | .object entries, key => (entries.lookup key).bind Json.text?
    | _, _ => none
  at? json keys := FieldPath.lookup ⟨keys⟩ json
  textAt? json keys := (FieldPath.lookup ⟨keys⟩ json).bind Json.text?
  equal := Json.equal
  contains := Json.contains
  typeOf json := json.kind.name
  float8? text := (Numeral.double? text.toList).map Binary64.finite
  jsonb? := Json.read?

theorem Sql.Database.documented_plain : Database.plain.Documented where
  member_object entries key := by
    simp [Database.plain, FieldPath.lookup, FieldPath.step]
  member_other json key other := by
    cases json with
    | object entries => exact absurd rfl other
    | _ => rfl
  memberText json key := by cases json <;> rfl
  at? _ _ := rfl
  textAt? _ _ := rfl
  equal _ _ := rfl
  contains _ _ := rfl
  typeOf _ := rfl
  noItems := rfl

namespace Predicate

/-- A person of age 18 with a list of scores. -/
def sampleDocument : Json :=
  .object [("age", .ofNat 18), ("scores", .array [.ofNat 5, .null])]

/-- Not younger than 18 and below infinity, no name, and a score above 4. -/
def samplePredicate : Predicate :=
  .and [.not (.compare ⟨["age"]⟩ .lt (.ofInt 18)), .compare ⟨["age"]⟩ .lt (.infinite false),
    .isNull ⟨["name"]⟩, .elemMatch ⟨["scores"]⟩ (.compare .root .gt (.ofInt 4))]

theorem casts_sampleDocument : Sql.Database.plain.CastsNumbers sampleDocument := by
  intro number inside
  cases inside with
  | entry member inside =>
      simp at member
      rcases member with ⟨_, rfl⟩ | ⟨_, rfl⟩
      · cases inside
        rfl
      · cases inside with
        | item member inside =>
            simp at member
            rcases member with rfl | rfl
            · cases inside
              rfl
            · cases inside

theorem nanFree_samplePredicate : samplePredicate.NanFree := by
  simp [NanFree, samplePredicate, params, paramsOfAll, Binary64.ofInt]

theorem filter_text_decides_sample :
    Sql.Database.plain.Documented ∧ Sql.Database.plain.CastsNumbers sampleDocument ∧
      samplePredicate.NanFree ∧
      ∃ condition, Expr.ofText? samplePredicate.filter.text = some condition ∧
        condition.eval Sql.Database.plain
            (.ofRow "a" sampleDocument (samplePredicate.params.map Arg.param)) =
          some (.bool (samplePredicate.holds sampleDocument)) ∧
        samplePredicate.holds sampleDocument = true := by
  obtain ⟨condition, read, decided, nanFree⟩ := filter_text_decides
    Sql.Database.documented_plain samplePredicate "a" sampleDocument casts_sampleDocument
  rw [nanFree nanFree_samplePredicate] at decided
  exact ⟨Sql.Database.documented_plain, casts_sampleDocument, nanFree_samplePredicate,
    condition, read, decided, by decide⟩

/-- The filter that asks for a number below NaN selects every number, and the predicate none. -/
theorem filter_text_selects_below_nan :
    let predicate : Predicate := .compare ⟨["n"]⟩ .lt .nan
    let document := Json.object [("n", .ofNat 1)]
    Sql.Database.plain.Documented ∧ Sql.Database.plain.CastsNumbers document ∧
      predicate.holds document = false ∧
      ∃ condition, Expr.ofText? predicate.filter.text = some condition ∧
        condition.eval Sql.Database.plain
            (.ofRow "a" document (predicate.params.map Arg.param)) = some (.bool true) := by
  have casts : Sql.Database.plain.CastsNumbers (.object [("n", .ofNat 1)]) := by
    intro number inside
    cases inside with
    | entry member inside =>
        obtain ⟨_, rfl⟩ := Prod.mk.inj (List.mem_singleton.mp member)
        cases inside
        rfl
  exact ⟨Sql.Database.documented_plain, casts, rfl, _, ofText?_filter _,
    eval_filter Sql.Database.documented_plain _ "a" _ casts⟩

end Predicate

end DocStore
