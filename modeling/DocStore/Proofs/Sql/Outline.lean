import DocStore.Proofs.Sql.FilterText
import DocStore.Proofs.Sql.Quoting
import DocStore.Query.Compiled

/-!
# What a query writes into its statements

The table is named in quotes, the segments of paths stand in literals, and operands are sent as
arguments. So the text outside the quotes is that of the outline of the query, in which every path
is replaced by one of the same kind and every operand by a standard one.
-/

namespace DocStore

open Sql

/-! ## Literals -/

/-- What literals of a condition come from: the value at a path, its text form, or a text that is
always the same. -/
inductive Mention where
  | value (path : FieldPath)
  | textForm (path : FieldPath)
  | fixed (text : String)

def Mention.literals : Mention → List String
  | value path => path.segments
  | textForm path => if path.isRoot then ["\x7b\x7d"] else path.segments
  | fixed text => [text]

namespace Predicate

mutual

/-- What the literals of the condition come from, in the order of a walk. -/
def mentions : Predicate → List Mention
  | .const _ => []
  | .and parts => mentionsOfAll parts
  | .or parts => mentionsOfAll parts
  | .not part => mentions part
  | .textEq path _ => [.textForm path]
  | .jsonEq path _ => [.value path]
  | .isNull path => [.textForm path]
  | .compare path _ _ => [.value path, .fixed "number", .textForm path]
  | .exists path => [.value path]
  | .kindIs path _ => [.value path]
  | .contains path _ => [.value path]
  | .elemMatch path part =>
      [.value path, .fixed "array", .value path, .fixed "[]"] ++ mentions part

def mentionsOfAll : List Predicate → List Mention
  | [] => []
  | part :: rest => mentions part ++ mentionsOfAll rest

end

end Predicate

namespace Sql

namespace Expr

/-- The contents of the string literals in the text of an expression. -/
def literals : Expr → List String
  | column _ => []
  | element _ => []
  | truth _ => []
  | string value => [value]
  | pathString segments => [keysText segments]
  | textArray items => items
  | param _ => []
  | paren inner => inner.literals
  | cast inner _ => inner.literals
  | binary _ left right => left.literals ++ right.literals
  | not inner => inner.literals
  | isNull inner => inner.literals
  | isNotNull inner => inner.literals
  | anyOf inner => inner.literals
  | typeOf inner => inner.literals
  | coalesce first second => first.literals ++ second.literals
  | cases condition whenTrue otherwise =>
      condition.literals ++ whenTrue.literals ++ otherwise.literals
  | existsElement items _ condition => items.literals ++ condition.literals

/-- The expression with nothing in its literals. -/
def masked : Expr → Expr
  | column name => column name
  | element depth => element depth
  | truth value => truth value
  | string _ => string ""
  | pathString _ => string ""
  | textArray items => textArray (items.map fun _ => "")
  | param number => param number
  | paren inner => paren inner.masked
  | cast inner type => cast inner.masked type
  | binary op left right => binary op left.masked right.masked
  | not inner => not inner.masked
  | isNull inner => isNull inner.masked
  | isNotNull inner => isNotNull inner.masked
  | anyOf inner => anyOf inner.masked
  | typeOf inner => typeOf inner.masked
  | coalesce first second => coalesce first.masked second.masked
  | cases condition whenTrue otherwise =>
      cases condition.masked whenTrue.masked otherwise.masked
  | existsElement items depth condition => existsElement items.masked depth condition.masked

theorem itemLexemes_cons_cons (item second : String) (others : List String) :
    itemLexemes (item :: second :: others) =
      .literal item :: .mark ',' :: .blank :: itemLexemes (second :: others) := rfl

theorem literals_itemLexemes (items : List String) :
    (itemLexemes items).filterMap Lexeme.literal? = items := by
  induction items with
  | nil => rfl
  | cons item rest ih =>
      cases rest with
      | nil => rfl
      | cons second others =>
          rw [itemLexemes_cons_cons]
          exact congrArg (item :: ·) ih

theorem name?_itemLexemes (items : List String) : ∀ x ∈ itemLexemes items, x.name? = none := by
  induction items with
  | nil => exact fun _ member => nomatch member
  | cons item rest ih =>
      cases rest with
      | nil => exact List.forall_mem_singleton.mpr rfl
      | cons second others =>
          rw [itemLexemes_cons_cons]
          simp only [List.forall_mem_cons]
          exact ⟨rfl, rfl, rfl, ih⟩

theorem emptied_itemLexemes (items : List String) :
    (itemLexemes items).map Lexeme.emptied = itemLexemes (items.map fun _ => "") := by
  induction items with
  | nil => rfl
  | cons item rest ih =>
      cases rest with
      | nil => rfl
      | cons second others =>
          rw [itemLexemes_cons_cons]
          exact congrArg ([Lexeme.literal "", .mark ',', .blank] ++ ·) ih

/-- The string literals among the lexemes of an expression. -/
theorem literals_lexemes (expr : Expr) :
    expr.lexemes.filterMap Lexeme.literal? = expr.literals := by
  induction expr with
  | truth value => cases value <;> rfl
  | textArray items =>
      simp [lexemes, literals, Lexeme.literal?, List.filterMap_cons, literals_itemLexemes]
  | cast inner type ih =>
      cases type <;> simp [lexemes, literals, Lexeme.literal?, CastType.lexemes, ih]
  | binary op left right ihl ihr =>
      cases op <;>
        simp [lexemes, literals, Lexeme.literal?, BinaryOp.lexemes, List.filterMap_cons, ihl, ihr]
  | existsElement items depth condition ihi ihc =>
      simp [lexemes, literals, Lexeme.literal?, existsLexemes, whereLexemes, List.filterMap_cons,
        ihi, ihc]
  | _ => simp_all [lexemes, literals, Lexeme.literal?, List.filterMap_cons]

/-- An expression quotes no name. -/
theorem name?_lexemes (expr : Expr) : ∀ x ∈ expr.lexemes, x.name? = none := by
  induction expr with
  | truth value => cases value <;> simp [lexemes, Lexeme.name?]
  | textArray items =>
      simp only [lexemes, List.forall_mem_cons, List.forall_mem_append]
      exact ⟨rfl, rfl, name?_itemLexemes items, by simp [Lexeme.name?]⟩
  | cast inner type ih =>
      simp only [lexemes, List.forall_mem_cons, List.forall_mem_append]
      refine ⟨ih, rfl, ?_⟩
      cases type <;> decide
  | binary op left right ihl ihr =>
      simp only [lexemes, List.forall_mem_cons, List.forall_mem_append]
      refine ⟨ihl, rfl, ?_, rfl, ihr⟩
      cases op <;> decide
  | existsElement items depth condition ihi ihc =>
      have binding : ∀ x ∈ whereLexemes depth, x.name? = none := by
        simp [whereLexemes, Lexeme.name?]
      simp only [lexemes, List.forall_mem_append]
      exact ⟨by decide, ihi, binding, ihc, by decide⟩
  | _ =>
      simp only [lexemes, List.forall_mem_cons, List.forall_mem_append]
      simp_all [Lexeme.name?]

theorem emptied_lexemes (expr : Expr) :
    expr.lexemes.map Lexeme.emptied = expr.masked.lexemes := by
  induction expr with
  | truth value => cases value <;> rfl
  | textArray items => simp [lexemes, masked, Lexeme.emptied, emptied_itemLexemes]
  | cast inner type ih =>
      cases type <;> simp [lexemes, masked, Lexeme.emptied, CastType.lexemes, ih]
  | binary op left right ihl ihr =>
      cases op <;> simp [lexemes, masked, Lexeme.emptied, BinaryOp.lexemes, ihl, ihr]
  | existsElement items depth condition ihi ihc =>
      simp [lexemes, masked, Lexeme.emptied, existsLexemes, whereLexemes, ihi, ihc]
  | _ => simp_all [lexemes, masked, Lexeme.emptied]

/-! ## The expressions of conditions -/

theorem literals_foldl (op : BinaryOp) (first : Expr) (rest : List Expr) :
    (rest.foldl (.binary op) first).literals = first.literals ++ rest.flatMap literals := by
  induction rest generalizing first with
  | nil => simp
  | cons part others ih => simp [ih, literals]

theorem literals_join (op : BinaryOp) (empty : Bool) (parts : List Expr) :
    (join op empty parts).literals = parts.flatMap literals := by
  match parts with
  | [] => rfl
  | [only] => simp [join]
  | first :: second :: rest => simp [join, literals, literals_foldl]

theorem masked_foldl (op : BinaryOp) (first : Expr) (rest : List Expr) :
    (rest.foldl (.binary op) first).masked = (rest.map masked).foldl (.binary op) first.masked := by
  induction rest generalizing first with
  | nil => rfl
  | cons part others ih => exact ih (.binary op first part)

theorem masked_join (op : BinaryOp) (empty : Bool) (parts : List Expr) :
    (join op empty parts).masked = join op empty (parts.map masked) := by
  match parts with
  | [] => rfl
  | [only] => rfl
  | first :: second :: rest => exact congrArg paren (masked_foldl op first (second :: rest))

end Expr

end Sql

/-! ## Outlines -/

/-- A path of the same kind: the root, a single key that is no position, or an array of as many
segments. -/
def FieldPath.outline (path : FieldPath) : FieldPath :=
  match simpleKey? path with
  | some _ => ⟨["key"]⟩
  | none => ⟨path.segments.map fun _ => "0"⟩

namespace Predicate

mutual

/-- The predicate with standard paths and operands in the places of its own ones. -/
def outline : Predicate → Predicate
  | .const value => .const value
  | .and parts => .and (outlines parts)
  | .or parts => .or (outlines parts)
  | .not part => .not (outline part)
  | .textEq path _ => .textEq path.outline ""
  | .jsonEq path _ => .jsonEq path.outline .null
  | .isNull path => .isNull path.outline
  | .compare path comparison _ => .compare path.outline comparison (.ofInt 0)
  | .exists path => .exists path.outline
  | .kindIs path _ => .kindIs path.outline .null
  | .contains path _ => .contains path.outline .null
  | .elemMatch path part => .elemMatch path.outline (outline part)

def outlines : List Predicate → List Predicate
  | [] => []
  | part :: rest => outline part :: outlines rest

end

end Predicate

namespace CompiledQuery

/-- The query with nothing of its paths and operands but their kinds. -/
def outline (query : CompiledQuery) : CompiledQuery where
  predicate := query.predicate.outline
  sort := query.sort.map fun term => ⟨term.path.outline, term.direction⟩
  skip := query.skip
  limit := query.limit

/-- What the literals of the select statement come from. -/
def mentions (query : CompiledQuery) : List Mention :=
  query.predicate.mentions ++ query.sort.map fun term => .value term.path

end CompiledQuery

/-! ## Conditions -/

namespace Sql

/-- The three kinds of paths, with their outlines. -/
theorem path_cases (path : FieldPath) :
    (path = .root ∧ path.outline = .root) ∨
    (∃ key, path = ⟨[key]⟩ ∧ simpleKey? path = some key ∧ path.outline = ⟨["key"]⟩) ∨
    (path.isRoot = false ∧ simpleKey? path = none ∧ path.outline.isRoot = false ∧
      simpleKey? path.outline = none ∧ path.outline = ⟨path.segments.map fun _ => "0"⟩) := by
  obtain ⟨segments⟩ := path
  match segments with
  | [] => exact .inl ⟨rfl, rfl⟩
  | [key] =>
      -- A key that reads as a position is written as an array of one segment.
      by_cases simple : (Numeral.index? key.toList).isNone = true
      · have single : simpleKey? ⟨[key]⟩ = some key := if_pos simple
        refine .inr (.inl ⟨key, rfl, single, ?_⟩)
        rw [FieldPath.outline, single]
      · have position : simpleKey? ⟨[key]⟩ = none := if_neg simple
        have outline : FieldPath.outline ⟨[key]⟩ = ⟨["0"]⟩ := by
          rw [FieldPath.outline, position]
          rfl
        refine .inr (.inr ⟨rfl, position, ?_⟩)
        rw [outline]
        exact ⟨rfl, rfl, rfl⟩
  | first :: second :: rest => exact .inr (.inr ⟨rfl, rfl, rfl, rfl, rfl⟩)

theorem simpleKey?_key : simpleKey? ⟨["key"]⟩ = some "key" := rfl

theorem masked_pathArray_outline {path : FieldPath}
    (outline : path.outline = ⟨path.segments.map fun _ => "0"⟩) :
    (pathArray path.outline).masked = (pathArray path).masked := by
  rw [outline, pathArray, pathArray, Expr.masked, Expr.masked, Expr.masked, Expr.masked,
    List.map_map]
  rfl

theorem literals_jsonAt (root : Expr) (path : FieldPath) :
    (jsonAt root path).literals = root.literals ++ path.segments := by
  rcases path_cases path with ⟨rfl, _⟩ | ⟨key, rfl, single, _⟩ | ⟨below, array, _⟩
  · simp [jsonAt, FieldPath.isRoot, FieldPath.root]
  · simp [jsonAt, FieldPath.isRoot, single, Expr.literals]
  · simp [jsonAt, below, array, pathArray, Expr.literals]

theorem literals_textAt (root : Expr) (path : FieldPath) :
    (textAt root path).literals = root.literals ++ (Mention.textForm path).literals := by
  rcases path_cases path with ⟨rfl, _⟩ | ⟨key, rfl, single, _⟩ | ⟨below, array, _⟩
  · rfl
  · simp [textAt, FieldPath.isRoot, single, Expr.literals, Mention.literals]
  · simp [textAt, below, array, pathArray, Expr.literals, Mention.literals]

/-- Nothing but the kind of a path shows outside the literals. -/
theorem masked_jsonAt (root : Expr) (path : FieldPath) :
    (jsonAt root path.outline).masked = (jsonAt root path).masked := by
  rcases path_cases path with ⟨rfl, outline⟩ | ⟨key, rfl, single, outline⟩ |
    ⟨below, array, belowOutline, arrayOutline, outline⟩
  · rw [outline]
  · rw [outline]
    simp [jsonAt, FieldPath.isRoot, single, simpleKey?_key, Expr.masked]
  · have same := masked_pathArray_outline outline
    simp [jsonAt, below, array, belowOutline, arrayOutline, Expr.masked, same]

theorem masked_textAt (root : Expr) (path : FieldPath) :
    (textAt root path.outline).masked = (textAt root path).masked := by
  rcases path_cases path with ⟨rfl, outline⟩ | ⟨key, rfl, single, outline⟩ |
    ⟨below, array, belowOutline, arrayOutline, outline⟩
  · rw [outline]
  · rw [outline]
    simp [textAt, FieldPath.isRoot, single, simpleKey?_key, Expr.masked]
  · have same := masked_pathArray_outline outline
    simp [textAt, below, array, belowOutline, arrayOutline, Expr.masked, same]

end Sql

namespace Predicate

theorem mentionsOfAll_eq_flatMap (parts : List Predicate) :
    mentionsOfAll parts = parts.flatMap mentions := by
  induction parts with
  | nil => rfl
  | cons part rest ih => rw [mentionsOfAll, ih, List.flatMap_cons]

theorem literals_conditions {parts : List Predicate}
    (single : ∀ part ∈ parts, ∀ root depth bound, root.literals = [] →
      (part.condition root depth bound).literals = part.mentions.flatMap Mention.literals)
    {root : Expr} (bare : root.literals = []) (depth bound : Nat) :
    (conditions root depth bound parts).flatMap Expr.literals =
      (parts.flatMap mentions).flatMap Mention.literals := by
  induction parts generalizing bound with
  | nil => rfl
  | cons part rest ih =>
      have others := ih (fun other member => single other (.tail part member))
      rw [conditions, List.flatMap_cons, List.flatMap_cons, List.flatMap_append, others,
        single part (.head rest) root depth bound bare]

/-- The literals of a condition are those of its mentions. -/
theorem literals_condition (predicate : Predicate) (root : Expr) (depth bound : Nat)
    (bare : root.literals = []) :
    (predicate.condition root depth bound).literals =
      predicate.mentions.flatMap Mention.literals := by
  induction predicate generalizing root depth bound with
  | const value => rfl
  | and parts ih | or parts ih =>
      rw [condition, mentions, Expr.literals_join, mentionsOfAll_eq_flatMap,
        literals_conditions ih bare]
  | not part ih => exact ih root depth bound bare
  | elemMatch path part ih =>
      have inner := ih (.element (depth + 1)) (depth + 1) bound rfl
      simp [condition, mentions, itemsOf, hasType, Expr.literals, literals_jsonAt, bare, inner,
        Mention.literals, Json.Kind.name]
  | compare path comparison value =>
      simp [condition, mentions, hasType, Expr.literals, literals_jsonAt, literals_textAt, bare,
        Mention.literals, Json.Kind.name]
  | textEq path value | isNull path =>
      simp [condition, mentions, orFalse, Expr.literals, literals_textAt, bare]
  | jsonEq path value | present path | kindIs path kind | contains path value =>
      simp [condition, mentions, orFalse, Expr.literals, literals_jsonAt, bare, Mention.literals]

theorem length_params_outlines {parts : List Predicate}
    (same : ∀ part ∈ parts, (params part.outline).length = (params part).length) :
    (paramsOfAll (outlines parts)).length = (paramsOfAll parts).length := by
  induction parts with
  | nil => rfl
  | cons part rest ih =>
      have others := ih fun other member => same other (.tail part member)
      rw [outlines, paramsOfAll, paramsOfAll, List.length_append, List.length_append, others,
        same part (.head rest)]

theorem length_params_outline (predicate : Predicate) :
    (params predicate.outline).length = (params predicate).length := by
  induction predicate with
  | and parts ih | or parts ih => exact length_params_outlines ih
  | not part ih | elemMatch path part ih => exact ih
  | _ => rfl

theorem masked_conditions {parts : List Predicate}
    (same : ∀ part ∈ parts, ∀ root depth bound,
      (part.outline.condition root depth bound).masked = (part.condition root depth bound).masked)
    (root : Expr) (depth bound : Nat) :
    (conditions root depth bound (outlines parts)).map Expr.masked =
      (conditions root depth bound parts).map Expr.masked := by
  induction parts generalizing bound with
  | nil => rfl
  | cons part rest ih =>
      have others := ih fun other member => same other (.tail part member)
      rw [outlines, conditions, conditions, List.map_cons, List.map_cons, length_params_outline,
        others, same part (.head rest)]

/-- Outside its literals, a condition is that of the outline. -/
theorem masked_condition (predicate : Predicate) (root : Expr) (depth bound : Nat) :
    (predicate.outline.condition root depth bound).masked =
      (predicate.condition root depth bound).masked := by
  induction predicate generalizing root depth bound with
  | const value => rfl
  | and parts ih | or parts ih =>
      rw [outline, condition, condition, Expr.masked_join, Expr.masked_join, masked_conditions ih]
  | not part ih => exact congrArg (fun inner => Expr.not (.paren inner)) (ih root depth bound)
  | elemMatch path part ih =>
      simp [outline, condition, itemsOf, hasType, Expr.masked, masked_jsonAt, ih]
  | compare path comparison value =>
      simp [outline, condition, hasType, Expr.masked, masked_jsonAt, masked_textAt]
  | textEq path value | isNull path =>
      simp [outline, condition, orFalse, Expr.masked, masked_textAt]
  | jsonEq path value | present path | kindIs path kind | contains path value =>
      simp [outline, condition, orFalse, Expr.masked, masked_jsonAt]

end Predicate

end DocStore
