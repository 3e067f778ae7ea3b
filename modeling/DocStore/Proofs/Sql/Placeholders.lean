import DocStore.Proofs.Sql.QuotedText

/-!
# The placeholders of the statements of a query

The placeholders outside the quoted texts of a statement are the parameters among its lexemes. A
condition numbers them one after the other, in the order in which it binds its operands, whatever
it writes twice; paths, sort terms and pages have none.
-/

namespace DocStore

namespace Sql

/-- The number of a placeholder. -/
def Lexeme.placeholder? : Lexeme → Option Nat
  | param index => some index
  | _ => none

/-- The placeholders of a text outside its quoted texts, in the order of the text. -/
def placeholders? (text : String) : Option (List Nat) :=
  (lexemes? text).map fun lexemes => lexemes.filterMap Lexeme.placeholder?

namespace Expr

def placeholders : Expr → List Nat
  | column _ => []
  | element _ => []
  | truth _ => []
  | string _ => []
  | pathString _ => []
  | textArray _ => []
  | param number => [number]
  | paren inner => inner.placeholders
  | cast inner _ => inner.placeholders
  | binary _ left right => left.placeholders ++ right.placeholders
  | not inner => inner.placeholders
  | isNull inner => inner.placeholders
  | isNotNull inner => inner.placeholders
  | anyOf inner => inner.placeholders
  | typeOf inner => inner.placeholders
  | coalesce first second => first.placeholders ++ second.placeholders
  | cases condition whenTrue otherwise =>
      condition.placeholders ++ whenTrue.placeholders ++ otherwise.placeholders
  | existsElement items _ condition => items.placeholders ++ condition.placeholders

theorem placeholder?_itemLexemes (items : List String) :
    (itemLexemes items).filterMap Lexeme.placeholder? = [] := by
  induction items with
  | nil => rfl
  | cons item rest ih =>
      cases rest with
      | nil => rfl
      | cons second others =>
          rw [itemLexemes_cons_cons]
          exact ih

/-- The placeholders among the lexemes of an expression. -/
theorem placeholders_lexemes (expr : Expr) :
    expr.lexemes.filterMap Lexeme.placeholder? = expr.placeholders := by
  induction expr with
  | truth value => cases value <;> rfl
  | textArray items =>
      simp [lexemes, placeholders, Lexeme.placeholder?, List.filterMap_cons,
        placeholder?_itemLexemes]
  | cast inner type ih =>
      cases type <;> simp [lexemes, placeholders, Lexeme.placeholder?, CastType.lexemes, ih]
  | binary op left right ihl ihr =>
      cases op <;>
        simp [lexemes, placeholders, Lexeme.placeholder?, BinaryOp.lexemes, List.filterMap_cons,
          ihl, ihr]
  | existsElement items depth condition ihi ihc =>
      simp [lexemes, placeholders, Lexeme.placeholder?, existsLexemes, whereLexemes,
        List.filterMap_cons, ihi, ihc]
  | _ => simp_all [lexemes, placeholders, Lexeme.placeholder?, List.filterMap_cons]

theorem placeholders_foldl (op : BinaryOp) (first : Expr) (rest : List Expr) :
    (rest.foldl (.binary op) first).placeholders =
      first.placeholders ++ rest.flatMap placeholders := by
  induction rest generalizing first with
  | nil => simp
  | cons part others ih => simp [ih, placeholders]

theorem placeholders_join (op : BinaryOp) (empty : Bool) (parts : List Expr) :
    (join op empty parts).placeholders = parts.flatMap placeholders := by
  match parts with
  | [] => rfl
  | [only] => simp [join]
  | first :: second :: rest => simp [join, placeholders, placeholders_foldl]

end Expr

theorem placeholders_jsonAt (root : Expr) (path : FieldPath) :
    (jsonAt root path).placeholders = root.placeholders := by
  rcases path_cases path with ⟨rfl, _⟩ | ⟨key, rfl, single, _⟩ | ⟨below, array, _⟩
  · simp [jsonAt, FieldPath.isRoot, FieldPath.root]
  · simp [jsonAt, FieldPath.isRoot, single, Expr.placeholders]
  · simp [jsonAt, below, array, pathArray, Expr.placeholders]

theorem placeholders_textAt (root : Expr) (path : FieldPath) :
    (textAt root path).placeholders = root.placeholders := by
  rcases path_cases path with ⟨rfl, _⟩ | ⟨key, rfl, single, _⟩ | ⟨below, array, _⟩
  · simp [textAt, FieldPath.isRoot, FieldPath.root, Expr.placeholders]
  · simp [textAt, FieldPath.isRoot, single, Expr.placeholders]
  · simp [textAt, below, array, pathArray, Expr.placeholders]

end Sql

open Sql

namespace Predicate

/-- The numbers of so many parameters behind those that are bound. -/
def numbers (bound count : Nat) : List Nat := List.range' (bound + 1) count

theorem placeholders_conditions {parts : List Predicate}
    (single : ∀ part ∈ parts, ∀ root depth bound, root.placeholders = [] →
      (part.condition root depth bound).placeholders = numbers bound part.params.length)
    {root : Expr} (bare : root.placeholders = []) (depth bound : Nat) :
    (conditions root depth bound parts).flatMap Expr.placeholders =
      numbers bound (paramsOfAll parts).length := by
  induction parts generalizing bound with
  | nil => rfl
  | cons part rest ih =>
      have others := ih (fun other member => single other (.tail part member))
      rw [conditions, List.flatMap_cons, others, single part (.head rest) root depth bound bare,
        paramsOfAll, List.length_append, numbers, numbers, numbers, ← List.range'_append_1,
        Nat.add_right_comm]

/-- A condition numbers its parameters one after the other, behind those that are bound. -/
theorem placeholders_condition (predicate : Predicate) (root : Expr) (depth bound : Nat)
    (bare : root.placeholders = []) :
    (predicate.condition root depth bound).placeholders =
      numbers bound predicate.params.length := by
  induction predicate generalizing root depth bound with
  | const value => rfl
  | and parts ih | or parts ih =>
      rw [condition, Expr.placeholders_join, placeholders_conditions ih bare, params]
  | not part ih => exact ih root depth bound bare
  | elemMatch path part ih =>
      have inner := ih (.element (depth + 1)) (depth + 1) bound rfl
      simp [condition, params, itemsOf, hasType, Expr.placeholders, placeholders_jsonAt, bare,
        inner]
  | compare path comparison value =>
      simp [condition, params, hasType, Expr.placeholders, placeholders_jsonAt, placeholders_textAt,
        bare, numbers]
  | textEq path value | isNull path =>
      simp [condition, params, orFalse, Expr.placeholders, placeholders_textAt, bare, numbers]
  | jsonEq path value | present path | kindIs path kind | contains path value =>
      simp [condition, params, orFalse, Expr.placeholders, placeholders_jsonAt, bare, numbers]

theorem placeholders_filter (predicate : Predicate) :
    predicate.filter.placeholders = List.range' 1 predicate.params.length :=
  predicate.placeholders_condition .data 0 0 rfl

end Predicate

/-! ## Statements -/

namespace Sql

/-- Nothing in front of the condition of a statement or behind it is a placeholder. -/
theorem placeholders_orderLexemes {order : List (Expr × Direction)}
    (bare : ∀ term ∈ order, term.1.placeholders = []) :
    (Selection.orderLexemes order).filterMap Lexeme.placeholder? = [] := by
  have terms : (order.flatMap Selection.termLexemes).filterMap Lexeme.placeholder? = [] := by
    induction order with
    | nil => rfl
    | cons term rest ih =>
        have others := ih fun other member => bare other (.tail term member)
        rw [List.flatMap_cons, List.filterMap_append, others, Selection.termLexemes,
          List.filterMap_append, Expr.placeholders_lexemes, bare term (.head rest)]
        rfl
  rw [Selection.orderLexemes]
  split
  · rfl
  · rw [List.filterMap_append, List.filterMap_append, terms]
    rfl

theorem placeholders_pageLexemes (selection : Selection) :
    selection.pageLexemes.filterMap Lexeme.placeholder? = [] := by
  have clause (keyword : String) (value : Nat) :
      [Lexeme.blank, .word keyword, .blank, .number value].filterMap Lexeme.placeholder? = [] := rfl
  rw [Selection.pageLexemes, List.filterMap_append, List.append_eq_nil_iff]
  constructor
  · cases selection.limit with
    | none => rfl
    | some limit => exact clause "LIMIT" limit
  · split
    · exact clause "OFFSET" selection.skip
    · rfl

theorem placeholders_fromLexemes (table : String) (filter : Expr) :
    (Statement.fromLexemes table filter).filterMap Lexeme.placeholder? = filter.placeholders := by
  rw [Statement.fromLexemes, List.filterMap_append, Expr.placeholders_lexemes]
  rfl

end Sql

namespace CompiledQuery

theorem placeholders?_filter (query : CompiledQuery) :
    placeholders? query.predicate.filter.text = some (List.range' 1 query.params.length) := by
  have spelled : query.predicate.filter.text = spell query.predicate.filter.lexemes := by
    apply String.toList_inj.mp
    rw [Expr.toList_text, spell, String.toList_ofList]
  have cuttable := Cuttable.of_grouped query.predicate.grouped_filter
  rw [placeholders?, spelled, cuttable.lexemes?_spell, Option.map_some, Expr.placeholders_lexemes,
    Predicate.placeholders_filter]
  rfl

theorem placeholders?_count (query : CompiledQuery) (table : String) :
    placeholders? (query.countStatement table).text =
      some (List.range' 1 query.params.length) := by
  rw [placeholders?, lexemes?_count, Option.map_some, Statement.countLexemes,
    List.filterMap_append, placeholders_fromLexemes, Predicate.placeholders_filter]
  rfl

theorem placeholders?_select (query : CompiledQuery) (table : String) :
    placeholders? (query.selectStatement table).text =
      some (List.range' 1 query.params.length) := by
  have order :
      (Selection.orderLexemes query.selection.order).filterMap Lexeme.placeholder? = [] := by
    refine placeholders_orderLexemes fun term member => ?_
    obtain ⟨sorted, _, rfl⟩ := List.mem_map.mp member
    exact placeholders_jsonAt .data sorted.path
  rw [placeholders?, lexemes?_select, Option.map_some, Statement.selectLexemes,
    List.filterMap_append, List.filterMap_append, List.filterMap_append, placeholders_fromLexemes,
    order, placeholders_pageLexemes, selection, Predicate.placeholders_filter]
  exact congrArg some (List.append_nil _)

end CompiledQuery

end DocStore
