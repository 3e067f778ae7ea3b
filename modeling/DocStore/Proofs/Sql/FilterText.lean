import DocStore.Proofs.Induction
import DocStore.Proofs.Sql.Grouped
import DocStore.Sql.Filter

/-!
# The text of a filter reads back

A filter has all the parentheses that it needs: every condition can stand beside `AND`, `OR` and
behind `NOT`, also where a list of one part is written without parentheses.
-/

namespace DocStore

open Sql

namespace Sql

/-- A condition that can stand on either side of `AND` and of `OR`. -/
structure IsOperand (expr : Expr) : Prop where
  grouped : expr.Grouped
  tight : 2 ≤ expr.level

/-- An expression that can stand in front of a path operator or a cast. -/
structure IsPrimary (expr : Expr) : Prop where
  grouped : expr.Grouped
  tight : 7 ≤ expr.level

theorem IsPrimary.le {expr : Expr} (primary : IsPrimary expr) {level : Nat} (le : level ≤ 7) :
    level ≤ expr.level := Nat.le_trans le primary.tight

theorem IsPrimary.isOperand {expr : Expr} (primary : IsPrimary expr) : IsOperand expr :=
  ⟨primary.grouped, primary.le (by decide)⟩

theorem isPrimary_truth (value : Bool) : IsPrimary (.truth value) :=
  ⟨.truth value, Nat.le_refl 7⟩

theorem isPrimary_data : IsPrimary Expr.data := ⟨.data, Nat.le_refl 7⟩

theorem isPrimary_element (depth : Nat) : IsPrimary (.element depth) :=
  ⟨.element depth, Nat.le_refl 7⟩

theorem isPrimary_paren {inner : Expr} (grouped : inner.Grouped) : IsPrimary (.paren inner) :=
  ⟨.paren grouped, Nat.le_refl 7⟩

theorem isPrimary_typeOf {json : Expr} (grouped : json.Grouped) : IsPrimary (.typeOf json) :=
  ⟨.typeOf grouped, Nat.le_refl 7⟩

/-- An operator other than a connective, behind an expression that can stand in front of it. -/
theorem IsPrimary.grouped_binary {op : BinaryOp} {left right : Expr} (primary : IsPrimary left)
    (level : op.level ≤ 5) (rightGrouped : right.Grouped) (rightTight : 6 ≤ right.level)
    (plain : Reader.rightOperand? op right = some right) : (Expr.binary op left right).Grouped := by
  have leftTight : op.leftLevel ≤ 7 := by cases op <;> decide
  have rightLevel : op.level < right.level := Nat.lt_of_le_of_lt level rightTight
  exact .binary primary.grouped rightGrouped (primary.le leftTight) rightLevel plain

theorem grouped_foldl {op : BinaryOp} (connective : op = .and ∨ op = .or) {parts : List Expr}
    (operands : ∀ part ∈ parts, IsOperand part) {first : Expr} (grouped : first.Grouped)
    (tight : op.level ≤ first.level) : (parts.foldl (.binary op) first).Grouped := by
  induction parts generalizing first with
  | nil => exact grouped
  | cons part others ih =>
      have operand := operands part (.head others)
      have whole : (Expr.binary op first part).Grouped := by
        rcases connective with rfl | rfl
        · exact .binary grouped operand.grouped tight operand.tight rfl
        · exact .binary grouped operand.grouped tight (Nat.lt_of_succ_lt operand.tight) rfl
      exact ih (fun other member => operands other (.tail part member)) whole (Nat.le_refl _)

theorem isOperand_join {op : BinaryOp} (connective : op = .and ∨ op = .or) (empty : Bool)
    {parts : List Expr} (operands : ∀ part ∈ parts, IsOperand part) :
    IsOperand (join op empty parts) := by
  match parts with
  | [] => exact (isPrimary_truth empty).isOperand
  | [only] => exact operands only (.head [])
  | first :: second :: rest =>
      have operand := operands first (.head _)
      have tight : op.level ≤ first.level := by
        rcases connective with rfl | rfl
        · exact Nat.le_of_lt operand.tight
        · exact Nat.zero_le _
      have others : ∀ part ∈ second :: rest, IsOperand part := fun part member =>
        operands part (.tail first member)
      have chain := grouped_foldl connective others operand.grouped tight
      exact (isPrimary_paren chain).isOperand

theorem grouped_pathArray {path : FieldPath} (below : path.isRoot = false) :
    (pathArray path).Grouped := by
  obtain ⟨segments⟩ := path
  cases segments with
  | nil => cases below
  | cons first rest => exact .cast (.textArray first rest) (Nat.le_succ 6) .textArray

theorem isPrimary_jsonAt {root : Expr} (primary : IsPrimary root) (path : FieldPath) :
    IsPrimary (jsonAt root path) := by
  cases below : path.isRoot with
  | true => rw [jsonAt, if_pos below]; exact primary
  | false =>
      have ne : ¬ path.isRoot = true := by simp [below]
      rw [jsonAt, if_neg ne]
      cases simpleKey? path with
      | some key =>
          apply isPrimary_paren
          exact primary.grouped_binary (Nat.le_refl 5) (.string key) (Nat.le_succ 6) rfl
      | none =>
          apply isPrimary_paren
          exact primary.grouped_binary (Nat.le_refl 5) (grouped_pathArray below) (Nat.le_refl 6) rfl

theorem isPrimary_textAt {root : Expr} (primary : IsPrimary root) (path : FieldPath) :
    IsPrimary (textAt root path) := by
  cases below : path.isRoot with
  | true =>
      rw [textAt, if_pos below]
      exact isPrimary_paren (.path (by decide) primary.grouped (primary.le (by decide)) nofun)
  | false =>
      have ne : ¬ path.isRoot = true := by simp [below]
      rw [textAt, if_neg ne]
      cases simpleKey? path with
      | some key =>
          apply isPrimary_paren
          exact primary.grouped_binary (Nat.le_refl 5) (.string key) (Nat.le_succ 6) rfl
      | none =>
          apply isPrimary_paren
          exact primary.grouped_binary (Nat.le_refl 5) (grouped_pathArray below) (Nat.le_refl 6) rfl

theorem grouped_hasType {json : Expr} (grouped : json.Grouped) (kind : Json.Kind) :
    (hasType json kind).Grouped :=
  (isPrimary_typeOf grouped).grouped_binary (Nat.le_succ 4) (.string kind.name) (Nat.le_succ 6) rfl

theorem grouped_itemsOf {json : Expr} (grouped : json.Grouped) : (itemsOf json).Grouped :=
  .cases (grouped_hasType grouped .array) grouped (.cast (.string "[]") (Nat.le_succ 6) .jsonb)

/-- A comparison, false where it would be null. -/
theorem isOperand_orFalse {op : BinaryOp} {left right : Expr} (primary : IsPrimary left)
    (level : op.level ≤ 5) (rightGrouped : right.Grouped) (rightTight : 6 ≤ right.level)
    (plain : Reader.rightOperand? op right = some right) :
    IsOperand (orFalse (.binary op left right)) := by
  have compared := primary.grouped_binary level rightGrouped rightTight plain
  have whole : IsPrimary (orFalse (.binary op left right)) :=
    ⟨.coalesce compared (.truth false), Nat.le_refl 7⟩
  exact whole.isOperand

end Sql

namespace Predicate

theorem isOperand_conditions {parts : List Predicate}
    (operands : ∀ part ∈ parts, ∀ root depth bound, IsPrimary root →
      IsOperand (part.condition root depth bound))
    {root : Expr} (primary : IsPrimary root) (depth bound : Nat) :
    ∀ expr ∈ conditions root depth bound parts, IsOperand expr := by
  induction parts generalizing bound with
  | nil => exact fun _ member => nomatch member
  | cons part rest ih =>
      rw [conditions]
      exact List.forall_mem_cons.mpr ⟨operands part (.head rest) root depth bound primary,
        ih (fun other member => operands other (.tail part member)) _⟩

theorem isOperand_condition (predicate : Predicate) (root : Expr) (depth bound : Nat)
    (primary : IsPrimary root) : IsOperand (predicate.condition root depth bound) := by
  induction predicate generalizing root depth bound with
  | const value => exact (isPrimary_truth value).isOperand
  | and parts ih =>
      exact isOperand_join (.inl rfl) true (isOperand_conditions ih primary depth bound)
  | or parts ih =>
      exact isOperand_join (.inr rfl) false (isOperand_conditions ih primary depth bound)
  | not part ih =>
      have inner := isPrimary_paren (ih root depth bound primary).grouped
      exact ⟨.not inner.grouped (inner.le (by decide)), Nat.le_refl 2⟩
  | textEq path value =>
      have text := isPrimary_textAt primary path
      exact isOperand_orFalse text (Nat.le_succ 4) (.param _) (Nat.le_succ 6) rfl
  | jsonEq path value =>
      have json := isPrimary_jsonAt primary path
      exact isOperand_orFalse json (Nat.le_succ 4) (.cast (.param _) (Nat.le_succ 6) .jsonb)
        (Nat.le_refl 6) rfl
  | isNull path =>
      have text := isPrimary_textAt primary path
      exact (isPrimary_paren (.isNull text.grouped (text.le (by decide)))).isOperand
  | compare path comparison value =>
      have text := isPrimary_textAt primary path
      have number : (Expr.cast (textAt root path) .float8).Grouped :=
        .cast text.grouped (text.le (by decide)) .float8
      have compared : (Expr.binary (comparisonOp comparison) (.cast (textAt root path) .float8)
          (.param (bound + 1))).Grouped := by
        cases comparison
        all_goals exact .binary number (.param _) (Nat.le_succ 5) (by decide : 4 < 7) rfl
      have guarded := grouped_hasType (isPrimary_jsonAt primary path).grouped .number
      exact (isPrimary_paren (.cases guarded compared (.truth false))).isOperand
  | present path =>
      have json := isPrimary_jsonAt primary path
      exact (isPrimary_paren (.isNotNull json.grouped (json.le (by decide)))).isOperand
  | kindIs path kind =>
      have kindOf := isPrimary_typeOf (isPrimary_jsonAt primary path).grouped
      exact isOperand_orFalse kindOf (Nat.le_succ 4) (.param _) (Nat.le_succ 6) rfl
  | contains path value =>
      have json := isPrimary_jsonAt primary path
      exact isOperand_orFalse json (Nat.le_refl 5) (.cast (.param _) (Nat.le_succ 6) .jsonb)
        (Nat.le_refl 6) rfl
  | elemMatch path part ih =>
      have items := grouped_itemsOf (isPrimary_jsonAt primary path).grouped
      have inner := ih _ (depth + 1) bound (isPrimary_element (depth + 1))
      have whole : IsPrimary ((Predicate.elemMatch path part).condition root depth bound) :=
        ⟨.existsElement items _ inner.grouped, Nat.le_refl 7⟩
      exact whole.isOperand

theorem grouped_filter (predicate : Predicate) : predicate.filter.Grouped :=
  (isOperand_condition predicate .data 0 0 isPrimary_data).grouped

/-- The text of a filter stands for the filter. -/
theorem ofText?_filter (predicate : Predicate) :
    Expr.ofText? predicate.filter.text = some predicate.filter :=
  Expr.ofText?_text predicate.grouped_filter

end Predicate

end DocStore
