import DocStore.Proofs.Sql.Lexeme

/-!
# The lexemes of expressions

An expression is a list of lexemes, its text is their spelling, and cutting the text gives the
lexemes back. Quoted texts keep to themselves: no content of a literal touches the lexemes around
it.
-/

namespace DocStore.Sql

def CastType.lexemes : CastType → List Lexeme
  | textArray => [.word "text", .mark '[', .mark ']']
  | type => [.word type.name]

def BinaryOp.lexemes : BinaryOp → List Lexeme
  | distinct => [.word "IS", .blank, .word "DISTINCT", .blank, .word "FROM"]
  | notDistinct => [.word "IS", .blank, .word "NOT", .blank, .word "DISTINCT", .blank, .word "FROM"]
  | and => [.word "AND"]
  | or => [.word "OR"]
  | op => [.operator op.symbol]

theorem CastType.toList_name (type : CastType) :
    type.name.toList = type.lexemes.flatMap Lexeme.spelling := by
  cases type <;> rfl

theorem BinaryOp.toList_symbol (op : BinaryOp) :
    op.symbol.toList = op.lexemes.flatMap Lexeme.spelling := by
  cases op <;> rfl

namespace Expr

/-- The literal of a list of keys. -/
def keysText (segments : List String) : String :=
  "\x7b" ++ String.intercalate "," segments ++ "\x7d"

def itemLexemes : List String → List Lexeme
  | [] => []
  | [item] => [.literal item]
  | item :: rest => .literal item :: .mark ',' :: .blank :: itemLexemes rest

def existsLexemes : List Lexeme :=
  [.word "EXISTS", .blank, .mark '(', .word "SELECT", .blank, .number 1, .blank, .word "FROM",
    .blank, .word "jsonb_array_elements", .mark '(']

def whereLexemes (depth : Nat) : List Lexeme :=
  [.mark ')', .blank, .word "AS", .blank, .element depth, .mark '(', .word "value", .mark ')',
    .blank, .word "WHERE", .blank]

def lexemes : Expr → List Lexeme
  | column name => [.word name]
  | element depth => [.element depth, .mark '.', .word "value"]
  | truth true => [.word "TRUE"]
  | truth false => [.word "FALSE"]
  | string value => [.literal value]
  | pathString segments => [.literal (keysText segments)]
  | textArray items => .word "ARRAY" :: .mark '[' :: (itemLexemes items ++ [.mark ']'])
  | param number => [.param number]
  | paren inner => .mark '(' :: (inner.lexemes ++ [.mark ')'])
  | cast inner type => inner.lexemes ++ .cast :: type.lexemes
  | binary op left right =>
      left.lexemes ++ .blank :: (op.lexemes ++ .blank :: right.lexemes)
  | not inner => .word "NOT" :: .blank :: inner.lexemes
  | isNull inner => inner.lexemes ++ [.blank, .word "IS", .blank, .word "NULL"]
  | isNotNull inner =>
      inner.lexemes ++ [.blank, .word "IS", .blank, .word "NOT", .blank, .word "NULL"]
  | anyOf inner => .word "ANY" :: .mark '(' :: (inner.lexemes ++ [.mark ')'])
  | typeOf inner => .word "jsonb_typeof" :: .mark '(' :: (inner.lexemes ++ [.mark ')'])
  | coalesce first second =>
      .word "COALESCE" :: .mark '(' ::
        (first.lexemes ++ .mark ',' :: .blank :: (second.lexemes ++ [.mark ')']))
  | cases condition whenTrue otherwise =>
      .word "CASE" :: .blank :: .word "WHEN" :: .blank ::
        (condition.lexemes ++ .blank :: .word "THEN" :: .blank ::
          (whenTrue.lexemes ++ .blank :: .word "ELSE" :: .blank ::
            (otherwise.lexemes ++ [.blank, .word "END"])))
  | existsElement items depth condition =>
      existsLexemes ++ (items.lexemes ++ (whereLexemes depth ++ (condition.lexemes ++ [.mark ')'])))

theorem flatMap_itemLexemes (items : List String) :
    (itemLexemes items).flatMap Lexeme.spelling =
      [',', ' '].intercalate (items.map fun item => (literal item).toList) := by
  induction items with
  | nil => rfl
  | cons item rest ih =>
      cases rest with
      | nil => simp [itemLexemes, Lexeme.spelling]
      | cons second others =>
          have head : itemLexemes (item :: second :: others) =
              .literal item :: .mark ',' :: .blank :: itemLexemes (second :: others) := rfl
          rw [head, List.flatMap_cons, List.flatMap_cons, List.flatMap_cons, ih]
          simp [Lexeme.spelling, List.intercalate_cons_cons]

/-- The text of an expression is the spelling of its lexemes. -/
theorem toList_text (expr : Expr) : expr.text.toList = expr.lexemes.flatMap Lexeme.spelling := by
  induction expr with
  | column name => simp [text, lexemes, Lexeme.spelling]
  | element depth => simp [text, lexemes, Lexeme.spelling]
  | truth value => cases value <;> rfl
  | string value => simp [text, lexemes, Lexeme.spelling]
  | pathString segments => simp [text, lexemes, Lexeme.spelling, keysText]
  | textArray items =>
      simp [text, lexemes, Lexeme.spelling, flatMap_itemLexemes, Function.comp_def]
  | param number => simp [text, lexemes, Lexeme.spelling]
  | paren inner ih => simp [text, lexemes, Lexeme.spelling, ih]
  | cast inner type ih => simp [text, lexemes, Lexeme.spelling, ih, type.toList_name]
  | binary op left right ihl ihr =>
      simp [text, lexemes, Lexeme.spelling, ihl, ihr, op.toList_symbol]
  | not inner ih => simp [text, lexemes, Lexeme.spelling, ih]
  | isNull inner ih => simp [text, lexemes, Lexeme.spelling, ih]
  | isNotNull inner ih => simp [text, lexemes, Lexeme.spelling, ih]
  | anyOf inner ih => simp [text, lexemes, Lexeme.spelling, ih]
  | typeOf inner ih => simp [text, lexemes, Lexeme.spelling, ih]
  | coalesce first second ihf ihs => simp [text, lexemes, Lexeme.spelling, ihf, ihs]
  | cases condition whenTrue otherwise ihc iht iho =>
      simp [text, lexemes, Lexeme.spelling, ihc, iht, iho]
  | existsElement items depth condition ihi ihc =>
      have opening : "EXISTS (SELECT 1 FROM jsonb_array_elements(".toList =
          existsLexemes.flatMap Lexeme.spelling := rfl
      have binding : ") AS ".toList ++ (aliasOf depth).toList ++ "(value) WHERE ".toList =
          (whereLexemes depth).flatMap Lexeme.spelling := by simp [whereLexemes, Lexeme.spelling]
      rw [text]
      unfold existsText
      rw [lexemes, List.flatMap_append, List.flatMap_append, List.flatMap_append,
        List.flatMap_append, ← opening, ← binding, ← ihi, ← ihc]
      simp only [String.toList_append, List.append_assoc]
      rfl

theorem apart_itemLexemes (items : List String) :
    (itemLexemes items).IsChain Lexeme.Apart := by
  induction items with
  | nil => exact .nil
  | cons item rest ih =>
      cases rest with
      | nil => exact .singleton _
      | cons second others =>
          exact .cons_cons (Or.inr rfl) (.cons_cons (Or.inl rfl) (ih.cons fun _ _ => Or.inl rfl))

theorem apart_separator {separator : Lexeme} {behind : List Lexeme}
    (separates : separator.separates = true) (apart : behind.IsChain Lexeme.Apart) :
    (separator :: behind).IsChain Lexeme.Apart :=
  apart.cons fun _ _ => Or.inl separates

theorem apart_word {word separator : Lexeme} {behind : List Lexeme}
    (separates : separator.separates = true)
    (apart : (separator :: behind).IsChain Lexeme.Apart) :
    (word :: separator :: behind).IsChain Lexeme.Apart :=
  .cons_cons (Or.inr separates) apart

/-- A separator keeps what stands before it apart from what stands behind it. -/
theorem apart_append {before behind : List Lexeme} {separator : Lexeme}
    (separates : separator.separates = true) (first : before.IsChain Lexeme.Apart)
    (second : behind.IsChain Lexeme.Apart) :
    (before ++ separator :: behind).IsChain Lexeme.Apart :=
  first.append (apart_separator separates second) fun _ _ next member => by
    cases member
    exact Or.inr separates

theorem apart_enclosed {inner : List Lexeme} (apart : inner.IsChain Lexeme.Apart)
    (opening closing : Char) :
    (.mark opening :: (inner ++ [.mark closing])).IsChain Lexeme.Apart :=
  apart_separator rfl (apart_append rfl apart .nil)

theorem apart_binaryOp (op : BinaryOp) : op.lexemes.IsChain Lexeme.Apart := by
  cases op <;> decide

theorem apart_castType (type : CastType) : type.lexemes.IsChain Lexeme.Apart := by
  cases type <;> decide

/-- No two lexemes of an expression run into one another. -/
theorem apart_lexemes (expr : Expr) : expr.lexemes.IsChain Lexeme.Apart := by
  induction expr with
  | element depth => exact apart_word rfl (apart_separator rfl (.singleton _))
  | truth value => cases value <;> exact .singleton _
  | textArray items => exact apart_word rfl (apart_enclosed (apart_itemLexemes items) '[' ']')
  | paren inner ih => exact apart_enclosed ih '(' ')'
  | cast inner type ih => exact apart_append rfl ih (apart_castType type)
  | binary op left right ihl ihr =>
      exact apart_append rfl ihl (apart_append rfl (apart_binaryOp op) ihr)
  | not inner ih => exact apart_word rfl (apart_separator rfl ih)
  | isNull inner ih =>
      exact apart_append rfl ih (apart_word rfl (apart_separator rfl (.singleton _)))
  | isNotNull inner ih =>
      exact apart_append rfl ih (apart_word rfl (apart_separator rfl (apart_word rfl
        (apart_separator rfl (.singleton _)))))
  | anyOf inner ih => exact apart_word rfl (apart_enclosed ih '(' ')')
  | typeOf inner ih => exact apart_word rfl (apart_enclosed ih '(' ')')
  | coalesce first second ihf ihs =>
      have last : (second.lexemes ++ [Lexeme.mark ')']).IsChain Lexeme.Apart :=
        apart_append rfl ihs .nil
      exact apart_word rfl (apart_separator rfl (apart_append rfl ihf (apart_separator rfl last)))
  | cases condition whenTrue otherwise ihc iht iho =>
      have last : (otherwise.lexemes ++ [Lexeme.blank, .word "END"]).IsChain Lexeme.Apart :=
        apart_append rfl iho (.singleton _)
      have branches : (whenTrue.lexemes ++ Lexeme.blank :: .word "ELSE" :: .blank ::
          (otherwise.lexemes ++ [.blank, .word "END"])).IsChain Lexeme.Apart :=
        apart_append rfl iht (apart_word rfl (apart_separator rfl last))
      exact apart_word rfl (apart_separator rfl (apart_word rfl (apart_separator rfl
        (apart_append rfl ihc (apart_word rfl (apart_separator rfl branches))))))
  | existsElement items depth condition ihi ihc =>
      have opening : existsLexemes.IsChain Lexeme.Apart := by decide
      have behind : [Lexeme.mark '(', .word "value", .mark ')', .blank, .word "WHERE",
          .blank].IsChain Lexeme.Apart := by decide
      have binding : (whereLexemes depth).IsChain Lexeme.Apart :=
        apart_separator rfl (apart_separator rfl (apart_word rfl (apart_separator rfl
          (apart_word rfl behind))))
      have tested : (whereLexemes depth ++ (condition.lexemes ++ [Lexeme.mark ')'])).IsChain
          Lexeme.Apart :=
        binding.append (apart_append rfl ihc .nil) fun last member _ _ => by
          cases member
          exact Or.inl rfl
      exact opening.append (apart_append rfl ihi tested.tail) fun last member _ _ => by
        cases member
        exact Or.inl rfl
  | _ => exact .singleton _

end Expr

end DocStore.Sql
