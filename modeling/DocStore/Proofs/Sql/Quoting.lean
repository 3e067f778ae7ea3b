import DocStore.Proofs.Sql.Grouped
import DocStore.Sql.Statement

/-!
# What statements quote

The text of a statement on a table is cut into lexemes like the text of an expression, so each of
its quoted texts is closed and is read as what was quoted. What is left when all quoted texts are
emptied is the text outside the quotes.
-/

namespace DocStore.Sql

namespace Lexeme

/-- What a string literal quotes. -/
def literal? : Lexeme → Option String
  | literal content => some content
  | _ => none

/-- What a quoted identifier quotes. -/
def name? : Lexeme → Option String
  | name content => some content
  | _ => none

/-- The lexeme with nothing between its quote marks. -/
def emptied : Lexeme → Lexeme
  | literal _ => literal ""
  | name _ => name ""
  | other => other

end Lexeme

def spell (lexemes : List Lexeme) : String := String.ofList (lexemes.flatMap Lexeme.spelling)

theorem spell_append (before behind : List Lexeme) :
    spell (before ++ behind) = spell before ++ spell behind := by
  rw [spell, List.flatMap_append, String.ofList_append]
  rfl

theorem spell_eq {text : String} {lexemes : List Lexeme}
    (same : text.toList = lexemes.flatMap Lexeme.spelling) : spell lexemes = text := by
  rw [spell, ← same, String.ofList_toList]

theorem spell_lexemes (expr : Expr) : spell expr.lexemes = expr.text :=
  spell_eq expr.toList_text

/-- The quoted identifiers of a text; `none` when the text is not cut into lexemes. -/
def quotedNames? (text : String) : Option (List String) :=
  (lexemes? text).map fun lexemes => lexemes.filterMap Lexeme.name?

/-- The string literals of a text. -/
def quotedLiterals? (text : String) : Option (List String) :=
  (lexemes? text).map fun lexemes => lexemes.filterMap Lexeme.literal?

/-- The text outside quotes, with the marks around nothing for each quoted text. -/
def outside? (text : String) : Option String :=
  (lexemes? text).map fun lexemes => spell (lexemes.map Lexeme.emptied)

/-! ## Lexemes that can be read back -/

/-- Nothing in front of the lexemes can run into them. -/
def BeginApart (lexemes : List Lexeme) : Prop := ∀ next ∈ lexemes.head?, next.separates = true

theorem beginApart_nil : BeginApart [] := fun _ member => nomatch member

theorem beginApart_cons {next : Lexeme} {rest : List Lexeme} (separates : next.separates = true) :
    BeginApart (next :: rest) := by
  rintro _ ⟨⟩
  exact separates

theorem beginApart_append {before behind : List Lexeme} (first : BeginApart before)
    (second : BeginApart behind) : BeginApart (before ++ behind) := by
  cases before with
  | nil => exact second
  | cons next rest => exact first

/-- Each lexeme is read as itself, and no two run into one another. -/
structure Cuttable (lexemes : List Lexeme) : Prop where
  readable : ∀ x ∈ lexemes, x.Readable
  apart : lexemes.IsChain Lexeme.Apart

namespace Cuttable

theorem lexemes?_spell {lexemes : List Lexeme} (cuttable : Cuttable lexemes) :
    lexemes? (spell lexemes) = some lexemes :=
  lexemes?_spelling lexemes cuttable.readable cuttable.apart

theorem of_grouped {expr : Expr} (grouped : expr.Grouped) : Cuttable expr.lexemes :=
  ⟨Expr.readable_lexemes grouped, Expr.apart_lexemes expr⟩

theorem nil : Cuttable [] := ⟨fun _ member => (nomatch member), .nil⟩

theorem singleton {lexeme : Lexeme} (readable : lexeme.Readable) : Cuttable [lexeme] :=
  ⟨List.forall_mem_singleton.mpr readable, .singleton lexeme⟩

theorem append {before behind : List Lexeme} (first : Cuttable before) (second : Cuttable behind)
    (begins : BeginApart behind) : Cuttable (before ++ behind) where
  readable := List.forall_mem_append.mpr ⟨first.readable, second.readable⟩
  apart := first.apart.append second.apart fun _ _ next member => .inr (begins next member)

/-- What ends with a separator can stand in front of anything. -/
theorem append_of_last {before behind : List Lexeme} (first : Cuttable before)
    (second : Cuttable behind) (separates : ∀ last ∈ before.getLast?, last.separates = true) :
    Cuttable (before ++ behind) where
  readable := List.forall_mem_append.mpr ⟨first.readable, second.readable⟩
  apart := first.apart.append second.apart fun last member _ _ => .inl (separates last member)

theorem append_of_blank {before behind : List Lexeme} (first : Cuttable before)
    (second : Cuttable behind) (ends : before.getLast? = some .blank) :
    Cuttable (before ++ behind) := by
  refine first.append_of_last second fun last member => ?_
  cases ends.symm.trans member
  rfl

end Cuttable

instance (lexemes : List Lexeme) : Decidable (Cuttable lexemes) :=
  decidable_of_iff ((∀ x ∈ lexemes, x.Readable) ∧ lexemes.IsChain Lexeme.Apart)
    ⟨fun both => ⟨both.1, both.2⟩, fun cuttable => ⟨cuttable.readable, cuttable.apart⟩⟩

theorem Lexeme.readable_number (value : Nat) : Lexeme.Readable (.number value) := by
  have spelled : (number value).spelling = Nat.toDigits 10 value := by simp [spelling]
  cases digits : Nat.toDigits 10 value with
  | nil => exact absurd digits Nat.toDigits_ne_nil
  | cons first rest =>
      have areDigits : ∀ c ∈ first :: rest, c.isDigit = true := by
        rw [← digits]
        exact fun c member => isDigit_of_mem_toDigits member
      refine ⟨.word (first :: rest), ?_, ?_⟩
      · rw [spelled, digits]
        exact Pending.ofText?_word fun c member => isWordChar_of_isDigit (areDigits c member)
      · have firstDigit := areDigits first (.head rest)
        have notDollar : first ≠ '$' := by
          rintro rfl
          exact absurd firstDigit (by decide)
        rw [Pending.finish?, ofRun?, if_neg notDollar, if_pos firstDigit, ← digits,
          digits?_toDigits]
        rfl

/-! ## Statements on a table -/

namespace Selection

/-- A term of the order, with what keeps it apart from the next one. -/
def termLexemes (term : Expr × Direction) : List Lexeme :=
  term.1.lexemes ++ [.blank, .word term.2.keyword, .mark ',', .blank]

def orderLexemes (order : List (Expr × Direction)) : List Lexeme :=
  if order.isEmpty then []
  else
    [.blank, .word "ORDER", .blank, .word "BY", .blank] ++ (order.flatMap termLexemes ++
      [.word "id", .blank, .word "COLLATE", .blank, .name "C", .blank, .word "ASC"])

def pageLexemes (selection : Selection) : List Lexeme :=
  (match selection.limit with
    | some limit => [.blank, .word "LIMIT", .blank, .number limit]
    | none => []) ++
  (if 0 < selection.skip then [.blank, .word "OFFSET", .blank, .number selection.skip] else [])

end Selection

namespace Statement

def selectOpening : List Lexeme :=
  [.word "SELECT", .blank, .word "id", .mark ',', .blank, .word "data", .blank, .word "FROM",
    .blank]

def countOpening : List Lexeme :=
  [.word "SELECT", .blank, .word "COUNT", .mark '(', .operator "*", .mark ')', .blank, .word "FROM",
    .blank]

/-- A table with the condition on its rows. -/
def fromLexemes (table : String) (filter : Expr) : List Lexeme :=
  [.name table, .blank, .word "WHERE", .blank] ++ filter.lexemes

def selectLexemes (table : String) (selection : Selection) : List Lexeme :=
  selectOpening ++ (fromLexemes table selection.filter ++
    (Selection.orderLexemes selection.order ++ selection.pageLexemes))

def countLexemes (table : String) (filter : Expr) : List Lexeme :=
  countOpening ++ fromLexemes table filter

end Statement

/-! ## Their text is the spelling of their lexemes -/

theorem intercalate_append_singleton {α : Type} (separator : List α) (terms : List (List α))
    (last : List α) :
    separator.intercalate (terms ++ [last]) =
      terms.flatMap (fun term => term ++ separator) ++ last := by
  induction terms with
  | nil => simp
  | cons term rest ih =>
      have more : rest ++ [last] ≠ [] :=
        List.append_ne_nil_of_right_ne_nil rest (List.cons_ne_nil last [])
      obtain ⟨second, others, split⟩ := List.exists_cons_of_ne_nil more
      rw [List.cons_append, split, List.intercalate_cons_cons, ← split, ih, List.flatMap_cons]
      simp only [List.append_assoc]

namespace Selection

theorem toList_orderText (selection : Selection) :
    selection.orderText.toList = (orderLexemes selection.order).flatMap Lexeme.spelling := by
  rw [orderText, orderLexemes]
  cases selection.order.isEmpty with
  | true => rfl
  | false =>
      have spelled (term : Expr × Direction) :
          (term.1.text ++ " " ++ term.2.keyword).toList ++ [',', ' '] =
            (termLexemes term).flatMap Lexeme.spelling := by
        simp [termLexemes, Expr.toList_text, Lexeme.spelling]
      rw [if_neg Bool.false_ne_true, if_neg Bool.false_ne_true, String.toList_append,
        String.toList_intercalate, List.map_append, List.map_singleton, List.map_map]
      rw [show ", ".toList = [',', ' '] from rfl, intercalate_append_singleton, List.flatMap_map,
        List.flatMap_append, List.flatMap_append, List.flatMap_assoc]
      simp only [Function.comp_apply, spelled]
      rfl

theorem toList_pageText (selection : Selection) :
    selection.pageText.toList = selection.pageLexemes.flatMap Lexeme.spelling := by
  rw [pageText, pageLexemes]
  cases selection.limit with
  | none =>
      by_cases skips : 0 < selection.skip
      · simp [skips, Lexeme.spelling]
      · simp [skips]
  | some limit =>
      by_cases skips : 0 < selection.skip
      · simp [skips, Lexeme.spelling]
      · simp [skips, Lexeme.spelling]

end Selection

namespace Statement

theorem spell_from (table : String) (filter : Expr) :
    spell (fromLexemes table filter) = identifier table ++ " WHERE " ++ filter.text := by
  refine spell_eq ?_
  simp [fromLexemes, Expr.toList_text, Lexeme.spelling]

theorem text_select (table : String) (selection : Selection) :
    (select table selection).text = spell (selectLexemes table selection) := by
  have parts : (select table selection).text = "SELECT id, data FROM " ++ identifier table ++
      " WHERE " ++ selection.filter.text ++ selection.orderText ++ selection.pageText := rfl
  have opening : "SELECT id, data FROM ".toList = selectOpening.flatMap Lexeme.spelling := rfl
  rw [parts, selectLexemes, spell_append, spell_append, spell_append, spell_eq opening, spell_from,
    spell_eq selection.toList_orderText, spell_eq selection.toList_pageText]
  simp only [String.append_assoc]

theorem text_count (table : String) (filter : Expr) :
    (count table filter).text = spell (countLexemes table filter) := by
  have parts : (count table filter).text = "SELECT COUNT(*) FROM " ++ identifier table ++
      " WHERE " ++ filter.text := rfl
  have opening : "SELECT COUNT(*) FROM ".toList = countOpening.flatMap Lexeme.spelling := rfl
  rw [parts, countLexemes, spell_append, spell_eq opening, spell_from]
  simp only [String.append_assoc]

end Statement

/-! ## Their lexemes can be read back -/

namespace Selection

theorem cuttable_termLexemes {term : Expr × Direction} (grouped : term.1.Grouped) :
    Cuttable (termLexemes term) := by
  refine (Cuttable.of_grouped grouped).append ?_ (beginApart_cons rfl)
  cases term.2 <;> decide

theorem getLast?_termLexemes (term : Expr × Direction) :
    (termLexemes term).getLast? = some .blank := by
  simp [termLexemes]

/-- Terms can stand in front of anything. -/
theorem cuttable_termLexemes_append {order : List (Expr × Direction)}
    (grouped : ∀ term ∈ order, term.1.Grouped) {behind : List Lexeme} (second : Cuttable behind) :
    Cuttable (order.flatMap termLexemes ++ behind) := by
  induction order with
  | nil => exact second
  | cons term rest ih =>
      have others := ih fun other member => grouped other (.tail term member)
      rw [List.flatMap_cons, List.append_assoc]
      exact (cuttable_termLexemes (grouped term (.head rest))).append_of_blank others
        (getLast?_termLexemes term)

theorem cuttable_orderLexemes {order : List (Expr × Direction)}
    (grouped : ∀ term ∈ order, term.1.Grouped) : Cuttable (orderLexemes order) := by
  have opening : Cuttable [.blank, .word "ORDER", .blank, .word "BY", .blank] := by decide
  have last : Cuttable [.word "id", .blank, .word "COLLATE", .blank, .name "C", .blank,
      .word "ASC"] := by decide
  rw [orderLexemes]
  split
  · exact .nil
  · exact opening.append_of_blank (cuttable_termLexemes_append grouped last) rfl

theorem beginApart_orderLexemes (order : List (Expr × Direction)) :
    BeginApart (orderLexemes order) := by
  rw [orderLexemes]
  split
  · exact beginApart_nil
  · exact beginApart_cons rfl

/-- A number behind a keyword. -/
theorem cuttable_clause {keyword : String}
    (opening : Cuttable [.blank, .word keyword, .blank]) (value : Nat) :
    Cuttable [.blank, .word keyword, .blank, .number value] :=
  opening.append_of_blank (.singleton (Lexeme.readable_number value)) rfl

theorem cuttable_pageLexemes (selection : Selection) : Cuttable selection.pageLexemes := by
  rw [pageLexemes]
  refine Cuttable.append ?_ ?_ ?_
  · cases selection.limit with
    | none => exact .nil
    | some value => exact cuttable_clause (by decide) value
  · split
    · exact cuttable_clause (by decide) selection.skip
    · exact .nil
  · split
    · exact beginApart_cons rfl
    · exact beginApart_nil

theorem beginApart_pageLexemes (selection : Selection) : BeginApart selection.pageLexemes := by
  rw [pageLexemes]
  refine beginApart_append ?_ ?_
  · split
    · exact beginApart_cons rfl
    · exact beginApart_nil
  · split
    · exact beginApart_cons rfl
    · exact beginApart_nil

end Selection

namespace Statement

theorem cuttable_fromLexemes (table : String) {filter : Expr} (grouped : filter.Grouped) :
    Cuttable (fromLexemes table filter) := by
  have condition : Cuttable [.blank, .word "WHERE", .blank] := by decide
  have named : Cuttable [.name table, .blank, .word "WHERE", .blank] :=
    (Cuttable.singleton (Lexeme.readable_name table)).append condition (beginApart_cons rfl)
  exact named.append_of_blank (.of_grouped grouped) rfl

theorem cuttable_countLexemes (table : String) {filter : Expr} (grouped : filter.Grouped) :
    Cuttable (countLexemes table filter) := by
  have opening : Cuttable countOpening := by decide
  exact opening.append_of_blank (cuttable_fromLexemes table grouped) rfl

theorem cuttable_selectLexemes (table : String) {selection : Selection}
    (grouped : selection.filter.Grouped) (terms : ∀ term ∈ selection.order, term.1.Grouped) :
    Cuttable (selectLexemes table selection) := by
  have opening : Cuttable selectOpening := by decide
  have behind : Cuttable (Selection.orderLexemes selection.order ++ selection.pageLexemes) :=
    (Selection.cuttable_orderLexemes terms).append selection.cuttable_pageLexemes
      selection.beginApart_pageLexemes
  have whole := (cuttable_fromLexemes table grouped).append behind
    (beginApart_append (Selection.beginApart_orderLexemes selection.order)
      selection.beginApart_pageLexemes)
  exact opening.append_of_blank whole rfl

end Statement

end DocStore.Sql
