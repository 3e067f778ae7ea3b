import DocStore.Proofs.Sql.FilterText
import DocStore.Proofs.Sql.Quoting

/-!
# What statements on rows command

A lookup, an insert, an update and a purge are read back from their texts: what they do to which
table, the condition on the rows that they do it to, and the placeholders of what they store.
-/

namespace DocStore.Sql

/-- A command on the rows of a table. New rows and new documents are given by placeholders. -/
inductive Command where
  | select (table : String) (condition : Expr)
  | insert (table : String) (id document : Nat)
  | update (table : String) (document : Nat) (condition : Expr)
  | delete (table : String) (condition : Expr)

namespace Command

/-- The expression that takes up all lexemes. -/
def condition? (tokens : List Lexeme) : Option Expr :=
  (Reader.expression? 0 tokens).bind Reader.whole?

def ofTokens? : List Lexeme → Option Command
  | .word "SELECT" :: .word "id" :: .mark ',' :: .word "data" :: .word "FROM" :: .name table ::
      .word "WHERE" :: rest => (condition? rest).map (select table)
  | .word "DELETE" :: .word "FROM" :: .name table :: .word "WHERE" :: rest =>
      (condition? rest).map (delete table)
  | .word "UPDATE" :: .name table :: .word "SET" :: .word "data" :: .operator "=" ::
      .param document :: .word "WHERE" :: rest => (condition? rest).map (update table document)
  | [.word "INSERT", .word "INTO", .name table, .mark '(', .word "id", .mark ',', .word "data",
      .mark ')', .word "VALUES", .mark '(', .param id, .mark ',', .param document, .mark ')',
      .word "ON", .word "CONFLICT", .mark '(', .word "id", .mark ')', .word "DO",
      .word "NOTHING"] => some (insert table id document)
  | _ => none

/-- The command that a text stands for. -/
def ofText? (text : String) : Option Command :=
  (lexemes? text).bind fun lexemes => ofTokens? (lexemes.filter (· ≠ .blank))

theorem condition?_tokens {expr : Expr} (grouped : expr.Grouped) :
    condition? expr.tokens = some expr := by
  rw [condition?, Reader.expression?_tokens grouped]
  rfl

end Command

/-! ## The conditions on single rows -/

theorem isPrimary_deletedFlag : IsPrimary deletedFlag :=
  isPrimary_paren (isPrimary_data.grouped_binary (Nat.le_refl 5) (.string _) (Nat.le_succ 6) rfl)

theorem grouped_trueJson : trueJson.Grouped := .cast (.string "true") (Nat.le_succ 6) .jsonb

theorem grouped_lastWrite {op : BinaryOp} (isPath : op ∈ [BinaryOp.path, .pathText]) :
    (Expr.binary op .data lastWritePath).Grouped := by
  refine .path isPath .data (by decide) fun key member => ?_
  simp only [List.mem_cons, List.not_mem_nil, or_false] at member
  rcases member with rfl | rfl <;> rfl

namespace Statement

theorem grouped_lookupCondition (withDeleted : Bool) : (lookupCondition withDeleted).Grouped := by
  have listed : (Expr.binary .eq .id (.anyOf (.param 1))).Grouped :=
    .binary .id (.anyOf (.param 1)) (by decide) (by decide) rfl
  cases withDeleted with
  | true => exact listed
  | false =>
      have kept : (Expr.binary .distinct deletedFlag trueJson).Grouped :=
        isPrimary_deletedFlag.grouped_binary (by decide) grouped_trueJson (by decide) rfl
      exact .binary listed kept (by decide) (by decide) rfl

theorem grouped_updateCondition : updateCondition.Grouped := by
  have own : (Expr.binary .eq .id (.param 1)).Grouped :=
    .binary .id (.param 1) (by decide) (by decide) rfl
  have revision : IsPrimary (.paren (.binary .keyText .data (.string Document.revisionField))) :=
    isPrimary_paren (isPrimary_data.grouped_binary (Nat.le_refl 5) (.string _) (Nat.le_succ 6) rfl)
  have expected : (Expr.cast (.param 3) .text).Grouped := .cast (.param 3) (by decide) .text
  exact .binary own (revision.grouped_binary (by decide) expected (by decide) rfl) (by decide)
    (by decide) rfl

theorem grouped_purgeCondition : purgeCondition.Grouped := by
  have flagged : (Expr.binary .eq deletedFlag trueJson).Grouped :=
    isPrimary_deletedFlag.grouped_binary (by decide) grouped_trueJson (by decide) rfl
  have numeric : (hasType (.binary .path .data lastWritePath) .number).Grouped :=
    grouped_hasType (grouped_lastWrite (by decide)) .number
  have time : (Expr.cast (.paren (.binary .pathText .data lastWritePath)) .float8).Grouped :=
    .cast (.paren (grouped_lastWrite (by decide))) (by decide) .float8
  have before : (Expr.binary .lte (.cast (.paren (.binary .pathText .data lastWritePath)) .float8)
      (.param 1)).Grouped := .binary time (.param 1) (by decide) (by decide) rfl
  exact .binary flagged (.paren (.cases numeric before (.truth false))) (by decide) (by decide) rfl

/-! ## The lexemes of the statements -/

def lookupLexemes (table : String) (withDeleted : Bool) : List Lexeme :=
  selectOpening ++ fromLexemes table (lookupCondition withDeleted)

def insertOpening : List Lexeme := [.word "INSERT", .blank, .word "INTO", .blank]

/-- The values of a new row, unless there is a row with its id. -/
def valuesLexemes : List Lexeme :=
  [.blank, .mark '(', .word "id", .mark ',', .blank, .word "data", .mark ')', .blank,
    .word "VALUES", .blank, .mark '(', .param 1, .mark ',', .blank, .param 2, .mark ')', .blank,
    .word "ON", .blank, .word "CONFLICT", .blank, .mark '(', .word "id", .mark ')', .blank,
    .word "DO", .blank, .word "NOTHING"]

def insertLexemes (table : String) : List Lexeme :=
  insertOpening ++ ([.name table] ++ valuesLexemes)

def updateOpening : List Lexeme := [.word "UPDATE", .blank]

/-- The new document of a row. -/
def settingLexemes : List Lexeme :=
  [.blank, .word "SET", .blank, .word "data", .blank, .operator "=", .blank, .param 2, .blank,
    .word "WHERE", .blank]

def updateLexemes (table : String) : List Lexeme :=
  updateOpening ++ ([.name table] ++ (settingLexemes ++ updateCondition.lexemes))

def purgeOpening : List Lexeme := [.word "DELETE", .blank, .word "FROM", .blank]

def purgeLexemes (table : String) : List Lexeme :=
  purgeOpening ++ fromLexemes table purgeCondition

theorem spell_name (table : String) : spell [.name table] = identifier table :=
  spell_eq (List.append_nil _).symm

theorem text_lookup (table : String) (withDeleted : Bool) :
    (lookup table withDeleted).text = spell (lookupLexemes table withDeleted) := by
  have parts : (lookup table withDeleted).text = "SELECT id, data FROM " ++ identifier table ++
      " WHERE " ++ (lookupCondition withDeleted).text := rfl
  have opening : "SELECT id, data FROM ".toList = selectOpening.flatMap Lexeme.spelling := rfl
  rw [parts, lookupLexemes, spell_append, spell_eq opening, spell_from]
  simp only [String.append_assoc]

theorem text_insert (table : String) : (insert table).text = spell (insertLexemes table) := by
  have parts : (insert table).text = "INSERT INTO " ++ identifier table ++
      " (id, data) VALUES ($1, $2) ON CONFLICT (id) DO NOTHING" := rfl
  have opening : "INSERT INTO ".toList = insertOpening.flatMap Lexeme.spelling := rfl
  have values : " (id, data) VALUES ($1, $2) ON CONFLICT (id) DO NOTHING".toList =
      valuesLexemes.flatMap Lexeme.spelling := rfl
  rw [parts, insertLexemes, spell_append, spell_append, spell_eq opening, spell_name,
    spell_eq values]
  simp only [String.append_assoc]

theorem text_update (table : String) : (update table).text = spell (updateLexemes table) := by
  have parts : (update table).text = "UPDATE " ++ identifier table ++ " SET data = $2 WHERE " ++
      updateCondition.text := rfl
  have opening : "UPDATE ".toList = updateOpening.flatMap Lexeme.spelling := rfl
  have setting : " SET data = $2 WHERE ".toList = settingLexemes.flatMap Lexeme.spelling := rfl
  rw [parts, updateLexemes, spell_append, spell_append, spell_append, spell_eq opening, spell_name,
    spell_eq setting, spell_lexemes]
  simp only [String.append_assoc]

theorem text_purge (table : String) : (purge table).text = spell (purgeLexemes table) := by
  have parts : (purge table).text = "DELETE FROM " ++ identifier table ++ " WHERE " ++
      purgeCondition.text := rfl
  have opening : "DELETE FROM ".toList = purgeOpening.flatMap Lexeme.spelling := rfl
  rw [parts, purgeLexemes, spell_append, spell_eq opening, spell_from]
  simp only [String.append_assoc]

theorem cuttable_lookupLexemes (table : String) (withDeleted : Bool) :
    Cuttable (lookupLexemes table withDeleted) := by
  have opening : Cuttable selectOpening := by decide
  exact opening.append_of_blank (cuttable_fromLexemes table (grouped_lookupCondition withDeleted))
    rfl

/-- A table name between two lists of lexemes that keep apart from it. -/
theorem cuttable_named {before behind : List Lexeme} (table : String) (first : Cuttable before)
    (second : Cuttable behind) (ends : before.getLast? = some .blank)
    (begins : BeginApart behind) : Cuttable (before ++ ([.name table] ++ behind)) :=
  first.append_of_blank ((Cuttable.singleton (Lexeme.readable_name table)).append second begins)
    ends

theorem cuttable_insertLexemes (table : String) : Cuttable (insertLexemes table) :=
  cuttable_named table (by decide) (by decide) rfl (beginApart_cons rfl)

theorem cuttable_updateLexemes (table : String) : Cuttable (updateLexemes table) := by
  have setting : Cuttable settingLexemes := by decide
  have behind : Cuttable (settingLexemes ++ updateCondition.lexemes) :=
    setting.append_of_blank (.of_grouped grouped_updateCondition) rfl
  exact cuttable_named table (by decide) behind rfl (beginApart_cons rfl)

theorem cuttable_purgeLexemes (table : String) : Cuttable (purgeLexemes table) := by
  have opening : Cuttable purgeOpening := by decide
  exact opening.append_of_blank (cuttable_fromLexemes table grouped_purgeCondition) rfl

end Statement

/-! ## Their texts read back -/

namespace Command

open Statement

theorem ofText?_spell {lexemes : List Lexeme} (cuttable : Cuttable lexemes) :
    ofText? (spell lexemes) = ofTokens? (lexemes.filter (· ≠ .blank)) := by
  rw [ofText?, cuttable.lexemes?_spell, Option.bind_some]

theorem ofText?_lookup (table : String) (withDeleted : Bool) :
    ofText? (lookup table withDeleted).text =
      some (select table (lookupCondition withDeleted)) := by
  have tokens : (lookupLexemes table withDeleted).filter (· ≠ .blank) =
      .word "SELECT" :: .word "id" :: .mark ',' :: .word "data" :: .word "FROM" :: .name table ::
        .word "WHERE" :: (lookupCondition withDeleted).tokens := by
    simp [lookupLexemes, selectOpening, fromLexemes, Expr.tokens]
  rw [text_lookup, ofText?_spell (cuttable_lookupLexemes table withDeleted), tokens, ofTokens?,
    condition?_tokens (grouped_lookupCondition withDeleted)]
  rfl

theorem ofText?_insert (table : String) :
    ofText? (Statement.insert table).text = some (insert table 1 2) := by
  rw [text_insert, ofText?_spell (cuttable_insertLexemes table)]
  rfl

theorem ofText?_update (table : String) :
    ofText? (Statement.update table).text = some (update table 2 updateCondition) := by
  have tokens : (updateLexemes table).filter (· ≠ .blank) =
      .word "UPDATE" :: .name table :: .word "SET" :: .word "data" :: .operator "=" :: .param 2 ::
        .word "WHERE" :: updateCondition.tokens := by
    simp [updateLexemes, updateOpening, settingLexemes, Expr.tokens]
  rw [text_update, ofText?_spell (cuttable_updateLexemes table), tokens, ofTokens?,
    condition?_tokens grouped_updateCondition]
  rfl

theorem ofText?_purge (table : String) :
    ofText? (Statement.purge table).text = some (delete table purgeCondition) := by
  have tokens : (purgeLexemes table).filter (· ≠ .blank) =
      .word "DELETE" :: .word "FROM" :: .name table :: .word "WHERE" :: purgeCondition.tokens := by
    simp [purgeLexemes, purgeOpening, fromLexemes, Expr.tokens]
  rw [text_purge, ofText?_spell (cuttable_purgeLexemes table), tokens, ofTokens?,
    condition?_tokens grouped_purgeCondition]
  rfl

end Command

end DocStore.Sql
