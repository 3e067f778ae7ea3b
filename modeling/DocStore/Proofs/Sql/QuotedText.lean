import DocStore.Proofs.Sql.Outline

/-!
# The quoted texts of the statements of a query

Whatever a table is called and whatever segments and operands a query has, its statements are cut
into the lexemes that they were written from. The only other name in quotes is the collation of the
ids in a sorted query.
-/

namespace DocStore

namespace Sql

namespace Selection

def maskedTerm (term : Expr × Direction) : Expr × Direction := (term.1.masked, term.2)

/-- The selection with nothing in its literals. -/
def masked (selection : Selection) : Selection where
  filter := selection.filter.masked
  order := selection.order.map maskedTerm
  limit := selection.limit
  skip := selection.skip

theorem names_terms (order : List (Expr × Direction)) :
    (order.flatMap termLexemes).filterMap Lexeme.name? = [] := by
  refine List.filterMap_eq_nil_iff.mpr fun x member => ?_
  obtain ⟨term, _, inside⟩ := List.mem_flatMap.mp member
  rcases List.mem_append.mp inside with written | behind
  · exact Expr.name?_lexemes term.1 x written
  · have plain : ∀ x ∈ [Lexeme.blank, .word term.2.keyword, .mark ',', .blank], x.name? = none := by
      simp [Lexeme.name?]
    exact plain x behind

theorem literals_terms (order : List (Expr × Direction)) :
    (order.flatMap termLexemes).filterMap Lexeme.literal? =
      order.flatMap fun term => term.1.literals := by
  induction order with
  | nil => rfl
  | cons term rest ih =>
      rw [List.flatMap_cons, List.filterMap_append, ih, List.flatMap_cons, termLexemes,
        List.filterMap_append, Expr.literals_lexemes]
      exact congrArg (· ++ _) (List.append_nil _)

theorem emptied_terms (order : List (Expr × Direction)) :
    (order.flatMap termLexemes).map Lexeme.emptied =
      (order.map maskedTerm).flatMap termLexemes := by
  induction order with
  | nil => rfl
  | cons term rest ih =>
      rw [List.flatMap_cons, List.map_append, ih, List.map_cons, List.flatMap_cons, termLexemes,
        List.map_append, Expr.emptied_lexemes]
      rfl

theorem names_orderLexemes (order : List (Expr × Direction)) :
    (orderLexemes order).filterMap Lexeme.name? = if order.isEmpty then [] else ["C"] := by
  rw [orderLexemes]
  split
  · rfl
  · rw [List.filterMap_append, List.filterMap_append, names_terms]
    rfl

theorem literals_orderLexemes (order : List (Expr × Direction)) :
    (orderLexemes order).filterMap Lexeme.literal? = order.flatMap fun term => term.1.literals := by
  rw [orderLexemes]
  split
  · next none =>
      rw [List.isEmpty_iff.mp none]
      rfl
  · rw [List.filterMap_append, List.filterMap_append, literals_terms]
    exact List.append_nil _

theorem emptied_orderLexemes {order other : List (Expr × Direction)}
    (same : order.map maskedTerm = other.map maskedTerm) :
    (orderLexemes order).map Lexeme.emptied = (orderLexemes other).map Lexeme.emptied := by
  have isEmpty : order.isEmpty = other.isEmpty := by
    rw [← List.isEmpty_map (f := maskedTerm), same, List.isEmpty_map]
  rw [orderLexemes, orderLexemes, isEmpty]
  split
  · rfl
  · simp only [List.map_append, emptied_terms, same]

/-- Nothing is quoted in the clauses of a page. -/
theorem pageLexemes_plain (selection : Selection) :
    ∀ x ∈ selection.pageLexemes, x.name? = none ∧ x.literal? = none ∧ x.emptied = x := by
  have clause (keyword : String) (value : Nat) :
      ∀ x ∈ [Lexeme.blank, .word keyword, .blank, .number value],
        x.name? = none ∧ x.literal? = none ∧ x.emptied = x := by
    simp [Lexeme.name?, Lexeme.literal?, Lexeme.emptied]
  rw [pageLexemes]
  refine List.forall_mem_append.mpr ⟨?_, ?_⟩
  · cases selection.limit with
    | none => exact List.forall_mem_nil _
    | some limit => exact clause "LIMIT" limit
  · split
    · exact clause "OFFSET" selection.skip
    · exact List.forall_mem_nil _

end Selection

namespace Statement

theorem names_fromLexemes (table : String) (filter : Expr) :
    (fromLexemes table filter).filterMap Lexeme.name? = [table] := by
  rw [fromLexemes, List.filterMap_append,
    List.filterMap_eq_nil_iff.mpr (Expr.name?_lexemes filter)]
  rfl

theorem literals_fromLexemes (table : String) (filter : Expr) :
    (fromLexemes table filter).filterMap Lexeme.literal? = filter.literals := by
  rw [fromLexemes, List.filterMap_append, Expr.literals_lexemes]
  rfl

theorem emptied_fromLexemes {filter other : Expr} (same : filter.masked = other.masked)
    (table otherTable : String) :
    (fromLexemes table filter).map Lexeme.emptied =
      (fromLexemes otherTable other).map Lexeme.emptied := by
  rw [fromLexemes, fromLexemes, List.map_append, List.map_append, Expr.emptied_lexemes,
    Expr.emptied_lexemes, same]
  rfl

theorem names_selectLexemes (table : String) (selection : Selection) :
    (selectLexemes table selection).filterMap Lexeme.name? =
      table :: if selection.order.isEmpty then [] else ["C"] := by
  have page : selection.pageLexemes.filterMap Lexeme.name? = [] :=
    List.filterMap_eq_nil_iff.mpr fun x member => (selection.pageLexemes_plain x member).1
  rw [selectLexemes, List.filterMap_append, List.filterMap_append, List.filterMap_append,
    names_fromLexemes, Selection.names_orderLexemes, page, List.append_nil]
  rfl

theorem literals_selectLexemes (table : String) (selection : Selection) :
    (selectLexemes table selection).filterMap Lexeme.literal? =
      selection.filter.literals ++ selection.order.flatMap fun term => term.1.literals := by
  have page : selection.pageLexemes.filterMap Lexeme.literal? = [] :=
    List.filterMap_eq_nil_iff.mpr fun x member => (selection.pageLexemes_plain x member).2.1
  rw [selectLexemes, List.filterMap_append, List.filterMap_append, List.filterMap_append,
    literals_fromLexemes, Selection.literals_orderLexemes, page, List.append_nil]
  rfl

/-- Two selections that differ in their literals only have the same text outside quotes. -/
theorem emptied_selectLexemes {selection other : Selection} (same : selection.masked = other.masked)
    (table otherTable : String) :
    (selectLexemes table selection).map Lexeme.emptied =
      (selectLexemes otherTable other).map Lexeme.emptied := by
  have page : selection.pageLexemes = other.pageLexemes := by
    have limit : selection.masked.limit = other.masked.limit := congrArg Selection.limit same
    have skip : selection.masked.skip = other.masked.skip := congrArg Selection.skip same
    rw [Selection.masked, Selection.masked] at limit skip
    rw [Selection.pageLexemes, Selection.pageLexemes, limit, skip]
  have order := Selection.emptied_orderLexemes (congrArg Selection.order same)
  have behind := emptied_fromLexemes (congrArg Selection.filter same) table otherTable
  simp only [selectLexemes, List.map_append, behind, order, page]

theorem names_countLexemes (table : String) (filter : Expr) :
    (countLexemes table filter).filterMap Lexeme.name? = [table] := by
  rw [countLexemes, List.filterMap_append, names_fromLexemes]
  rfl

theorem literals_countLexemes (table : String) (filter : Expr) :
    (countLexemes table filter).filterMap Lexeme.literal? = filter.literals := by
  rw [countLexemes, List.filterMap_append, literals_fromLexemes]
  rfl

theorem emptied_countLexemes {filter other : Expr} (same : filter.masked = other.masked)
    (table otherTable : String) :
    (countLexemes table filter).map Lexeme.emptied =
      (countLexemes otherTable other).map Lexeme.emptied := by
  simp only [countLexemes, List.map_append, emptied_fromLexemes same table otherTable]

end Statement

end Sql

namespace CompiledQuery

open Sql

theorem grouped_order (query : CompiledQuery) : ∀ term ∈ query.selection.order, term.1.Grouped := by
  intro term member
  obtain ⟨sorted, _, rfl⟩ := List.mem_map.mp member
  exact (isPrimary_jsonAt isPrimary_data sorted.path).grouped

theorem lexemes?_select (query : CompiledQuery) (table : String) :
    lexemes? (query.selectStatement table).text =
      some (Statement.selectLexemes table query.selection) := by
  rw [selectStatement, Statement.text_select]
  have cuttable :=
    Statement.cuttable_selectLexemes table query.predicate.grouped_filter query.grouped_order
  exact cuttable.lexemes?_spell

theorem lexemes?_count (query : CompiledQuery) (table : String) :
    lexemes? (query.countStatement table).text =
      some (Statement.countLexemes table query.predicate.filter) := by
  rw [countStatement, Statement.text_count]
  exact (Statement.cuttable_countLexemes table query.predicate.grouped_filter).lexemes?_spell

theorem masked_filter_outline (query : CompiledQuery) :
    query.outline.predicate.filter.masked = query.predicate.filter.masked :=
  query.predicate.masked_condition .data 0 0

theorem masked_selection_outline (query : CompiledQuery) :
    query.outline.selection.masked = query.selection.masked := by
  have order : query.outline.selection.order.map Selection.maskedTerm =
      query.selection.order.map Selection.maskedTerm := by
    simp only [selection, outline, List.map_map]
    exact List.map_congr_left fun term _ => Prod.ext (masked_jsonAt .data term.path) rfl
  have filter := query.masked_filter_outline
  rw [Selection.masked, Selection.masked, order]
  exact congrArg (Selection.mk · _ _ _) filter

theorem literals_filter (query : CompiledQuery) :
    query.predicate.filter.literals = query.predicate.mentions.flatMap Mention.literals :=
  query.predicate.literals_condition .data 0 0 rfl

theorem literals_selection (query : CompiledQuery) :
    query.selection.filter.literals ++
        query.selection.order.flatMap (fun term => term.1.literals) =
      query.mentions.flatMap Mention.literals := by
  have terms : query.selection.order.flatMap (fun term => term.1.literals) =
      (query.sort.map fun term => Mention.value term.path).flatMap Mention.literals := by
    rw [selection, List.flatMap_map, List.flatMap_map]
    refine List.flatMap_congr fun term _ => ?_
    exact literals_jsonAt .data term.path
  rw [terms, mentions, List.flatMap_append, ← literals_filter]
  rfl

theorem outside_selectStatement {query other : CompiledQuery}
    (same : query.selection.masked = other.selection.masked) (table otherTable : String) :
    outside? (query.selectStatement table).text =
      outside? (other.selectStatement otherTable).text := by
  rw [outside?, outside?, lexemes?_select, lexemes?_select]
  exact congrArg (fun lexemes => some (spell lexemes))
    (Statement.emptied_selectLexemes same table otherTable)

theorem outside_countStatement {query other : CompiledQuery}
    (same : query.predicate.filter.masked = other.predicate.filter.masked)
    (table otherTable : String) :
    outside? (query.countStatement table).text =
      outside? (other.countStatement otherTable).text := by
  rw [outside?, outside?, lexemes?_count, lexemes?_count]
  exact congrArg (fun lexemes => some (spell lexemes))
    (Statement.emptied_countLexemes same table otherTable)

/-- A text is cut into lexemes that spell it, with these quoted names and string literals among
them; and outside quotes it is like another text. -/
structure QuotesLike (text : String) (names literals : List String) (plain : String) : Prop where
  cut : (lexemes? text).map spell = some text
  names : quotedNames? text = some names
  literals : quotedLiterals? text = some literals
  outside : outside? text = outside? plain

theorem quotesLike_select (query : CompiledQuery) (table : String) :
    QuotesLike (query.selectStatement table).text (table :: if query.isSorted then ["C"] else [])
      (query.mentions.flatMap Mention.literals) (query.outline.selectStatement "").text where
  cut := by
    rw [lexemes?_select, selectStatement, Statement.text_select]
    rfl
  names := by
    rw [quotedNames?, lexemes?_select, Option.map_some, Statement.names_selectLexemes, selection,
      isSorted, List.isEmpty_map]
    cases query.sort.isEmpty <;> rfl
  literals := by
    rw [quotedLiterals?, lexemes?_select, Option.map_some, Statement.literals_selectLexemes,
      literals_selection]
  outside := outside_selectStatement query.masked_selection_outline.symm table ""

theorem quotesLike_count (query : CompiledQuery) (table : String) :
    QuotesLike (query.countStatement table).text [table]
      (query.predicate.mentions.flatMap Mention.literals)
      (query.outline.countStatement "").text where
  cut := by
    rw [lexemes?_count, countStatement, Statement.text_count]
    rfl
  names := by
    rw [quotedNames?, lexemes?_count, Option.map_some, Statement.names_countLexemes]
  literals := by
    rw [quotedLiterals?, lexemes?_count, Option.map_some, Statement.literals_countLexemes,
      literals_filter]
  outside := outside_countStatement query.masked_filter_outline.symm table ""

/-- The statements of a query quote the table and the segments of its paths as they are, and only
the outline of the query shows outside the quotes. -/
theorem statements_quote (query : CompiledQuery) (table : String) :
    QuotesLike (query.selectStatement table).text (table :: if query.isSorted then ["C"] else [])
      (query.mentions.flatMap Mention.literals) (query.outline.selectStatement "").text ∧
    QuotesLike (query.countStatement table).text [table]
      (query.predicate.mentions.flatMap Mention.literals) (query.outline.countStatement "").text ∧
    ∀ (other : CompiledQuery) (otherTable : String), other.outline = query.outline →
      outside? (other.selectStatement otherTable).text =
        outside? (query.selectStatement table).text ∧
      outside? (other.countStatement otherTable).text =
        outside? (query.countStatement table).text := by
  refine ⟨query.quotesLike_select table, query.quotesLike_count table, ?_⟩
  intro other otherTable same
  constructor
  · rw [(other.quotesLike_select otherTable).outside, same,
      (query.quotesLike_select table).outside]
  · rw [(other.quotesLike_count otherTable).outside, same, (query.quotesLike_count table).outside]

/-- Rows of which a field is a text, in the order of the field. -/
def sampleQuery (field text : String) : CompiledQuery :=
  ⟨.elemMatch ⟨[field, "0"]⟩ (.textEq ⟨[field]⟩ text), [⟨⟨[field]⟩, .desc⟩], 0, some 3⟩

theorem statements_quote_sample :
    let query := sampleQuery "it's" "a"
    let other := sampleQuery "\") OR (TRUE" "b"
    other.outline = query.outline ∧
    QuotesLike (query.selectStatement "t\"").text ["t\"", "C"]
      ["it's", "0", "array", "it's", "0", "[]", "it's", "it's"]
      (query.outline.selectStatement "").text ∧
    QuotesLike (query.countStatement "t\"").text ["t\""]
      ["it's", "0", "array", "it's", "0", "[]", "it's"] (query.outline.countStatement "").text ∧
    outside? (other.selectStatement "; ").text = outside? (query.selectStatement "t\"").text ∧
    outside? (other.countStatement "; ").text = outside? (query.countStatement "t\"").text := by
  intro query other
  have same : other.outline = query.outline := rfl
  obtain ⟨select, count, alike⟩ := query.statements_quote "t\""
  exact ⟨same, select, count, alike other "; " same⟩

end CompiledQuery

end DocStore
