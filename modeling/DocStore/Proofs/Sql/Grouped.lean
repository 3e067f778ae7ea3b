import DocStore.Proofs.Sql.Reader

/-!
# Expressions that keep their grouping

An expression is grouped when each of its operands binds tightly enough for its place. Reading the
text of a grouped expression gives the expression back, so its parentheses are neither too few nor
in the wrong places.
-/

namespace DocStore.Sql

inductive Expr.Grouped : Expr → Prop where
  | id : Grouped .id
  | data : Grouped .data
  | element (depth : Nat) : Grouped (.element depth)
  | truth (value : Bool) : Grouped (.truth value)
  | string (value : String) : Grouped (.string value)
  | param (number : Nat) : Grouped (.param number)
  | textArray (first : String) (rest : List String) : Grouped (.textArray (first :: rest))
  | paren {inner : Expr} (grouped : Grouped inner) : Grouped (.paren inner)
  | cast {inner : Expr} (grouped : Grouped inner) (tight : 6 ≤ inner.level) (type : CastType) :
      Grouped (.cast inner type)
  | binary {op : BinaryOp} {left right : Expr} (leftGrouped : Grouped left)
      (rightGrouped : Grouped right) (leftTight : op.leftLevel ≤ left.level)
      (rightTight : op.level < right.level) (plain : Reader.rightOperand? op right = some right) :
      Grouped (.binary op left right)
  | path {op : BinaryOp} {left : Expr} {keys : List String} (isPath : op ∈ [.path, .pathText])
      (grouped : Grouped left) (tight : 5 ≤ left.level)
      (plain : ∀ key ∈ keys, Reader.isPlainKey key = true) :
      Grouped (.binary op left (.pathString keys))
  | not {inner : Expr} (grouped : Grouped inner) (tight : 2 ≤ inner.level) : Grouped (.not inner)
  | isNull {inner : Expr} (grouped : Grouped inner) (tight : 4 ≤ inner.level) :
      Grouped (.isNull inner)
  | isNotNull {inner : Expr} (grouped : Grouped inner) (tight : 4 ≤ inner.level) :
      Grouped (.isNotNull inner)
  | anyOf {inner : Expr} (grouped : Grouped inner) : Grouped (.anyOf inner)
  | typeOf {inner : Expr} (grouped : Grouped inner) : Grouped (.typeOf inner)
  | coalesce {first second : Expr} (firstGrouped : Grouped first) (secondGrouped : Grouped second) :
      Grouped (.coalesce first second)
  | cases {condition whenTrue otherwise : Expr} (conditionGrouped : Grouped condition)
      (trueGrouped : Grouped whenTrue) (otherwiseGrouped : Grouped otherwise) :
      Grouped (.cases condition whenTrue otherwise)
  | existsElement {items condition : Expr} (itemsGrouped : Grouped items) (depth : Nat)
      (conditionGrouped : Grouped condition) : Grouped (.existsElement items depth condition)

namespace Reader

/-! ## What is read of a text that begins with an operand -/

theorem shorter_eq_some {α : Type} {tokens rest : List Lexeme} {result : α}
    (less : rest.length < tokens.length) :
    shorter tokens (some (result, rest)) = some (result, ⟨rest, less⟩) := by
  simp [shorter, less]

theorem expression?_of_operand? {tokens rest : List Lexeme} {first : Expr}
    (read : operand? tokens = some (first, rest)) (less : rest.length < tokens.length)
    (least : Nat) : expression? least tokens = extend? least first rest := by
  rw [expression?, read, shorter_eq_some less]
  rfl

theorem extend?_of_none {rest : List Lexeme} (ends : suffix? rest = none) (least : Nat)
    (first : Expr) : extend? least first rest = some (first, rest) := by
  rw [extend?, ends]
  rfl

/-- Nothing behind an expression binds more tightly than the level. -/
structure Ends (level : Nat) (rest : List Lexeme) : Prop where
  suffix : ∀ suffix more, suffix? rest = some (suffix, more) → suffix.level ≤ level
  bracket : rest.head? ≠ some (.mark '[')

theorem Ends.le {level higher : Nat} {rest : List Lexeme} (ends : Ends level rest)
    (le : level ≤ higher) : Ends higher rest :=
  ⟨fun suffix more read => Nat.le_trans (ends.suffix suffix more read) le, ends.bracket⟩

theorem ends_of_none {rest : List Lexeme} (none : suffix? rest = none)
    (bracket : rest.head? ≠ some (.mark '[')) (level : Nat) : Ends level rest :=
  ⟨fun _ _ read => (by rw [none] at read; cases read), bracket⟩

theorem length_suffix? {tokens rest : List Lexeme} {suffix : Suffix}
    (read : suffix? tokens = some (suffix, rest)) : rest.length < tokens.length := by
  unfold suffix? at read
  split at read
  · obtain ⟨⟨type, more⟩, typed, same⟩ := Option.map_eq_some_iff.mp read
    cases same
    unfold castType? at typed
    split at typed <;> cases typed <;> simp only [List.length_cons] <;> omega
  · obtain ⟨op, _, same⟩ := Option.map_eq_some_iff.mp read
    cases same
    exact Nat.lt_succ_self _
  all_goals cases read
  all_goals simp only [List.length_cons]; omega

/-- A suffix that binds too loosely is left for later. -/
theorem extend?_of_ends {level least : Nat} {rest : List Lexeme} (ends : Ends level rest)
    (loose : level < least) (first : Expr) : extend? least first rest = some (first, rest) := by
  cases read : suffix? rest with
  | none => exact extend?_of_none read least first
  | some found =>
      obtain ⟨suffix, more⟩ := found
      have lower : suffix.level < least := Nat.lt_of_le_of_lt (ends.suffix suffix more read) loose
      rw [extend?, read, shorter_eq_some (length_suffix? read)]
      simp [lower]

theorem suffix?_binary (op : BinaryOp) (rest : List Lexeme) :
    suffix? (op.lexemes.filter (· ≠ .blank) ++ rest) = some (.binary op, rest) := by
  cases op <;> rfl

/-- A bracket behind the type `text` would belong to the type. -/
theorem suffix?_cast (type : CastType) {rest : List Lexeme}
    (bracket : rest.head? ≠ some (.mark '[')) :
    suffix? (.cast :: (type.lexemes.filter (· ≠ .blank) ++ rest)) = some (.cast type, rest) := by
  cases type with
  | text =>
      have notArray : castType? (.word "text" :: rest) = some (.text, rest) := by
        unfold castType?
        split
        · next same =>
            cases same
            exact absurd rfl bracket
        · next same => cases same; rfl
        · next same => simp at same
        · next same => simp at same
        · next others _ _ => exact (others rest rfl).elim
      exact congrArg (Option.map _) notArray
  | _ => rfl

/-! ## Reading the lexemes of an expression -/

/-- Reading an expression in front of a rest goes on behind the expression. -/
def Reads (expr : Expr) : Prop :=
  ∀ least rest, least ≤ expr.level → Ends expr.level rest →
    expression? least (expr.tokens ++ rest) = extend? least expr rest

/-- An expression is read up to a closing lexeme that does not continue it. -/
theorem before?_of_reads {inner : Expr} (reads : Reads inner) (closing : Lexeme)
    (none : ∀ rest, suffix? (closing :: rest) = none) (bracket : closing ≠ .mark '[')
    (rest : List Lexeme) :
    before? closing (inner.tokens ++ closing :: rest) = some (inner, rest) := by
  have ends : Ends inner.level (closing :: rest) :=
    ends_of_none (none rest) (fun same => bracket (Option.some.inj same)) inner.level
  rw [before?, reads 0 _ (Nat.zero_le _) ends, extend?_of_none (none rest), Option.bind_some,
    closed?, if_pos rfl]

theorem reads_of_operand? {expr : Expr} (nonempty : expr.tokens ≠ [])
    (operand : ∀ rest, Ends expr.level rest → operand? (expr.tokens ++ rest) = some (expr, rest)) :
    Reads expr := by
  intro least rest _ ends
  apply expression?_of_operand? (operand rest ends)
  have positive := List.length_pos_iff.mpr nonempty
  rw [List.length_append]
  omega

/-- A suffix that binds tightly enough is read, when the operand in front does as well. -/
theorem reads_of_suffix {first whole : Expr} (suffix : Suffix) (behind : List Lexeme)
    (reads : Reads first) (tight : suffix.leftLevel ≤ first.level)
    (level : whole.level = suffix.level) (tokens : whole.tokens = first.tokens ++ behind)
    (nonempty : behind ≠ [])
    (completes : ∀ rest, Ends suffix.level rest → ∃ operand,
      suffix? (behind ++ rest) = some (suffix, operand) ∧
        complete? first suffix operand = some (whole, rest)) : Reads whole := by
  intro least rest admitted ends
  rw [level] at admitted ends
  obtain ⟨operand, read, completed⟩ := completes rest ends
  have lower : suffix.level ≤ first.level := Nat.le_trans suffix.level_le_leftLevel tight
  have endsFirst : Ends first.level (behind ++ rest) := by
    refine ⟨fun other more found => ?_, fun bracket => ?_⟩
    · rw [read] at found
      cases found
      exact lower
    · cases behind with
      | nil => exact nonempty rfl
      | cons token others =>
          cases bracket
          cases read
  have less : rest.length < (behind ++ rest).length := by
    have positive := List.length_pos_iff.mpr nonempty
    rw [List.length_append]
    omega
  rw [tokens, List.append_assoc, reads least _ (Nat.le_trans admitted lower) endsFirst, extend?,
    read, shorter_eq_some (length_suffix? read)]
  simp only [Nat.not_lt.mpr admitted, Nat.not_lt.mpr tight, if_false, completed]
  rw [shorter_eq_some less]
  rfl

theorem items?_itemLexemes (first : String) (others : List String) (rest : List Lexeme) :
    items? ((Expr.itemLexemes (first :: others)).filter (· ≠ .blank) ++ .mark ']' :: rest) =
      some (first :: others, rest) := by
  induction others generalizing first with
  | nil => rfl
  | cons second others ih =>
      have shape : (Expr.itemLexemes (first :: second :: others)).filter (· ≠ .blank) =
          .literal first :: .mark ',' ::
            (Expr.itemLexemes (second :: others)).filter (· ≠ .blank) := rfl
      rw [shape, List.cons_append, List.cons_append, items?, ih]
      rfl

theorem reads_binary {op : BinaryOp} {left right read : Expr} (leftReads : Reads left)
    (rightReads : Reads read) (leftTight : op.leftLevel ≤ left.level)
    (rightTight : op.level < read.level) (plain : rightOperand? op read = some right)
    (same : read.tokens = right.tokens) : Reads (.binary op left right) := by
  refine reads_of_suffix (.binary op) (op.lexemes.filter (· ≠ .blank) ++ right.tokens) leftReads
    leftTight rfl ?_ ?_ fun rest ends => ?_
  · simp [Expr.tokens, Expr.lexemes]
  · cases op <;> simp [BinaryOp.lexemes]
  · refine ⟨right.tokens ++ rest, ?_, ?_⟩
    · rw [List.append_assoc, suffix?_binary]
    · have loose : op.level < op.level + 1 := Nat.lt_succ_self op.level
      rw [complete?, ← same, rightReads _ rest rightTight (ends.le (Nat.le_of_lt rightTight)),
        extend?_of_ends ends loose, Option.bind_some]
      simp only [plain, Option.map_some]

theorem reads_atom {expr : Expr} {first : Lexeme} {others : List Lexeme}
    (tokens : expr.tokens = first :: others)
    (operand : ∀ rest, operand? (first :: others ++ rest) = some (expr, rest)) : Reads expr := by
  have nonempty : expr.tokens ≠ [] := by
    rw [tokens]
    exact List.cons_ne_nil first others
  refine reads_of_operand? nonempty fun rest _ => ?_
  rw [tokens]
  exact operand rest

theorem reads_textArray (first : String) (others : List String) :
    Reads (.textArray (first :: others)) := by
  refine reads_of_operand? (List.cons_ne_nil _ _) fun rest _ => ?_
  have shape : (Expr.textArray (first :: others)).tokens ++ rest =
      .word "ARRAY" :: .mark '[' ::
        ((Expr.itemLexemes (first :: others)).filter (· ≠ .blank) ++ .mark ']' :: rest) := by
    simp [Expr.tokens, Expr.lexemes]
  rw [shape, operand?, items?_itemLexemes]
  rfl

theorem reads_paren {inner : Expr} (reads : Reads inner) : Reads (.paren inner) := by
  refine reads_of_operand? (List.cons_ne_nil _ _) fun rest _ => ?_
  have shape : (Expr.paren inner).tokens ++ rest =
      .mark '(' :: (inner.tokens ++ .mark ')' :: rest) := by
    simp [Expr.tokens, Expr.lexemes]
  have read := before?_of_reads reads (.mark ')') (fun _ => rfl) (by decide)
  rw [shape, operand?, read]
  rfl

theorem reads_cast {inner : Expr} (reads : Reads inner) (tight : 6 ≤ inner.level)
    (type : CastType) : Reads (.cast inner type) := by
  refine reads_of_suffix (.cast type) (.cast :: type.lexemes.filter (· ≠ .blank)) reads tight rfl
    ?_ (List.cons_ne_nil _ _) fun rest ends =>
      ⟨rest, suffix?_cast type ends.bracket, by rw [complete?]⟩
  simp [Expr.tokens, Expr.lexemes]

theorem notMem_comma_of_isPlainKey {key : String} (plain : isPlainKey key = true) :
    ',' ∉ key.toList := by
  intro member
  simp only [isPlainKey, Bool.and_eq_true, List.all_eq_true] at plain
  exact absurd (plain.1.2 ',' member) (by decide)

/-- Between its braces a list of keys is empty only if there are none. -/
theorem keysBetween_intercalate {keys : List String}
    (plain : ∀ key ∈ keys, isPlainKey key = true) :
    (let inner := [','].intercalate (keys.map String.toList)
      if inner.isEmpty then [] else (inner.splitOn ',').map String.ofList) = keys := by
  cases keys with
  | nil => rfl
  | cons key rest =>
      have split : ([','].intercalate ((key :: rest).map String.toList)).splitOn ',' =
          (key :: rest).map String.toList := by
        refine List.splitOn_intercalate ',' ?_ (by simp)
        intro piece member
        obtain ⟨other, inside, rfl⟩ := List.mem_map.mp member
        exact notMem_comma_of_isPlainKey (plain other inside)
      have some : key ≠ "" := by
        rintro rfl
        cases plain "" (.head rest)
      have nonempty : ([','].intercalate ((key :: rest).map String.toList)).isEmpty = false := by
        cases rest <;> simp [List.intercalate_cons_cons, some]
      simp only [nonempty, Bool.false_eq_true, if_false, split]
      simp [Function.comp_def]

/-- An array of plain keys that is written as a text. -/
theorem keys?_keysText {keys : List String} (plain : ∀ key ∈ keys, isPlainKey key = true) :
    keys? (Expr.keysText keys) = some (.pathString keys) := by
  have spelled : (Expr.keysText keys).toList =
      '\x7b' :: ([','].intercalate (keys.map String.toList) ++ ['\x7d']) := by
    simp [Expr.keysText]
  have between := keysBetween_intercalate plain
  rw [keys?, spelled]
  simp only [List.dropLast_concat, List.getLast?_concat, between]
  simpa using plain

theorem reads_path {op : BinaryOp} {left : Expr} {keys : List String}
    (isPath : op ∈ [BinaryOp.path, .pathText]) (reads : Reads left) (tight : 5 ≤ left.level)
    (plain : ∀ key ∈ keys, isPlainKey key = true) :
    Reads (.binary op left (.pathString keys)) := by
  have read : Reads (.string (Expr.keysText keys)) := reads_atom rfl fun rest => by simp
  have keysRead := keys?_keysText plain
  simp only [List.mem_cons, List.not_mem_nil, or_false] at isPath
  rcases isPath with rfl | rfl
  · exact reads_binary reads read tight (Nat.le_succ 6) keysRead rfl
  · exact reads_binary reads read tight (Nat.le_succ 6) keysRead rfl

/-- A test behind a negated condition belongs to the condition, and what is looser to neither. -/
theorem reads_not {inner : Expr} (reads : Reads inner) (tight : 2 ≤ inner.level) :
    Reads (.not inner) := by
  refine reads_of_operand? (List.cons_ne_nil _ _) fun rest ends => ?_
  have shape : (Expr.not inner).tokens ++ rest = .word "NOT" :: (inner.tokens ++ rest) := by
    simp [Expr.tokens, Expr.lexemes]
  have looser : Ends 1 rest := by
    refine ⟨fun suffix more found => ?_, ends.bracket⟩
    have le : suffix.level ≤ 2 := ends.suffix suffix more found
    have ne := suffix.level_ne_two
    omega
  rw [shape, operand?, reads 2 rest tight (ends.le tight), extend?_of_ends looser (by decide)]
  rfl

theorem reads_isNull {inner : Expr} (reads : Reads inner) (tight : 4 ≤ inner.level) :
    Reads (.isNull inner) := by
  refine reads_of_suffix .isNull [.word "IS", .word "NULL"] reads tight rfl ?_
    (List.cons_ne_nil _ _) fun rest _ => ⟨rest, rfl, by rw [complete?]⟩
  simp [Expr.tokens, Expr.lexemes]

theorem reads_isNotNull {inner : Expr} (reads : Reads inner) (tight : 4 ≤ inner.level) :
    Reads (.isNotNull inner) := by
  refine reads_of_suffix .isNotNull [.word "IS", .word "NOT", .word "NULL"] reads tight rfl ?_
    (List.cons_ne_nil _ _) fun rest _ => ⟨rest, rfl, by rw [complete?]⟩
  simp [Expr.tokens, Expr.lexemes]

theorem reads_typeOf {inner : Expr} (reads : Reads inner) : Reads (.typeOf inner) := by
  refine reads_of_operand? (List.cons_ne_nil _ _) fun rest _ => ?_
  have shape : (Expr.typeOf inner).tokens ++ rest =
      .word "jsonb_typeof" :: .mark '(' :: (inner.tokens ++ .mark ')' :: rest) := by
    simp [Expr.tokens, Expr.lexemes]
  have read := before?_of_reads reads (.mark ')') (fun _ => rfl) (by decide)
  rw [shape, operand?, read]
  rfl

theorem reads_anyOf {inner : Expr} (reads : Reads inner) : Reads (.anyOf inner) := by
  refine reads_of_operand? (List.cons_ne_nil _ _) fun rest _ => ?_
  have shape : (Expr.anyOf inner).tokens ++ rest =
      .word "ANY" :: .mark '(' :: (inner.tokens ++ .mark ')' :: rest) := by
    simp [Expr.tokens, Expr.lexemes]
  have read := before?_of_reads reads (.mark ')') (fun _ => rfl) (by decide)
  rw [shape, operand?, read]
  rfl

theorem reads_coalesce {first second : Expr} (firstReads : Reads first)
    (secondReads : Reads second) : Reads (.coalesce first second) := by
  refine reads_of_operand? (List.cons_ne_nil _ _) fun rest _ => ?_
  have shape : (Expr.coalesce first second).tokens ++ rest =
      .word "COALESCE" :: .mark '(' ::
        (first.tokens ++ .mark ',' :: (second.tokens ++ .mark ')' :: rest)) := by
    simp [Expr.tokens, Expr.lexemes]
  have readFirst := before?_of_reads firstReads (.mark ',') (fun _ => rfl) (by decide)
  have readSecond := before?_of_reads secondReads (.mark ')') (fun _ => rfl) (by decide)
  rw [shape, operand?, readFirst, shorter_eq_some (by simp; omega), Option.bind_some]
  simp only [readSecond]
  rfl

theorem reads_cases {condition whenTrue otherwise : Expr} (conditionReads : Reads condition)
    (trueReads : Reads whenTrue) (otherwiseReads : Reads otherwise) :
    Reads (.cases condition whenTrue otherwise) := by
  refine reads_of_operand? (List.cons_ne_nil _ _) fun rest _ => ?_
  have shape : (Expr.cases condition whenTrue otherwise).tokens ++ rest =
      .word "CASE" :: .word "WHEN" :: (condition.tokens ++ .word "THEN" ::
        (whenTrue.tokens ++ .word "ELSE" :: (otherwise.tokens ++ .word "END" :: rest))) := by
    simp [Expr.tokens, Expr.lexemes]
  have readCondition := before?_of_reads conditionReads (.word "THEN") (fun _ => rfl) (by decide)
  have readTrue := before?_of_reads trueReads (.word "ELSE") (fun _ => rfl) (by decide)
  have readOtherwise := before?_of_reads otherwiseReads (.word "END") (fun _ => rfl) (by decide)
  rw [shape, operand?, readCondition, shorter_eq_some (by simp; omega), Option.bind_some]
  simp only [readTrue]
  rw [shorter_eq_some (by simp; omega), Option.bind_some]
  simp only [readOtherwise]
  rfl

theorem reads_existsElement {items condition : Expr} (itemsReads : Reads items) (depth : Nat)
    (conditionReads : Reads condition) : Reads (.existsElement items depth condition) := by
  refine reads_of_operand? (List.cons_ne_nil _ _) fun rest _ => ?_
  have shape : (Expr.existsElement items depth condition).tokens ++ rest =
      .word "EXISTS" :: .mark '(' :: .word "SELECT" :: .number 1 :: .word "FROM" ::
        .word "jsonb_array_elements" :: .mark '(' :: (items.tokens ++ .mark ')' ::
          (.word "AS" :: .element depth :: .mark '(' :: .word "value" :: .mark ')' ::
            .word "WHERE" :: (condition.tokens ++ .mark ')' :: rest))) := by
    simp [Expr.tokens, Expr.lexemes, Expr.existsLexemes, Expr.whereLexemes]
  have readItems := before?_of_reads itemsReads (.mark ')') (fun _ => rfl) (by decide)
  have readCondition := before?_of_reads conditionReads (.mark ')') (fun _ => rfl) (by decide)
  rw [shape, operand?, readItems, shorter_eq_some (by simp; omega), Option.bind_some]
  simp only [binding?]
  rw [shorter_eq_some (by simp; omega), Option.bind_some]
  simp only [readCondition]
  rfl

theorem reads_of_grouped {expr : Expr} (grouped : expr.Grouped) : Reads expr := by
  induction grouped with
  | id => exact reads_atom rfl fun rest => by simp
  | data => exact reads_atom rfl fun rest => by simp
  | element depth => exact reads_atom rfl fun rest => by simp
  | truth value => cases value <;> exact reads_atom rfl fun rest => by simp
  | string value => exact reads_atom rfl fun rest => by simp
  | param number => exact reads_atom rfl fun rest => by simp
  | textArray first others => exact reads_textArray first others
  | paren _ ih => exact reads_paren ih
  | cast _ tight type ih => exact reads_cast ih tight type
  | binary _ _ leftTight rightTight plain ihl ihr =>
      exact reads_binary ihl ihr leftTight rightTight plain rfl
  | path isPath _ tight plain ih => exact reads_path isPath ih tight plain
  | not _ tight ih => exact reads_not ih tight
  | isNull _ tight ih => exact reads_isNull ih tight
  | isNotNull _ tight ih => exact reads_isNotNull ih tight
  | anyOf _ ih => exact reads_anyOf ih
  | typeOf _ ih => exact reads_typeOf ih
  | coalesce _ _ ihf ihs => exact reads_coalesce ihf ihs
  | cases _ _ _ ihc iht iho => exact reads_cases ihc iht iho
  | existsElement _ depth _ ihi ihc => exact reads_existsElement ihi depth ihc

/-- The reader takes up all lexemes of a grouped expression. -/
theorem expression?_tokens {expr : Expr} (grouped : expr.Grouped) :
    expression? 0 expr.tokens = some (expr, []) := by
  have ends : Ends expr.level [] := ends_of_none rfl (by simp) _
  have whole := reads_of_grouped grouped 0 [] (Nat.zero_le _) ends
  rw [List.append_nil] at whole
  rw [whole, extend?_of_none rfl]

end Reader

namespace Expr

theorem readable_castType (type : CastType) : ∀ x ∈ type.lexemes, x.Readable := by
  cases type <;> decide

theorem readable_binaryOp (op : BinaryOp) : ∀ x ∈ op.lexemes, x.Readable := by
  cases op <;> decide

theorem readable_itemLexemes (items : List String) : ∀ x ∈ itemLexemes items, x.Readable := by
  induction items with
  | nil => exact fun _ member => nomatch member
  | cons item rest ih =>
      have readable := Lexeme.readable_literal item
      cases rest with
      | nil => simpa [itemLexemes] using readable
      | cons second others =>
          rw [itemLexemes]
          · simp only [List.forall_mem_cons]
            exact ⟨readable, by decide, by decide, ih⟩
          · exact List.cons_ne_nil _ _

/-- Every lexeme of a grouped expression is read as itself. -/
theorem readable_lexemes {expr : Expr} (grouped : expr.Grouped) :
    ∀ x ∈ expr.lexemes, x.Readable := by
  induction grouped with
  | id => decide
  | data => decide
  | element depth =>
      simp only [lexemes, List.forall_mem_cons]
      exact ⟨Lexeme.readable_element depth, by decide, by decide, by simp⟩
  | truth value => cases value <;> decide
  | string value => simpa [lexemes] using Lexeme.readable_literal value
  | param number => simpa [lexemes] using Lexeme.readable_param number
  | textArray first rest =>
      simp only [lexemes, List.forall_mem_cons, List.forall_mem_append]
      exact ⟨by decide, by decide, readable_itemLexemes _, by decide⟩
  | paren _ ih =>
      simp only [lexemes, List.forall_mem_cons, List.forall_mem_append]
      exact ⟨by decide, ih, by decide⟩
  | cast _ _ type ih =>
      simp only [lexemes, List.forall_mem_cons, List.forall_mem_append]
      exact ⟨ih, by decide, readable_castType type⟩
  | @binary op _ _ _ _ _ _ _ ihl ihr =>
      simp only [lexemes, List.forall_mem_cons, List.forall_mem_append]
      exact ⟨ihl, by decide, readable_binaryOp op, by decide, ihr⟩
  | @path op _ _ _ _ _ _ ih =>
      simp only [lexemes, List.forall_mem_cons, List.forall_mem_append]
      exact ⟨ih, by decide, readable_binaryOp op, by decide, Lexeme.readable_literal _, by simp⟩
  | not _ _ ih =>
      simp only [lexemes, List.forall_mem_cons]
      exact ⟨by decide, by decide, ih⟩
  | isNull _ _ ih | isNotNull _ _ ih =>
      simp only [lexemes, List.forall_mem_append]
      exact ⟨ih, by decide⟩
  | anyOf _ ih | typeOf _ ih =>
      simp only [lexemes, List.forall_mem_cons, List.forall_mem_append]
      exact ⟨by decide, by decide, ih, by decide⟩
  | coalesce _ _ ihf ihs =>
      simp only [lexemes, List.forall_mem_cons, List.forall_mem_append]
      exact ⟨by decide, by decide, ihf, by decide, by decide, ihs, by decide⟩
  | cases _ _ _ ihc iht iho =>
      simp only [lexemes, List.forall_mem_cons, List.forall_mem_append]
      exact ⟨by decide, by decide, by decide, by decide, ihc, by decide, by decide, by decide, iht,
        by decide, by decide, by decide, iho, by decide⟩
  | existsElement _ depth _ ihi ihc =>
      have binding : ∀ x ∈ whereLexemes depth, x.Readable := by
        simp only [whereLexemes, List.forall_mem_cons]
        exact ⟨by decide, by decide, by decide, by decide, Lexeme.readable_element depth,
          by decide, by decide, by decide, by decide, by decide, by decide, by simp⟩
      simp only [lexemes, List.forall_mem_append]
      exact ⟨by decide, ihi, binding, ihc, by decide⟩

/-- A grouped expression is what its text stands for. -/
theorem ofText?_text {expr : Expr} (grouped : expr.Grouped) : ofText? expr.text = some expr := by
  have lexemes : lexemes? expr.text = some expr.lexemes := by
    have spelled : expr.text = String.ofList (expr.lexemes.flatMap Lexeme.spelling) := by
      rw [← toList_text, String.ofList_toList]
    rw [spelled]
    exact lexemes?_spelling expr.lexemes (readable_lexemes grouped) (apart_lexemes expr)
  rw [ofText?, lexemes, Option.bind_some, ← tokens, Reader.expression?_tokens grouped]
  rfl

end Expr

end DocStore.Sql
