import DocStore.Sql.Expr
import DocStore.Text.Numeral
import Mathlib.Data.List.Chain

/-!
# Lexemes of statements

How a database cuts the text of a statement into lexemes: a text between quote marks in which a
doubled mark stands for one, runs of word characters, runs of operator characters, single marks and
blanks. Reading the spelling of lexemes that stand apart gives exactly these lexemes back, whatever
the quoted texts contain.
-/

namespace DocStore.Sql

/-- `element` is the name of the elements at one depth of nesting. -/
inductive Lexeme where
  | word (text : String)
  | number (value : Nat)
  | param (index : Nat)
  | element (depth : Nat)
  | literal (content : String)
  | name (content : String)
  | operator (symbol : String)
  | mark (sign : Char)
  | cast
  | blank
  deriving DecidableEq

namespace Lexeme

def spelling : Lexeme → List Char
  | word text => text.toList
  | number value => (toString value).toList
  | param index => '$' :: (toString index).toList
  | element depth => (Expr.aliasOf depth).toList
  | literal content => (Sql.literal content).toList
  | name content => (Sql.identifier content).toList
  | operator symbol => symbol.toList
  | mark sign => [sign]
  | cast => [':', ':']
  | blank => [' ']

/-- A run of word characters. A run behind a dollar sign numbers a parameter, and digits may not be
followed by letters. -/
def ofRun? (run : List Char) : Option Lexeme :=
  match run with
  | [] => none
  | first :: rest =>
      if first = '$' then (Numeral.digits? rest).map param
      else if first.isDigit then (Numeral.digits? run).map number
      else
        match Numeral.digits? rest with
        | some depth =>
            if (element depth).spelling = run then some (element depth)
            else some (word (String.ofList run))
        | none => some (word (String.ofList run))

end Lexeme

def isWordChar (c : Char) : Bool := c.isAlphanum || c == '_' || c == '$'

def isOperatorChar (c : Char) : Bool := "+-*/<>=~!@#%^&|`?".toList.contains c

def isMark (c : Char) : Bool := "()[],.;".toList.contains c

def isBlank (c : Char) : Bool := [' ', '\t', '\n', '\r', '\x0c'].contains c

def isQuote (c : Char) : Bool := c == '\'' || c == '\"'

/-- Two signs, or a slash and a star, begin a comment. -/
def opensComment : List Char → Bool
  | '-' :: '-' :: _ => true
  | '/' :: '*' :: _ => true
  | _ :: rest => opensComment rest
  | [] => false

/-- The lexeme that is being read. A quoted text is `closed` behind a quote mark, unless another
mark follows. -/
inductive Pending where
  | nothing
  | blank
  | mark (sign : Char)
  | word (run : List Char)
  | operator (run : List Char)
  | colon
  | cast
  | quoted (quote : Char) (content : List Char)
  | closed (quote : Char) (content : List Char)

namespace Pending

/-- Reads one more character of the same lexeme. -/
def extend? : Pending → Char → Option Pending
  | word run, c => if isWordChar c then some (word (run ++ [c])) else none
  | operator run, c => if isOperatorChar c then some (operator (run ++ [c])) else none
  | colon, c => if c = ':' then some cast else none
  | quoted quote content, c =>
      if c = quote then some (closed quote content) else some (quoted quote (content ++ [c]))
  | closed quote content, c => if c = quote then some (quoted quote (content ++ [c])) else none
  | _, _ => none

/-- Reads the first character of a lexeme. -/
def begin? (c : Char) : Option Pending :=
  if isBlank c then some blank
  else if isMark c then some (mark c)
  else if isWordChar c then some (word [c])
  else if isOperatorChar c then some (operator [c])
  else if isQuote c then some (quoted c [])
  else if c = ':' then some colon
  else none

/-- The lexemes that have been read when the text ends or another lexeme begins. -/
def finish? : Pending → Option (List Lexeme)
  | nothing => some []
  | blank => some [.blank]
  | mark sign => some [.mark sign]
  | word run => (Lexeme.ofRun? run).map ([·])
  | operator run => if opensComment run then none else some [.operator (String.ofList run)]
  | cast => some [.cast]
  | closed quote content =>
      if quote = '\'' then some [.literal (String.ofList content)]
      else if quote = '\"' then some [.name (String.ofList content)]
      else none
  | _ => none

/-- A word right in front of a quoted text would change the rules of quoting. -/
def admits : Pending → Char → Bool
  | word _, c => !isQuote c
  | _, _ => true

/-- Cuts a text behind what is being read. -/
def lexemes? (pending : Pending) : List Char → Option (List Lexeme)
  | [] => pending.finish?
  | c :: rest =>
      match pending.extend? c with
      | some more => more.lexemes? rest
      | none =>
          match pending.finish?, begin? c with
          | some done, some next =>
              if pending.admits c then (next.lexemes? rest).map (done ++ ·) else none
          | _, _ => none

end Pending

/-- Cuts a text into lexemes; `none` when a quoted text is not closed or a character has no place
in a statement. -/
def lexemes? (text : String) : Option (List Lexeme) := Pending.nothing.lexemes? text.toList

/-! ## Reading the spelling of a lexeme -/

theorem isDigit_of_mem_toDigits {n : Nat} {c : Char} (member : c ∈ Nat.toDigits 10 n) :
    c.isDigit = true :=
  Nat.isDigit_of_mem_toDigits (by decide) (by decide) member

theorem digits?_toDigits (n : Nat) : Numeral.digits? (Nat.toDigits 10 n) = some n := by
  have allDigits : (Nat.toDigits 10 n).all Char.isDigit = true :=
    List.all_eq_true.mpr fun _ member => isDigit_of_mem_toDigits member
  have nonempty : (Nat.toDigits 10 n).isEmpty = false := by
    simp [Nat.toDigits_ne_nil]
  rw [Numeral.digits?, allDigits, nonempty]
  exact congrArg some Nat.ofDigitChars_ten_toDigits

theorem isWordChar_of_isDigit {c : Char} (digit : c.isDigit = true) : isWordChar c = true := by
  simp [isWordChar, Char.isAlphanum, digit]

namespace Pending

/-- What is being read behind a text that begins a lexeme. -/
def ofText? : List Char → Option Pending
  | [] => none
  | first :: rest => (begin? first).bind fun pending => rest.foldlM extend? pending

theorem lexemes?_append {pending reached : Pending} {run : List Char}
    (reads : run.foldlM extend? pending = some reached) (rest : List Char) :
    pending.lexemes? (run ++ rest) = reached.lexemes? rest := by
  induction run generalizing pending with
  | nil =>
      cases reads
      rfl
  | cons c run ih =>
      rw [List.foldlM_cons] at reads
      obtain ⟨next, first, others⟩ := Option.bind_eq_some_iff.mp reads
      rw [List.cons_append, lexemes?, first]
      exact ih others

theorem nothing_lexemes?_append {pending : Pending} {text : List Char}
    (reads : ofText? text = some pending) (rest : List Char) :
    nothing.lexemes? (text ++ rest) = pending.lexemes? rest := by
  cases text with
  | nil => cases reads
  | cons first run =>
      obtain ⟨begun, begins, others⟩ := Option.bind_eq_some_iff.mp reads
      have start : nothing.lexemes? (first :: (run ++ rest)) = begun.lexemes? (run ++ rest) := by
        rw [lexemes?]
        simp [extend?, finish?, begins, admits]
      rw [List.cons_append, start, lexemes?_append others]

theorem begin?_word {c : Char} (wordChar : isWordChar c = true) : begin? c = some (word [c]) := by
  have notBlank : isBlank c = false := by
    cases blank : isBlank c with
    | false => rfl
    | true =>
        simp [isBlank] at blank
        rcases blank with rfl | rfl | rfl | rfl | rfl <;> exact absurd wordChar (by decide)
  have notMark : isMark c = false := by
    cases mark : isMark c with
    | false => rfl
    | true =>
        simp [isMark] at mark
        rcases mark with rfl | rfl | rfl | rfl | rfl | rfl | rfl <;>
          exact absurd wordChar (by decide)
  simp [begin?, notBlank, notMark, wordChar]

theorem foldlM_word {run : List Char} (read : List Char)
    (wordChars : ∀ c ∈ run, isWordChar c = true) :
    run.foldlM extend? (word read) = some (word (read ++ run)) := by
  induction run generalizing read with
  | nil => rw [List.append_nil]; rfl
  | cons c rest ih =>
      have step : (word read).extend? c = some (word (read ++ [c])) := by
        simp [extend?, wordChars c (.head rest)]
      have others := ih (read ++ [c]) fun d member => wordChars d (.tail c member)
      rw [List.append_assoc] at others
      rw [List.foldlM_cons, step]
      exact others

/-- A run of word characters is read to its end. -/
theorem ofText?_word {first : Char} {rest : List Char}
    (wordChars : ∀ c ∈ first :: rest, isWordChar c = true) :
    ofText? (first :: rest) = some (word (first :: rest)) := by
  rw [ofText?, begin?_word (wordChars first (.head rest))]
  exact foldlM_word [first] fun c member => wordChars c (.tail first member)

/-- Digits behind a word character make one run with it. -/
theorem ofText?_numbered {first : Char} (wordChar : isWordChar first = true) (n : Nat) :
    ofText? (first :: Nat.toDigits 10 n) = some (.word (first :: Nat.toDigits 10 n)) := by
  apply ofText?_word
  exact List.forall_mem_cons.mpr ⟨wordChar, fun c member =>
    isWordChar_of_isDigit (isDigit_of_mem_toDigits member)⟩

theorem foldlM_quoted (quote : Char) (text content : List Char) :
    (doubled quote text ++ [quote]).foldlM extend? (quoted quote content) =
      some (closed quote (content ++ text)) := by
  have closes (content : List Char) :
      (quoted quote content).extend? quote = some (closed quote content) := by simp [extend?]
  induction text generalizing content with
  | nil => simp [doubled, closes]
  | cons c rest ih =>
      have others := ih (content ++ [c])
      rw [List.append_assoc] at others
      by_cases same : c = quote
      · have reopens : (closed quote content).extend? c = some (quoted quote (content ++ [c])) := by
          simp [extend?, same]
        have twice : doubled quote (c :: rest) = quote :: c :: doubled quote rest := by
          simp [doubled, same]
        rw [twice, List.cons_append, List.cons_append, List.foldlM_cons, closes]
        change (closed quote content).extend? c >>= _ = _
        rw [reopens]
        exact others
      · have reads : (quoted quote content).extend? c = some (quoted quote (content ++ [c])) := by
          simp [extend?, same]
        have once : doubled quote (c :: rest) = c :: doubled quote rest := by
          simp [doubled, same]
        rw [once, List.cons_append, List.foldlM_cons, reads]
        exact others

/-- A quoted text is read to its closing mark, whatever it contains. -/
theorem ofText?_quoted {quote : Char} (isQuote : isQuote quote = true) (text : String) :
    ofText? (Sql.quoted quote text).toList = some (closed quote text.toList) := by
  have begins : begin? quote = some (quoted quote []) := by
    simp only [Sql.isQuote, Bool.or_eq_true, beq_iff_eq] at isQuote
    rcases isQuote with rfl | rfl <;> rfl
  rw [Sql.quoted, String.toList_ofList, List.cons_append, ofText?, begins]
  exact foldlM_quoted quote text.toList []

end Pending

namespace Lexeme

/-- The spelling is read as the lexeme, and nothing is left over. -/
def Readable (lexeme : Lexeme) : Prop :=
  ∃ pending, Pending.ofText? lexeme.spelling = some pending ∧ pending.finish? = some [lexeme]

instance (lexeme : Lexeme) : Decidable lexeme.Readable :=
  decidable_of_iff ((Pending.ofText? lexeme.spelling).bind Pending.finish? = some [lexeme])
    Option.bind_eq_some_iff

theorem readable_literal (content : String) : Readable (.literal content) :=
  ⟨.closed '\'' content.toList, Pending.ofText?_quoted rfl content, by simp [Pending.finish?]⟩

theorem readable_name (content : String) : Readable (.name content) :=
  ⟨.closed '\"' content.toList, Pending.ofText?_quoted rfl content, by simp [Pending.finish?]⟩

theorem readable_param (index : Nat) : Readable (.param index) := by
  have spelled : (param index).spelling = '$' :: Nat.toDigits 10 index := by simp [spelling]
  refine ⟨.word ('$' :: Nat.toDigits 10 index), ?_, ?_⟩
  · rw [spelled]
    exact Pending.ofText?_numbered rfl index
  · simp [Pending.finish?, ofRun?, digits?_toDigits]

theorem readable_element (depth : Nat) : Readable (.element depth) := by
  have spelled : (element depth).spelling = 'e' :: Nat.toDigits 10 depth := by
    simp [spelling, Expr.aliasOf]
  refine ⟨.word ('e' :: Nat.toDigits 10 depth), ?_, ?_⟩
  · rw [spelled]
    exact Pending.ofText?_numbered rfl depth
  · have notDigit : Char.isDigit 'e' = false := by decide
    simp [Pending.finish?, ofRun?, notDigit, digits?_toDigits, spelled]

/-! ## Lexemes that stand apart -/

/-- Nothing runs into a mark, a cast or a blank, and these run into nothing. -/
def separates : Lexeme → Bool
  | mark _ => true
  | cast => true
  | blank => true
  | _ => false

def Apart (first second : Lexeme) : Prop := first.separates = true ∨ second.separates = true

instance (first second : Lexeme) : Decidable (Apart first second) :=
  inferInstanceAs (Decidable (_ ∨ _))

theorem separates_ofRun? {run : List Char} {lexeme : Lexeme} (isRun : ofRun? run = some lexeme) :
    lexeme.separates = false := by
  cases run with
  | nil => cases isRun
  | cons first rest =>
      simp only [ofRun?] at isRun
      split at isRun
      · obtain ⟨index, _, rfl⟩ := Option.map_eq_some_iff.mp isRun
        rfl
      · split at isRun
        · obtain ⟨value, _, rfl⟩ := Option.map_eq_some_iff.mp isRun
          rfl
        · split at isRun
          · split at isRun <;> cases isRun <;> rfl
          · cases isRun
            rfl

theorem isMark_of_readable {sign : Char} (readable : Readable (.mark sign)) :
    isMark sign = true := by
  obtain ⟨pending, reads, done⟩ := readable
  have begun : Pending.begin? sign = some pending := by
    simpa [spelling, Pending.ofText?] using reads
  rw [Pending.begin?] at begun
  split at begun
  · cases begun; cases done
  · split at begun
    · assumption
    · split at begun
      · cases begun
        obtain ⟨found, isRun, same⟩ := Option.map_eq_some_iff.mp done
        cases same
        cases separates_ofRun? isRun
      · split at begun
        · cases begun
          simp [Pending.finish?] at done
        · split at begun
          · cases begun; cases done
          · split at begun <;> cases begun
            cases done

end Lexeme

namespace Pending

/-- The character does not belong to what is being read. -/
def Ends (pending : Pending) (c : Char) : Prop :=
  pending.extend? c = none ∧ pending.admits c = true

theorem ends_of_separates {pending : Pending} {lexeme : Lexeme}
    (done : pending.finish? = some [lexeme]) (separates : lexeme.separates = true) (c : Char) :
    pending.Ends c := by
  cases pending with
  | blank => exact ⟨rfl, rfl⟩
  | mark sign => exact ⟨rfl, rfl⟩
  | cast => exact ⟨rfl, rfl⟩
  | nothing => cases done
  | colon => cases done
  | quoted quote content => cases done
  | word run =>
      obtain ⟨found, isRun, same⟩ := Option.map_eq_some_iff.mp done
      cases same
      rw [Lexeme.separates_ofRun? isRun] at separates
      cases separates
  | operator run =>
      simp only [finish?] at done
      split at done
      · cases done
      · cases done
        cases separates
  | closed quote content =>
      simp only [finish?] at done
      split at done
      · cases done
        cases separates
      · split at done <;> cases done
        cases separates

/-- A mark, a cast or a blank begins with a character of its own. -/
theorem ends_before_separator {pending : Pending} {lexeme next : Lexeme} {c : Char}
    {rest : List Char} (done : pending.finish? = some [lexeme]) (readable : next.Readable)
    (separates : next.separates = true) (spelled : next.spelling = c :: rest) :
    pending.Ends c := by
  have special : isWordChar c = false ∧ isOperatorChar c = false ∧ isQuote c = false := by
    cases next with
    | blank => cases spelled; decide
    | cast => cases spelled; decide
    | mark sign =>
        cases spelled
        have known := Lexeme.isMark_of_readable readable
        simp [isMark] at known
        rcases known with rfl | rfl | rfl | rfl | rfl | rfl | rfl <;> decide
    | _ => cases separates
  obtain ⟨notWord, notOperator, notQuote⟩ := special
  cases pending with
  | word run => simp [Ends, extend?, admits, notWord, notQuote]
  | operator run => simp [Ends, extend?, admits, notOperator]
  | colon => cases done
  | quoted quote content => cases done
  | closed quote content =>
      have other : c ≠ quote := by
        rintro rfl
        simp only [finish?] at done
        split at done
        · next same => subst same; cases notQuote
        · split at done
          · next same => subst same; cases notQuote
          · cases done
      simp [Ends, extend?, admits, other]
  | _ => exact ⟨rfl, rfl⟩

/-- What is being read is finished by the end of the text or by a character that ends it. -/
theorem lexemes?_of_ends {pending : Pending} {lexeme : Lexeme}
    (done : pending.finish? = some [lexeme]) {text : List Char}
    (ends : ∀ c rest, text = c :: rest → pending.Ends c) :
    pending.lexemes? text = (nothing.lexemes? text).map (lexeme :: ·) := by
  cases text with
  | nil => exact done
  | cons c rest =>
      obtain ⟨noMore, admitted⟩ := ends c rest rfl
      rw [lexemes?, noMore, done, admitted, lexemes?]
      cases begin? c with
      | none => simp [extend?, finish?]
      | some next => simp [extend?, finish?, admits]

end Pending

/-- Reading the spelling of readable lexemes that stand apart gives the lexemes back. -/
theorem lexemes?_spelling (lexemes : List Lexeme) (readable : ∀ x ∈ lexemes, x.Readable)
    (apart : lexemes.IsChain Lexeme.Apart) :
    lexemes? (String.ofList (lexemes.flatMap Lexeme.spelling)) = some lexemes := by
  rw [lexemes?, String.toList_ofList]
  induction lexemes with
  | nil => rfl
  | cons first rest ih =>
      obtain ⟨pending, reads, done⟩ := readable first (.head rest)
      have others := ih (fun x member => readable x (.tail first member)) apart.tail
      rw [List.flatMap_cons, Pending.nothing_lexemes?_append reads,
        Pending.lexemes?_of_ends done, others]
      · rfl
      · intro c text begins
        cases rest with
        | nil => cases begins
        | cons second more =>
            have secondReadable := readable second (.tail first (.head more))
            rw [List.flatMap_cons] at begins
            cases spelled : second.spelling with
            | nil =>
                obtain ⟨_, reads, _⟩ := secondReadable
                rw [spelled] at reads
                cases reads
            | cons d run =>
                rw [spelled, List.cons_append] at begins
                cases begins
                rcases List.isChain_cons_cons.mp apart |>.1 with separates | separates
                · exact Pending.ends_of_separates done separates c
                · exact Pending.ends_before_separator done secondReadable separates spelled

end DocStore.Sql
