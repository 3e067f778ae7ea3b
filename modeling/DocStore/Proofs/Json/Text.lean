import DocStore.Json.Reader
import DocStore.Proofs.Json.Alike
import DocStore.Proofs.Number.Text
import DocStore.Selector

/-!
# The text of containers

In the text of an array or an object each part shows where it ends: a string at its closing quote, a
number where another character follows, a container at its bracket. So the text tells the container,
but for the order of keys and for different numbers that are written alike.
-/

namespace DocStore

namespace Json

/-! ## Quoted strings -/

section Quoted

open Reader

theorem hexValue?_hexDigit {n : Nat} (small : n < 16) : hexValue? (hexDigit n) = some n := by
  have each : ∀ n < 16, hexValue? (hexDigit n) = some n := by decide
  exact each n small

/-- The ways in which a character is written between quotes. -/
inductive Escapes (c : Char) : List Char → Prop where
  | plain (notQuote : c ≠ '\"') (notBackslash : c ≠ '\\') (printable : 0x20 ≤ c.toNat) :
      Escapes c [c]
  | marked {mark : Char} (notUnit : mark ≠ 'u') (stands : escaped? mark = some c) :
      Escapes c ['\\', mark]
  | unit (control : c.toNat < 0x20) :
      Escapes c ['\\', 'u', '0', '0', hexDigit (c.toNat / 16), hexDigit (c.toNat % 16)]

theorem escapes_escape (c : Char) : Escapes c (escape c) := by
  have named {code : Nat} (same : c.toNat = code) : some (Char.ofNat code) = some c := by
    rw [← same, Char.ofNat_toNat]
  unfold escape
  split
  · next quote => exact .marked (by decide) (by rw [quote]; rfl)
  split
  · next backslash => exact .marked (by decide) (by rw [backslash]; rfl)
  split
  · next notQuote notBackslash printable => exact .plain notQuote notBackslash printable
  split
  · next code => exact .marked (by decide) (named code)
  split
  · next code => exact .marked (by decide) (named code)
  split
  · next code => exact .marked (by decide) (named code)
  split
  · next code => exact .marked (by decide) (named code)
  split
  · next code => exact .marked (by decide) (named code)
  · next printable _ _ _ _ _ => exact .unit (Nat.lt_of_not_le printable)

theorem Escapes.readChars_eq {c : Char} {written : List Char} (escapes : Escapes c written)
    (seen rest : List Char) : readChars seen (written ++ rest) = readChars (c :: seen) rest := by
  cases escapes with
  | plain notQuote notBackslash printable =>
      have notControl : ¬ c.toNat < 0x20 := Nat.not_lt.mpr printable
      simp [readChars, notBackslash, notControl]
  | marked notUnit stands => simp [readChars, notUnit, stands]
  | unit control =>
      have high := hexValue?_hexDigit (n := c.toNat / 16) (by omega)
      have low := hexValue?_hexDigit (n := c.toNat % 16) (by omega)
      have zero : hexValue? '0' = some 0 := rfl
      have unit : codeUnit? '0' '0' (hexDigit (c.toNat / 16)) (hexDigit (c.toNat % 16)) =
          some c.toNat := by
        simp only [codeUnit?, zero, high, low, bind, Option.bind, pure, Option.some_inj]
        omega
      have notHigh : ¬ 0xD800 ≤ c.toNat := by omega
      have notLow : ¬ 0xDC00 ≤ c.toNat := by omega
      simp [readChars, unit, notHigh, notLow]

theorem readChars_quoted (text seen rest : List Char) :
    readChars seen (text.flatMap escape ++ '\"' :: rest) = some (seen.reverse ++ text, rest) := by
  induction text generalizing seen with
  | nil => simp [readChars]
  | cons c text ih =>
      rw [List.flatMap_cons, List.append_assoc, (escapes_escape c).readChars_eq, ih,
        List.reverse_cons, List.append_assoc, List.singleton_append]

/-- A string is read from behind its first quote as it was written. -/
theorem readString_quote (s : String) (rest : List Char) :
    readString (s.toList.flatMap escape ++ '\"' :: rest) = some (s, rest) := by
  rw [readString, readChars_quoted]
  simp

theorem quote_append_inj {s t : String} {rest rest' : List Char}
    (same : quote s ++ rest = quote t ++ rest') : s = t ∧ rest = rest' := by
  have read := readString_quote s rest
  have inside : s.toList.flatMap escape ++ '\"' :: rest =
      t.toList.flatMap escape ++ '\"' :: rest' := by
    simpa [quote] using same
  rw [inside, readString_quote] at read
  cases read
  exact ⟨rfl, rfl⟩

end Quoted

/-! ## Where the text of a value ends -/

def SamePrint (a b : Json) : Prop := print .spaced a = print .spaced b

/-- The kind of the values whose text begins with a character. -/
def Kind.ofFirst? (c : Char) : Option Kind :=
  if c = 'n' then some .null
  else if c = 't' ∨ c = 'f' then some .boolean
  else if c = '\"' then some .string
  else if c = '[' then some .array
  else if c = '\x7b' then some .object
  else if isNumeric c then some .number
  else none

theorem Kind.ofFirst?_of_isNumeric {c : Char} (numeric : isNumeric c = true) :
    ofFirst? c = some .number := by
  have apart {other : Char} (marks : isNumeric other = false) : c ≠ other := by
    rintro rfl
    rw [marks] at numeric
    cases numeric
  rw [ofFirst?, if_neg (apart rfl), if_neg (not_or.mpr ⟨apart rfl, apart rfl⟩), if_neg (apart rfl),
    if_neg (apart rfl), if_neg (apart rfl), if_pos numeric]

theorem exists_first (json : Json) :
    ∃ c rest, print .spaced json = c :: rest ∧ Kind.ofFirst? c = some json.kind := by
  cases json with
  | null => exact ⟨_, _, rfl, rfl⟩
  | bool value => cases value <;> exact ⟨_, _, rfl, rfl⟩
  | string value => exact ⟨_, _, rfl, rfl⟩
  | array items => cases items <;> exact ⟨_, _, rfl, rfl⟩
  | object entries =>
      cases entries with
      | nil => exact ⟨_, _, rfl, rfl⟩
      | cons entry rest => exact ⟨_, _, rfl, rfl⟩
  | number value =>
      obtain ⟨numeric, nonempty⟩ := value.numeric_text
      obtain ⟨c, rest, spelled⟩ := List.exists_cons_of_ne_nil nonempty
      refine ⟨c, rest, spelled, Kind.ofFirst?_of_isNumeric (numeric c ?_)⟩
      rw [spelled]
      exact .head rest

theorem print_ne_of_ofFirst? {c : Char} (none : Kind.ofFirst? c = none) (json : Json)
    (rest rest' : List Char) : c :: rest ≠ print .spaced json ++ rest' := by
  intro same
  obtain ⟨first, others, spelled, kind⟩ := exists_first json
  rw [spelled] at same
  rw [← (List.cons.inj same).1, none] at kind
  cases kind

theorem kind_eq_of_print {a b : Json} {rest rest' : List Char}
    (same : print .spaced a ++ rest = print .spaced b ++ rest') : a.kind = b.kind := by
  obtain ⟨c, others, spelled, kind⟩ := exists_first a
  obtain ⟨c', others', spelled', kind'⟩ := exists_first b
  rw [spelled, spelled'] at same
  rw [(List.cons.inj same).1] at kind
  exact Option.some.inj (kind.symm.trans kind')

/-- Whatever stands behind the text of a value is told from it. -/
def CutsOff (a : Json) : Prop :=
  ∀ b rest rest', EndsNumber rest → EndsNumber rest' →
    print .spaced a ++ rest = print .spaced b ++ rest' → SamePrint a b ∧ rest = rest'

theorem endsNumber_cons {c : Char} (other : isNumeric c = false) (rest : List Char) :
    EndsNumber (c :: rest) := by
  rintro _ ⟨⟩
  exact other

section Items

variable {as bs : List Json} {rest rest' : List Char}

theorem endsNumber_items (items : List Json) (rest : List Char) :
    EndsNumber (printItems .spaced items ++ ']' :: rest) := by
  cases items with
  | nil => exact endsNumber_cons rfl rest
  | cons item others => exact endsNumber_cons rfl _

theorem items_append_inj (cuts : ∀ a ∈ as, a.CutsOff)
    (same : printItems .spaced as ++ ']' :: rest = printItems .spaced bs ++ ']' :: rest') :
    List.Forall₂ SamePrint as bs ∧ rest = rest' := by
  induction as generalizing bs with
  | nil =>
      cases bs with
      | nil => exact ⟨.nil, (List.cons.inj same).2⟩
      | cons b bs => exact absurd (List.cons.inj same).1 (by decide)
  | cons a as ih =>
      cases bs with
      | nil => exact absurd (List.cons.inj same).1 (by decide)
      | cons b bs =>
          simp only [printItems, List.append_assoc] at same
          obtain ⟨own, behind⟩ := cuts a (.head as) b _ _ (endsNumber_items as rest)
            (endsNumber_items bs rest') (List.append_cancel_left same)
          obtain ⟨others, last⟩ := ih (fun item member => cuts item (.tail a member)) behind
          exact ⟨.cons own others, last⟩

theorem array_append_inj (cuts : ∀ a ∈ as, a.CutsOff)
    (same : print .spaced (.array as) ++ rest = print .spaced (.array bs) ++ rest') :
    List.Forall₂ SamePrint as bs ∧ rest = rest' := by
  cases as with
  | nil =>
      cases bs with
      | nil => exact ⟨.nil, List.append_cancel_left same⟩
      | cons b bs =>
          simp only [print, List.cons_append, List.append_assoc] at same
          exact absurd (List.cons.inj same).2 (print_ne_of_ofFirst? (by decide) b _ _)
  | cons a as =>
      cases bs with
      | nil =>
          simp only [print, List.cons_append, List.append_assoc] at same
          exact absurd (List.cons.inj same).2.symm (print_ne_of_ofFirst? (by decide) a _ _)
      | cons b bs =>
          simp only [print, List.cons_append, List.append_assoc, List.nil_append] at same
          obtain ⟨own, behind⟩ := cuts a (.head as) b _ _ (endsNumber_items as rest)
            (endsNumber_items bs rest') (List.cons.inj same).2
          obtain ⟨others, last⟩ :=
            items_append_inj (fun item member => cuts item (.tail a member)) behind
          exact ⟨.cons own others, last⟩

end Items

section Entries

variable {as bs : List (String × Json)} {rest rest' : List Char}

theorem endsNumber_entries (entries : List (String × Json)) (rest : List Char) :
    EndsNumber (printEntries .spaced entries ++ '\x7d' :: rest) := by
  cases entries with
  | nil => exact endsNumber_cons rfl rest
  | cons entry others => exact endsNumber_cons rfl _

theorem entry_append_inj {key key' : String} {a b : Json} (cuts : a.CutsOff)
    (ends : EndsNumber rest) (ends' : EndsNumber rest')
    (same : quote key ++ (Spacing.spaced.colon ++ (print .spaced a ++ rest)) =
      quote key' ++ (Spacing.spaced.colon ++ (print .spaced b ++ rest'))) :
    EntryRel SamePrint (key, a) (key', b) ∧ rest = rest' := by
  obtain ⟨rfl, values⟩ := quote_append_inj same
  obtain ⟨own, behind⟩ := cuts b rest rest' ends ends' (List.append_cancel_left values)
  exact ⟨.value own, behind⟩

theorem entries_append_inj (cuts : ∀ entry ∈ as, entry.2.CutsOff)
    (same : printEntries .spaced as ++ '\x7d' :: rest =
      printEntries .spaced bs ++ '\x7d' :: rest') :
    List.Forall₂ (EntryRel SamePrint) as bs ∧ rest = rest' := by
  induction as generalizing bs with
  | nil =>
      cases bs with
      | nil => exact ⟨.nil, (List.cons.inj same).2⟩
      | cons b bs => exact absurd (List.cons.inj same).1 (by decide)
  | cons a as ih =>
      cases bs with
      | nil => exact absurd (List.cons.inj same).1 (by decide)
      | cons b bs =>
          simp only [printEntries, List.append_assoc] at same
          obtain ⟨own, behind⟩ := entry_append_inj (cuts a (.head as)) (endsNumber_entries as rest)
            (endsNumber_entries bs rest') (List.append_cancel_left same)
          obtain ⟨others, last⟩ := ih (fun entry member => cuts entry (.tail a member)) behind
          exact ⟨.cons own others, last⟩

theorem object_append_inj (cuts : ∀ entry ∈ as, entry.2.CutsOff)
    (same : print .spaced (.object as) ++ rest = print .spaced (.object bs) ++ rest') :
    List.Forall₂ (EntryRel SamePrint) as bs ∧ rest = rest' := by
  cases as with
  | nil =>
      cases bs with
      | nil => exact ⟨.nil, List.append_cancel_left same⟩
      | cons b bs => exact absurd (List.cons.inj (List.cons.inj same).2).1 (by decide)
  | cons a as =>
      cases bs with
      | nil => exact absurd (List.cons.inj (List.cons.inj same).2).1 (by decide)
      | cons b bs =>
          simp only [print, List.cons_append, List.append_assoc, List.nil_append] at same
          obtain ⟨own, behind⟩ := entry_append_inj (cuts a (.head as)) (endsNumber_entries as rest)
            (endsNumber_entries bs rest') (List.cons.inj same).2
          obtain ⟨others, last⟩ :=
            entries_append_inj (fun entry member => cuts entry (.tail a member)) behind
          exact ⟨.cons own others, last⟩

end Entries

/-- No text of a value is the beginning of the text of another one, numbers apart, which end where
no number goes on. -/
theorem cutsOff (a : Json) : a.CutsOff := by
  induction a with
  | null =>
      intro b rest rest' _ _ same
      cases b with
      | null => exact ⟨rfl, List.append_cancel_left same⟩
      | _ => cases kind_eq_of_print same
  | bool value =>
      intro b rest rest' _ _ same
      cases b with
      | bool other =>
          cases value <;> cases other <;> first
            | exact ⟨rfl, List.append_cancel_left same⟩
            | exact absurd (List.cons.inj same).1 (by decide)
      | _ => cases kind_eq_of_print same
  | number value =>
      intro b rest rest' ends ends' same
      cases b with
      | number other =>
          obtain ⟨texts, behind⟩ := Number.text_append_inj ends ends' same
          exact ⟨congrArg String.toList texts, behind⟩
      | _ => cases kind_eq_of_print same
  | string value =>
      intro b rest rest' _ _ same
      cases b with
      | string other =>
          obtain ⟨rfl, behind⟩ := quote_append_inj same
          exact ⟨rfl, behind⟩
      | _ => cases kind_eq_of_print same
  | array items ih =>
      intro b rest rest' _ _ same
      cases b with
      | array others =>
          obtain ⟨_, rfl⟩ := array_append_inj ih same
          exact ⟨List.append_cancel_right same, rfl⟩
      | _ => cases kind_eq_of_print same
  | object entries ih =>
      intro b rest rest' _ _ same
      cases b with
      | object others =>
          obtain ⟨_, rfl⟩ := object_append_inj ih same
          exact ⟨List.append_cancel_right same, rfl⟩
      | _ => cases kind_eq_of_print same

/-! ## The text is taken apart -/

theorem samePrint_array_iff {as bs : List Json} :
    SamePrint (.array as) (.array bs) ↔ List.Forall₂ SamePrint as bs := by
  constructor
  · intro same
    have ended : print .spaced (.array as) ++ [] = print .spaced (.array bs) ++ [] := by rw [same]
    exact (array_append_inj (fun a _ => cutsOff a) ended).1
  · intro items
    have later {as bs : List Json} (items : List.Forall₂ SamePrint as bs) :
        printItems .spaced as = printItems .spaced bs := by
      induction items with
      | nil => rfl
      | cons first others ih => rw [printItems, printItems, first, ih]
    cases items with
    | nil => rfl
    | cons first others => rw [SamePrint, print, print, first, later others]

theorem samePrint_object_iff {as bs : List (String × Json)} :
    SamePrint (.object as) (.object bs) ↔ List.Forall₂ (EntryRel SamePrint) as bs := by
  constructor
  · intro same
    have ended : print .spaced (.object as) ++ [] = print .spaced (.object bs) ++ [] := by
      rw [same]
    exact (object_append_inj (fun entry _ => cutsOff entry.2) ended).1
  · intro entries
    have later {as bs : List (String × Json)} (entries : List.Forall₂ (EntryRel SamePrint) as bs) :
        printEntries .spaced as = printEntries .spaced bs := by
      induction entries with
      | nil => rfl
      | cons first others ih =>
          obtain ⟨value⟩ := first
          rw [printEntries, printEntries, value, ih]
    cases entries with
    | nil => rfl
    | cons first others =>
        obtain ⟨value⟩ := first
        rw [SamePrint, print, print, value, later others]

theorem kind_canonical (json : Json) : json.canonical.kind = json.kind := by
  cases json <;> rfl

theorem takesApart_samePrint : TakesApart (fun m n => m.text = n.text)
    (fun a b => SamePrint a.canonical b.canonical) where
  kind {a b} same := by
    rw [← a.kind_canonical, ← b.kind_canonical]
    exact kind_eq_of_print (congrArg (· ++ []) same)
  null := rfl
  bool value other := by cases value <;> cases other <;> simp [canonical, SamePrint, print]
  number _ _ := String.toList_inj
  string value other := by
    constructor
    · exact fun same => (quote_append_inj (congrArg (· ++ []) same)).1
    · exact congrArg quote
  array as bs := by
    rw [canonical, canonical, samePrint_array_iff, canonicalItems_eq_map, canonicalItems_eq_map,
      List.forall₂_map_left_iff, List.forall₂_map_right_iff]
  object {as} distinct bs := by
    rw [← sortEntries_forall₂_iff distinct, canonical, canonical, samePrint_object_iff,
      canonicalEntries_eq_map, canonicalEntries_eq_map, sortEntries_map, sortEntries_map,
      List.forall₂_map_left_iff, List.forall₂_map_right_iff]
    exact forall₂_congr_of_mem fun _ _ _ => by rw [entryRel_iff, entryRel_iff]

theorem text?_of_container {json : Json} (container : json.isScalar = false) :
    json.text? = some (String.ofList (print .spaced json.canonical)) := by
  cases json with
  | array items => rfl
  | object entries => rfl
  | _ => cases container

theorem text?_eq_iff {a b : Json} (container : a.isScalar = false)
    (container' : b.isScalar = false) (unique : a.UniqueKeys) :
    a.text? = b.text? ↔ Alike (fun m n => m.text = n.text) a b := by
  rw [text?_of_container container, text?_of_container container', Option.some_inj,
    String.ofList_inj]
  exact takesApart_samePrint.iff_alike unique b

/-- Two containers have one text exactly if they are the same up to the order of keys and to numbers
that are written alike; so one string operand accepts no others. -/
theorem text_tells_container {a b : Json} (container : a.isScalar = false)
    (container' : b.isScalar = false) (unique : a.UniqueKeys) :
    (a.text? = b.text? ↔ Alike (fun m n => m.text = n.text) a b) ∧
    ∀ operand, Condition.equals (some a) (.string operand) = true →
      Condition.equals (some b) (.string operand) = true →
        Alike (fun m n => m.text = n.text) a b := by
  refine ⟨text?_eq_iff container container' unique, fun operand first second => ?_⟩
  have own : a.text? = some operand := beq_iff_eq.mp first
  have other : b.text? = some operand := beq_iff_eq.mp second
  exact (text?_eq_iff container container' unique).mp (own.trans other.symm)

/-- Keys in another order, and a string that looks like two. -/
theorem text_tells_container_sample :
    (object [("tags", .array [ofInt 1, .string "x"]), ("n", .null)]).text? =
        (object [("n", .null), ("tags", .array [ofInt 1, .string "x"])]).text? ∧
      (array [.string "x\", \"y"]).text? ≠ (array [.string "x", .string "y"]).text? := by
  have tags : UniqueKeys (.array [ofInt 1, .string "x"]) :=
    .array (List.forall_mem_cons.mpr ⟨.scalar rfl, List.forall_mem_singleton.mpr (.scalar rfl)⟩)
  have unique : UniqueKeys (.object [("tags", .array [ofInt 1, .string "x"]), ("n", .null)]) :=
    .object (by decide)
      (List.forall_mem_cons.mpr ⟨tags, List.forall_mem_singleton.mpr (.scalar rfl)⟩)
  have single : UniqueKeys (.array [.string "x\", \"y"]) :=
    .array (List.forall_mem_singleton.mpr (.scalar rfl))
  constructor
  · have items : Alike (fun m n => m.text = n.text) (.array [ofInt 1, .string "x"])
        (.array [ofInt 1, .string "x"]) := Alike.refl (fun n => Eq.refl n.text) _
    refine (text_tells_container rfl rfl unique).1.mpr ?_
    exact .object (.swap _ _ []) (.cons (.value .null) (.cons (.value items) .nil))
  · intro same
    have items := alike_array_iff.mp ((text_tells_container rfl rfl single).1.mp same)
    cases items.length_eq

end Json

end DocStore
