import DocStore.Proofs.FieldPath
import DocStore.Proofs.Text.Numeral

/-!
# Looking values up by dotted names

A name and its path are two forms of one thing, and a name behind another one goes on where that one
leads. In an array a segment is a position: it counts from zero at the front and from minus one at
the end, and its sum with the length is a 64-bit word again.
-/

namespace DocStore.FieldPath

/-! ## Names and their paths -/

/-- A name is not empty, it holds no NUL, and there is something before and behind every dot. -/
def IsName (field : String) : Prop :=
  field ≠ "" ∧ Char.ofNat 0 ∉ field.toList ∧ ∀ piece ∈ field.toList.splitOn '.', piece ≠ []

theorem isName_iff (field : String) :
    IsName field ↔ field ≠ "" ∧ Char.ofNat 0 ∉ field.toList ∧
      (segmentsOf field).any String.isEmpty = false := by
  have pieces : (∀ piece ∈ field.toList.splitOn '.', piece ≠ []) ↔
      (segmentsOf field).any String.isEmpty = false := by
    rw [← toList_segmentsOf, List.forall_mem_map, List.any_eq_false]
    exact forall₂_congr fun segment _ => by simp [String.isEmpty_iff]
  rw [IsName, pieces]

theorem exists_ofString_iff (field : String) :
    (∃ path, ofString field = .ok path) ↔ IsName field := by
  have empty : field.isEmpty = true ↔ field = "" := String.isEmpty_iff
  rw [isName_iff, ofString]
  split
  · next unusable =>
      rw [Bool.or_eq_true, empty, List.contains_iff_mem] at unusable
      constructor
      · rintro ⟨path, refused⟩
        cases refused
      · rintro ⟨nonempty, noNul, _⟩
        exact absurd unusable (not_or.mpr ⟨nonempty, noNul⟩)
  · next usable =>
      rw [Bool.or_eq_true, empty, List.contains_iff_mem, not_or] at usable
      split
      · next hollow =>
          constructor
          · rintro ⟨path, refused⟩
            cases refused
          · rintro ⟨_, _, filled⟩
            exact absurd hollow (Bool.eq_false_iff.mp filled)
      · next filled =>
          exact iff_of_true ⟨_, rfl⟩ ⟨usable.1, usable.2, Bool.eq_false_iff.mpr filled⟩

theorem display_of_dotted {field : String} {path : FieldPath}
    (dotted : Dotted field path.segments) : path.display = field := by
  have notRoot : path.isRoot = false := by simpa [isRoot] using dotted.nonempty
  rw [display, notRoot, dotted.joined]
  rfl

theorem dotted_display {segments : List String} (nonempty : segments ≠ [])
    (each : ∀ segment ∈ segments, IsSegment segment) : Dotted (display ⟨segments⟩) segments where
  nonempty := nonempty
  each := each
  joined := by simp [display, isRoot, nonempty]

theorem Dotted.append {field inner : String} {segments others : List String}
    (dotted : Dotted field segments) (behind : Dotted inner others) :
    Dotted (field ++ "." ++ inner) (segments ++ others) where
  nonempty := List.append_ne_nil_of_left_ne_nil dotted.nonempty others
  each := List.forall_mem_append.mpr ⟨dotted.each, behind.each⟩
  joined := by
    rw [String.intercalate_append_of_ne_nil dotted.nonempty behind.nonempty, ← dotted.joined,
      ← behind.joined]

/-- The second path goes on where the first one leads. -/
theorem lookup_append (segments others : List String) (json : Json) :
    lookup ⟨segments ++ others⟩ json = (lookup ⟨segments⟩ json).bind (lookup ⟨others⟩) :=
  List.foldlM_append

/-! ## Positions in an array -/

/-- What stands at a position of a list, counted from the front or from the end. -/
structure FindsItem (items : List Json) (position : Int) (found : Option Json) : Prop where
  front : ∀ (place : Nat) (inside : place < items.length), position = place →
    found = some items[place]
  back : ∀ (place : Nat) (inside : place < items.length), position = place - items.length →
    found = some items[place]
  outside : position < -items.length ∨ items.length ≤ position → found = none

theorem itemAt?_natCast (items : List Json) (place : Nat) :
    itemAt? items place = items[place]? := by
  have notBefore : ¬ (place : Int) < 0 := Int.not_lt.mpr (Int.natCast_nonneg place)
  simp [itemAt?, notBefore]

/-- A position from the end is one from the front, the length added. -/
theorem itemAt?_of_neg (items : List Json) {position : Int} (negative : position < 0)
    (inside : 0 ≤ items.length + position) :
    itemAt? items position = itemAt? items (items.length + position) := by
  have notBefore : ¬ (items.length + position : Int) < 0 := Int.not_lt.mpr inside
  simp [itemAt?, negative, notBefore]

theorem findsItem_itemAt? (items : List Json) (position : Int) :
    FindsItem items position (itemAt? items position) where
  front place inside same := by
    rw [same, itemAt?_natCast, List.getElem?_eq_getElem inside]
  back place inside same := by
    have fromFront : (items.length + position : Int) = place := by omega
    rw [itemAt?_of_neg items (by omega) (by omega), fromFront, itemAt?_natCast,
      List.getElem?_eq_getElem inside]
  outside beyond := by
    rcases beyond with before | behind
    · have negative : position < 0 := by omega
      have stillNegative : (items.length + position : Int) < 0 := by omega
      simp [itemAt?, negative, stillNegative]
    · obtain ⟨place, rfl⟩ := Int.eq_ofNat_of_zero_le (by omega : 0 ≤ position)
      rw [itemAt?_natCast]
      exact List.getElem?_eq_none (Int.ofNat_le.mp behind)

/-- A segment is a position in an array if it reads as a signed 64-bit word. -/
def IsPosition (segment : String) (position : Int) : Prop :=
  Numeral.Integer position segment.toList ∧ Numeral.isWord position = true

theorem index?_eq_some_iff (segment : String) (position : Int) :
    Numeral.index? segment.toList = some position ↔ IsPosition segment position := by
  rw [Numeral.index?, Option.filter_eq_some_iff, Numeral.integer?_eq_some_iff, IsPosition]

theorem lookup_array (items : List Json) (segment : String) :
    lookup ⟨[segment]⟩ (.array items) = (Numeral.index? segment.toList).bind (itemAt? items) := by
  simp [lookup, step]

theorem word_neg_iff (word : Int64) : word < 0 ↔ word.toInt < 0 := by
  rw [Int64.lt_iff_toInt_lt, Int64.toInt_zero]

/-- A position from the front as a 64-bit word, where a negative one is added to the length. -/
def wordIndex (length : Nat) (position : Int64) : Int64 :=
  if position < 0 then Int64.ofNat length + position else position

/-- A list whose length is a signed word has all its positions in words: no sum wraps around. -/
theorem toInt_wordIndex {length : Nat} (addressable : length < 2 ^ 63) (position : Int64) :
    (wordIndex length position).toInt =
      if position.toInt < 0 then length + position.toInt else position.toInt := by
  simp only [wordIndex, word_neg_iff]
  by_cases negative : position.toInt < 0
  · have least := position.le_toInt
    rw [if_pos negative, if_pos negative, Int64.toInt_add, Int64.toInt_ofNat_of_lt addressable]
    -- The sum of a negative word and a length lies between the two, so it is a word as well.
    exact Int.bmod_eq_of_le (by omega) (by omega)
  · rw [if_neg negative, if_neg negative]

/-- The item at a position, found by computing in 64-bit words. -/
def wordItemAt? (items : List Json) (position : Int64) : Option Json :=
  let index := wordIndex items.length position
  if index < 0 then none else items[index.toNatClampNeg]?

theorem wordItemAt?_eq {items : List Json} (addressable : items.length < 2 ^ 63)
    (position : Int64) : wordItemAt? items position = itemAt? items position.toInt := by
  simp only [wordItemAt?, itemAt?, word_neg_iff, ← toInt_wordIndex addressable position]
  rfl

/-- Names are read as paths and written back, two names with a dot between them look up one behind
the other, and the 64-bit words are the positions of an array, from the front or from the end. -/
theorem names_round_trip_and_compose :
    (∀ field, (∃ path, ofString field = .ok path) ↔ IsName field) ∧
    (∀ field path, ofString field = .ok path → path.display = field) ∧
    (∀ segments : List String, segments ≠ [] → (∀ segment ∈ segments, IsSegment segment) →
      ofString (display ⟨segments⟩) = .ok ⟨segments⟩) ∧
    (∀ field inner path behind, ofString field = .ok path → ofString inner = .ok behind →
      ∃ joined, ofString (field ++ "." ++ inner) = .ok joined ∧
        ∀ json, joined.lookup json = (path.lookup json).bind behind.lookup) ∧
    (∀ items segment position, IsPosition segment position →
      FindsItem items position (lookup ⟨[segment]⟩ (.array items))) ∧
    (∀ items segment, (∀ position, ¬ IsPosition segment position) →
      lookup ⟨[segment]⟩ (.array items) = none) ∧
    (∀ (items : List Json) (position : Int64), items.length < 2 ^ 63 →
      (wordIndex items.length position).toInt =
        (if position.toInt < 0 then items.length + position.toInt else position.toInt) ∧
      wordItemAt? items position = itemAt? items position.toInt) := by
  refine ⟨exists_ofString_iff, ?written, ?read, ?behind, ?position, ?noPosition, ?word⟩
  case written =>
    intro field path read
    exact display_of_dotted ((ofString_eq_ok_iff field path).mp read)
  case read =>
    intro segments nonempty each
    exact (ofString_eq_ok_iff _ ⟨segments⟩).mpr (dotted_display nonempty each)
  case behind =>
    intro field inner path behind read readInner
    have dotted := (ofString_eq_ok_iff field path).mp read
    have dottedInner := (ofString_eq_ok_iff inner behind).mp readInner
    exact ⟨⟨path.segments ++ behind.segments⟩,
      (ofString_eq_ok_iff _ _).mpr (dotted.append dottedInner),
      lookup_append path.segments behind.segments⟩
  case position =>
    intro items segment position isPosition
    rw [lookup_array, (index?_eq_some_iff segment position).mpr isPosition, Option.bind_some]
    exact findsItem_itemAt? items position
  case noPosition =>
    intro items segment no
    have unread : Numeral.index? segment.toList = none :=
      Option.eq_none_iff_forall_ne_some.mpr fun position read =>
        no position ((index?_eq_some_iff segment position).mp read)
    rw [lookup_array, unread, Option.bind_none]
  case word =>
    intro items position addressable
    exact ⟨toInt_wordIndex addressable position, wordItemAt?_eq addressable position⟩

/-- The items of an array below two keys, with the first one counted from the end. -/
theorem names_round_trip_and_compose_sample :
    let items : List Json := [.ofNat 10, .ofNat 20, .ofNat 30]
    let json : Json := .object [("a", .object [("b", .array items)])]
    (∃ path, ofString "a.b" = .ok path ∧ path.display = "a.b") ∧
    ofString (display ⟨["a", "b"]⟩) = .ok ⟨["a", "b"]⟩ ∧
    (∃ joined, ofString ("a.b" ++ "." ++ "-1") = .ok joined ∧
      joined.lookup json = some (.ofNat 30)) ∧
    lookup ⟨["-3"]⟩ (.array items) = some (.ofNat 10) ∧
    lookup ⟨["9223372036854775808"]⟩ (.array items) = none ∧
    (wordIndex items.length Int64.minValue).toInt = -9223372036854775805 := by
  intro items json
  obtain ⟨_, written, read, behind, position, noPosition, word⟩ := names_round_trip_and_compose
  have name : ofString "a.b" = .ok ⟨["a", "b"]⟩ := by decide
  have last : ofString "-1" = .ok ⟨["-1"]⟩ := by decide
  have segments : ∀ segment ∈ ["a", "b"], IsSegment segment :=
    List.forall_mem_cons.mpr ⟨⟨by decide, by decide, by decide⟩,
      List.forall_mem_singleton.mpr ⟨by decide, by decide, by decide⟩⟩
  have third : IsPosition "-3" (-3) := (index?_eq_some_iff "-3" (-3)).mp (by decide)
  have tooGreat (position : Int) : ¬ IsPosition "9223372036854775808" position := fun isPosition =>
    nomatch (index?_eq_some_iff _ position).mpr isPosition
  obtain ⟨joined, readJoined, composed⟩ := behind "a.b" "-1" _ _ name last
  exact ⟨⟨_, name, written _ _ name⟩, read ["a", "b"] (List.cons_ne_nil _ _) segments,
    ⟨joined, readJoined, composed json⟩, (position items "-3" (-3) third).back 0 (by decide) rfl,
    noPosition items _ tooGreat, (word items Int64.minValue (by decide)).1⟩

end DocStore.FieldPath
