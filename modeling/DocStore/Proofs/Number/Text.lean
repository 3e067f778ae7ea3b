import DocStore.Number

/-!
# The text of numbers

Numbers are written with digits, signs, points and the mark of an exponent only, and with at least
one of them. So any other character ends the text of a number.
-/

namespace DocStore

/-- The characters that numbers are written with. -/
def isNumeric (c : Char) : Bool := c.isDigit || c == '+' || c == '-' || c == '.' || c == 'e'

def Numeric (text : List Char) : Prop := ∀ c ∈ text, isNumeric c = true

/-- A text that does not go on with the text of a number before it. -/
def EndsNumber (rest : List Char) : Prop := ∀ c ∈ rest.head?, isNumeric c = false

theorem isNumeric_of_isDigit {c : Char} (isDigit : c.isDigit = true) : isNumeric c = true := by
  rw [isNumeric, isDigit]
  rfl

theorem numeric_of_isDigit {text : List Char} (digits : ∀ c ∈ text, c.isDigit = true) :
    Numeric text :=
  fun c member => isNumeric_of_isDigit (digits c member)

namespace Numeric

variable {text text' : List Char}

theorem nil : Numeric [] := fun _ member => nomatch member

theorem append (first : Numeric text) (second : Numeric text') : Numeric (text ++ text') :=
  List.forall_mem_append.mpr ⟨first, second⟩

theorem cons {c : Char} (first : isNumeric c = true) (rest : Numeric text) : Numeric (c :: text) :=
  List.forall_mem_cons.mpr ⟨first, rest⟩

theorem take (numeric : Numeric text) (count : Nat) : Numeric (text.take count) :=
  fun c member => numeric c (List.mem_of_mem_take member)

theorem drop (numeric : Numeric text) (count : Nat) : Numeric (text.drop count) :=
  fun c member => numeric c (List.mem_of_mem_drop member)

end Numeric

theorem isDigit_of_mem_toString {n : Nat} {c : Char} (member : c ∈ (toString n).toList) :
    c.isDigit = true := by
  have spelled : (toString n).toList = Nat.toDigits 10 n := Nat.toList_repr
  rw [spelled] at member
  exact Nat.isDigit_of_mem_toDigits (by decide) (by decide) member

namespace Double

theorem numeric_zeros (count : Int) : Numeric (zeros count) := by
  intro c member
  rw [List.eq_of_mem_replicate member]
  rfl

theorem isDigit_shortest (d : Double) : ∀ c ∈ d.shortest.digits, c.isDigit = true := by
  intro c member
  rw [shortest] at member
  split at member
  · next decimal found =>
      obtain ⟨n, _, picked⟩ := List.exists_of_findSome?_eq_some found
      obtain ⟨coefficient, _, rfl⟩ := Option.map_eq_some_iff.mp picked
      rw [Decimal.ofScaled, List.mem_reverse] at member
      have among := List.mem_reverse.mp ((List.dropWhile_sublist _).mem member)
      exact isDigit_of_mem_toString among
  · cases List.mem_singleton.mp member
    rfl

theorem numeric_layout {decimal : Decimal} (digits : ∀ c ∈ decimal.digits, c.isDigit = true) :
    Numeric (layout decimal) := by
  have own : Numeric decimal.digits := numeric_of_isDigit digits
  have point : isNumeric '.' = true := rfl
  simp only [layout]
  split
  · split
    · exact (own.append (numeric_zeros _)).append (.cons point (.cons rfl .nil))
    · exact (own.take _).append (.cons point (own.drop _))
  · split
    · exact .cons rfl (.cons point ((numeric_zeros _).append own))
    · have power : Numeric (toString (decimal.point - 1).natAbs).toList :=
        numeric_of_isDigit fun c member => isDigit_of_mem_toString member
      refine ((own.take 1).append ?_).append (.cons rfl (.cons ?_ power))
      · split
        · exact .nil
        · exact .cons point (own.drop 1)
      · split <;> rfl

theorem layout_ne_nil (decimal : Decimal) : layout decimal ≠ [] := by
  simp only [layout]
  split
  · split <;> simp
  · split <;> simp

theorem numeric_text (d : Double) : Numeric d.text.toList ∧ d.text.toList ≠ [] := by
  have unsigned : ∀ text : List Char, Numeric text → text ≠ [] →
      Numeric (if d.negative then '-' :: text else text) ∧
        (if d.negative then '-' :: text else text) ≠ [] := by
    intro text numeric nonempty
    split
    · exact ⟨.cons rfl numeric, List.cons_ne_nil _ _⟩
    · exact ⟨numeric, nonempty⟩
  rw [text, String.toList_ofList]
  refine unsigned _ ?_ ?_
  · split
    · exact .cons rfl (.cons rfl (.cons rfl .nil))
    · exact numeric_layout d.isDigit_shortest
  · split
    · exact List.cons_ne_nil _ _
    · exact layout_ne_nil _

end Double

namespace Number

theorem numeric_text (n : Number) : Numeric n.text.toList ∧ n.text.toList ≠ [] := by
  cases n with
  | double value => exact value.numeric_text
  | integer value =>
      have natural (n : Nat) : Numeric (toString n).toList ∧ (toString n).toList ≠ [] := by
        have spelled : (toString n).toList = Nat.toDigits 10 n := Nat.toList_repr
        refine ⟨numeric_of_isDigit fun c member => isDigit_of_mem_toString member, ?_⟩
        rw [spelled]
        exact Nat.toDigits_ne_nil
      cases value with
      | ofNat n => exact natural n
      | negSucc n =>
          have spelled : (text (.integer (.negSucc n))).toList =
              '-' :: (toString (n + 1)).toList := String.toList_append
          rw [spelled]
          exact ⟨.cons rfl (natural (n + 1)).1, List.cons_ne_nil _ _⟩

/-- A number is cut off where another character follows its text. -/
theorem text_append_inj {m n : Number} {rest rest' : List Char}
    (ends : EndsNumber rest) (ends' : EndsNumber rest')
    (same : m.text.toList ++ rest = n.text.toList ++ rest') : m.text = n.text ∧ rest = rest' := by
  have cut (n : Number) {rest : List Char} (ends : EndsNumber rest) :
      (n.text.toList ++ rest).takeWhile isNumeric = n.text.toList := by
    rw [List.takeWhile_append_of_pos n.numeric_text.1]
    cases rest with
    | nil => simp
    | cons c rest => simp [ends c rfl]
  have texts : m.text.toList = n.text.toList := by rw [← cut m ends, same, cut n ends']
  rw [texts] at same
  exact ⟨String.toList_inj.mp texts, List.append_cancel_left same⟩

end Number

end DocStore
