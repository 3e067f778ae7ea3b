import DocStore.Proofs.Json.Alike

/-!
# Containment

A value holds itself and every value that is equal to it. Holding is transitive as long as the
numbers of the value in the middle are integers of 64 bits, which no other integer is equal to; at
the top level, too, where an array may hold a bare scalar.
-/

namespace DocStore

namespace Number

/-- Whatever is equal to an integer of 64 bits is equal to everything that this integer is equal
to. -/
theorem equal_trans {m n k : Number} (word : n.word?.isSome = true) (first : m.equal n = true)
    (second : n.equal k = true) : m.equal k = true := by
  obtain ⟨x, middle⟩ := Option.isSome_iff_exists.mp word
  obtain ⟨left, apart⟩ := (equal_iff m n).mp first
  obtain ⟨right, apart'⟩ := (equal_iff n k).mp second
  refine (equal_iff m k).mpr
    ⟨Double.same_iff.mpr ((Double.same_iff.mp left).trans (Double.same_iff.mp right)), ?_⟩
  -- Conflated ends would differ from the middle, and one of them would be conflated with it.
  rintro ⟨y, z, start, final, different, _⟩
  have leftEnd : y = x := by
    by_contra differs
    refine apart ⟨y, x, start, middle, differs, ?_⟩
    rwa [eq_of_word? start, eq_of_word? middle] at left
  have rightEnd : x = z := by
    by_contra differs
    refine apart' ⟨x, z, middle, final, differs, ?_⟩
    rwa [eq_of_word? middle, eq_of_word? final] at right
  exact different (leftEnd.trans rightEnd)

end Number

namespace Json

/-! ## Below the top level -/

theorem within_array_iff {wanted held : List Json} :
    within (.array wanted) (.array held) = true ↔
      ∀ item ∈ wanted, ∃ other ∈ held, within item other = true := by
  rw [within, itemsWithin_eq_all, List.all_eq_true]
  simp only [List.any_eq_true]

theorem within_object_iff {wanted held : List (String × Json)} :
    within (.object wanted) (.object held) = true ↔
      ∀ entry ∈ wanted, ∃ value, held.lookup entry.1 = some value ∧
        within entry.2 value = true := by
  rw [within, entriesWithin_eq_all, List.all_eq_true]
  refine forall₂_congr fun entry _ => ?_
  rw [entryHolds]
  cases held.lookup entry.1 <;> simp

/-- A scalar is held below the top level by what is equal to it. -/
theorem within_scalar {a : Json} (scalar : a.isScalar = true) (b : Json) :
    within a b = equal a b := by
  cases a with
  | array items => cases scalar
  | object entries => cases scalar
  | _ => rw [within]

theorem kind_of_within {a b : Json} (held : within a b = true) : a.kind = b.kind := by
  cases a <;> cases b <;> first | rfl | cases held

theorem isScalar_of_kind {a b : Json} (kinds : a.kind = b.kind) : a.isScalar = b.isScalar := by
  cases a <;> cases b <;> first | rfl | cases kinds

theorem within_self {a : Json} (unique : a.UniqueKeys) : within a a = true := by
  induction a with
  | array items ih =>
      exact within_array_iff.mpr fun item member =>
        ⟨item, member, ih item member (unique.of_array item member)⟩
  | object entries ih =>
      obtain ⟨distinct, each⟩ := unique.of_object
      exact within_object_iff.mpr fun entry member =>
        ⟨entry.2, Keyed.lookup_of_mem distinct member, ih entry member (each entry member)⟩
  | _ =>
      rw [within_scalar rfl]
      exact (equal_iff_alike (.scalar rfl) _).mpr (.refl Number.equal_self _)

theorem within_of_equal {a b : Json} (same : equal a b = true) : within a b = true := by
  induction a generalizing b with
  | array items ih =>
      cases b with
      | array others =>
          have matched := forall_left (forall₂_imp_of_mem
            (q := fun item _ => ∃ other ∈ others, equal item other = true)
            (fun item _ other inside paired => ⟨other, inside, paired⟩) (equalItems_iff.mp same))
          refine within_array_iff.mpr fun item member => ?_
          obtain ⟨other, inside, paired⟩ := matched item member
          exact ⟨other, inside, ih item member paired⟩
      | _ => cases same
  | object entries ih =>
      cases b with
      | object others =>
          rw [equal, Bool.and_eq_true, entriesIn_eq_all, List.all_eq_true] at same
          refine within_object_iff.mpr fun entry member => ?_
          have holds := same.2 entry member
          rw [entryHolds] at holds
          split at holds
          · next value found => exact ⟨value, found, ih entry member holds⟩
          · cases holds
      | _ => cases same
  | _ => rwa [within_scalar rfl]

/-- All numbers of a value are integers of 64 bits. -/
def OfWords (json : Json) : Prop := ∀ number, json.HasNumber number → number.word?.isSome = true

theorem OfWords.item {items : List Json} (words : OfWords (.array items)) {item : Json}
    (member : item ∈ items) : item.OfWords :=
  fun number inside => words number (.item member inside)

theorem OfWords.entry {entries : List (String × Json)} (words : OfWords (.object entries))
    {key : String} {value : Json} (member : (key, value) ∈ entries) : value.OfWords :=
  fun number inside => words number (.entry member inside)

theorem within_trans {a b c : Json} (words : b.OfWords) (first : within a b = true)
    (second : within b c = true) : within a c = true := by
  induction a generalizing b c with
  | null =>
      cases b <;> first | exact second | cases first
  | bool value =>
      cases b with
      | bool other =>
          cases beq_iff_eq.mp first
          exact second
      | _ => cases first
  | number value =>
      cases b with
      | number other =>
          cases c with
          | number third => exact Number.equal_trans (words other .here) first second
          | _ => cases second
      | _ => cases first
  | string value =>
      cases b with
      | string other =>
          cases beq_iff_eq.mp first
          exact second
      | _ => cases first
  | array items ih =>
      cases b with
      | array others =>
          cases c with
          | array held =>
              refine within_array_iff.mpr fun item member => ?_
              obtain ⟨other, inside, below⟩ := within_array_iff.mp first item member
              obtain ⟨final, among, above⟩ := within_array_iff.mp second other inside
              exact ⟨final, among, ih item member (words.item inside) below above⟩
          | _ => cases second
      | _ => cases first
  | object entries ih =>
      cases b with
      | object others =>
          cases c with
          | object held =>
              refine within_object_iff.mpr fun entry member => ?_
              obtain ⟨value, found, below⟩ := within_object_iff.mp first entry member
              have inside := Keyed.mem_of_lookup found
              obtain ⟨final, looked, above⟩ := within_object_iff.mp second _ inside
              exact ⟨final, looked, ih entry member (words.entry inside) below above⟩
          | _ => cases second
      | _ => cases first

/-! ## At the top level -/

/-- At the top level an array may hold a bare scalar, besides what is held below the top level. -/
theorem contains_iff {container wanted : Json} :
    contains container wanted = true ↔
      within wanted container = true ∨
        wanted.isScalar = true ∧ ∃ held, container = .array held ∧
          ∃ item ∈ held, within wanted item = true := by
  cases container with
  | array held =>
      rw [contains]
      split
      · next scalar =>
          have nested : ¬ within wanted (.array held) = true := fun below => by
            rw [isScalar_of_kind (kind_of_within below)] at scalar
            cases scalar
          rw [List.any_eq_true, or_iff_right nested]
          constructor
          · rintro ⟨item, member, bare⟩
            obtain ⟨bare, same⟩ := Bool.and_eq_true_iff.mp bare
            exact ⟨scalar, held, rfl, item, member,
              within_of_equal (equal_symm (.scalar bare) (.scalar scalar) same)⟩
          · rintro ⟨_, _, ⟨⟩, item, member, below⟩
            have bare : item.isScalar = true :=
              (isScalar_of_kind (kind_of_within below)).symm.trans scalar
            rw [within_scalar scalar] at below
            exact ⟨item, member, Bool.and_eq_true_iff.mpr
              ⟨bare, equal_symm (.scalar scalar) (.scalar bare) below⟩⟩
      · next compound => simp [compound]
  | _ => simp [contains]

theorem contains_trans {a b c : Json} (words : b.OfWords) (first : contains a b = true)
    (second : contains b c = true) : contains a c = true := by
  rw [contains_iff] at first second ⊢
  rcases first with nested | ⟨scalar, held, rfl, item, member, inside⟩
  · rcases second with below | ⟨scalar, held, rfl, item, member, inside⟩
    · exact .inl (within_trans words below nested)
    · cases a with
      | array others =>
          obtain ⟨other, among, above⟩ := within_array_iff.mp nested item member
          exact .inr ⟨scalar, others, rfl, other, among,
            within_trans (words.item member) inside above⟩
      | _ => cases nested
  · rcases second with below | ⟨_, others, rfl, _⟩
    · have bare : c.isScalar = true := (isScalar_of_kind (kind_of_within below)).trans scalar
      exact .inr ⟨bare, held, rfl, item, member, within_trans words below inside⟩
    · cases scalar

theorem contains_of_equal {a b : Json} (unique : a.UniqueKeys) (unique' : b.UniqueKeys)
    (same : equal a b = true) : contains a b = true :=
  contains_iff.mpr (.inl (within_of_equal (equal_symm unique unique' same)))

/-- A value holds itself, equality is symmetric, and equal values hold each other. What is held by a
value with integers of 64 bits only is held by every value that holds this one. -/
theorem containment_laws {a b : Json} (unique : a.UniqueKeys) (unique' : b.UniqueKeys) :
    contains a a = true ∧
    (equal a b = true ↔ equal b a = true) ∧
    (equal a b = true → contains a b = true ∧ contains b a = true) ∧
    ∀ c, b.OfWords → contains a b = true → contains b c = true → contains a c = true := by
  refine ⟨contains_iff.mpr (.inl (within_self unique)), ?_, ?_, ?_⟩
  · exact ⟨equal_symm unique unique', equal_symm unique' unique⟩
  · intro same
    exact ⟨contains_of_equal unique unique' same,
      contains_of_equal unique' unique (equal_symm unique unique' same)⟩
  · exact fun c words first second => contains_trans words first second

/-- A bare double in an array that is held part by part. -/
theorem containment_laws_sample :
    contains (.array [.array [ofInt 7, .string "x"], .string "y", ofInt 7])
        (.array [ofInt 7, .array [.string "x"]]) = true ∧
      contains (.array [ofInt 7, .array [.string "x"]]) (ofDouble (Double.ofInt 7)) = true ∧
      contains (.array [.array [ofInt 7, .string "x"], .string "y", ofInt 7])
        (ofDouble (Double.ofInt 7)) = true := by
  have held : contains (.array [.array [ofInt 7, .string "x"], .string "y", ofInt 7])
      (.array [ofInt 7, .array [.string "x"]]) = true := by decide
  have bare : contains (.array [ofInt 7, .array [.string "x"]])
      (ofDouble (Double.ofInt 7)) = true := by decide
  have scalars {items : List Json} (each : ∀ item ∈ items, item.isScalar = true) :
      UniqueKeys (.array items) := .array fun item member => .scalar (each item member)
  have unique : UniqueKeys (.array [.array [ofInt 7, .string "x"], .string "y", ofInt 7]) := by
    refine .array (List.forall_mem_cons.mpr ⟨scalars ?_, List.forall_mem_cons.mpr
      ⟨.scalar rfl, List.forall_mem_singleton.mpr (.scalar rfl)⟩⟩)
    exact List.forall_mem_cons.mpr ⟨rfl, List.forall_mem_singleton.mpr rfl⟩
  have unique' : UniqueKeys (.array [ofInt 7, .array [.string "x"]]) := by
    refine .array (List.forall_mem_cons.mpr ⟨.scalar rfl, List.forall_mem_singleton.mpr ?_⟩)
    exact scalars (List.forall_mem_singleton.mpr rfl)
  have words : OfWords (.array [ofInt 7, .array [.string "x"]]) := by
    intro number inside
    cases inside with
    | item member inside =>
        rcases List.mem_cons.mp member with rfl | rest
        · cases inside
          rfl
        · cases List.mem_singleton.mp rest
          cases inside with
          | item member inside =>
              cases List.mem_singleton.mp member
              cases inside
  exact ⟨held, bare, (containment_laws unique unique').2.2.2 _ words held bare⟩

/-- The double of `2 ^ 53` is equal to the integer and to its successor, which are not equal. -/
example :
    contains (.array [ofInt 9007199254740992])
        (.array [ofDouble (Double.ofInt 9007199254740992)]) = true ∧
      contains (.array [ofDouble (Double.ofInt 9007199254740992)])
        (ofInt 9007199254740993) = true ∧
      contains (.array [ofInt 9007199254740992]) (ofInt 9007199254740993) = false := by
  decide

end Json

end DocStore
