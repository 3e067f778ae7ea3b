import DocStore.Schema

/-!
# Table names

The version is the part of a table name behind the last separator. The separator between database
and collection can stand in their names as well, so these two are told apart only as one text.
-/

namespace DocStore

/-- Two texts are cut in the same way at the last separator. -/
theorem append_cons_inj {α : Type} {separator : α} {left left' right right' : List α}
    (last : separator ∉ right) (last' : separator ∉ right')
    (same : left ++ separator :: right = left' ++ separator :: right') :
    left = left' ∧ right = right' := by
  rcases List.append_eq_append_iff.mp same with ⟨rest, longer, cut⟩ | ⟨rest, longer, cut⟩
  · cases rest with
    | nil => exact ⟨by rw [longer, List.append_nil], (List.cons.inj cut).2⟩
    | cons first rest =>
        have inside : right = rest ++ separator :: right' := (List.cons.inj cut).2
        exact absurd (inside ▸ List.mem_append_right rest (.head right')) last
  · cases rest with
    | nil => exact ⟨by rw [longer, List.append_nil], (List.cons.inj cut).2.symm⟩
    | cons first rest =>
        have inside : right' = rest ++ separator :: right := (List.cons.inj cut).2
        exact absurd (inside ▸ List.mem_append_right rest (.head right)) last'

namespace Schema

/-- A collection with the name of its database before it. -/
def qualifiedName (database collection : String) : String := database ++ "_" ++ collection

theorem toList_tableName (database collection : String) (version : UInt32) :
    (tableName database collection version).toList =
      (qualifiedName database collection).toList ++ '_' :: Nat.toDigits 10 version.toNat := by
  have number : (toString version.toNat).toList = Nat.toDigits 10 version.toNat := Nat.toList_repr
  rw [tableName, String.toList_append, String.toList_append, number, qualifiedName]
  simp

theorem separator_notMem_toDigits (n : Nat) : '_' ∉ Nat.toDigits 10 n := by
  intro member
  have digit := Nat.isDigit_of_mem_toDigits (by decide) (by decide) member
  cases digit

/-- Two collections share a table exactly when their versions are the same and their names, each
with that of the database before it, read the same. -/
theorem tableName_eq_iff {database collection database' collection' : String}
    {version version' : UInt32} :
    tableName database collection version = tableName database' collection' version' ↔
      version = version' ∧
        qualifiedName database collection = qualifiedName database' collection' := by
  constructor
  · intro same
    have spelled := congrArg String.toList same
    rw [toList_tableName, toList_tableName] at spelled
    obtain ⟨names, digits⟩ := append_cons_inj (separator_notMem_toDigits _)
      (separator_notMem_toDigits _) spelled
    have numbers : version.toNat = version'.toNat :=
      calc version.toNat = Nat.ofDigitChars 10 (Nat.toDigits 10 version.toNat) 0 :=
            Nat.ofDigitChars_ten_toDigits.symm
        _ = Nat.ofDigitChars 10 (Nat.toDigits 10 version'.toNat) 0 := by rw [digits]
        _ = version'.toNat := Nat.ofDigitChars_ten_toDigits
    exact ⟨UInt32.toNat.inj numbers, String.toList_inj.mp names⟩
  · rintro ⟨rfl, names⟩
    exact congrArg (· ++ "_" ++ toString version.toNat) names

theorem version_of_validate {schema : Schema} {key : PrimaryKey} {version : UInt32}
    (valid : schema.validate = .ok (key, version)) : schema.version = some version := by
  simp only [validate, requireVersion, bind, Except.bind] at valid
  split at valid
  · cases valid
  · split at valid
    · cases valid
    · cases versioned : schema.version with
      | none => simp [versioned] at valid
      | some stated =>
          simp only [versioned] at valid
          cases valid
          rfl

end Schema

end DocStore
