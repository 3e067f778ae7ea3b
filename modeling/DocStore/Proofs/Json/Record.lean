import DocStore.Json.Record
import DocStore.Proofs.Keyed

/-!
# Records are read back

A record is read back if its members are, in lists and options as well. An option without a value is
written as null, which no value is written as.
-/

namespace DocStore.Json

variable {α : Type} {write : α → Json} {read? : Json → Option α}

/-- Every value is read from what is written for it, and none is written as null. -/
structure RoundTrips (write : α → Json) (read? : Json → Option α) : Prop where
  reads : ∀ value, read? (write value) = some value
  notNull : ∀ value, write value ≠ .null

theorem roundTrips_string : RoundTrips .string string? where
  reads _ := rfl
  notNull _ := nofun

/-- Machine words are written as integers and read within their size. -/
theorem roundTrips_word {toNat : α → Nat} (ofNat : Nat → α) {size : Nat}
    (small : ∀ word, toNat word < size) (inverse : ∀ word, ofNat (toNat word) = word) :
    RoundTrips (fun word => .ofNat (toNat word)) fun json => (json.natural? size).map ofNat where
  reads word := by
    have natural : (Json.ofNat (toNat word)).natural? size = some (toNat word) :=
      if_pos (small word)
    rw [natural, Option.map_some, inverse]
  notNull _ := nofun

namespace RoundTrips

variable (trips : RoundTrips write read?)

include trips

theorem listOf (values : List α) : listOf? read? (.array (values.map write)) = some values := by
  have same : read? ∘ write = pure := funext trips.reads
  rw [listOf?, items?, Option.bind_some, List.mapM_map, same, List.mapM_pure]
  simp

theorem optional (value : Option α) :
    optional? read? (some (ofOptional write value)) = some value := by
  cases value with
  | none => rfl
  | some value =>
      unfold optional? ofOptional
      split
      · next absent => cases absent
      · next null => exact absurd (Option.some.inj null) (trips.notNull value)
      · next json written =>
          cases written
          rw [trips.reads, Option.map_some]

theorem ofOptional_eq_null_iff (value : Option α) :
    ofOptional write value = .null ↔ value = none := by
  cases value with
  | none => simp [ofOptional]
  | some value => simp [ofOptional, trips.notNull value]

end RoundTrips

/-- The member under a name is null where an option has no value, and only there. -/
def MarksAbsent {β : Type} (write : α → Json) (name : String) (option : α → Option β) : Prop :=
  ∀ value, (write value).field? name = some .null ↔ option value = none

theorem RoundTrips.marksAbsent (trips : RoundTrips write read?) {β : Type} {record : β → Json}
    {name : String} {option : β → Option α}
    (member : ∀ value, (record value).field? name = some (ofOptional write (option value))) :
    MarksAbsent record name option := fun value => by
  rw [member, Option.some_inj, trips.ofOptional_eq_null_iff]

/-! ## Members -/

/-- The members of a written record are found under their names. -/
theorem members?_record {entries : List (String × Json)} {names : List String}
    (named : entries.map Prod.fst = names) (distinct : names.Nodup) (least : Nat) :
    (object entries).members? names least = some (entries.map fun entry => some entry.2) := by
  subst named
  rw [members?, List.map_map]
  refine congrArg some (List.map_congr_left fun entry member => ?_)
  exact Keyed.lookup_of_mem distinct member

/-- Members under other names are ignored. -/
theorem members?_cons {names : List String} {name : String} (unknown : name ∉ names) (value : Json)
    (entries : List (String × Json)) (least : Nat) :
    (object ((name, value) :: entries)).members? names least =
      (object entries).members? names least := by
  refine congrArg some (List.map_congr_left fun other member => ?_)
  have apart : (other == name) = false :=
    beq_eq_false_iff_ne.mpr fun same => unknown (same ▸ member)
  rw [List.lookup_cons, apart]

/-- A record is read back if it is built anew from the members that are written. -/
theorem RoundTrips.record {names : List String} {least : Nat} {entries : α → List (String × Json)}
    {build : List (Option Json) → Option α}
    (written : ∀ value, write value = .object (entries value))
    (named : ∀ value, (entries value).map Prod.fst = names) (distinct : names.Nodup)
    (built : ∀ value, build ((entries value).map fun entry => some entry.2) = some value) :
    RoundTrips write fun json => (json.members? names least).bind build where
  reads value := by
    rw [written, members?_record (named value) distinct, Option.bind_some, built]
  notNull value := by
    rw [written]
    nofun

end DocStore.Json
