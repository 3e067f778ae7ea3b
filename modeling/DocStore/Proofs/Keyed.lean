import DocStore.Lists

/-!
# Lookups in keyed lists

Storing under a key changes the lookup of this key only. A list that is read off a function looks
up what the function says, in whatever order its pairs stand.
-/

namespace DocStore.Keyed

variable {α : Type}

theorem lookup_put (key other : String) (value : α) (entries : List (String × α)) :
    (put key value entries).lookup other =
      if other = key then some value else entries.lookup other := by
  induction entries with
  | nil =>
      by_cases same : other = key
      · subst same
        simp [put]
      · simp [put, List.lookup_cons, same, beq_eq_false_iff_ne.mpr same]
  | cons entry rest ih =>
      obtain ⟨k, v⟩ := entry
      by_cases stored : k = key
      · subst stored
        by_cases same : other = k
        · subst same
          simp [put]
        · simp [put, List.lookup_cons, same, beq_eq_false_iff_ne.mpr same]
      · rw [put, if_neg (by simpa using stored), List.lookup_cons, List.lookup_cons, ih]
        by_cases first : other = k
        · subst first
          simp [stored]
        · simp [beq_eq_false_iff_ne.mpr first]

theorem mem_of_mem_put {key : String} {value : α} {entries : List (String × α)}
    {entry : String × α} (member : entry ∈ put key value entries) :
    entry.2 = value ∨ entry ∈ entries := by
  induction entries with
  | nil =>
      rw [put, List.mem_singleton] at member
      exact .inl (congrArg Prod.snd member)
  | cons first rest ih =>
      obtain ⟨k, v⟩ := first
      rw [put] at member
      split at member
      · rcases List.mem_cons.mp member with rfl | later
        · exact .inl rfl
        · exact .inr (.tail _ later)
      · rcases List.mem_cons.mp member with rfl | later
        · exact .inr (.head _)
        · exact (ih later).imp id (.tail _)

theorem mem_of_lookup {key : String} {value : α} {entries : List (String × α)}
    (stored : entries.lookup key = some value) : (key, value) ∈ entries := by
  obtain ⟨before, behind, rfl, _⟩ := List.lookup_eq_some_iff.mp stored
  exact List.mem_append_right _ (.head _)

/-- Storing what is stored changes nothing. -/
theorem put_of_lookup {key : String} {value : α} {entries : List (String × α)}
    (stored : entries.lookup key = some value) : put key value entries = entries := by
  induction entries with
  | nil => cases stored
  | cons entry rest ih =>
      obtain ⟨k, v⟩ := entry
      rw [List.lookup_cons] at stored
      rw [put]
      by_cases same : key = k
      · subst same
        simp only [beq_self_eq_true, Option.some.injEq] at stored
        rw [if_pos (beq_self_eq_true key), stored]
      · rw [beq_eq_false_iff_ne.mpr same] at stored
        rw [if_neg (by simpa using Ne.symm same), ih stored]

/-- Of two values stored under a key the second one stays. -/
theorem put_put (key : String) (first second : α) (entries : List (String × α)) :
    put key second (put key first entries) = put key second entries := by
  induction entries with
  | nil => simp [put]
  | cons entry rest ih =>
      rw [put, put]
      split
      · rw [put, if_pos ‹_›]
      · rw [put, if_neg ‹_›, ih]

theorem lookup_erase (key other : String) (entries : List (String × α)) :
    (erase key entries).lookup other = if other = key then none else entries.lookup other := by
  induction entries with
  | nil => simp [erase]
  | cons entry rest ih =>
      obtain ⟨k, v⟩ := entry
      rw [erase] at ih ⊢
      by_cases erased : k = key
      · subst erased
        rw [List.filter_cons_of_neg (by simp), ih]
        by_cases same : other = k
        · rw [if_pos same, if_pos same]
        · rw [if_neg same, if_neg same, List.lookup_cons, beq_eq_false_iff_ne.mpr same]
      · rw [List.filter_cons_of_pos (by simpa using erased), List.lookup_cons, List.lookup_cons, ih]
        by_cases first : other = k
        · subst first
          simp [erased]
        · simp [beq_eq_false_iff_ne.mpr first]

/-- The value under a key is changed with all others. -/
theorem lookup_map {β : Type} (change : α → β) (entries : List (String × α)) (key : String) :
    (entries.map fun entry => (entry.1, change entry.2)).lookup key =
      (entries.lookup key).map change := by
  induction entries with
  | nil => rfl
  | cons entry rest ih =>
      rw [List.map_cons, List.lookup_cons, List.lookup_cons, ih]
      cases key == entry.1 <;> rfl

theorem lookup_foldl_put {value? : String → Option α} {entries : List (String × α)}
    (read : ∀ entry ∈ entries, value? entry.1 = some entry.2) (stored : List (String × α))
    (key : String) :
    (entries.foldl (fun stored entry => put entry.1 entry.2 stored) stored).lookup key =
      if key ∈ entries.map (·.1) then value? key else stored.lookup key := by
  induction entries generalizing stored with
  | nil => rfl
  | cons entry rest ih =>
      rw [List.foldl_cons, ih fun other member => read other (.tail entry member), lookup_put]
      by_cases later : key ∈ rest.map (·.1)
      · simp [later]
      · by_cases same : key = entry.1
        · subst same
          simp [later, read entry (.head rest)]
        · simp [later, same]

/-- Pairs that agree with a function are looked up as the function says. -/
theorem lookup_ofList {value? : String → Option α} {entries : List (String × α)}
    (read : ∀ entry ∈ entries, value? entry.1 = some entry.2) (key : String) :
    (ofList entries).lookup key = if key ∈ entries.map (·.1) then value? key else none :=
  lookup_foldl_put read [] key

theorem lookup_of_mem {β : Type} [BEq β] [LawfulBEq β] {entries : List (β × α)}
    (unique : (entries.map (·.1)).Nodup) {key : β} {value : α} (member : (key, value) ∈ entries) :
    entries.lookup key = some value := by
  obtain ⟨before, behind, rfl⟩ := List.append_of_mem member
  refine List.lookup_eq_some_iff.mpr ⟨before, behind, rfl, fun entry inside => ?_⟩
  rw [List.map_append, List.nodup_append] at unique
  have apart := unique.2.2 entry.1 (List.mem_map_of_mem inside) key (.head _)
  simpa using Ne.symm apart

theorem lookup_of_notMem {β : Type} [BEq β] [LawfulBEq β] {entries : List (β × α)} {key : β}
    (absent : key ∉ entries.map (·.1)) : entries.lookup key = none :=
  List.lookup_eq_none_iff.mpr fun entry member => by
    simpa using fun same : key = entry.1 => absent (same ▸ List.mem_map_of_mem member)

/-! ## Names without repetition -/

theorem foldl_distinct (names seen : List String) :
    names.foldl (fun seen name => if seen.contains name then seen else seen ++ [name]) seen =
      seen ++ (names.filter fun name => !seen.contains name).eraseDups := by
  induction names generalizing seen with
  | nil => simp
  | cons first rest ih =>
      rw [List.foldl_cons, ih]
      by_cases known : first ∈ seen
      · simp [known]
      · have unseen : (first :: rest).filter (fun name => !seen.contains name) =
            first :: rest.filter fun name => !seen.contains name := by
          simp [known]
        have later : rest.filter (fun name => !(seen ++ [first]).contains name) =
            (rest.filter fun name => !seen.contains name).filter fun name => !name == first := by
          rw [List.filter_filter]
          refine List.filter_congr fun name _ => ?_
          by_cases inside : name ∈ seen <;> simp [inside, Bool.beq_eq_decide_eq]
        rw [unseen, List.eraseDups_cons, if_neg (by simpa using known), later]
        simp

/-- The first occurrence of each name is kept. -/
theorem distinct_eq_eraseDups (names : List String) : distinct names = names.eraseDups := by
  have all : names.filter (fun name => !([] : List String).contains name) = names := by simp
  rw [distinct, foldl_distinct, all]
  rfl

theorem mem_distinct (names : List String) (name : String) :
    name ∈ distinct names ↔ name ∈ names := by
  rw [distinct_eq_eraseDups, List.mem_eraseDups]

theorem distinct_cons (name : String) (rest : List String) :
    distinct (name :: rest) = name :: distinct (rest.filter fun other => !other == name) := by
  rw [distinct_eq_eraseDups, distinct_eq_eraseDups, List.eraseDups_cons]

theorem distinct_sublist (names : List String) : (distinct names).Sublist names := by
  cases names with
  | nil => exact .slnil
  | cons name rest =>
      have kept := distinct_sublist (rest.filter fun other => !other == name)
      rw [distinct_cons]
      exact (kept.trans List.filter_sublist).cons_cons name
termination_by names.length
decreasing_by exact Nat.lt_succ_of_le (List.length_filter_le _ rest)

theorem nodup_distinct (names : List String) : (distinct names).Nodup := by
  cases names with
  | nil => exact .nil
  | cons name rest =>
      have others := nodup_distinct (rest.filter fun other => !other == name)
      have fresh : name ∉ distinct (rest.filter fun other => !other == name) := by
        simp [mem_distinct]
      rw [distinct_cons]
      exact List.nodup_cons.mpr ⟨fresh, others⟩
termination_by names.length
decreasing_by exact Nat.lt_succ_of_le (List.length_filter_le _ rest)

end DocStore.Keyed
