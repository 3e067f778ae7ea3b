import DocStore.FieldPath
import Mathlib.Logic.Basic

/-!
# Dotted names

A name is read as a path when it consists of segments with dots between them. No segment is empty or
has a dot or a NUL in it, and the segments of the path are those of the name.
-/

namespace DocStore.FieldPath

theorem splitDots_eq_splitOn (text : List Char) : splitDots text = text.splitOn '.' := by
  induction text with
  | nil => rfl
  | cons c rest ih =>
      obtain ⟨first, others, split⟩ := List.exists_cons_of_ne_nil (List.splitOn_ne_nil '.' rest)
      rw [splitDots, ih, List.splitOn_cons_eq_if_modifyHead, split]
      by_cases dot : c = '.'
      · simp [dot]
      · simp [dot]

theorem dot_notMem_of_mem_splitDots {text piece : List Char} (member : piece ∈ splitDots text) :
    '.' ∉ piece := by
  induction text generalizing piece with
  | nil =>
      cases List.mem_singleton.mp member
      exact List.not_mem_nil
  | cons c rest ih =>
      rw [splitDots] at member
      split at member
      · next none =>
          rw [splitDots_eq_splitOn] at none
          exact absurd none (List.splitOn_ne_nil '.' rest)
      · next first others split =>
          have plain : ∀ piece ∈ first :: others, '.' ∉ piece := fun piece inside =>
            ih (split ▸ inside)
          by_cases dot : c = '.'
          · rw [if_pos dot] at member
            rcases List.mem_cons.mp member with rfl | behind
            · exact List.not_mem_nil
            · exact plain piece behind
          · rw [if_neg dot] at member
            rcases List.mem_cons.mp member with rfl | behind
            · exact List.not_mem_cons_of_ne_of_not_mem (Ne.symm dot) (plain first (.head others))
            · exact plain piece (.tail first behind)

/-- What stands between the dots of a name. -/
structure IsSegment (segment : String) : Prop where
  nonempty : segment ≠ ""
  plain : '.' ∉ segment.toList
  printable : Char.ofNat 0 ∉ segment.toList

/-- A name with these segments, one dot between any two of them. -/
structure Dotted (field : String) (segments : List String) : Prop where
  nonempty : segments ≠ []
  each : ∀ segment ∈ segments, IsSegment segment
  joined : field = String.intercalate "." segments

theorem mem_intercalate {separator : Char} {pieces : List (List Char)} {c : Char}
    (other : c ≠ separator) : c ∈ [separator].intercalate pieces ↔ ∃ piece ∈ pieces, c ∈ piece := by
  induction pieces with
  | nil => simp
  | cons piece rest ih =>
      cases rest with
      | nil => simp
      | cons second others =>
          rw [List.intercalate_cons_cons, List.append_assoc, List.mem_append, List.singleton_append,
            List.mem_cons, ih]
          simp [other]

theorem toList_segmentsOf (field : String) :
    (segmentsOf field).map String.toList = field.toList.splitOn '.' := by
  rw [segmentsOf, splitDots_eq_splitOn, List.map_map]
  simp [Function.comp_def]

theorem segmentsOf_ne_nil (field : String) : segmentsOf field ≠ [] := by
  rw [segmentsOf, splitDots_eq_splitOn]
  exact mt List.map_eq_nil_iff.mp (List.splitOn_ne_nil '.' field.toList)

theorem intercalate_segmentsOf (field : String) :
    String.intercalate "." (segmentsOf field) = field := by
  apply String.toList_inj.mp
  rw [String.toList_intercalate, toList_segmentsOf]
  exact List.intercalate_splitOn '.'

theorem segmentsOf_intercalate {segments : List String} (nonempty : segments ≠ [])
    (plain : ∀ segment ∈ segments, '.' ∉ segment.toList) :
    segmentsOf (String.intercalate "." segments) = segments := by
  have split : (segmentsOf (String.intercalate "." segments)).map String.toList =
      segments.map String.toList := by
    rw [toList_segmentsOf, String.toList_intercalate]
    refine List.splitOn_intercalate '.' ?_ (by simpa using nonempty)
    intro piece member
    obtain ⟨segment, inside, rfl⟩ := List.mem_map.mp member
    exact plain segment inside
  exact (List.map_inj_right fun _ _ same => String.toList_inj.mp same).mp split

theorem dot_notMem_of_mem_segmentsOf {field segment : String}
    (member : segment ∈ segmentsOf field) : '.' ∉ segment.toList := by
  obtain ⟨piece, inside, rfl⟩ := List.mem_map.mp member
  rw [String.toList_ofList]
  exact dot_notMem_of_mem_splitDots inside

theorem nul_mem_iff (field : String) : Char.ofNat 0 ∈ field.toList ↔
    ∃ segment ∈ segmentsOf field, Char.ofNat 0 ∈ segment.toList := by
  have other : Char.ofNat 0 ≠ '.' := by decide
  have joined : ['.'].intercalate ((segmentsOf field).map String.toList) = field.toList := by
    rw [toList_segmentsOf]
    exact List.intercalate_splitOn '.'
  rw [← joined, mem_intercalate other]
  simp only [List.mem_map, exists_exists_and_eq_and]

/-- A name is read as the path of its segments. -/
theorem ofString_eq_ok_iff (field : String) (path : FieldPath) :
    ofString field = .ok path ↔ Dotted field path.segments := by
  rw [ofString]
  constructor
  · intro read
    split at read
    · cases read
    · next usable =>
        split at read
        · cases read
        · next filled =>
            cases read
            refine ⟨segmentsOf_ne_nil field, fun segment member => ⟨?_, ?_, ?_⟩,
              (intercalate_segmentsOf field).symm⟩
            · rintro rfl
              exact filled (List.any_eq_true.mpr ⟨"", member, rfl⟩)
            · exact dot_notMem_of_mem_segmentsOf member
            · intro nul
              have inField := (nul_mem_iff field).mpr ⟨segment, member, nul⟩
              simp [inField] at usable
  · rintro ⟨nonempty, each, joined⟩
    have segments : segmentsOf field = path.segments := by
      rw [joined]
      exact segmentsOf_intercalate nonempty fun segment member => (each segment member).plain
    have filled : ¬ (segmentsOf field).any String.isEmpty = true := by
      rw [segments]
      intro empty
      obtain ⟨segment, member, isEmpty⟩ := List.any_eq_true.mp empty
      exact (each segment member).nonempty (String.isEmpty_iff.mp isEmpty)
    have usable : ¬ (field.isEmpty || field.toList.contains (Char.ofNat 0)) = true := by
      rw [Bool.or_eq_true, List.contains_iff_mem, nul_mem_iff, segments]
      rintro (empty | ⟨segment, member, nul⟩)
      · rw [String.isEmpty_iff.mp empty] at filled
        exact filled rfl
      · exact (each segment member).printable nul
    rw [if_neg usable, if_neg filled, segments]

end DocStore.FieldPath
