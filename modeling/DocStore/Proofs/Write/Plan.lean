import DocStore.Proofs.Keyed
import DocStore.Write.Plan

/-!
# What a plan says about its rows

When the keys of all rows compose, there is one verdict for each row. The accepted rows stay in the
order of the batch, and every position is either accepted or refused, once.
-/

namespace DocStore

/-- Only where nothing is stored a row is an insert, and only what is stored can be updated. -/
theorem WriteKind.isSome_of_classify {stored previous : Option Document} {kind : WriteKind}
    (classified : classify stored previous = some kind) : stored.isSome = (kind == .update) := by
  unfold classify at classified
  split at classified
  · cases classified; rfl
  · split at classified <;> cases classified
    rfl
  · cases classified

/-- Only a row that expects nothing can be an insert. -/
theorem WriteKind.of_classify_insert {stored previous : Option Document}
    (classified : classify stored previous = some .insert) : stored = none ∧ previous = none := by
  unfold classify at classified
  split at classified
  · exact ⟨rfl, rfl⟩
  · split at classified <;> cases classified
  · cases classified

/-- Only a stored document can be updated, by a row that expects its revision. -/
theorem WriteKind.of_classify_update {stored previous : Option Document}
    (classified : classify stored previous = some .update) :
    ∃ document expected, stored = some document ∧ previous = some expected ∧
      document.revision? = expected.revision? := by
  unfold classify at classified
  split at classified
  · cases classified
  · next document expected =>
      split at classified
      · next same => exact ⟨document, expected, rfl, rfl, beq_iff_eq.mp same⟩
      · cases classified
  · cases classified

/-- A planned write was made from a row with its id and the document stored under that id. -/
structure PlannedWrite.IsOf (write : PlannedWrite) (index : Nat) (id : String) (row : WriteRow)
    (stored : Option Document) : Prop where
  index : write.index = index
  kind : WriteKind.classify stored row.previous = some write.kind
  stores : write.row = ⟨id, row.document⟩
  expected : write.expectedRevision = stored.bind Document.revision?
  documentInDb : write.documentInDb = stored
  event : write.event = ChangeEvent.ofWrite? id row.document stored

namespace Verdict

def index : Verdict → Nat
  | accepted write => write.index
  | refused index _ => index

/-- A row is accepted as the write that is made from it, or refused with what is stored. -/
theorem ofRow_cases (index : Nat) (id : String) (row : WriteRow) (stored : Option Document) :
    (∃ write, ofRow index id row stored = accepted write ∧ write.IsOf index id row stored) ∨
      ofRow index id row stored = refused index (.ofRow id row stored) := by
  rw [ofRow]
  cases classified : WriteKind.classify stored row.previous with
  | none => exact .inr rfl
  | some kind => exact .inl ⟨_, rfl, rfl, classified, rfl, rfl, rfl, rfl⟩

theorem index_ofRow (index : Nat) (id : String) (row : WriteRow) (stored : Option Document) :
    (ofRow index id row stored).index = index := by
  rw [ofRow]
  cases WriteKind.classify stored row.previous <;> rfl

theorem index_of_accepted? {verdict : Verdict} {write : PlannedWrite}
    (accepted : verdict.accepted? = some write) : write.index = verdict.index := by
  cases verdict with
  | accepted own =>
      cases accepted
      rfl
  | refused => cases accepted

theorem index_of_refused? {verdict : Verdict} {entry : Nat × WriteConflict}
    (refused : verdict.refused? = some entry) : entry.1 = verdict.index := by
  cases verdict with
  | accepted => cases refused
  | refused position conflict =>
      cases refused
      rfl

/-- The positions of the accepted and of the refused rows make up those of all rows. -/
theorem perm_index (verdicts : List Verdict) :
    ((verdicts.filterMap accepted?).map PlannedWrite.index ++
      (verdicts.filterMap refused?).map (·.1)).Perm (verdicts.map index) := by
  induction verdicts with
  | nil => exact .refl _
  | cons verdict rest ih =>
      cases verdict with
      | accepted write => exact ih.cons write.index
      | refused position conflict => exact List.perm_middle.trans (ih.cons position)

end Verdict

namespace WritePlan

/-- The verdicts on rows with their ids, the first one at a position. -/
def verdicts (stored : List (String × Document)) (rows : List WriteRow) (ids : List String)
    (position : Nat) : List Verdict :=
  ((rows.zip ids).zipIdx position).map fun entry =>
    Verdict.ofRow entry.2 entry.1.2 entry.1.1 (stored.lookup entry.1.2)

theorem mapM_cons_ok {α β ε : Type} {f : α → Except ε β} {x : α} {xs : List α} {ys : List β}
    (mapped : (x :: xs).mapM f = .ok ys) :
    ∃ y rest, f x = .ok y ∧ xs.mapM f = .ok rest ∧ ys = y :: rest := by
  rw [List.mapM_cons] at mapped
  cases first : f x with
  | error fault => rw [first] at mapped; cases mapped
  | ok y =>
      cases others : xs.mapM f with
      | error fault => rw [first, others] at mapped; cases mapped
      | ok rest =>
          rw [first, others] at mapped
          cases mapped
          exact ⟨y, rest, rfl, rfl, rfl⟩

variable {key : PrimaryKey} {rows : List WriteRow} {ids : List String}

theorem length_of_composed (composed : rows.mapM (fun row => key.compose row.document) = .ok ids) :
    ids.length = rows.length := by
  induction rows generalizing ids with
  | nil => cases composed; rfl
  | cons row rest ih =>
      obtain ⟨id, restIds, _, others, rfl⟩ := mapM_cons_ok composed
      exact congrArg (· + 1) (ih others)

theorem mapM_verdict (composed : rows.mapM (fun row => key.compose row.document) = .ok ids)
    (stored : List (String × Document)) (position : Nat) :
    (rows.zipIdx position).mapM (verdict key stored) = .ok (verdicts stored rows ids position) := by
  induction rows generalizing ids position with
  | nil => rfl
  | cons row rest ih =>
      obtain ⟨id, restIds, first, others, rfl⟩ := mapM_cons_ok composed
      rw [List.zipIdx_cons, List.mapM_cons, ih others]
      simp only [verdict, first]
      rfl

/-- The plan of rows with their ids. -/
def ofVerdicts (verdicts : List Verdict) (context : String) : WritePlan :=
  ⟨verdicts.filterMap Verdict.accepted?, verdicts.filterMap Verdict.refused?, context⟩

theorem ofRows_eq (composed : rows.mapM (fun row => key.compose row.document) = .ok ids)
    (stored : List (String × Document)) (context : String) :
    ofRows key stored rows context = .ok (ofVerdicts (verdicts stored rows ids 0) context) := by
  rw [ofRows, mapM_verdict composed]
  rfl

theorem documentIds_eq (composed : rows.mapM (fun row => key.compose row.document) = .ok ids) :
    documentIds key rows = .ok (Keyed.distinct ids) := by
  rw [documentIds, composed]
  rfl

theorem getElem?_verdicts (stored : List (String × Document)) {position : Nat} {row : WriteRow}
    {id : String} (rowAt : rows[position]? = some row) (idAt : ids[position]? = some id) :
    (verdicts stored rows ids 0)[position]? =
      some (Verdict.ofRow position id row (stored.lookup id)) := by
  have pair : (rows.zip ids)[position]? = some (row, id) :=
    List.getElem?_zip_eq_some.mpr ⟨rowAt, idAt⟩
  rw [verdicts, List.getElem?_map, List.getElem?_zipIdx, pair, Nat.zero_add]
  rfl

theorem map_index_verdicts (stored : List (String × Document)) (same : ids.length = rows.length) :
    (verdicts stored rows ids 0).map Verdict.index = List.range rows.length := by
  have positions : Verdict.index ∘ (fun entry : (WriteRow × String) × Nat =>
      Verdict.ofRow entry.2 entry.1.2 entry.1.1 (stored.lookup entry.1.2)) = Prod.snd :=
    funext fun entry => Verdict.index_ofRow entry.2 entry.1.2 entry.1.1 (stored.lookup entry.1.2)
  rw [verdicts, List.map_map, positions, List.zipIdx_map_snd, List.length_zip, same, Nat.min_self,
    List.range_eq_range']

/-- A row stands in the plan as a write or as a conflict. -/
theorem row_cases (stored : List (String × Document)) {position : Nat} {row : WriteRow}
    {id : String} (rowAt : rows[position]? = some row) (idAt : ids[position]? = some id)
    (context : String) :
    (∃ write ∈ (ofVerdicts (verdicts stored rows ids 0) context).writes,
      write.IsOf position id row (stored.lookup id)) ∨
    (position, .ofRow id row (stored.lookup id)) ∈
      (ofVerdicts (verdicts stored rows ids 0) context).conflicts := by
  have member := List.mem_of_getElem? (getElem?_verdicts stored rowAt idAt)
  rcases Verdict.ofRow_cases position id row (stored.lookup id) with
    ⟨write, accepted, isOf⟩ | refused
  · rw [accepted] at member
    exact .inl ⟨write, List.mem_filterMap.mpr ⟨_, member, rfl⟩, isOf⟩
  · rw [refused] at member
    exact .inr (List.mem_filterMap.mpr ⟨_, member, rfl⟩)

theorem eq_ofRow_of_mem {stored : List (String × Document)} {verdict : Verdict}
    (member : verdict ∈ verdicts stored rows ids 0) :
    ∃ position row id, rows[position]? = some row ∧ ids[position]? = some id ∧
      verdict = .ofRow position id row (stored.lookup id) := by
  obtain ⟨position, found⟩ := List.getElem?_of_mem member
  rw [verdicts, List.getElem?_map, List.getElem?_zipIdx, Nat.zero_add] at found
  cases pair : (rows.zip ids)[position]? with
  | none => rw [pair] at found; cases found
  | some entry =>
      rw [pair] at found
      cases found
      obtain ⟨rowAt, idAt⟩ := List.getElem?_zip_eq_some.mp pair
      exact ⟨position, entry.1, entry.2, rowAt, idAt, rfl⟩

/-- Every write of the plan is made from the row at its position. -/
theorem isOf_of_mem_writes {stored : List (String × Document)} {context : String}
    {write : PlannedWrite}
    (member : write ∈ (ofVerdicts (verdicts stored rows ids 0) context).writes) :
    ∃ row, rows[write.index]? = some row ∧ ids[write.index]? = some write.row.id ∧
      write.IsOf write.index write.row.id row (stored.lookup write.row.id) := by
  obtain ⟨verdict, inside, accepted⟩ := List.mem_filterMap.mp member
  obtain ⟨position, row, id, rowAt, idAt, rfl⟩ := eq_ofRow_of_mem inside
  rcases Verdict.ofRow_cases position id row (stored.lookup id) with ⟨found, same, isOf⟩ | refused
  · rw [same] at accepted
    cases accepted
    have own : write.row.id = id := congrArg StoredRow.id isOf.stores
    rw [isOf.index, own]
    exact ⟨row, rowAt, idAt, isOf⟩
  · rw [refused] at accepted
    cases accepted

/-- Every conflict of the plan carries what is stored under the id of its row. -/
theorem eq_ofRow_of_mem_conflicts {stored : List (String × Document)} {context : String}
    {entry : Nat × WriteConflict}
    (member : entry ∈ (ofVerdicts (verdicts stored rows ids 0) context).conflicts) :
    ∃ row id, rows[entry.1]? = some row ∧ ids[entry.1]? = some id ∧
      entry.2 = .ofRow id row (stored.lookup id) := by
  obtain ⟨verdict, inside, refused⟩ := List.mem_filterMap.mp member
  obtain ⟨position, row, id, rowAt, idAt, rfl⟩ := eq_ofRow_of_mem inside
  rcases Verdict.ofRow_cases position id row (stored.lookup id) with ⟨found, same, _⟩ | same
  · rw [same] at refused
    cases refused
  · rw [same] at refused
    cases refused
    exact ⟨row, id, rowAt, idAt, rfl⟩

/-- The id at a position is the one that the row there composes. -/
theorem compose_iff_getElem? (composed : rows.mapM (fun row => key.compose row.document) = .ok ids)
    {position : Nat} {row : WriteRow} (rowAt : rows[position]? = some row) (id : String) :
    key.compose row.document = .ok id ↔ ids[position]? = some id := by
  induction rows generalizing ids position with
  | nil => cases rowAt
  | cons first rest ih =>
      obtain ⟨firstId, restIds, firstComposed, others, rfl⟩ := mapM_cons_ok composed
      cases position with
      | zero =>
          cases rowAt
          rw [firstComposed, List.getElem?_cons_zero, Except.ok.injEq, Option.some.injEq]
      | succ position => exact ih others rowAt

theorem exists_id (composed : rows.mapM (fun row => key.compose row.document) = .ok ids)
    {position : Nat} {row : WriteRow} (rowAt : rows[position]? = some row) :
    ∃ id, ids[position]? = some id ∧ key.compose row.document = .ok id := by
  obtain ⟨bound, _⟩ := List.getElem?_eq_some_iff.mp rowAt
  rw [← length_of_composed composed] at bound
  have idAt : ids[position]? = some ids[position] := List.getElem?_eq_getElem bound
  exact ⟨ids[position], idAt, (compose_iff_getElem? composed rowAt _).mpr idAt⟩

theorem map_compose (composed : rows.mapM (fun row => key.compose row.document) = .ok ids) :
    (rows.map fun row => key.compose row.document) = ids.map .ok := by
  induction rows generalizing ids with
  | nil =>
      cases composed
      rfl
  | cons row rest ih =>
      obtain ⟨id, restIds, first, others, rfl⟩ := mapM_cons_ok composed
      rw [List.map_cons, List.map_cons, first, ih others]

/-! ## Positions in a plan -/

section Positions

variable {verdicts : List Verdict} {n : Nat}

theorem ascending_verdicts (positions : verdicts.map Verdict.index = List.range n) :
    verdicts.Pairwise (·.index < ·.index) :=
  List.pairwise_map.mp (positions ▸ List.pairwise_lt_range)

theorem ascending_writes (positions : verdicts.map Verdict.index = List.range n)
    (context : String) :
    (ofVerdicts verdicts context).writes.Pairwise (·.index < ·.index) := by
  unfold ofVerdicts
  refine List.pairwise_filterMap.mpr ((ascending_verdicts positions).imp ?_)
  intro first second less write accepted other otherAccepted
  rwa [Verdict.index_of_accepted? accepted, Verdict.index_of_accepted? otherAccepted]

theorem ascending_conflicts (positions : verdicts.map Verdict.index = List.range n)
    (context : String) : (ofVerdicts verdicts context).conflicts.Pairwise (·.1 < ·.1) := by
  unfold ofVerdicts
  refine List.pairwise_filterMap.mpr ((ascending_verdicts positions).imp ?_)
  intro first second less entry refused other otherRefused
  rwa [Verdict.index_of_refused? refused, Verdict.index_of_refused? otherRefused]

theorem perm_positions (positions : verdicts.map Verdict.index = List.range n) (context : String) :
    ((ofVerdicts verdicts context).writes.map PlannedWrite.index ++
      (ofVerdicts verdicts context).conflicts.map (·.1)).Perm (List.range n) :=
  positions ▸ Verdict.perm_index verdicts

end Positions

end WritePlan

end DocStore
