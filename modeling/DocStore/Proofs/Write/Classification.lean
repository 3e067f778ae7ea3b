import DocStore.Proofs.Write.Plan

/-!
# How a batch is classified

The keys of a batch are composed twice, once for the lookup and once for the plan, and both passes
stop at the first row whose key does not compose. Otherwise the plan has one verdict for each row,
and the row and the document stored under its id decide it.
-/

namespace DocStore

/-! ## The first row that fails -/

section FirstFault

variable {α β ε : Type} {f : α → Except ε β} {first : α} {rest : List α} {fault : ε}

/-- Of a list, the first element that fails does so with the fault. -/
def FailsFirst (f : α → Except ε β) (items : List α) (fault : ε) : Prop :=
  ∃ before item behind, items = before ++ item :: behind ∧
    (∀ earlier ∈ before, ∃ value, f earlier = .ok value) ∧ f item = .error fault

theorem failsFirst_cons_iff :
    FailsFirst f (first :: rest) fault ↔
      f first = .error fault ∨ (∃ value, f first = .ok value) ∧ FailsFirst f rest fault := by
  constructor
  · rintro ⟨before, item, behind, same, earlier, fails⟩
    cases before with
    | nil =>
        cases same
        exact .inl fails
    | cons other others =>
        cases same
        obtain ⟨succeeds, later⟩ := List.forall_mem_cons.mp earlier
        exact .inr ⟨succeeds, others, item, behind, rfl, later, fails⟩
  · rintro (fails | ⟨succeeds, before, item, behind, rfl, earlier, fails⟩)
    · exact ⟨[], first, rest, rfl, fun _ member => (nomatch member), fails⟩
    · exact ⟨first :: before, item, behind, rfl,
        List.forall_mem_cons.mpr ⟨succeeds, earlier⟩, fails⟩

theorem mapM_cons_eq_error_iff :
    (first :: rest).mapM f = .error fault ↔
      f first = .error fault ∨ (∃ value, f first = .ok value) ∧ rest.mapM f = .error fault := by
  rw [List.mapM_cons]
  cases f first with
  | error own => simp [bind, Except.bind]
  | ok value => cases rest.mapM f <;> simp [bind, Except.bind, pure, Except.pure]

/-- A walk over a list stops at the first element that fails. -/
theorem mapM_eq_error_iff {items : List α} :
    items.mapM f = .error fault ↔ FailsFirst f items fault := by
  induction items with
  | nil =>
      constructor
      · intro failed
        cases failed
      · rintro ⟨before, item, behind, same, _⟩
        exact absurd same.symm (List.append_ne_nil_of_right_ne_nil before (List.cons_ne_nil _ _))
  | cons first rest ih => rw [mapM_cons_eq_error_iff, failsFirst_cons_iff, ih]

theorem map_eq_error_iff {γ : Type} {answer : Except ε β} {g : β → γ} :
    answer.map g = .error fault ↔ answer = .error fault := by
  cases answer <;> simp [Except.map]

end FirstFault

namespace WritePlan

variable {key : PrimaryKey} {stored : List (String × Document)} {rows : List WriteRow}
  {fault : Error}

/-- Planning stops where composing the keys does. -/
theorem mapM_verdict_eq_error_iff (position : Nat) :
    (rows.zipIdx position).mapM (verdict key stored) = .error fault ↔
      rows.mapM (fun row => key.compose row.document) = .error fault := by
  induction rows generalizing position with
  | nil => exact ⟨(nomatch ·), (nomatch ·)⟩
  | cons row rest ih =>
      rw [List.zipIdx_cons, mapM_cons_eq_error_iff, mapM_cons_eq_error_iff, ih, verdict,
        map_eq_error_iff]
      cases key.compose row.document <;> simp [Except.map]

theorem ofRows_eq_error_iff (context : String) :
    ofRows key stored rows context = .error fault ↔
      FailsFirst (fun row => key.compose row.document) rows fault := by
  rw [ofRows, map_eq_error_iff, mapM_verdict_eq_error_iff, mapM_eq_error_iff]

theorem documentIds_eq_error_iff :
    documentIds key rows = .error fault ↔
      FailsFirst (fun row => key.compose row.document) rows fault := by
  rw [documentIds, map_eq_error_iff, mapM_eq_error_iff]

end WritePlan

/-! ## The verdict on one row -/

/-- A row expects the document that is stored: both are there, and of the same revision. -/
def ExpectsStored (stored previous : Option Document) : Prop :=
  ∃ document expected, stored = some document ∧ previous = some expected ∧
    document.revision? = expected.revision?

namespace WriteKind

variable {stored previous : Option Document}

theorem classify_eq_insert_iff :
    classify stored previous = some .insert ↔ stored = none ∧ previous = none := by
  constructor
  · exact of_classify_insert
  · rintro ⟨rfl, rfl⟩
    rfl

theorem classify_eq_update_iff :
    classify stored previous = some .update ↔ ExpectsStored stored previous := by
  constructor
  · exact of_classify_update
  · rintro ⟨document, expected, rfl, rfl, same⟩
    exact if_pos (beq_iff_eq.mpr same)

theorem classify_eq_none_iff :
    classify stored previous = none ↔
      ¬ (stored = none ∧ previous = none) ∧ ¬ ExpectsStored stored previous := by
  rw [← classify_eq_insert_iff, ← classify_eq_update_iff]
  cases classify stored previous with
  | none => simp
  | some kind => cases kind <;> simp

/-- The revision stored where a write is accepted is the one that its row expects. -/
theorem revision_of_classify {kind : WriteKind}
    (classified : classify stored previous = some kind) :
    stored.bind Document.revision? = previous.bind Document.revision? := by
  cases kind with
  | insert =>
      obtain ⟨rfl, rfl⟩ := of_classify_insert classified
      rfl
  | update =>
      obtain ⟨document, expected, rfl, rfl, same⟩ := of_classify_update classified
      exact same

end WriteKind

/-- The write that is planned for a row with its id, once it is accepted. -/
def PlannedWrite.ofRow (index : Nat) (kind : WriteKind) (id : String) (row : WriteRow)
    (stored : Option Document) : PlannedWrite where
  index := index
  kind := kind
  row := ⟨id, row.document⟩
  expectedRevision := row.previous.bind Document.revision?
  documentInDb := stored
  event := ChangeEvent.ofWrite? id row.document stored
  writeRow := row

namespace Verdict

variable {index : Nat} {id : String} {row : WriteRow} {stored : Option Document}

theorem ofRow_eq_accepted_iff {write : PlannedWrite} :
    ofRow index id row stored = accepted write ↔
      ∃ kind, WriteKind.classify stored row.previous = some kind ∧
        write = .ofRow index kind id row stored := by
  rw [ofRow]
  cases classified : WriteKind.classify stored row.previous with
  | none => simp
  | some kind =>
      simp only [accepted.injEq, Option.some.injEq, exists_eq_left', PlannedWrite.ofRow]
      rw [WriteKind.revision_of_classify classified, eq_comm]

theorem ofRow_eq_refused_iff {position : Nat} {conflict : WriteConflict} :
    ofRow index id row stored = refused position conflict ↔
      WriteKind.classify stored row.previous = none ∧ position = index ∧
        conflict = .ofRow id row stored := by
  rw [ofRow]
  cases WriteKind.classify stored row.previous with
  | none => simp only [refused.injEq, true_and, eq_comm]
  | some kind => simp

theorem mem_accepted_iff {verdicts : List Verdict} {write : PlannedWrite} :
    write ∈ verdicts.filterMap accepted? ↔ accepted write ∈ verdicts := by
  rw [List.mem_filterMap]
  constructor
  · rintro ⟨verdict, member, same⟩
    cases verdict with
    | accepted found =>
        cases same
        exact member
    | refused => cases same
  · exact fun member => ⟨_, member, rfl⟩

theorem mem_refused_iff {verdicts : List Verdict} {position : Nat} {conflict : WriteConflict} :
    (position, conflict) ∈ verdicts.filterMap refused? ↔ refused position conflict ∈ verdicts := by
  rw [List.mem_filterMap]
  constructor
  · rintro ⟨verdict, member, same⟩
    cases verdict with
    | accepted => cases same
    | refused found other =>
        cases same
        exact member
  · exact fun member => ⟨_, member, rfl⟩

end Verdict

/-! ## The verdicts of a plan -/

namespace WritePlan

/-- What a plan says of the row at a position, which has the id: it is inserted if nothing is stored
and nothing expected, updated if what it expects is stored, and else it is a conflict. -/
structure Classifies (plan : WritePlan) (position : Nat) (id : String) (row : WriteRow)
    (stored : Option Document) : Prop where
  insert : .ofRow position .insert id row stored ∈ plan.writes ↔
    stored = none ∧ row.previous = none
  update : .ofRow position .update id row stored ∈ plan.writes ↔
    ExpectsStored stored row.previous
  write : ∀ write ∈ plan.writes, write.index = position →
    write = .ofRow position write.kind id row stored
  conflict : ∀ conflict, (position, conflict) ∈ plan.conflicts ↔
    (¬ (stored = none ∧ row.previous = none) ∧ ¬ ExpectsStored stored row.previous) ∧
      conflict = .ofRow id row stored

/-- Two plans say the same of the rows at two positions. -/
structure AgreeAt (plan other : WritePlan) (position otherPosition : Nat) : Prop where
  writes : ∀ write, write.index = position →
    (write ∈ plan.writes ↔ { write with index := otherPosition } ∈ other.writes)
  conflicts : ∀ conflict,
    (position, conflict) ∈ plan.conflicts ↔ (otherPosition, conflict) ∈ other.conflicts

/-- The plan of a batch: its accepted and refused rows make up the batch, both in the order of their
rows, and each row is classified by what is stored under its id. -/
structure Classified (key : PrimaryKey) (stored : List (String × Document)) (rows : List WriteRow)
    (context : String) (plan : WritePlan) : Prop where
  once : (plan.writes.map PlannedWrite.index ++ plan.conflicts.map (·.1)).Perm
    (List.range rows.length)
  writes : plan.writes.Pairwise (·.index < ·.index)
  conflicts : plan.conflicts.Pairwise (·.1 < ·.1)
  composes : ∀ row ∈ rows, ∃ id, key.compose row.document = .ok id
  classifies : ∀ position row id, rows[position]? = some row →
    key.compose row.document = .ok id → plan.Classifies position id row (stored.lookup id)
  expected : ∀ write ∈ plan.writes,
    write.expectedRevision = write.writeRow.previous.bind Document.revision?
  context : plan.context = context

variable {key : PrimaryKey} {stored : List (String × Document)} {rows : List WriteRow}
  {ids : List String}

section Row

variable {position : Nat} {row : WriteRow} {id : String} (rowAt : rows[position]? = some row)
  (idAt : ids[position]? = some id)

include rowAt idAt

/-- The verdict at a position is the one on the row there. -/
theorem mem_verdicts_iff {verdict : Verdict} (own : verdict.index = position) :
    verdict ∈ verdicts stored rows ids 0 ↔
      Verdict.ofRow position id row (stored.lookup id) = verdict := by
  constructor
  · intro member
    obtain ⟨found, other, otherId, otherAt, otherIdAt, rfl⟩ := eq_ofRow_of_mem member
    rw [Verdict.index_ofRow] at own
    subst own
    rw [rowAt, Option.some.injEq] at otherAt
    rw [idAt, Option.some.injEq] at otherIdAt
    rw [otherAt, otherIdAt]
  · rintro rfl
    exact List.mem_of_getElem? (getElem?_verdicts stored rowAt idAt)

variable (context : String)

theorem mem_writes_iff {write : PlannedWrite} (own : write.index = position) :
    write ∈ (ofVerdicts (verdicts stored rows ids 0) context).writes ↔
      ∃ kind, WriteKind.classify (stored.lookup id) row.previous = some kind ∧
        write = .ofRow position kind id row (stored.lookup id) := by
  have ownVerdict : (Verdict.accepted write).index = position := own
  rw [ofVerdicts, Verdict.mem_accepted_iff, mem_verdicts_iff rowAt idAt ownVerdict,
    Verdict.ofRow_eq_accepted_iff]

theorem mem_conflicts_iff {conflict : WriteConflict} :
    (position, conflict) ∈ (ofVerdicts (verdicts stored rows ids 0) context).conflicts ↔
      WriteKind.classify (stored.lookup id) row.previous = none ∧
        conflict = .ofRow id row (stored.lookup id) := by
  rw [ofVerdicts, Verdict.mem_refused_iff, mem_verdicts_iff rowAt idAt rfl,
    Verdict.ofRow_eq_refused_iff, eq_self, true_and]

theorem ofRow_mem_writes_iff (kind : WriteKind) :
    .ofRow position kind id row (stored.lookup id) ∈
        (ofVerdicts (verdicts stored rows ids 0) context).writes ↔
      WriteKind.classify (stored.lookup id) row.previous = some kind := by
  rw [mem_writes_iff rowAt idAt context rfl]
  constructor
  · rintro ⟨found, classified, same⟩
    have sameKind : kind = found := congrArg PlannedWrite.kind same
    rw [classified, sameKind]
  · exact fun classified => ⟨kind, classified, rfl⟩

theorem classifies_ofVerdicts :
    (ofVerdicts (verdicts stored rows ids 0) context).Classifies position id row
      (stored.lookup id) where
  insert := by
    rw [ofRow_mem_writes_iff rowAt idAt context, WriteKind.classify_eq_insert_iff]
  update := by
    rw [ofRow_mem_writes_iff rowAt idAt context, WriteKind.classify_eq_update_iff]
  write := by
    intro write member own
    obtain ⟨kind, _, rfl⟩ := (mem_writes_iff rowAt idAt context own).mp member
    rfl
  conflict conflict := by
    rw [mem_conflicts_iff rowAt idAt context, WriteKind.classify_eq_none_iff]

end Row

theorem classified_ofVerdicts
    (composed : rows.mapM (fun row => key.compose row.document) = .ok ids) (context : String) :
    Classified key stored rows context (ofVerdicts (verdicts stored rows ids 0) context) := by
  have positions := map_index_verdicts stored (length_of_composed composed)
  refine ⟨perm_positions positions context, ascending_writes positions context,
    ascending_conflicts positions context, fun row member => ?_,
    fun position row id rowAt composes => ?_, fun write member => ?_, rfl⟩
  · obtain ⟨position, rowAt⟩ := List.getElem?_of_mem member
    obtain ⟨id, _, composes⟩ := exists_id composed rowAt
    exact ⟨id, composes⟩
  · exact classifies_ofVerdicts rowAt ((compose_iff_getElem? composed rowAt id).mp composes) context
  · obtain ⟨row, rowAt, idAt, _⟩ := isOf_of_mem_writes member
    rw [(classifies_ofVerdicts rowAt idAt context).write write member rfl]
    rfl

/-- The verdict on a row does not depend on where it stands, nor on the other rows. -/
theorem Classifies.agreeAt {plan other : WritePlan} {position otherPosition : Nat} {id : String}
    {row : WriteRow} {inDb : Option Document} (here : plan.Classifies position id row inDb)
    (there : other.Classifies otherPosition id row inDb) :
    plan.AgreeAt other position otherPosition := by
  have moved : ∀ kind, .ofRow position kind id row inDb ∈ plan.writes ↔
      .ofRow otherPosition kind id row inDb ∈ other.writes := by
    intro kind
    cases kind with
    | insert => rw [here.insert, there.insert]
    | update => rw [here.update, there.update]
  refine ⟨fun write own => ⟨fun member => ?_, fun member => ?_⟩, fun conflict => ?_⟩
  · have made := here.write write member own
    rw [made] at member ⊢
    exact (moved write.kind).mp member
  · have made := there.write _ member rfl
    rw [made] at member
    have same : write = .ofRow position write.kind id row inDb := by
      subst own
      exact congrArg (fun moved : PlannedWrite => { moved with index := write.index }) made
    rw [same]
    exact (moved write.kind).mpr member
  · rw [here.conflict, there.conflict]

theorem classified_of_ofRows {context : String} {plan : WritePlan}
    (planned : ofRows key stored rows context = .ok plan) :
    Classified key stored rows context plan := by
  cases composed : rows.mapM fun row => key.compose row.document with
  | error fault =>
      rw [(ofRows_eq_error_iff context).mpr (mapM_eq_error_iff.mp composed)] at planned
      cases planned
  | ok ids =>
      rw [ofRows_eq composed] at planned
      cases planned
      exact classified_ofVerdicts composed context

theorem exists_ofRows_eq_error_iff (context : String) :
    (∃ fault, ofRows key stored rows context = .error fault) ↔
      ∃ row ∈ rows, ∃ fault, key.compose row.document = .error fault := by
  constructor
  · rintro ⟨fault, failed⟩
    obtain ⟨before, row, behind, rfl, _, fails⟩ := (ofRows_eq_error_iff context).mp failed
    exact ⟨row, List.mem_append_right before (.head behind), fault, fails⟩
  · rintro ⟨row, member, fault, fails⟩
    cases planned : ofRows key stored rows context with
    | error other => exact ⟨other, rfl⟩
    | ok plan =>
        obtain ⟨id, composes⟩ := (classified_of_ofRows planned).composes row member
        rw [composes] at fails
        cases fails

/-- A row in two batches gets the same verdict if the same is stored under its id. -/
theorem agreeAt_of_ofRows {otherStored : List (String × Document)} {otherRows : List WriteRow}
    {context otherContext : String} {plan other : WritePlan}
    (planned : ofRows key stored rows context = .ok plan)
    (otherPlanned : ofRows key otherStored otherRows otherContext = .ok other) {row : WriteRow}
    {position otherPosition : Nat} (rowAt : rows[position]? = some row)
    (otherAt : otherRows[otherPosition]? = some row)
    (same : ∀ id, key.compose row.document = .ok id → stored.lookup id = otherStored.lookup id) :
    plan.AgreeAt other position otherPosition := by
  have here := classified_of_ofRows planned
  have there := classified_of_ofRows otherPlanned
  obtain ⟨id, composes⟩ := here.composes row (List.mem_of_getElem? rowAt)
  have classifiesThere := there.classifies otherPosition row id otherAt composes
  rw [← same id composes] at classifiesThere
  exact (here.classifies position row id rowAt composes).agreeAt classifiesThere

/-- Planning a batch fails exactly when the key of some row does not compose, with the error of the
first such row, as composing the ids does. The plan of any other batch holds each row once, as the
write or the conflict that the row and the document stored under its id make of it. -/
theorem ofRows_classifies (key : PrimaryKey) (stored : List (String × Document))
    (rows : List WriteRow) (context : String) :
    ((∃ fault, ofRows key stored rows context = .error fault) ↔
      ∃ row ∈ rows, ∃ fault, key.compose row.document = .error fault) ∧
    (∀ fault, ofRows key stored rows context = .error fault ↔
      FailsFirst (fun row => key.compose row.document) rows fault) ∧
    (∀ fault, ofRows key stored rows context = .error fault ↔
      documentIds key rows = .error fault) ∧
    (∀ plan, ofRows key stored rows context = .ok plan →
      Classified key stored rows context plan) ∧
    ∀ (otherStored : List (String × Document)) (otherRows : List WriteRow) (otherContext : String)
      (plan other : WritePlan) (row : WriteRow) (position otherPosition : Nat),
      ofRows key stored rows context = .ok plan →
      ofRows key otherStored otherRows otherContext = .ok other →
      rows[position]? = some row → otherRows[otherPosition]? = some row →
      (∀ id, key.compose row.document = .ok id → stored.lookup id = otherStored.lookup id) →
        plan.AgreeAt other position otherPosition := by
  refine ⟨exists_ofRows_eq_error_iff context, fun fault => ofRows_eq_error_iff context,
    fun fault => ?_, fun plan => classified_of_ofRows, ?_⟩
  · rw [ofRows_eq_error_iff, documentIds_eq_error_iff]
  · intro _ _ _ plan other row position otherPosition planned otherPlanned rowAt otherAt same
    exact agreeAt_of_ofRows planned otherPlanned rowAt otherAt same

/-- An update of the stored document, a new document, and an insert under the id that is taken. -/
def mixedRows : List WriteRow :=
  [⟨⟨[("id", .string "a"), ("_rev", .string "2-b")]⟩,
      some ⟨[("id", .string "a"), ("_rev", .string "1-a")]⟩⟩,
    ⟨⟨[("id", .string "b")]⟩, none⟩, ⟨⟨[("id", .string "a")]⟩, none⟩]

theorem ofRows_classifies_mixedRows :
    let stored : List (String × Document) :=
      [("a", ⟨[("id", .string "a"), ("_rev", .string "1-a")]⟩)]
    ∃ plan, ofRows (.field "id") stored mixedRows "import" = .ok plan ∧
      plan.writes.map PlannedWrite.index = [0, 1] ∧ plan.conflicts.map (·.1) = [2] ∧
      Classified (.field "id") stored mixedRows "import" plan :=
  ⟨_, rfl, rfl, rfl, (ofRows_classifies _ _ _ _).2.2.2.1 _ rfl⟩

end WritePlan

end DocStore
