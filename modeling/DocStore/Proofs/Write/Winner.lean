import DocStore.Proofs.Write.Batch

/-!
# At most one row of an id wins

When every row of a batch brings a revision that is not the stored one, the first successful write
under an id turns away all later ones: they find a document that the plan did not see. So the winner
is the first accepted row of the id that no pending failure stops.
-/

namespace DocStore

namespace Instance

/-- The write with a number is the first one under an id that no pending failure stops. -/
structure IsFirstUnfailed (failing : Nat) (writes : List PlannedWrite) (number : Nat)
    (id : String) : Prop where
  planned : ∃ write, writes[number]? = some write ∧ write.row.id = id
  unfailed : failing ≤ number
  first : ∀ earlier other, failing ≤ earlier → earlier < number → writes[earlier]? = some other →
    other.row.id ≠ id

section Winner

variable {name : String} {writes : List PlannedWrite} {store : MemoryStore} {number : Nat}
  {write : PlannedWrite}
  (planned : ∀ write ∈ writes, PlannedOn (store.document? name) write)
  (present : (store.table? name).isSome)

include planned present

theorem unfailed_of_succeeds {id : String} (succeeds : Succeeds name writes store number id) :
    store.failingWrites ≤ number := by
  obtain ⟨write, found, _, success⟩ := succeeds
  refine Nat.le_of_not_lt fun stopped => ?_
  obtain ⟨failure, failed⟩ := (failed_outcomeOf_iff planned present found).mpr stopped
  rw [failed] at success
  cases success

theorem not_failed_of_le (found : writes[number]? = some write)
    (unfailed : store.failingWrites ≤ number) :
    ¬ ∃ failure, outcomeOf name writes store number write = .failed failure := by
  rw [failed_outcomeOf_iff planned present found]
  exact Nat.not_lt_of_le unfailed

theorem succeeds_of_unsuccessful (found : writes[number]? = some write)
    (unfailed : store.failingWrites ≤ number)
    (unsuccessful : ∀ earlier < number, ¬ Succeeds name writes store earlier write.row.id) :
    Succeeds name writes store number write.row.id := by
  obtain ⟨bounded, _⟩ := List.getElem?_eq_some_iff.mp found
  have undisturbed := document?_reached_of_unsuccessful planned present (Nat.le_of_lt bounded)
    unsuccessful
  have step := step_reached planned present found
  have fits : Fits (store.document? name write.row.id)
      ((reached MemoryStore.backend name writes number store).document? name write.row.id) := by
    rw [undisturbed]
    exact ⟨rfl, rfl⟩
  have unstopped := not_failed_of_le planned present found unfailed
  exact ⟨write, found, rfl, step.isSuccess_of_fits unstopped fits⟩

variable (fresh : ∀ write ∈ writes,
  ¬ Fits (store.document? name write.row.id) (some write.row.data))

include fresh

/-- Behind a success under an id, its document is none that the plan saw. -/
theorem misfits_reached {id : String} {earlier : Nat} (less : earlier < number)
    (bounded : number ≤ writes.length) (succeeds : Succeeds name writes store earlier id) :
    ¬ Fits (store.document? name id)
      ((reached MemoryStore.backend name writes number store).document? name id) := by
  induction number with
  | zero => cases less
  | succ number ih =>
      have found : writes[number]? = some writes[number] := List.getElem?_eq_getElem bounded
      have step := step_reached planned present found
      rcases Nat.lt_succ_iff_lt_or_eq.mp less with before | rfl
      -- No write of the batch replaces a document that misfits its snapshot.
      · have misfits := ih before (Nat.le_of_lt bounded)
        rwa [step.document?_of_misfits misfits]
      -- The write that succeeds leaves its own document, and that one is fresh.
      · obtain ⟨write, again, rfl, success⟩ := succeeds
        rw [found, Option.some.injEq] at again
        subst again
        rw [(step.of_success success).2.2]
        exact fresh _ (List.getElem_mem bounded)

/-- A success under an id is the only one. -/
theorem unsuccessful_of_succeeds {id : String} (succeeds : Succeeds name writes store number id) :
    ∀ earlier < number, ¬ Succeeds name writes store earlier id := by
  intro earlier less before
  obtain ⟨write, found, rfl, success⟩ := succeeds
  obtain ⟨bounded, _⟩ := List.getElem?_eq_some_iff.mp found
  have fits := ((step_reached planned present found).of_success success).2.1
  exact misfits_reached planned present fresh less (Nat.le_of_lt bounded) before fits

/-- A write succeeds exactly when it is the first one under its id that is not stopped. -/
theorem succeeds_iff {id : String} :
    Succeeds name writes store number id ↔
      IsFirstUnfailed store.failingWrites writes number id := by
  constructor
  · intro succeeds
    have alone := unsuccessful_of_succeeds planned present fresh succeeds
    have unfailed := unfailed_of_succeeds planned present succeeds
    obtain ⟨write, found, own, _⟩ := succeeds
    refine ⟨⟨write, found, own⟩, unfailed, ?_⟩
    rintro earlier other unfailedOther less foundOther rfl
    refine alone earlier less (succeeds_of_unsuccessful planned present foundOther unfailedOther ?_)
    exact fun before lessStill => alone before (Nat.lt_trans lessStill less)
  · rintro ⟨⟨write, found, rfl⟩, unfailed, first⟩
    refine succeeds_of_unsuccessful planned present found unfailed fun earlier less succeeds => ?_
    have unfailedOther := unfailed_of_succeeds planned present succeeds
    obtain ⟨other, foundOther, own, _⟩ := succeeds
    exact first earlier other unfailedOther less foundOther own

/-- What comes behind a success under the same id is a conflict. -/
theorem conflict_of_succeeds {earlier : Nat} (found : writes[number]? = some write)
    (less : earlier < number) (succeeds : Succeeds name writes store earlier write.row.id) :
    ∃ conflict, outcomeOf name writes store number write = .conflict conflict := by
  obtain ⟨bounded, _⟩ := List.getElem?_eq_some_iff.mp found
  have unfailed := Nat.le_trans (unfailed_of_succeeds planned present succeeds) (Nat.le_of_lt less)
  have unstopped := not_failed_of_le planned present found unfailed
  have misfits := misfits_reached planned present fresh less (Nat.le_of_lt bounded) succeeds
  exact (step_reached planned present found).conflict_of_misfits unstopped misfits

end Winner

end Instance

/-- Writes stand in a plan in the order of their rows. -/
theorem WritePlan.lt_of_index_lt {writes : List PlannedWrite}
    (ascending : writes.Pairwise (·.index < ·.index)) {first second : Nat}
    {write other : PlannedWrite} (found : writes[first]? = some write)
    (foundOther : writes[second]? = some other) (less : write.index < other.index) :
    first < second := by
  obtain ⟨bounded, rfl⟩ := List.getElem?_eq_some_iff.mp found
  obtain ⟨boundedOther, rfl⟩ := List.getElem?_eq_some_iff.mp foundOther
  rcases Nat.lt_trichotomy first second with before | rfl | behind
  · exact before
  · exact absurd less (Nat.lt_irrefl _)
  · have greater := List.pairwise_iff_getElem.mp ascending second first boundedOther bounded behind
    exact absurd less (Nat.lt_asymm greater)

namespace Instance

/-! ## A whole batch -/

theorem PlansRows.isWritten_iff {inst : Instance} {rows : List WriteRow} {context : String}
    {store : MemoryStore} {stored : List (String × Document)} {ids : List String}
    {plan : WritePlan} (plans : PlansRows inst rows context store stored ids plan)
    (position : Nat) (id : String) :
    (∃ row, inst.IsWritten rows (runPlan MemoryStore.backend inst plan store).1.response
        position id row) ↔
      ∃ number write, plan.writes[number]? = some write ∧ write.index = position ∧
        Succeeds inst.table plan.writes store number id := by
  constructor
  · rintro ⟨row, written⟩
    obtain ⟨entry, member, sameIndex, stores, success⟩ :=
      applied_of_isWritten plans.composed plans.planned written
    obtain ⟨number, found, outcome⟩ := exists_number member
    rw [outcome] at success
    exact ⟨number, entry.write, found, sameIndex, entry.write, found,
      congrArg StoredRow.id stores, success⟩
  · rintro ⟨number, write, found, rfl, same, again, rfl, success⟩
    rw [found, Option.some.injEq] at again
    subst again
    obtain ⟨row, rowAt, composes, _⟩ := plans.isOf (List.mem_of_getElem? found)
    exact ⟨row, rowAt, composes, _, plans.outcome found, success⟩

/-- Under each id at most one row of a batch is written, and an update replaces what its row
expects. The numbers count the accepted rows, in the order of the batch. -/
structure SingleWinner (inst : Instance) (rows : List WriteRow) (store : MemoryStore)
    (plan : WritePlan) (response : BulkWriteResponse) : Prop where
  ascending : plan.writes.Pairwise (·.index < ·.index)
  failed : ∀ number write, plan.writes[number]? = some write →
    ((∃ failure, response.outcomes[write.index]? = some (.failed failure)) ↔
      number < store.failingWrites)
  unique : ∀ id first second row other, inst.IsWritten rows response first id row →
    inst.IsWritten rows response second id other → first = second
  winner : ∀ id position, (∃ row, inst.IsWritten rows response position id row) ↔
    ∃ number write, plan.writes[number]? = some write ∧ write.index = position ∧
      IsFirstUnfailed store.failingWrites plan.writes number id
  losers : ∀ id position row write, inst.IsWritten rows response position id row →
    write ∈ plan.writes → write.row.id = id → position < write.index →
      ∃ conflict, response.outcomes[write.index]? = some (.conflict conflict)
  replaced : ∀ number write, plan.writes[number]? = some write →
    response.outcomes[write.index]? = some (.updated write.row.id) →
      ∃ row expected old, rows[write.index]? = some row ∧ row.previous = some expected ∧
        (reached MemoryStore.backend inst.table plan.writes number store).document? inst.table
          write.row.id = some old ∧ old.revision? = expected.revision? ∧
        (reached MemoryStore.backend inst.table plan.writes (number + 1) store).document?
          inst.table write.row.id = some row.document

/-- No row brings the revision that is stored under its id. -/
def FreshRevisions (inst : Instance) (rows : List WriteRow) (store : MemoryStore) : Prop :=
  ∀ row ∈ rows, ∀ id stored, inst.primaryKey.compose row.document = .ok id →
    store.document? inst.table id = some stored → row.document.revision? ≠ stored.revision?

namespace PlansRows

variable {inst : Instance} {rows : List WriteRow} {context : String} {store : MemoryStore}
  {stored : List (String × Document)} {ids : List String} {plan : WritePlan}

theorem misfits_of_fresh (plans : PlansRows inst rows context store stored ids plan)
    (fresh : inst.FreshRevisions rows store) :
    ∀ write ∈ plan.writes,
      ¬ Fits (store.document? inst.table write.row.id) (some write.row.data) := by
  rintro write member ⟨isSome, same⟩
  obtain ⟨row, rowAt, composes, isOf⟩ := plans.isOf member
  obtain ⟨old, found⟩ := Option.isSome_iff_exists.mp isSome
  have data : write.row.data = row.document := congrArg StoredRow.data isOf.stores
  rw [found, data] at same
  exact fresh row (List.mem_of_getElem? rowAt) write.row.id old composes found same.symm

theorem replaced_of_updated (plans : PlansRows inst rows context store stored ids plan)
    {number : Nat} {write : PlannedWrite} (found : plan.writes[number]? = some write)
    (updated : outcomeOf inst.table plan.writes store number write = .updated write.row.id) :
    ∃ row expected old, rows[write.index]? = some row ∧ row.previous = some expected ∧
      (reached MemoryStore.backend inst.table plan.writes number store).document? inst.table
        write.row.id = some old ∧ old.revision? = expected.revision? ∧
      (reached MemoryStore.backend inst.table plan.writes (number + 1) store).document?
        inst.table write.row.id = some row.document := by
  obtain ⟨row, rowAt, _, isOf⟩ := plans.isOf (List.mem_of_getElem? found)
  have success : (outcomeOf inst.table plan.writes store number write).isSuccess = true := by
    rw [updated]
    rfl
  obtain ⟨outcome, ⟨isSome, revision⟩, after⟩ :=
    (step_reached plans.plannedOn plans.present found).of_success success
  have kind : write.kind = .update := by
    rw [updated, PlannedWrite.outcome] at outcome
    cases same : write.kind with
    | insert => rw [same] at outcome; cases outcome
    | update => rfl
  have classified := isOf.kind
  rw [kind] at classified
  obtain ⟨before, expected, wasStored, expects, same⟩ := WriteKind.of_classify_update classified
  rw [wasStored] at isSome revision
  obtain ⟨old, nowStored⟩ := Option.isSome_iff_exists.mp isSome.symm
  rw [nowStored] at revision
  refine ⟨row, expected, old, rowAt, expects, nowStored, revision.symm.trans same, ?_⟩
  rw [after, isOf.stores]

theorem singleWinner (plans : PlansRows inst rows context store stored ids plan)
    (fresh : inst.FreshRevisions rows store) :
    SingleWinner inst rows store plan
      (runPlan MemoryStore.backend inst plan store).1.response := by
  have misfits := plans.misfits_of_fresh fresh
  have alone : ∀ {number id}, Succeeds inst.table plan.writes store number id →
      ∀ earlier < number, ¬ Succeeds inst.table plan.writes store earlier id :=
    unsuccessful_of_succeeds plans.plannedOn plans.present misfits
  refine ⟨plans.ascending, fun number write found => ?_, ?_, fun id position => ?_, ?_, ?_⟩
  · rw [plans.outcome found, ← failed_outcomeOf_iff plans.plannedOn plans.present found]
    simp only [Option.some.injEq]
  · intro id first second row other written otherWritten
    obtain ⟨number, write, found, rfl, succeeds⟩ := (plans.isWritten_iff _ id).mp ⟨row, written⟩
    obtain ⟨otherNumber, otherWrite, otherFound, rfl, otherSucceeds⟩ :=
      (plans.isWritten_iff _ id).mp ⟨other, otherWritten⟩
    rcases Nat.lt_trichotomy number otherNumber with less | rfl | greater
    · exact absurd succeeds (alone otherSucceeds number less)
    · rw [found, Option.some.injEq] at otherFound
      rw [otherFound]
    · exact absurd otherSucceeds (alone succeeds otherNumber greater)
  · rw [plans.isWritten_iff]
    simp only [succeeds_iff plans.plannedOn plans.present misfits]
  · rintro id position row write written member rfl behind
    obtain ⟨number, winner, found, rfl, succeeds⟩ := (plans.isWritten_iff _ _).mp ⟨row, written⟩
    obtain ⟨later, foundLater⟩ := List.getElem?_of_mem member
    have less := WritePlan.lt_of_index_lt plans.ascending found foundLater behind
    obtain ⟨conflict, lost⟩ :=
      conflict_of_succeeds plans.plannedOn plans.present misfits foundLater less succeeds
    exact ⟨conflict, by rw [plans.outcome foundLater, lost]⟩
  · intro number write found updated
    rw [plans.outcome found, Option.some.injEq] at updated
    exact plans.replaced_of_updated found updated

end PlansRows

theorem singleWinner_nil (inst : Instance) (context : String) (store : MemoryStore) :
    SingleWinner inst [] store ⟨[], [], context⟩ ⟨[]⟩ where
  ascending := .nil
  failed _ _ found := nomatch found
  unique _ _ _ _ _ written := nomatch written.1
  winner _ _ := by
    constructor
    · rintro ⟨_, found, _⟩
      cases found
    · rintro ⟨_, _, found, _⟩
      cases found
  losers _ _ _ _ written := nomatch written.1
  replaced _ _ found := nomatch found

/-- A bulk write that fails applies no row. In any other, with revisions that are fresh, at most one
row of each id wins, the first accepted one that no pending failure stops. -/
theorem bulkWrite_single_winner {inst : Instance} {rows : List WriteRow} {store : MemoryStore}
    (fresh : inst.FreshRevisions rows store) (context bulkId : String) :
    match inst.bulkWrite MemoryStore.backend rows context bulkId store with
    | (.error _, after, final) => after = inst ∧ final = store
    | (.ok response, _, _) => ∃ plan, inst.IsPlan rows context store plan ∧
        SingleWinner inst rows store plan response := by
  rcases bulkWrite_cases inst rows context bulkId store with
    ⟨answer, done, _, nothing⟩ | ⟨stored, ids, plan, plans, done, _⟩
  · rw [done]
    cases answer with
    | error fault => exact ⟨rfl, rfl⟩
    | ok response =>
        obtain ⟨rfl, rfl⟩ := nothing response rfl
        exact ⟨_, ⟨[], fun _ member => (nomatch member), rfl⟩, singleWinner_nil inst context store⟩
  · rw [done]
    exact ⟨plan, plans.isPlan, plans.singleWinner fresh⟩

/-- A stored document of revision `1-a`, and a pending failure. -/
def revisedStore : MemoryStore :=
  ⟨[("items", ⟨1, [⟨"a", 0, ⟨[("id", .string "a"), ("_rev", .string "1-a")]⟩⟩]⟩)], 1⟩

/-- An update of the stored document to a revision. -/
def revise (revision : String) : WriteRow :=
  ⟨⟨[("id", .string "a"), ("_rev", .string revision)]⟩,
    some ⟨[("id", .string "a"), ("_rev", .string "1-a")]⟩⟩

/-- Of three updates the first one fails, the second one wins, the third one finds its document. -/
def revisions : List WriteRow := [revise "2-b", revise "2-c", revise "2-d"]

theorem freshRevisions_revisions : sample.FreshRevisions revisions revisedStore := by
  intro row member id stored composes found
  have single : ∃ revision ∈ ["2-b", "2-c", "2-d"], row = revise revision := by
    simpa [revisions] using member
  obtain ⟨revision, named, rfl⟩ := single
  cases composes
  cases found
  have other : revision ≠ "1-a" := by
    rintro rfl
    exact absurd named (by decide)
  exact fun same => other (Option.some.inj same)

theorem bulkWrite_single_winner_sample :
    sample.FreshRevisions revisions revisedStore ∧ ∃ response after final,
      sample.bulkWrite MemoryStore.backend revisions "import" "batch" revisedStore =
        (.ok response, after, final) ∧
      ∃ plan, sample.IsPlan revisions "import" revisedStore plan ∧
        SingleWinner sample revisions revisedStore plan response :=
  ⟨freshRevisions_revisions, _, _, _, rfl,
    bulkWrite_single_winner freshRevisions_revisions "import" "batch"⟩

end Instance

end DocStore
