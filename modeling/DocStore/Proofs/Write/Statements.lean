import DocStore.Proofs.Backend.Postgres
import DocStore.Proofs.Write.Stored

/-!
# The statements of a bulk write

With a database at the other end, a bulk write is a sequence of statements. Its lookup names every
id of the batch once. An accepted row sends its conditional write and, where the database reports
that the condition was unmet, a lookup of its id right behind it; a refused row sends nothing. At
the end, one lookup names the ids of refused rows that another row of the batch has written.
-/

namespace DocStore

/-- What a call sends: its text, and the arguments of the placeholders `$1`, `$2` and so on. -/
structure Sql.Message where
  text : String
  binds : List (Nat × Sql.Arg)

def Sql.Call.message (call : Sql.Call) : Sql.Message :=
  ⟨call.statement.text, (call.args.zipIdx 1).map Prod.swap⟩

namespace Instance

/-- A lookup of rows whether they are flagged as deleted or not. -/
def lookupMessage (table : String) (ids : List String) : Sql.Message :=
  ⟨"SELECT id, data FROM " ++ Sql.identifier table ++ " WHERE id = ANY($1)", [(1, .texts ids)]⟩

/-- The conditional write of a row with its id, given the document that the batch found under that
id. Both revisions of an update are the same. -/
inductive Binds (table : String) (stored : Option Document) (row : WriteRow) (id : String) :
    Sql.Message → Prop where
  | insert (absent : stored = none) (unexpected : row.previous = none) :
      Binds table stored row id
        ⟨"INSERT INTO " ++ Sql.identifier table ++
          " (id, data) VALUES ($1, $2) ON CONFLICT (id) DO NOTHING",
        [(1, .text id), (2, .json row.document.toJson)]⟩
  | update {found previous : Document} (present : stored = some found)
      (expected : row.previous = some previous) (same : found.revision? = previous.revision?) :
      Binds table stored row id
        ⟨"UPDATE " ++ Sql.identifier table ++
          " SET data = $2 WHERE id = $1 AND (data ->> '_rev') IS NOT DISTINCT FROM $3::text",
        [(1, .text id), (2, .json row.document.toJson), (3, .ofText? found.revision?)]⟩

/-- The messages that rows with their ids lead to, one reply being consumed by each of them, and the
ids of the rows that are written. -/
inductive Sends (table : String) (stored : List (String × Document)) :
    List (WriteRow × String) → List Reply → List Sql.Message → List String → Prop where
  | done {replies : List Reply} : Sends table stored [] replies [] []
  | refused {row : WriteRow} {id : String} {rest : List (WriteRow × String)}
      {replies : List Reply} {messages : List Sql.Message} {written : List String}
      (refused : WriteKind.classify (stored.lookup id) row.previous = none)
      (others : Sends table stored rest replies messages written) :
      Sends table stored ((row, id) :: rest) replies messages written
  | applied {row : WriteRow} {id : String} {rest : List (WriteRow × String)}
      {replies : List Reply} {message : Sql.Message} {messages : List Sql.Message}
      {written : List String} (binds : Binds table (stored.lookup id) row id message)
      (affected : Reply.affectedRows replies.head? = .ok 1)
      (others : Sends table stored rest replies.tail messages written) :
      Sends table stored ((row, id) :: rest) replies (message :: messages) (id :: written)
  | unmet {row : WriteRow} {id : String} {rest : List (WriteRow × String)}
      {replies : List Reply} {message : Sql.Message} {messages : List Sql.Message}
      {written : List String} {count : Nat} (binds : Binds table (stored.lookup id) row id message)
      (affected : Reply.affectedRows replies.head? = .ok count) (notOne : count ≠ 1)
      (others : Sends table stored rest (replies.drop 2) messages written) :
      Sends table stored ((row, id) :: rest) replies
        (message :: lookupMessage table [id] :: messages) written
  | failed {row : WriteRow} {id : String} {rest : List (WriteRow × String)}
      {replies : List Reply} {message : Sql.Message} {messages : List Sql.Message}
      {written : List String} {fault : BackendError}
      (binds : Binds table (stored.lookup id) row id message)
      (affected : Reply.affectedRows replies.head? = .error fault)
      (others : Sends table stored rest replies.tail messages written) :
      Sends table stored ((row, id) :: rest) replies (message :: messages) written

theorem Binds.unique {table : String} {stored : Option Document} {row : WriteRow} {id : String}
    {first second : Sql.Message} (left : Binds table stored row id first)
    (right : Binds table stored row id second) : first = second := by
  cases left with
  | insert absent unexpected =>
      cases right with
      | insert => rfl
      | update present => simp [absent] at present
  | update present expected same =>
      cases right with
      | insert absent => simp [absent] at present
      | update presentToo =>
          obtain rfl := Option.some.inj (present.symm.trans presentToo)
          rfl

theorem Binds.classified {table : String} {stored : Option Document} {row : WriteRow} {id : String}
    {message : Sql.Message} (binds : Binds table stored row id message) :
    WriteKind.classify stored row.previous ≠ none := by
  cases binds with
  | insert absent unexpected => simp [absent, unexpected, WriteKind.classify]
  | update present expected same => simp [present, expected, same, WriteKind.classify]

/-- The replies determine what is sent and written. -/
theorem Sends.unique {table : String} {stored : List (String × Document)}
    {entries : List (WriteRow × String)} {replies : List Reply} {first second : List Sql.Message}
    {written others : List String} (left : Sends table stored entries replies first written)
    (right : Sends table stored entries replies second others) :
    first = second ∧ written = others := by
  induction left generalizing second others with
  | done =>
      cases right
      exact ⟨rfl, rfl⟩
  | refused refused _ ih =>
      cases right with
      | refused _ rest => exact ih rest
      | applied binds => exact absurd refused binds.classified
      | unmet binds => exact absurd refused binds.classified
      | failed binds => exact absurd refused binds.classified
  | applied binds affected _ ih =>
      cases right with
      | refused refused => exact absurd refused binds.classified
      | applied bindsToo _ rest =>
          obtain ⟨rfl, rfl⟩ := ih rest
          exact ⟨by rw [binds.unique bindsToo], rfl⟩
      | unmet _ affectedToo notOne =>
          exact absurd (Except.ok.inj (affectedToo.symm.trans affected)) notOne
      | failed _ fails => cases affected.symm.trans fails
  | unmet binds affected notOne _ ih =>
      cases right with
      | refused refused => exact absurd refused binds.classified
      | applied _ one => exact absurd (Except.ok.inj (affected.symm.trans one)) notOne
      | unmet bindsToo _ _ rest =>
          obtain ⟨rfl, rfl⟩ := ih rest
          exact ⟨by rw [binds.unique bindsToo], rfl⟩
      | failed _ fails => cases affected.symm.trans fails
  | failed binds fails _ ih =>
      cases right with
      | refused refused => exact absurd refused binds.classified
      | applied _ affected => cases affected.symm.trans fails
      | unmet _ affected => cases affected.symm.trans fails
      | failed bindsToo _ rest =>
          obtain ⟨rfl, rfl⟩ := ih rest
          exact ⟨by rw [binds.unique bindsToo], rfl⟩

/-! ## One write -/

/-- A lookup of all rows with these ids. -/
def lookupCall (table : String) (ids : List String) : Sql.Call :=
  ⟨.lookup table true, [.texts ids]⟩

theorem message_lookupCall (table : String) (ids : List String) :
    (lookupCall table ids).message = lookupMessage table ids := by
  have condition : " WHERE " ++ (Sql.Statement.lookupCondition true).text =
      " WHERE id = ANY($1)" := rfl
  have text : (Sql.Statement.lookup table true).text = "SELECT id, data FROM " ++
      Sql.identifier table ++ " WHERE " ++ (Sql.Statement.lookupCondition true).text := rfl
  rw [Sql.Call.message, lookupCall, text, String.append_assoc, condition]
  rfl

theorem text_update (table : String) : (Sql.Statement.update table).text =
    "UPDATE " ++ Sql.identifier table ++
      " SET data = $2 WHERE id = $1 AND (data ->> '_rev') IS NOT DISTINCT FROM $3::text" := by
  have condition : " SET data = $2 WHERE " ++ Sql.Statement.updateCondition.text =
      " SET data = $2 WHERE id = $1 AND (data ->> '_rev') IS NOT DISTINCT FROM $3::text" := rfl
  have text : (Sql.Statement.update table).text = "UPDATE " ++ Sql.identifier table ++
      " SET data = $2 WHERE " ++ Sql.Statement.updateCondition.text := rfl
  rw [text, String.append_assoc, condition]

/-- The statement of a planned write. -/
def callOf (table : String) (write : PlannedWrite) : Sql.Call :=
  match write.kind with
  | .insert => ⟨.insert table, [.text write.row.id, .json write.row.data.toJson]⟩
  | .update =>
      ⟨.update table, [.text write.row.id, .json write.row.data.toJson,
        .ofText? write.expectedRevision]⟩

theorem binds_callOf {table : String} {write : PlannedWrite} {index : Nat} {id : String}
    {row : WriteRow} {stored : Option Document} (isOf : write.IsOf index id row stored) :
    Binds table stored row id (callOf table write).message := by
  have classified := isOf.kind
  rw [callOf, isOf.stores, isOf.expected]
  cases kind : write.kind with
  | insert =>
      rw [kind] at classified
      obtain ⟨absent, unexpected⟩ := WriteKind.of_classify_insert classified
      exact .insert absent unexpected
  | update =>
      rw [kind] at classified
      obtain ⟨found, previous, present, expected, same⟩ :=
        WriteKind.of_classify_update classified
      rw [present, Sql.Call.message, text_update]
      exact .update rfl expected same

theorem submit_eq (table : String) (write : PlannedWrite) (conversation : Conversation) :
    submit Conversation.backend table write conversation =
      ((Reply.affectedRows conversation.replies.head?).map (· == 1),
        conversation.after [callOf table write]) := by
  rw [submit, callOf]
  cases write.kind with
  | insert => exact Conversation.executeOne_eq _ conversation
  | update => exact Conversation.executeOne_eq _ conversation

theorem findByIds_eq (table : String) (ids : List String) (conversation : Conversation) :
    Conversation.backend.findByIds table ids true conversation =
      (Reply.storedRows conversation.replies.head?,
        conversation.after [lookupCall table ids]) :=
  Conversation.fetchRows_eq (lookupCall table ids) conversation

theorem state_reread (table : String) (write : PlannedWrite) (conversation : Conversation) :
    (reread Conversation.backend table write conversation).2 =
      conversation.after [lookupCall table [write.row.id]] := by
  rw [reread, findByIds_eq]
  cases Reply.storedRows conversation.replies.head? <;> rfl

/-- What is sent for a planned write, and whether its row is written, by the reply that it gets. -/
theorem applyWrite_cases (table : String) (write : PlannedWrite) (conversation : Conversation) :
    (Reply.affectedRows conversation.replies.head? = .ok 1 ∧
      applyWrite Conversation.backend table write conversation =
        (write.outcome, conversation.after [callOf table write])) ∨
    (∃ count outcome, Reply.affectedRows conversation.replies.head? = .ok count ∧ count ≠ 1 ∧
      outcome.isSuccess = false ∧ applyWrite Conversation.backend table write conversation =
        (outcome, conversation.after [callOf table write, lookupCall table [write.row.id]])) ∨
    (∃ fault outcome, Reply.affectedRows conversation.replies.head? = .error fault ∧
      outcome.isSuccess = false ∧ applyWrite Conversation.backend table write conversation =
        (outcome, conversation.after [callOf table write])) := by
  rw [applyWrite, submit_eq]
  cases answered : Reply.affectedRows conversation.replies.head? with
  | error fault => exact .inr (.inr ⟨fault, _, rfl, rfl, rfl⟩)
  | ok count =>
      by_cases one : count = 1
      · subst one
        exact .inl ⟨rfl, rfl⟩
      · have unmet : (Except.ok count : Except BackendError Nat).map (· == 1) = .ok false := by
          simp [Except.map, one]
        rw [unmet]
        refine .inr (.inl ⟨count, _, rfl, one, rfl, Prod.ext rfl ?_⟩)
        exact (state_reread table write _).trans (conversation.after_after _ _)

/-! ## All writes of a batch -/

/-- The planned writes among rows with their ids, the first one at a position. -/
def accepted (stored : List (String × Document)) (entries : List (WriteRow × String))
    (position : Nat) : List PlannedWrite :=
  ((entries.zipIdx position).map fun entry =>
    Verdict.ofRow entry.2 entry.1.2 entry.1.1 (stored.lookup entry.1.2)).filterMap
      Verdict.accepted?

theorem accepted_refused {stored : List (String × Document)} {row : WriteRow} {id : String}
    (refused : WriteKind.classify (stored.lookup id) row.previous = none)
    (rest : List (WriteRow × String)) (position : Nat) :
    accepted stored ((row, id) :: rest) position = accepted stored rest (position + 1) := by
  rw [accepted, List.zipIdx_cons, List.map_cons, Verdict.ofRow, refused]
  rfl

theorem accepted_cons {stored : List (String × Document)} {row : WriteRow} {id : String}
    {kind : WriteKind} (classified : WriteKind.classify (stored.lookup id) row.previous = some kind)
    (rest : List (WriteRow × String)) (position : Nat) :
    ∃ write, write.IsOf position id row (stored.lookup id) ∧
      accepted stored ((row, id) :: rest) position =
        write :: accepted stored rest (position + 1) := by
  rcases Verdict.ofRow_cases position id row (stored.lookup id) with
    ⟨write, isAccepted, isOf⟩ | refused
  · refine ⟨write, isOf, ?_⟩
    rw [accepted, List.zipIdx_cons, List.map_cons, isAccepted]
    rfl
  · rw [Verdict.ofRow, classified] at refused
    cases refused

theorem successes_cons (write : PlannedWrite) (outcome : WriteOutcome) (rest : List Applied) :
    (successes (⟨write, outcome⟩ :: rest)).map (fun write => write.row.id) =
      if outcome.isSuccess then
        write.row.id :: (successes rest).map fun write => write.row.id
      else (successes rest).map fun write => write.row.id := by
  rw [successes, List.filter_cons]
  split <;> rfl

/-- Applying the planned writes sends what the rows lead to. -/
theorem sends_applyWrites (table : String) (stored : List (String × Document))
    (entries : List (WriteRow × String)) (position : Nat) (conversation : Conversation) :
    ∃ calls,
      (applyWrites Conversation.backend table (accepted stored entries position)
        conversation).2 = conversation.after calls ∧
      Sends table stored entries conversation.replies (calls.map Sql.Call.message)
        ((successes (applyWrites Conversation.backend table (accepted stored entries position)
          conversation).1).map fun write => write.row.id) := by
  induction entries generalizing position conversation with
  | nil => exact ⟨[], conversation.after_nil.symm, .done⟩
  | cons entry rest ih =>
      obtain ⟨row, id⟩ := entry
      cases classified : WriteKind.classify (stored.lookup id) row.previous with
      | none =>
          rw [accepted_refused classified]
          obtain ⟨calls, final, sends⟩ := ih (position + 1) conversation
          exact ⟨calls, final, .refused classified sends⟩
      | some kind =>
          obtain ⟨write, isOf, same⟩ := accepted_cons classified rest position
          have binds : Binds table (stored.lookup id) row id (callOf table write).message :=
            binds_callOf isOf
          have own : write.row.id = id := congrArg StoredRow.id isOf.stores
          rw [same, applyWrites]
          rcases applyWrite_cases table write conversation with
            ⟨affected, applied⟩ | ⟨count, outcome, affected, notOne, lost, applied⟩ |
              ⟨fault, outcome, affected, lost, applied⟩
          · obtain ⟨calls, final, sends⟩ :=
              ih (position + 1) (conversation.after [callOf table write])
            rw [Conversation.replies_after_single] at sends
            simp only [applied, successes_cons, isSuccess_outcome, if_true, own]
            exact ⟨_, final.trans (conversation.after_after _ calls),
              .applied binds affected sends⟩
          · obtain ⟨calls, final, sends⟩ := ih (position + 1)
              (conversation.after [callOf table write, lookupCall table [write.row.id]])
            simp only [applied, successes_cons, lost, Bool.false_eq_true, if_false]
            rw [own] at final sends ⊢
            refine ⟨_, final.trans (conversation.after_after _ calls), ?_⟩
            rw [List.map_append, List.map_cons, List.map_singleton, message_lookupCall]
            exact .unmet binds affected notOne sends
          · obtain ⟨calls, final, sends⟩ :=
              ih (position + 1) (conversation.after [callOf table write])
            rw [Conversation.replies_after_single] at sends
            simp only [applied, successes_cons, lost, Bool.false_eq_true, if_false]
            exact ⟨_, final.trans (conversation.after_after _ calls),
              .failed binds affected sends⟩

/-! ## The whole batch -/

theorem state_refreshConflicts (table : String) (written : List String)
    (conflicts : List (Nat × WriteConflict)) (conversation : Conversation) :
    (refreshConflicts Conversation.backend table written conflicts conversation).2 =
      conversation.after (if staleIds written conflicts = [] then []
        else [lookupCall table (staleIds written conflicts)]) := by
  rw [refreshConflicts]
  split
  · next noneStale =>
      rw [noneStale, if_pos rfl, Conversation.after_nil]
  · next someStale =>
      rw [findByIds_eq, if_neg someStale]
      cases Reply.storedRows conversation.replies.head? <;> rfl

/-- Stale ids ascend. -/
theorem ascending_staleIds (written : List String) (conflicts : List (Nat × WriteConflict)) :
    (staleIds written conflicts).Pairwise (· < ·) := by
  rw [staleIds]
  generalize (conflicts.map fun entry => entry.2.documentId).filter
    (fun id => written.contains id) = ids
  have ascending : (Keyed.distinct (stableSort compare ids)).Pairwise
      fun a b => (compare a b).isLE :=
    (pairwise_stableSort ids).sublist (Keyed.distinct_sublist _)
  refine (ascending.and (Keyed.nodup_distinct _)).imp fun {a b} both => ?_
  cases compared : compare a b with
  | lt => exact compareOfLessAndEq_eq_lt.mp compared
  | eq => exact absurd (Std.compare_eq_iff_eq.mp compared) both.2
  | gt =>
      have notLE := both.1
      rw [compared] at notLE
      cases notLE

theorem refused?_ofRow {position : Nat} {id : String} {row : WriteRow} {stored : Option Document}
    {entry : Nat × WriteConflict} :
    (Verdict.ofRow position id row stored).refused? = some entry ↔
      WriteKind.classify stored row.previous = none ∧
        entry = (position, .ofRow id row stored) := by
  rw [Verdict.ofRow]
  cases WriteKind.classify stored row.previous with
  | none => simp [Verdict.refused?, eq_comm]
  | some kind => simp [Verdict.refused?]

/-- The ids of the conflicts of a plan are those of the refused rows. -/
theorem exists_conflict_iff {rows : List WriteRow} {ids : List String}
    {stored : List (String × Document)} {context id : String} :
    (∃ entry ∈ (WritePlan.ofVerdicts (WritePlan.verdicts stored rows ids 0) context).conflicts,
      entry.2.documentId = id) ↔
    ∃ row, (row, id) ∈ rows.zip ids ∧
      WriteKind.classify (stored.lookup id) row.previous = none := by
  constructor
  · rintro ⟨entry, member, rfl⟩
    obtain ⟨verdict, inside, refused⟩ := List.mem_filterMap.mp member
    obtain ⟨position, row, id, rowAt, idAt, rfl⟩ := WritePlan.eq_ofRow_of_mem inside
    obtain ⟨classified, rfl⟩ := refused?_ofRow.mp refused
    have pair : (rows.zip ids)[position]? = some (row, id) :=
      List.getElem?_zip_eq_some.mpr ⟨rowAt, idAt⟩
    exact ⟨row, List.mem_of_getElem? pair, classified⟩
  · rintro ⟨row, member, classified⟩
    obtain ⟨position, pair⟩ := List.getElem?_of_mem member
    obtain ⟨rowAt, idAt⟩ := List.getElem?_zip_eq_some.mp pair
    have inside := List.mem_of_getElem? (WritePlan.getElem?_verdicts stored rowAt idAt)
    exact ⟨(position, .ofRow id row (stored.lookup id)),
      List.mem_filterMap.mpr ⟨_, inside, refused?_ofRow.mpr ⟨classified, rfl⟩⟩, rfl⟩

/-- What running a plan sends. -/
theorem sends_runPlan (inst : Instance) (stored : List (String × Document)) (rows : List WriteRow)
    (ids : List String) (context : String) (conversation : Conversation) :
    ∃ calls written stale,
      (runPlan Conversation.backend inst
        (.ofVerdicts (WritePlan.verdicts stored rows ids 0) context) conversation).2 =
          conversation.after (calls ++ if stale = [] then [] else [lookupCall inst.table stale]) ∧
      Sends inst.table stored (rows.zip ids) conversation.replies (calls.map Sql.Call.message)
        written ∧
      stale.Pairwise (· < ·) ∧
      ∀ id, id ∈ stale ↔ id ∈ written ∧ ∃ row, (row, id) ∈ rows.zip ids ∧
        WriteKind.classify (stored.lookup id) row.previous = none := by
  have writes : (WritePlan.ofVerdicts (WritePlan.verdicts stored rows ids 0) context).writes =
      accepted stored (rows.zip ids) 0 := rfl
  obtain ⟨calls, final, sends⟩ :=
    sends_applyWrites inst.table stored (rows.zip ids) 0 conversation
  rw [runPlan, writes]
  generalize applyWrites Conversation.backend inst.table (accepted stored (rows.zip ids) 0)
    conversation = run at final sends ⊢
  obtain ⟨applied, reached⟩ := run
  have written : reached = conversation.after calls := final
  refine ⟨calls, _, staleIds ((successes applied).map fun write => write.row.id)
    (WritePlan.ofVerdicts (WritePlan.verdicts stored rows ids 0) context).conflicts, ?reaches,
    sends, ascending_staleIds _ _, ?members⟩
  case reaches =>
    rw [← Conversation.after_after, ← written]
    exact state_refreshConflicts inst.table _ _ reached
  case members =>
    intro id
    rw [mem_staleIds, exists_conflict_iff]
    exact and_comm

/-- A batch sends a lookup of its ids, each one once, in the order in which they occur first. If the
lookup fails, nothing else is sent. Otherwise its rows send their conditional writes one after the
other, and one more lookup names, in ascending order, the ids under which a row was refused and
another one written; it is not sent where there are none. -/
theorem bulkWrite_sends {inst : Instance} (isOpen : inst.closed = false)
    (writable : inst.readOnly = false) {rows : List WriteRow} (nonempty : rows ≠ [])
    {ids : List String}
    (composed : rows.mapM (fun row => inst.primaryKey.compose row.document) = .ok ids)
    (context bulkId : String) (conversation : Conversation) :
    ∃ calls rest,
      (inst.bulkWrite Conversation.backend rows context bulkId conversation).2.2.sent =
        conversation.sent ++ calls ∧
      calls.map Sql.Call.message = lookupMessage inst.table ids.eraseDups :: rest ∧
      match Reply.storedRows conversation.replies.head? with
      | .error _ => rest = []
      | .ok found => ∃ messages written stale,
          Sends inst.table (byId found) (rows.zip ids) conversation.replies.tail messages written ∧
          stale.Pairwise (· < ·) ∧
          (∀ id, id ∈ stale ↔ id ∈ written ∧ ∃ row, (row, id) ∈ rows.zip ids ∧
            WriteKind.classify ((byId found).lookup id) row.previous = none) ∧
          rest = messages ++ if stale = [] then [] else [lookupMessage inst.table stale] := by
  have looked := findByIds_eq inst.table ids.eraseDups conversation
  rw [← Keyed.distinct_eq_eraseDups] at looked ⊢
  cases answered : Reply.storedRows conversation.replies.head? with
  | error fault =>
      have proceeds : inst.requireWritable = .ok () := by simp [requireWritable, isOpen, writable]
      have notEmpty : rows.isEmpty = false := by simpa using nonempty
      rw [answered] at looked
      refine ⟨[lookupCall inst.table (Keyed.distinct ids)], [], ?_, ?_, rfl⟩
      · simp [bulkWrite, proceeds, notEmpty, writeBatch, WritePlan.documentIds_eq composed, looked,
          Conversation.after]
      · rw [List.map_singleton, message_lookupCall]
  | ok found =>
      rw [answered] at looked
      obtain ⟨calls, written, stale, final, sends, ascending, members⟩ :=
        sends_runPlan inst (byId found) rows ids context
          (conversation.after [lookupCall inst.table (Keyed.distinct ids)])
      rw [Conversation.replies_after_single] at sends
      refine ⟨lookupCall inst.table (Keyed.distinct ids) ::
          (calls ++ if stale = [] then [] else [lookupCall inst.table stale]),
        _, ?sent, ?messages, _, written, stale, sends, ascending, members, rfl⟩
      case sent =>
        rw [bulkWrite_eq_runPlan isOpen writable nonempty composed looked
          (WritePlan.ofRows_eq composed (byId found) context), final, Conversation.after_after,
          Conversation.after, List.singleton_append]
      case messages =>
        rw [List.map_cons, message_lookupCall, List.map_append]
        split
        · rfl
        · rw [List.map_singleton, message_lookupCall]

/-- A database that knows no row; the first write is unmet there, the second one happens. -/
def sampleConversation : Conversation :=
  ⟨[], [.rows [], .affected 0, .rows [], .affected 1]⟩

theorem bulkWrite_sends_sample :
    sample.closed = false ∧ sample.readOnly = false ∧ sampleRows ≠ [] ∧
      sampleRows.mapM (fun row => sample.primaryKey.compose row.document) = .ok ["a", "b"] ∧
      ∃ calls rest,
        (sample.bulkWrite Conversation.backend sampleRows "import" "batch"
          sampleConversation).2.2.sent = [] ++ calls ∧
        calls.map Sql.Call.message = lookupMessage "items" ["a", "b"] :: rest ∧
        ∃ messages written stale,
          Sends "items" (byId []) (sampleRows.zip ["a", "b"])
            [.affected 0, .rows [], .affected 1] messages written ∧
          stale.Pairwise (· < ·) ∧
          (∀ id, id ∈ stale ↔ id ∈ written ∧ ∃ row, (row, id) ∈ sampleRows.zip ["a", "b"] ∧
            WriteKind.classify ((byId []).lookup id) row.previous = none) ∧
          rest = messages ++ if stale = [] then [] else [lookupMessage "items" stale] := by
  have nonempty : sampleRows ≠ [] := List.cons_ne_nil _ _
  have composed : sampleRows.mapM (fun row => sample.primaryKey.compose row.document) =
      .ok ["a", "b"] := rfl
  exact ⟨rfl, rfl, nonempty, composed,
    bulkWrite_sends rfl rfl nonempty composed "import" "batch" sampleConversation⟩

end Instance

end DocStore
