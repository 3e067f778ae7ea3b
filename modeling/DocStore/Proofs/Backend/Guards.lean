import DocStore.Proofs.Backend.Postgres
import DocStore.Proofs.Backend.Purge
import DocStore.Proofs.Sql.Command
import DocStore.Proofs.Sql.FilterTruth

/-!
# Guards of rows

Lookups, updates and purges choose rows by their reserved fields. A table in memory reads these
fields as values of the types that they should have, a statement evaluates the condition in its text
on the stored value as it is. Both choose the same rows, with two exceptions. Where a revision is
neither absent nor null nor a string, a statement takes its text for the revision, and a table in
memory sees none. Where the cutoff of a purge is NaN, no time is before it in memory, and every time
is to a statement.
-/

namespace DocStore

namespace Sql

/-- What the conditions on single rows rely on. Members and paths are found as field paths find
them, in their text forms too, and only `true` is equal to `true`. -/
structure Database.FindsFields (db : Database) : Prop where
  member : ∀ entries key,
    db.member (.object entries) key = FieldPath.lookup ⟨[key]⟩ (.object entries)
  memberText : ∀ entries key, db.memberText (.object entries) key =
    (FieldPath.lookup ⟨[key]⟩ (.object entries)).bind Json.text?
  at? : ∀ json keys, db.at? json keys = FieldPath.lookup ⟨keys⟩ json
  textAt? : ∀ json keys, db.textAt? json keys = (FieldPath.lookup ⟨keys⟩ json).bind Json.text?
  typeOf : ∀ json, db.typeOf json = json.kind.name
  equal_true : ∀ json, db.equal json (.bool true) = true ↔ json = .bool true
  reads_true : db.jsonb? "true" = some (.bool true)

/-- Whether a text is among the listed ones. -/
def Value.listed? : Value → Value → Option (Option Bool)
  | .text value, .texts values => some (some (values.contains value))
  | .null, .texts _ => some none
  | _, _ => none

/-- The truth of a condition, in which an equality may have a list of texts on its right. -/
def Expr.truth? (db : Database) (scope : Scope) : Expr → Option (Option Bool)
  | .binary .and left right =>
      (left.truth? db scope).bind fun a => (right.truth? db scope).map (Truth.and a)
  | .binary .eq left (.anyOf list) =>
      (left.eval db scope).bind fun value => (list.eval db scope).bind (value.listed? ·)
  | condition => (condition.eval db scope).bind Value.truth?

/-- Whether a condition has parts joined by `AND`, or a list of texts on its right. -/
def Expr.isCompound : Expr → Bool
  | .binary .and _ _ => true
  | .binary .eq _ (.anyOf _) => true
  | _ => false

theorem Expr.truth?_eq_bind {db : Database} {scope : Scope} (condition : Expr)
    (simple : condition.isCompound = false) :
    condition.truth? db scope = (condition.eval db scope).bind Value.truth? := by
  unfold truth?
  split
  · cases simple
  · cases simple
  · rfl

/-- The last part of the condition of an update. -/
def revisionCondition : Expr :=
  .binary .notDistinct (.paren (.binary .keyText .data (.string Document.revisionField)))
    (.cast (.param 3) .text)

theorem updateCondition_eq : Statement.updateCondition =
    .binary .and (.binary .eq .id (.param 1)) revisionCondition := rfl

/-- The last part of the condition of a purge. -/
def lastWriteCondition : Expr :=
  .paren (.cases
    (.binary .eq (.typeOf (.binary .path .data lastWritePath)) (.string Json.Kind.number.name))
    (.binary .lte (.cast (.paren (.binary .pathText .data lastWritePath)) .float8) (.param 1))
    (.truth false))

theorem purgeCondition_eq : Statement.purgeCondition =
    .binary .and (.binary .eq deletedFlag trueJson) lastWriteCondition := rfl

/-- The text of the call stands for a command on rows. Its condition can be evaluated on the row,
and it is true exactly if the row is meant. -/
def Database.Selects (db : Database) (call : Call) (command : Expr → Command) (row : StoredRow)
    (meant : Prop) : Prop :=
  ∃ condition truth, Command.ofText? call.statement.text = some (command condition) ∧
    condition.truth? db (.ofRow row.id row.data.toJson (call.args.map Arg.received)) = some truth ∧
    (truth = some true ↔ meant)

end Sql

/-! ## Reserved fields -/

namespace Document

variable (document : Document)

theorem lookup_field (name : String) :
    FieldPath.lookup ⟨[name]⟩ document.toJson = document.field? name := by
  simp [FieldPath.lookup, FieldPath.step, toJson, field?]

/-- Metadata that is an array has no member that is named. -/
theorem lookup_lastWrite :
    FieldPath.lookup ⟨[metaField, lastWriteField]⟩ document.toJson =
      (document.field? metaField).bind (·.field? lastWriteField) := by
  have first : FieldPath.step document.toJson metaField = document.field? metaField := rfl
  have noIndex : Numeral.index? lastWriteField.toList = none := rfl
  rw [FieldPath.lookup, List.foldlM_cons, first]
  cases document.field? metaField with
  | none => rfl
  | some json =>
      cases json with
      | array items => simp [FieldPath.step, noIndex, Json.field?, Json.entries?]
      | object entries => simp [FieldPath.step, Json.field?, Json.entries?]
      | _ => rfl

/-- The text form of the stored revision. -/
def revisionText? : Option String := (document.field? revisionField).bind Json.text?

/-- The revision is absent, null or a string. -/
def HasPlainRevision : Prop :=
  ∀ json, document.field? revisionField = some json → json = .null ∨ ∃ text, json = .string text

/-- Any other revision has a text form and is no string. -/
theorem revisionText?_eq_iff :
    document.revisionText? = document.revision? ↔ document.HasPlainRevision := by
  rw [revisionText?, revision?, HasPlainRevision]
  rcases document.field? revisionField with _ | json
  · simp
  · cases json <;> simp [Json.text?, Json.string?]

end Document

/-! ## Conditions on rows -/

namespace Sql

open Document

variable {db : Database} {scope : Scope} {document : Document}

section Fields

variable (finds : db.FindsFields) (stored : scope.data = document.toJson)

include finds stored

theorem eval_deletedFlag :
    deletedFlag.eval db scope = some (.ofJson? (document.field? deletedField)) := by
  have found := finds.member document.entries deletedField
  rw [← toJson, lookup_field] at found
  simp [deletedFlag, stored, Database.binary?, Database.operate?, found]

theorem eval_revisionText :
    (Expr.binary .keyText .data (.string revisionField)).eval db scope =
      some (.ofText? document.revisionText?) := by
  have found := finds.memberText document.entries revisionField
  rw [← toJson, lookup_field] at found
  simp [stored, Database.binary?, Database.operate?, found, revisionText?]

theorem eval_lastWrite :
    (Expr.binary .path .data lastWritePath).eval db scope =
      some (.ofJson? ((document.field? metaField).bind (·.field? lastWriteField))) := by
  simp [lastWritePath, stored, Database.binary?, Database.operate?, finds.at?, lookup_lastWrite]

theorem eval_lastWriteText :
    (Expr.binary .pathText .data lastWritePath).eval db scope =
      some (.ofText? (((document.field? metaField).bind (·.field? lastWriteField)).bind
        Json.text?)) := by
  simp [lastWritePath, stored, Database.binary?, Database.operate?, finds.textAt?,
    lookup_lastWrite]

end Fields

theorem eval_trueJson (finds : db.FindsFields) :
    trueJson.eval db scope = some (.json (.bool true)) := by
  simp [trueJson, Database.cast?, finds.reads_true]

theorem Truth.and_eq_true {a b : Option Bool} :
    Truth.and a b = some true ↔ a = some true ∧ b = some true := by
  rcases a with _ | _ | _ <;> rcases b with _ | _ | _ <;> simp [Truth.and]

/-- The stored flag is compared with `true` as a value of any type. -/
theorem equal_true_eq (finds : db.FindsFields) {json : Json}
    (found : document.field? deletedField = some json) :
    db.equal json (.bool true) = document.isDeleted := by
  rw [Bool.eq_iff_iff, finds.equal_true, isDeleted_iff, found, Option.some_inj]

section Rows

variable (finds : db.FindsFields) (row : StoredRow)

include finds

theorem truth?_notDeleted (args : List Arg) :
    (Expr.binary .distinct deletedFlag trueJson).truth? db (.ofRow row.id row.data.toJson args) =
      some (some !row.data.isDeleted) := by
  rw [Expr.truth?_eq_bind (.binary .distinct deletedFlag trueJson) rfl, Expr.eval_binary,
    eval_deletedFlag finds rfl, eval_trueJson finds]
  cases found : row.data.field? deletedField with
  | none =>
      have kept : row.data.isDeleted = false := by simp [isDeleted, found]
      rw [kept]
      rfl
  | some json =>
      rw [← equal_true_eq finds found]
      rfl

/-- A missing flag is null to the statement, and a row without one is not selected either. -/
theorem truth?_deleted (args : List Arg) :
    ∃ truth, (Expr.binary .eq deletedFlag trueJson).truth? db
        (.ofRow row.id row.data.toJson args) = some truth ∧
      (truth = some true ↔ row.data.isDeleted = true) := by
  rw [Expr.truth?_eq_bind (.binary .eq deletedFlag trueJson) rfl, Expr.eval_binary,
    eval_deletedFlag finds rfl, eval_trueJson finds]
  cases found : row.data.field? deletedField with
  | none => exact ⟨none, rfl, by simp [isDeleted, found]⟩
  | some json =>
      rw [← equal_true_eq finds found]
      exact ⟨some (db.equal json (.bool true)), rfl, Option.some_inj⟩

theorem selects_lookup (table : String) (ids : List String) (withDeleted : Bool) :
    db.Selects ⟨.lookup table withDeleted, [.texts ids]⟩ (.select table) row
      (row.id ∈ ids ∧ (withDeleted = true ∨ row.data.isDeleted = false)) := by
  have listed : (Expr.binary .eq .id (.anyOf (.param 1))).truth? db
      (.ofRow row.id row.data.toJson [.texts ids]) = some (some (ids.contains row.id)) := rfl
  refine ⟨Statement.lookupCondition withDeleted, ?_⟩
  cases withDeleted with
  | true => exact ⟨_, Command.ofText?_lookup table true, listed, by simp⟩
  | false =>
      have kept := truth?_notDeleted finds row [.texts ids]
      have both : (Statement.lookupCondition false).truth? db
          (.ofRow row.id row.data.toJson [.texts ids]) =
          some (Truth.and (some (ids.contains row.id)) (some !row.data.isDeleted)) := by
        rw [Statement.lookupCondition, if_neg Bool.false_ne_true, Expr.truth?, listed, kept]
        rfl
      refine ⟨_, Command.ofText?_lookup table false, both, ?_⟩
      rw [Truth.and_eq_true]
      simp

theorem truth?_revision {expected : Option String} {args : List Arg}
    (third : args[2]? = some (.ofText? expected)) :
    revisionCondition.truth? db (.ofRow row.id row.data.toJson args) =
      some (some (row.data.revisionText? == expected)) := by
  have given : (Expr.cast (.param 3) .text).eval db (.ofRow row.id row.data.toJson args) =
      some (.ofText? expected) := by
    rw [Expr.eval_cast, Expr.eval_param, Scope.ofRow, third]
    cases expected <;> rfl
  rw [Expr.truth?_eq_bind revisionCondition rfl, revisionCondition, Expr.eval_binary,
    Expr.eval_paren, eval_revisionText finds rfl, given]
  rcases row.data.revisionText? with _ | found <;> rcases expected with _ | wanted <;>
    simp [Value.ofText?, Value.truth?, Database.binary?, Database.distinct?, Database.same?]

theorem selects_update (table : String) (new : StoredRow) (expected : Option String) :
    db.Selects ⟨.update table, [.text new.id, .json new.data.toJson, .ofText? expected]⟩
      (.update table 2) row (row.id = new.id ∧ row.data.revisionText? = expected) := by
  have received : [Arg.text new.id, .json new.data.toJson, .ofText? expected].map Arg.received =
      [.text new.id, .json new.data.toJson.sent, .ofText? expected] := by
    cases expected <;> rfl
  have own (args : List Arg) : (Expr.binary .eq .id (.param 1)).truth? db
      (.ofRow row.id row.data.toJson (.text new.id :: args)) = some (some (row.id == new.id)) := rfl
  refine ⟨Statement.updateCondition,
    Truth.and (some (row.id == new.id)) (some (row.data.revisionText? == expected)),
    Command.ofText?_update table, ?_, ?_⟩
  · rw [received, updateCondition_eq, Expr.truth?, own, truth?_revision finds row rfl]
    rfl
  · rw [Truth.and_eq_true]
    simp

/-- The time of the last write is cast to a double after its type has been checked. -/
theorem truth?_lastWrite (casts : db.CastsNumbers row.data.toJson) (cutoff : Binary64) :
    lastWriteCondition.truth? db (.ofRow row.id row.data.toJson [.float cutoff]) =
      some (some (row.data.lastWrite?.any fun lwt : Double =>
        Float8.compares .lte lwt cutoff)) := by
  have looked := lookup_lastWrite row.data
  rw [Expr.truth?_eq_bind lastWriteCondition rfl, lastWriteCondition, Expr.eval_paren,
    Expr.eval_cases, Expr.eval_binary, Expr.eval_typeOf, eval_lastWrite finds rfl,
    Expr.eval_binary, Expr.eval_cast, Expr.eval_paren, eval_lastWriteText finds rfl, lastWrite?]
  generalize (row.data.field? metaField).bind (·.field? lastWriteField) = found at looked ⊢
  rcases found with _ | json
  · rfl
  · have typed : db.typeOf? (.json json) = some (.text json.kind.name) := by
      rw [Database.typeOf?, finds.typeOf]
    cases json with
    | number number =>
        have cast := casts number (.of_lookup looked .here)
        simp [Value.ofJson?, typed, Database.binary?, Database.operate?, Database.same?, Json.kind,
          Value.truth?, Json.text?_number, Value.ofText?, Database.cast?, cast, Scope.ofRow,
          Value.ofArg, Arg.float, Json.double?, Json.number?]
    | _ =>
        simp [Value.ofJson?, typed, Database.binary?, Database.operate?, Database.same?, Json.kind,
          Json.Kind.name, Value.truth?, Json.double?, Json.number?]

theorem selects_purge (casts : db.CastsNumbers row.data.toJson) (table : String)
    (cutoff : Binary64) : db.Selects ⟨.purge table, [.float cutoff]⟩ (.delete table) row
      (row.data.isDeleted = true ∧
        (row.data.lastWrite?.any fun lwt : Double => Float8.compares .lte lwt cutoff) = true) := by
  obtain ⟨flagged, flag, isDeleted⟩ := truth?_deleted finds row [.float cutoff]
  have written := truth?_lastWrite finds row casts cutoff
  have both : Statement.purgeCondition.truth? db (.ofRow row.id row.data.toJson [.float cutoff]) =
      some (Truth.and flagged (some (row.data.lastWrite?.any fun lwt : Double =>
        Float8.compares .lte lwt cutoff))) := by
    rw [purgeCondition_eq, Expr.truth?, flag, written]
    rfl
  refine ⟨Statement.purgeCondition, _, Command.ofText?_purge table, both, ?_⟩
  rw [Truth.and_eq_true, isDeleted, Option.some_inj]

end Rows

/-- The call sends one statement, a command of this kind, and it selects the row exactly if the row
is meant. -/
def Database.Guards {α : Type} (db : Database) (call : BackendCall Conversation α)
    (command : Expr → Command) (row : StoredRow) (meant : Prop) : Prop :=
  ∃ sent, (∀ conversation, (call conversation).2 = conversation.after [sent]) ∧
    db.Selects sent command row meant

theorem Database.Guards.congr {α : Type} {call : BackendCall Conversation α}
    {command : Expr → Command} {row : StoredRow} {meant meant' : Prop}
    (guards : db.Guards call command row meant) (same : meant ↔ meant') :
    db.Guards call command row meant' := by
  obtain ⟨sent, sends, condition, truth, read, evaluates, selects⟩ := guards
  exact ⟨sent, sends, condition, truth, read, evaluates, selects.trans same⟩

theorem Database.Guards.unique {α : Type} {call : BackendCall Conversation α}
    {command : Expr → Command} (injective : Function.Injective command) {row : StoredRow}
    {meant meant' : Prop} (guards : db.Guards call command row meant)
    (guards' : db.Guards call command row meant') : meant ↔ meant' := by
  obtain ⟨sent, sends, condition, truth, read, evaluates, selects⟩ := guards
  obtain ⟨sent', sends', condition', truth', read', evaluates', selects'⟩ := guards'
  have same : [sent] = [sent'] :=
    congrArg Conversation.sent ((sends .empty).symm.trans (sends' .empty))
  cases List.singleton_inj.mp same
  cases injective (Option.some.inj (read.symm.trans read'))
  cases evaluates.symm.trans evaluates'
  exact selects.symm.trans selects'

section Calls

variable (finds : db.FindsFields) (row : StoredRow)

include finds

theorem guards_findByIds (name : String) (ids : List String) (withDeleted : Bool) :
    db.Guards (Conversation.backend.findByIds name ids withDeleted) (.select name) row
      (row.id ∈ ids ∧ (withDeleted = true ∨ row.data.isDeleted = false)) :=
  ⟨_, fun conversation => congrArg Prod.snd (Conversation.fetchRows_eq _ conversation),
    selects_lookup finds row name ids withDeleted⟩

theorem guards_update (name : String) (new : StoredRow) (expected : Option String) :
    db.Guards (Conversation.backend.update name new expected) (.update name 2) row
      (row.id = new.id ∧ row.data.revisionText? = expected) :=
  ⟨_, fun conversation => congrArg Prod.snd (Conversation.executeOne_eq _ conversation),
    selects_update finds row name new expected⟩

theorem guards_purge (casts : db.CastsNumbers row.data.toJson) (name : String)
    (cutoff : Binary64) :
    db.Guards (Conversation.backend.purge name cutoff) (.delete name) row
      (row.data.isDeleted = true ∧
        (row.data.lastWrite?.any fun lwt : Double => Float8.compares .lte lwt cutoff) = true) :=
  ⟨_, fun conversation => congrArg Prod.snd (Conversation.execute_eq _ conversation),
    selects_purge finds row casts name cutoff⟩

end Calls

end Sql

/-! ## Rows in memory -/

namespace MemoryTable

variable {table : MemoryTable} (distinct : table.DistinctIds) {row : MemoryRow}
  (member : row ∈ table.rows)

include distinct member

theorem stored_mem_find_iff (ids : List String) (withDeleted : Bool) :
    row.stored ∈ table.find ids withDeleted ↔
      row.id ∈ ids ∧ (withDeleted = true ∨ row.data.isDeleted = false) := by
  have found : table.document? row.id = some row.data := by
    rw [document?, (row?_eq_some_iff distinct).mpr ⟨member, rfl⟩, Option.map_some]
  rw [mem_find_iff]
  simp [MemoryRow.stored, found]

theorem isSome_update?_iff {new : StoredRow} (own : row.id = new.id) (expected : Option String) :
    (table.update? new expected).isSome = true ↔ row.data.revision? = expected := by
  have found : table.row? new.id = some row := (row?_eq_some_iff distinct).mpr ⟨member, own⟩
  rw [isSome_update?, document?, found]
  simp

end MemoryTable

theorem MemoryTable.notMem_purge_iff {table : MemoryTable} {row : MemoryRow}
    (member : row ∈ table.rows) (cutoff : Binary64) :
    row ∉ (table.purge cutoff).rows ↔ row.data.isDeleted = true ∧
      (row.data.lastWrite?.any fun lwt : Double => Binary64.le lwt cutoff) = true := by
  rw [mem_purge_iff, Document.expired_iff, Bool.and_eq_true, not_and, not_not]
  exact forall_prop_of_true member

/-- Nothing was written before NaN. -/
theorem MemoryTable.mem_purge_nan {table : MemoryTable} {row : MemoryRow}
    (member : row ∈ table.rows) : row ∈ (table.purge .nan).rows := by
  by_contra removed
  have before := ((notMem_purge_iff member .nan).mp removed).2
  simp at before

/-! ## The guards of both backends -/

open Sql

/-- Lookups choose the same rows in both backends, and so do purges unless the cutoff is NaN: then a
statement deletes all rows that are flagged as deleted and dated, and a table in memory keeps them.
For a conditional update, a statement compares the text form of the revision, a table in memory
compares the revision if it is a string; they agree for every expected revision exactly if the
revision is absent, null or a string. -/
theorem guards_agree {db : Database} (finds : db.FindsFields) {table : MemoryTable}
    (distinct : table.DistinctIds) {row : MemoryRow} (member : row ∈ table.rows)
    (casts : db.CastsNumbers row.data.toJson) (name : String) :
    (∀ ids withDeleted, db.Guards (Conversation.backend.findByIds name ids withDeleted)
      (.select name) row.stored (row.stored ∈ table.find ids withDeleted)) ∧
    (∀ cutoff, cutoff ≠ .nan → db.Guards (Conversation.backend.purge name cutoff)
      (.delete name) row.stored (row ∉ (table.purge cutoff).rows)) ∧
    (db.Guards (Conversation.backend.purge name .nan) (.delete name) row.stored
      (row.data.isDeleted = true ∧ row.data.lastWrite?.isSome = true) ∧
        row ∈ (table.purge .nan).rows) ∧
    (∀ new expected, db.Guards (Conversation.backend.update name new expected)
      (.update name 2) row.stored (row.id = new.id ∧ row.data.revisionText? = expected)) ∧
    (∀ new expected, row.id = new.id →
      ((table.update? new expected).isSome = true ↔ row.data.revision? = expected)) ∧
    ((∀ new expected, db.Guards (Conversation.backend.update name new expected)
      (.update name 2) row.stored
      (row.id = new.id ∧ (table.update? new expected).isSome = true)) ↔
        row.data.HasPlainRevision) := by
  refine ⟨?finds, ?purges, ⟨?purgesAll, MemoryTable.mem_purge_nan member⟩,
    guards_update finds row.stored name, ?replaces, ?agrees⟩
  case finds =>
    intro ids withDeleted
    exact (guards_findByIds finds row.stored name ids withDeleted).congr
      (MemoryTable.stored_mem_find_iff distinct member ids withDeleted).symm
  case purges =>
    intro cutoff number
    have same (lwt : Double) : Float8.compares .lte lwt cutoff = Binary64.le lwt cutoff :=
      Float8.compares_eq_holds .lte nofun number
    refine (guards_purge finds row.stored casts name cutoff).congr ?_
    simp only [same]
    exact (MemoryTable.notMem_purge_iff member cutoff).symm
  case purgesAll =>
    have before (lwt : Double) : Float8.compares .lte lwt .nan = true :=
      Float8.compares_nan .lte nofun
    have dated (time : Option Double) : (time.any fun _ => true) = time.isSome := by
      cases time <;> rfl
    refine (guards_purge finds row.stored casts name .nan).congr ?_
    simp only [before, dated]
    exact Iff.rfl
  case replaces =>
    exact fun new expected own => MemoryTable.isSome_update?_iff distinct member own expected
  case agrees =>
    rw [← Document.revisionText?_eq_iff]
    constructor
    · intro guards
      have same := (guards_update finds row.stored name row.stored row.data.revision?).unique
        (fun _ _ same => (Command.update.inj same).2.2) (guards row.stored row.data.revision?)
      have own : row.id = row.stored.id := rfl
      have replaced := (MemoryTable.isSome_update?_iff distinct member own _).mpr rfl
      exact (same.mpr ⟨own, replaced⟩).2
    · intro plain new expected
      refine (guards_update finds row.stored name new expected).congr
        (and_congr_right fun own => ?_)
      rw [MemoryTable.isSome_update?_iff distinct member own]
      exact Eq.congr_left plain

theorem Sql.Database.findsFields_plain : Database.plain.FindsFields where
  member entries key := by simp [Database.plain, FieldPath.lookup, FieldPath.step]
  memberText entries key := by simp [Database.plain, FieldPath.lookup, FieldPath.step]
  at? _ _ := rfl
  textAt? _ _ := rfl
  typeOf _ := rfl
  equal_true json := by cases json <;> simp [Database.plain, Json.equal]
  reads_true := rfl

/-- A row that is flagged as deleted and was last written at 5. -/
def sampleRow : MemoryRow :=
  ⟨"a", 0, ⟨[("_rev", .string "1-x"), ("_deleted", .bool true),
    ("_meta", .object [("lwt", .ofInt 5)])]⟩⟩

def sampleTable : MemoryTable := ⟨1, [sampleRow]⟩

theorem casts_sampleRow : Database.plain.CastsNumbers sampleRow.data.toJson := by
  intro number inside
  cases inside with
  | entry field inside =>
      simp [sampleRow] at field
      rcases field with ⟨_, rfl⟩ | ⟨_, rfl⟩ | ⟨_, rfl⟩
      · cases inside
      · cases inside
      · cases inside with
        | entry field inside =>
            cases List.mem_singleton.mp field
            cases inside
            rfl

theorem guards_agree_sample :
    Database.plain.Guards (Conversation.backend.purge "shop" (.ofInt 7)) (.delete "shop")
        sampleRow.stored (sampleRow ∉ (sampleTable.purge (.ofInt 7)).rows) ∧
      Database.plain.Guards (Conversation.backend.purge "shop" (.infinite true)) (.delete "shop")
        sampleRow.stored (sampleRow ∉ (sampleTable.purge (.infinite true)).rows) ∧
      Database.plain.Guards (Conversation.backend.update "shop" ⟨"a", ⟨[]⟩⟩ (some "1-x"))
        (.update "shop" 2) sampleRow.stored
        (sampleRow.id = "a" ∧ sampleRow.data.revisionText? = some "1-x") := by
  have distinct : sampleTable.DistinctIds := List.nodup_singleton "a"
  have member : sampleRow ∈ sampleTable.rows := .head _
  obtain ⟨-, purges, -, updates, -⟩ :=
    guards_agree Database.findsFields_plain distinct member casts_sampleRow "shop"
  exact ⟨purges (.ofInt 7) nofun, purges (.infinite true) nofun, updates ⟨"a", ⟨[]⟩⟩ (some "1-x")⟩

/-- A row whose revision is a number. -/
def numberedRow : MemoryRow := ⟨"a", 0, ⟨[("_rev", .ofInt 5)]⟩⟩

/-- For a revision that is a number, the table in memory takes the row for one without a revision,
while the statement finds the text of the number. For a cutoff that is NaN, the table keeps a row
that the statement deletes. -/
theorem update_overlooks_number :
    let table : MemoryTable := ⟨1, [numberedRow]⟩
    let update := Conversation.backend.update "t" ⟨"a", ⟨[("_rev", .ofInt 6)]⟩⟩
    (table.update? ⟨"a", ⟨[("_rev", .ofInt 6)]⟩⟩ none).isSome = true ∧
      Database.plain.Guards (update none) (.update "t" 2) numberedRow.stored False ∧
      (table.update? ⟨"a", ⟨[("_rev", .ofInt 6)]⟩⟩ (some "5")).isSome = false ∧
      Database.plain.Guards (update (some "5")) (.update "t" 2) numberedRow.stored True ∧
      sampleRow ∈ (sampleTable.purge .nan).rows ∧
      Database.plain.Guards (Conversation.backend.purge "t" .nan) (.delete "t") sampleRow.stored
        True := by
  intro table update
  have updates := guards_update Database.findsFields_plain numberedRow.stored "t"
    ⟨"a", ⟨[("_rev", .ofInt 6)]⟩⟩
  have purges := guards_purge Database.findsFields_plain sampleRow.stored casts_sampleRow "t" .nan
  exact ⟨rfl, (updates none).congr (by decide), rfl, (updates (some "5")).congr (by decide),
    .head _, purges.congr (by decide)⟩

end DocStore
