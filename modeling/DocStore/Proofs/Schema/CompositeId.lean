import DocStore.Proofs.Keyed
import DocStore.Proofs.Pointwise
import DocStore.Proofs.Text.Joined
import DocStore.Schema

/-!
# Ids composed of several fields

A composite id joins the texts of the key fields by the separator, which can stand in these texts as
well. The id tells the texts apart as long as all but one of them are seen to end, or to begin, at
the separator beside them. A key with two different fields has documents with other texts and the
same id.
-/

namespace DocStore

/-! ## The texts of the key fields -/

namespace Document

/-- The text of a field that can be a part of an id: a string, or the text of a number. -/
inductive HoldsText (document : Document) (field : String) : String → Prop where
  | string {value : String} (held : document.field? field = some (.string value)) :
      HoldsText document field value
  | number {value : Number} (held : document.field? field = some (.number value)) :
      HoldsText document field value.text

def SameText (document other : Document) (field : String) : Prop :=
  ∃ text, document.HoldsText field text ∧ other.HoldsText field text

theorem HoldsText.unique {document : Document} {field text text' : String}
    (first : document.HoldsText field text) (second : document.HoldsText field text') :
    text = text' := by
  obtain ⟨held⟩ | ⟨held⟩ := first <;> obtain ⟨held'⟩ | ⟨held'⟩ := second <;>
    cases held.symm.trans held' <;> rfl

/-- A document with the given texts in its fields. -/
def ofTexts (fields : List String) (text : String → String) : Document :=
  ⟨Keyed.ofList (fields.map fun field => (field, .string (text field)))⟩

theorem holdsText_ofTexts {fields : List String} (text : String → String) {field : String}
    (member : field ∈ fields) : (ofTexts fields text).HoldsText field (text field) := by
  let stored? (name : String) : Option Json := some (.string (text name))
  have read : ∀ entry ∈ fields.map fun field => (field, Json.string (text field)),
      stored? entry.1 = some entry.2 := by
    intro entry listed
    obtain ⟨name, _, rfl⟩ := List.mem_map.mp listed
    rfl
  have named : field ∈ (fields.map fun field => (field, Json.string (text field))).map (·.1) := by
    rw [List.map_map]
    exact List.mem_map.mpr ⟨field, member, rfl⟩
  refine .string ?_
  rw [field?, ofTexts, Keyed.lookup_ofList read, if_pos named]

end Document

namespace PrimaryKey

variable {key separator id : String} {fields : List String} {document other : Document}

theorem part_eq_ok_iff {field text : String} :
    part document field = .ok text ↔ document.HoldsText field text := by
  rw [part]
  constructor
  · intro held
    split at held
    · next value found =>
        cases held
        exact .string found
    · next value found =>
        cases held
        exact .number found
    · cases held
  · rintro (⟨held⟩ | ⟨held⟩) <;> rw [held]

/-- A composite id joins the texts of all fields. -/
theorem compose_composite_eq_ok_iff :
    (composite key fields separator).compose document = .ok id ↔
      ∃ text : String → String, (∀ field ∈ fields, document.HoldsText field (text field)) ∧
        id = separator.intercalate (fields.map text) := by
  constructor
  · intro composed
    rw [compose] at composed
    cases read : fields.mapM (part document) with
    | error fault =>
        rw [read] at composed
        cases composed
    | ok texts =>
        rw [read] at composed
        cases composed
        have parts := mapM_eq_ok_iff.mp read
        let text (field : String) : String := (part document field).toOption.getD ""
        have text_eq {field found : String} (own : part document field = .ok found) :
            text field = found := by
          rw [show text field = (part document field).toOption.getD "" from rfl, own]
          rfl
        refine ⟨text, forall_left (parts.imp fun field found own => ?_), ?_⟩
        · rw [text_eq own]
          exact part_eq_ok_iff.mp own
        · rw [(map_forall₂ (parts.imp fun _ _ own => text_eq own)).trans texts.map_id]
  · rintro ⟨text, held, rfl⟩
    have read : fields.mapM (part document) = .ok (fields.map text) := by
      rw [mapM_eq_ok_iff, List.forall₂_map_right_iff, List.forall₂_same]
      exact fun field member => part_eq_ok_iff.mpr (held field member)
    rw [compose, read]
    rfl

/-! ## What an id tells -/

/-- In the fields before a place the document holds texts that are closed by the separator, and in
those behind it texts that are opened by it. -/
structure Delimited (separator : String) (before behind : List String) (document : Document) :
    Prop where
  closed : ∀ field ∈ before, ∀ text, document.HoldsText field text →
    ClosedBy separator.toList text.toList
  opened : ∀ field ∈ behind, ∀ text, document.HoldsText field text →
    OpenedBy separator.toList text.toList

/-- Of the documents that are admitted, those with one id hold the same texts in the fields. -/
def TellsTexts (key : PrimaryKey) (fields : List String) (admits : Document → Prop) : Prop :=
  ∀ document other id, admits document → admits other → key.compose document = .ok id →
    key.compose other = .ok id → ∀ field ∈ fields, document.SameText other field

theorem tellsTexts_of_joined {admits : Document → Prop}
    (told : ∀ text text' : String → String,
      (∃ document, admits document ∧ ∀ field ∈ fields, document.HoldsText field (text field)) →
      (∃ document, admits document ∧ ∀ field ∈ fields, document.HoldsText field (text' field)) →
      separator.toList.intercalate (fields.map fun field => (text field).toList) =
        separator.toList.intercalate (fields.map fun field => (text' field).toList) →
      ∀ field ∈ fields, (text field).toList = (text' field).toList) :
    TellsTexts (composite key fields separator) fields admits := by
  intro document other id admitted admitted' composed composed'
  obtain ⟨text, held, rfl⟩ := compose_composite_eq_ok_iff.mp composed
  obtain ⟨text', held', same⟩ := compose_composite_eq_ok_iff.mp composed'
  have joined := congrArg String.toList same
  rw [String.toList_intercalate, String.toList_intercalate, List.map_map, List.map_map] at joined
  have texts := told text text' ⟨document, admitted, held⟩ ⟨other, admitted', held'⟩ joined
  intro field member
  refine ⟨text field, held field member, ?_⟩
  rw [String.toList_inj.mp (texts field member)]
  exact held' field member

theorem tellsTexts_of_delimited {before behind : List String} {pivot : String}
    (cut : fields = before ++ pivot :: behind) :
    TellsTexts (composite key fields separator) fields (Delimited separator before behind) := by
  refine tellsTexts_of_joined fun text text' => ?_
  rintro ⟨document, delimited, held⟩ ⟨other, delimited', held'⟩ joined
  subst cut
  rw [List.forall_mem_append, List.forall_mem_cons] at held held'
  exact joined_around
    (fun field member => delimited.closed field member _ (held.1 field member))
    (fun field member => delimited'.closed field member _ (held'.1 field member))
    (fun field member => delimited.opened field member _ (held.2.2 field member))
    (fun field member => delimited'.opened field member _ (held'.2.2 field member)) joined

theorem tellsTexts_of_single (single : ∀ first ∈ fields, ∀ second ∈ fields, first = second)
    (admits : Document → Prop) :
    TellsTexts (composite key fields separator) fields admits := by
  refine tellsTexts_of_joined fun text text' _ _ joined field member => ?_
  have length := List.length_pos_of_mem member
  obtain ⟨more, count⟩ := Nat.exists_eq_succ_of_ne_zero (Nat.ne_of_gt length)
  have repeated : fields = List.replicate (more + 1) field :=
    List.eq_replicate_iff.mpr ⟨count, fun other inside => single other inside field member⟩
  rw [repeated, List.map_replicate, List.map_replicate] at joined
  exact joined_replicate joined

/-- Some text is not empty and makes up the separator. -/
theorem exists_unit (separator : String) :
    ∃ unit between, unit ≠ [] ∧ separator.toList = copies unit between := by
  by_cases empty : separator.toList = []
  · exact ⟨['x'], 0, List.cons_ne_nil _ _, empty⟩
  · exact ⟨separator.toList, 1, empty, by simp [copies]⟩

/-- Texts made of separators alone move from one field to another one unseen. -/
theorem exists_same_id (key separator : String) {fields : List String} {first second : String}
    (left : first ∈ fields) (right : second ∈ fields) (apart : first ≠ second) :
    ∃ document other id, (composite key fields separator).compose document = .ok id ∧
      (composite key fields separator).compose other = .ok id ∧
      ¬ document.SameText other first := by
  obtain ⟨unit, between, visible, spelled⟩ := exists_unit separator
  -- Each of the two fields gets as many copies as the other one has places in the key.
  let moved (field other : String) : String → String := fun name =>
    String.ofList (copies unit (if name = field then fields.count other else 0))
  have joined (field other : String) :
      (separator.intercalate (fields.map (moved field other))).toList =
        copies unit (fields.count field * fields.count other + between * (fields.length - 1)) := by
    rw [String.toList_intercalate, List.map_map, spelled, ← foldr_amounts, ← joined_copies]
    simp [Function.comp_def, moved]
  have held (field other : String) : ∀ name ∈ fields,
      (Document.ofTexts fields (moved field other)).HoldsText name (moved field other name) :=
    fun name member => Document.holdsText_ofTexts _ member
  refine ⟨_, _, _, compose_composite_eq_ok_iff.mpr ⟨_, held first second, rfl⟩,
    compose_composite_eq_ok_iff.mpr ⟨_, held second first, ?_⟩, ?_⟩
  · rw [← String.toList_inj, joined, joined, Nat.mul_comm]
  · rintro ⟨text, here, there⟩
    have same := ((held first second first left).unique here).trans
      (there.unique (held second first first left))
    have counted : 0 < fields.count second := List.count_pos_iff.mpr right
    simp [moved, apart, copies] at same
    exact visible (same (Nat.ne_of_gt counted))

/-- Documents are told apart by their composite ids as long as the texts of all key fields but one
are delimited. All documents are told apart only by a key whose fields are one and the same. -/
theorem composite_tells_delimited (key : String) (fields : List String) (separator : String) :
    (∀ before pivot behind, fields = before ++ pivot :: behind →
      TellsTexts (composite key fields separator) fields (Delimited separator before behind)) ∧
    (TellsTexts (composite key fields separator) fields (fun _ => True) ↔
      ∀ first ∈ fields, ∀ second ∈ fields, first = second) := by
  refine ⟨fun before pivot behind => tellsTexts_of_delimited, ?_, ?_⟩
  · intro tells first left second right
    by_contra apart
    obtain ⟨document, other, id, composed, composed', differ⟩ :=
      exists_same_id key separator left right apart
    exact differ (tells document other id trivial trivial composed composed' first left)
  · exact fun single => tellsTexts_of_single single _

/-- The path between the owner and the number may hold separators; the number is one in the first
document and a text in the second one. -/
theorem composite_tells_delimited_sample :
    let key := composite "id" ["owner", "path", "number"] ":"
    let document : Document :=
      ⟨[("owner", .string "ada"), ("path", .string "a:b"), ("number", .ofInt 7)]⟩
    let other : Document :=
      ⟨[("number", .string "7"), ("path", .string "a:b"), ("owner", .string "ada")]⟩
    key.compose document = .ok "ada:a:b:7" ∧ key.compose other = .ok "ada:a:b:7" ∧
      ∀ field ∈ ["owner", "path", "number"], document.SameText other field := by
  intro key document other
  have composed : key.compose document = .ok "ada:a:b:7" := by decide
  have composed' : key.compose other = .ok "ada:a:b:7" := by decide
  have delimited (document : Document) (owner : document.HoldsText "owner" "ada")
      (number : document.HoldsText "number" "7") :
      Delimited ":" ["owner"] ["number"] document := by
    refine ⟨List.forall_mem_singleton.mpr fun text held => ?_,
      List.forall_mem_singleton.mpr fun text held => ?_⟩
    · rw [held.unique owner]
      exact closedBy_of_notMem [] (by decide)
    · rw [held.unique number]
      exact openedBy_of_notMem [] (by decide)
  have seven : document.HoldsText "number" (Number.integer 7).text := .number rfl
  have told := (composite_tells_delimited "id" ["owner", "path", "number"] ":").1
    ["owner"] "path" ["number"] rfl document other "ada:a:b:7"
    (delimited document (.string rfl) seven) (delimited other (.string rfl) (.string rfl))
    composed composed'
  exact ⟨composed, composed', told⟩

/-- A separator in a text is taken for the one between the texts. -/
theorem separator_in_text_collides :
    let key := composite "id" ["owner", "number"] ":"
    let document : Document := ⟨[("owner", .string "a:b"), ("number", .string "c")]⟩
    let other : Document := ⟨[("owner", .string "a"), ("number", .string "b:c")]⟩
    key.compose document = .ok "a:b:c" ∧ key.compose other = .ok "a:b:c" ∧
      ¬ document.SameText other "owner" := by
  intro key document other
  refine ⟨by decide, by decide, ?_⟩
  rintro ⟨text, here, there⟩
  have first : text = "a:b" := here.unique (.string rfl)
  have second : text = "a" := there.unique (.string rfl)
  exact absurd (first.symm.trans second) (by decide)

end PrimaryKey

end DocStore
