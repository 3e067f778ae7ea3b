import DocStore.Json

/-!
# Records

A record is written as an object and read from one, unknown members being ignored. A list of the
values in the order of the members is read as well; it may end early where the last members have
defaults.
-/

namespace DocStore.Json

/-- The member values in the order of the names; a list holds at least `least` of them. -/
def members? (names : List String) (least : Nat) : Json → Option (List (Option Json))
  | .object entries => some (names.map fun name => entries.lookup name)
  | .array items =>
      if least ≤ items.length ∧ items.length ≤ names.length then
        some ((List.range names.length).map fun index => items[index]?)
      else none
  | _ => none

/-- The tag of a tagged record and what is left to read. -/
def tagged? (tag : String) : Json → Option (String × Json)
  | .object entries => ((entries.lookup tag).bind string?).map fun name => (name, .object entries)
  | .array (first :: rest) => first.string?.map fun name => (name, .array rest)
  | _ => none

def listOf? {α : Type} (read? : Json → Option α) (json : Json) : Option (List α) :=
  json.items?.bind (·.mapM read?)

/-- An optional member: absent and null are the same. -/
def optional? {α : Type} (read? : Json → Option α) (member : Option Json) : Option (Option α) :=
  match member with
  | none => some none
  | some .null => some none
  | some json => (read? json).map some

/-- A member with a default for the case that it is absent. -/
def withDefault? {α : Type} (read? : Json → Option α) (default : α) (member : Option Json) :
    Option α :=
  match member with
  | none => some default
  | some json => read? json

def natural? (limit : Nat) (json : Json) : Option Nat := json.number?.bind (·.natural? limit)

def ofOptional {α : Type} (write : α → Json) : Option α → Json
  | none => .null
  | some value => write value

def strings (texts : List String) : Json := .array (texts.map .string)

end DocStore.Json
