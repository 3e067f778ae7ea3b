import DocStore.Error
import DocStore.Text.Numeral

/-!
# Field paths

A dotted name is a list of segments. A segment is an object key; on an array it is a position if it
reads as a signed integer, counted from the end when negative. The empty path is the root value.
-/

namespace DocStore

structure FieldPath where
  segments : List String
  deriving DecidableEq

namespace FieldPath

def root : FieldPath := ⟨[]⟩

def isRoot (path : FieldPath) : Bool := path.segments.isEmpty

def splitDots : List Char → List (List Char)
  | [] => [[]]
  | c :: rest =>
      match splitDots rest with
      | [] => [[c]]
      | first :: others => if c = '.' then [] :: first :: others else (c :: first) :: others

def segmentsOf (field : String) : List String :=
  (splitDots field.toList).map String.ofList

def ofString (field : String) : Except Error FieldPath :=
  if field.isEmpty || field.toList.contains (Char.ofNat 0) then .error (.invalidFieldPath field)
  else if (segmentsOf field).any String.isEmpty then .error (.invalidFieldPath field)
  else .ok ⟨segmentsOf field⟩

def display (path : FieldPath) : String :=
  if path.isRoot then "<element>" else String.intercalate "." path.segments

/-- The item at a position, counted from the end when negative. -/
def itemAt? (items : List Json) (position : Int) : Option Json :=
  let index := if position < 0 then items.length + position else position
  if index < 0 then none else items[index.toNat]?

def step (json : Json) (segment : String) : Option Json :=
  match json with
  | .object entries => entries.lookup segment
  | .array items => (Numeral.index? segment.toList).bind (itemAt? items)
  | _ => none

def lookup (path : FieldPath) (json : Json) : Option Json :=
  path.segments.foldlM step json

end FieldPath

end DocStore
