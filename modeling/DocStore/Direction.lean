/-!
# Sort directions
-/

namespace DocStore

inductive Direction where
  | asc
  | desc
  deriving DecidableEq

namespace Direction

def name : Direction → String
  | asc => "asc"
  | desc => "desc"

def keyword : Direction → String
  | asc => "ASC"
  | desc => "DESC"

/-- Case is ignored for the ASCII letters. -/
def ofString? (text : String) : Option Direction :=
  match text.toList.map Char.toLower with
  | ['a', 's', 'c'] => some asc
  | ['d', 'e', 's', 'c'] => some desc
  | _ => none

def apply : Direction → Ordering → Ordering
  | asc, order => order
  | desc, order => order.swap

end Direction

end DocStore
