import DocStore.Json
import DocStore.Lists

/-!
# The stored form and the order of values

Objects are stored with shorter keys first and keys of one length in bytewise order. Values are
ordered by kind, containers by size before contents, and an empty array at the top level comes
before everything else.
-/

namespace DocStore.Json

/-- Shorter keys first, counted in UTF-8 bytes, then bytewise. -/
def keyOrder (a b : String) : Ordering :=
  (compare a.utf8ByteSize b.utf8ByteSize).then (compare a b)

def sortEntries {α : Type} (entries : List (String × α)) : List (String × α) :=
  stableSort (fun a b => keyOrder a.1 b.1) entries

mutual

/-- The stored form: every object, at any depth, has its entries in key order. -/
def canonical : Json → Json
  | .null => .null
  | .bool value => .bool value
  | .number value => .number value
  | .string value => .string value
  | .array items => .array (canonicalItems items)
  | .object entries => .object (sortEntries (canonicalEntries entries))

def canonicalItems : List Json → List Json
  | [] => []
  | item :: rest => canonical item :: canonicalItems rest

def canonicalEntries : List (String × Json) → List (String × Json)
  | [] => []
  | (key, value) :: rest => (key, canonical value) :: canonicalEntries rest

end

/-- Null, then strings, numbers, booleans, arrays and objects. -/
def kindRank : Json → Nat
  | .null => 0
  | .string _ => 1
  | .number _ => 2
  | .bool _ => 3
  | .array _ => 4
  | .object _ => 5

mutual

def storedOrder : Json → Json → Ordering
  | .string a, .string b => compare a b
  | .number a, .number b => a.order b
  | .bool a, .bool b => compare a b
  | .array a, .array b => (compare a.length b.length).then (storedItemsOrder a b)
  | .object a, .object b => (compare a.length b.length).then (storedEntriesOrder a b)
  | a, b => compare a.kindRank b.kindRank

def storedItemsOrder : List Json → List Json → Ordering
  | a :: as, b :: bs => (storedOrder a b).then (storedItemsOrder as bs)
  | _, _ => .eq

def storedEntriesOrder : List (String × Json) → List (String × Json) → Ordering
  | (k, a) :: as, (l, b) :: bs =>
      ((keyOrder k l).then (storedOrder a b)).then (storedEntriesOrder as bs)
  | _, _ => .eq

end

def isEmptyArray : Json → Bool
  | .array [] => true
  | _ => false

def order (a b : Json) : Ordering :=
  match a.isEmptyArray, b.isEmptyArray with
  | true, true => .eq
  | true, false => .lt
  | false, true => .gt
  | false, false => storedOrder a.canonical b.canonical

/-- A missing value comes after every value. -/
def optionOrder : Option Json → Option Json → Ordering
  | some a, some b => order a b
  | some _, none => .lt
  | none, some _ => .gt
  | none, none => .eq

end DocStore.Json
