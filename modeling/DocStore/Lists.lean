/-!
# Keyed lists and stable sorting

Lists of pairs in which a key stands for the value of its first pair. Storing under a key replaces
the value in place or appends a new pair, so keys keep the order in which they were first stored.

Lists are sorted by insertion: an element goes in front of the first one that is not strictly less,
so elements that compare equal keep their places.
-/

namespace DocStore

namespace Keyed

variable {α : Type}

def put (key : String) (value : α) : List (String × α) → List (String × α)
  | [] => [(key, value)]
  | (k, v) :: rest => if k == key then (k, value) :: rest else (k, v) :: put key value rest

def erase (key : String) (entries : List (String × α)) : List (String × α) :=
  entries.filter fun entry => entry.1 != key

def ofList (entries : List (String × α)) : List (String × α) :=
  entries.foldl (fun stored entry => put entry.1 entry.2 stored) []

def distinct (names : List String) : List String :=
  names.foldl (fun seen name => if seen.contains name then seen else seen ++ [name]) []

end Keyed

section StableSort

variable {α : Type}

def insertSorted (order : α → α → Ordering) (x : α) : List α → List α
  | [] => [x]
  | y :: ys => if order y x == .lt then y :: insertSorted order x ys else x :: y :: ys

def stableSort (order : α → α → Ordering) : List α → List α
  | [] => []
  | x :: xs => insertSorted order x (stableSort order xs)

end StableSort

end DocStore
