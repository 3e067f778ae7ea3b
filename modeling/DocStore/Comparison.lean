import DocStore.Number.Binary64

/-!
# Numeric comparisons
-/

namespace DocStore

inductive Comparison where
  | gt
  | gte
  | lt
  | lte
  deriving DecidableEq

namespace Comparison

def holds : Comparison → Binary64 → Binary64 → Bool
  | gt, left, right => right.lt left
  | gte, left, right => right.le left
  | lt, left, right => left.lt right
  | lte, left, right => left.le right

def name : Comparison → String
  | gt => "gt"
  | gte => "gte"
  | lt => "lt"
  | lte => "lte"

def ofName? : String → Option Comparison
  | "gt" => some gt
  | "gte" => some gte
  | "lt" => some lt
  | "lte" => some lte
  | _ => none

end Comparison

end DocStore
