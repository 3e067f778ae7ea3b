import DocStore.Json.Record

/-!
# Mango queries as sent by callers
-/

namespace DocStore

/-- A limit of zero is no limit. -/
structure MangoQuery where
  selector : Json
  sort : List Json
  skip : Option UInt64
  limit : Option UInt64

namespace MangoQuery

def word? (json : Json) : Option UInt64 := (json.natural? UInt64.size).map UInt64.ofNat

def wordJson (word : UInt64) : Json := .ofNat word.toNat

def ofJson? (json : Json) : Option MangoQuery := do
  match ← json.members? ["selector", "sort", "skip", "limit"] 0 with
  | [selector, sort, skip, limit] =>
      let sort ← Json.withDefault? Json.items? [] sort
      let skip ← Json.optional? word? skip
      let limit ← Json.optional? word? limit
      return ⟨Json.ofOption selector, sort, skip, limit⟩
  | _ => none

def toJson (query : MangoQuery) : Json :=
  .object [("selector", query.selector), ("sort", .array query.sort),
    ("skip", Json.ofOptional wordJson query.skip), ("limit", Json.ofOptional wordJson query.limit)]

end MangoQuery

end DocStore
