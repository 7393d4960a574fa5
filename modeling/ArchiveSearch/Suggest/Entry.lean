import ArchiveSearch.Calendar.Instant
import ArchiveSearch.Filter.Decoding
import ArchiveSearch.Filter.Encoding

namespace ArchiveSearch

set_option autoImplicit false

structure PastSearch where
  query : String
  time : Instant
  resultCount : Nat
  filter : Option Filter
  deriving DecidableEq

structure Popularity where
  query : String
  count : Nat
  deriving DecidableEq

namespace Decode

def instant : Json → Decoded Instant
  | .string s =>
      match Instant.read s with
      | .ok t => .ok t
      | .error fault => .error (.date fault)
  | j => mismatch j "a formatted date and time string"

end Decode

def PastSearch.encode (p : PastSearch) : Json :=
  .object
    ([("query", .string p.query), ("timestamp", .string p.time.text),
      ("resultCount", .integer p.resultCount)] ++
      (p.filter.map fun f => ("filters", f.encode)).toList)

def PastSearch.decode (j : Json) : Decoded PastSearch := do
  let r ← Record.ofValue .inOpen "struct HistoryEntry"
    ["query", "timestamp", "resultCount", "filters"] j
  let query := r.field "query" Decode.string
  let time := r.field "timestamp" Decode.instant
  let resultCount := r.field "resultCount" Decode.word64
  let filter := r.field "filters" (Decode.optional (Filter.decode .inOpen))
  r.settle [query.fault, time.fault, resultCount.fault, filter.fault]
  return { query := ← query.required r
           time := ← time.required r
           resultCount := ← resultCount.required r
           filter := ← filter.getD none }

def Popularity.encode (p : Popularity) : Json :=
  .object [("query", .string p.query), ("count", .integer p.count)]

def Popularity.decode (j : Json) : Decoded Popularity := do
  let r ← Record.ofValue .inOpen "struct PopularityEntry" ["query", "count"] j
  let query := r.field "query" Decode.string
  let count := r.field "count" Decode.word32
  r.settle [query.fault, count.fault]
  return { query := ← query.required r, count := ← count.required r }

namespace Popularity

def mayPrecede (p q : Popularity) : Bool :=
  q.count < p.count || (p.count == q.count && p.query ≤ q.query)

def sorted (entries : List Popularity) : List Popularity :=
  entries.mergeSort mayPrecede

end Popularity

end ArchiveSearch
