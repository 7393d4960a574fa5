import ArchiveSearch.Cache.Flight
import ArchiveSearch.Cache.Key
import ArchiveSearch.Cache.Pruner
import ArchiveSearch.Filter.Encoding
import ArchiveSearch.Query.Condition
import ArchiveSearch.Query.Plan
import ArchiveSearch.Query.Statement
import ArchiveSearch.Search.Engine

/- Searches through prepared statements and cached results.

   Every query is simplified and prepared before it runs. Rows are kept under the id of their statement
   and its values, counts under their text and its values, both in a namespace of the table they were
   read from, so that all that was read from one table can be dropped at once. -/
namespace ArchiveSearch

set_option autoImplicit false

structure Searcher where
  settings : OptimizerSettings := {}
  statements : Statements := []
  results : Cache (List Row) := {}
  counts : Cache Nat := {}
  resultPruners : List Cache.Pruner := []
  countPruners : List Cache.Pruner := []

namespace Searcher

def new (s : Settings) : Searcher :=
  { settings := s.optimizer
    results := { settings := s.resultsCache }
    counts := { settings := s.countsCache } }

def resultsOf (table : String) : String :=
  "query:" ++ table

def countsOf (table : String) : String :=
  "count:" ++ table

def resultKey (statement : Statement) (params : List Value) : String :=
  Cache.keyOfValue (resultsOf (statement.table?.getD "unknown"))
    (.array [.string statement.id, .array (params.map Value.encode)])

def countKey (contentType : ContentType) (q : Query) : String :=
  Cache.keyOfValue (countsOf contentType.table)
    (.array [.string q.text, .array (q.params.map Value.encode)])

def prepare (s : Searcher) (now : Nat) (q : Query) : Statement × Searcher :=
  let (statement, statements) := s.statements.prepare (simplify q.text) q.params now
  (statement, { s with statements })

variable {σ : Type}

def execute (engine : Engine σ) (s : Searcher) (now : Nat) (id : String)
    (params : Option (List Value)) (w : σ) : Outcome (List Row) × Searcher × σ :=
  match s.statements.find? id with
  | none => (.error (.statementNotFound id), s, w)
  | some statement =>
      let params := params.getD statement.params
      let (answer, results, w) :=
        s.results.getOrSet now (resultKey statement params) (some s.settings.resultTtl)
          (engine.run { text := statement.text, params }) w
      (answer, { s with results }, w)

def searchQuery (engine : Engine σ) (s : Searcher) (now : Nat) (q : Query) (w : σ) :
    Outcome (List Row) × Searcher × σ :=
  let (statement, s) := s.prepare now q
  execute engine s now statement.id (some q.params) w

def search (engine : Engine σ) (s : Searcher) (now : Nat) (today : Date) (filter : Filter) (w : σ) :
    Outcome (List Row) × Searcher × σ :=
  match filter.compile today with
  | .error e => (.error e, s, w)
  | .ok q => searchQuery engine s now q w

def searchTree (engine : Engine σ) (s : Searcher) (now : Nat) (today : Date) (tree : FilterTree)
    (w : σ) : Outcome (List Row) × Searcher × σ :=
  match tree.compile today with
  | .error e => (.error e, s, w)
  | .ok q => searchQuery engine s now q w

def countOf (rows : List Row) : Outcome Nat :=
  match rows.head?.bind (List.lookup "count") with
  | some (.integer n) =>
      if 0 ≤ n ∧ n < Bound.word64 then .ok n.toNat else missing
  | _ => missing
where
  missing : Outcome Nat := .error (.execution "count query returned no count")

def runCount (engine : Engine σ) (q : Query) (w : σ) : Outcome Nat × σ :=
  let (answer, w) := engine.run q w
  (answer.bind countOf, w)

def count (engine : Engine σ) (s : Searcher) (now : Nat) (today : Date) (filter : Filter) (w : σ) :
    Outcome Nat × Searcher × σ :=
  match filter.compileCount today with
  | .error e => (.error e, s, w)
  | .ok q =>
      let q := { q with text := simplify q.text }
      let (answer, counts, w) :=
        s.counts.getOrSet now (countKey filter.contentType q) (some s.settings.countTtl)
          (runCount engine q) w
      (answer, { s with counts }, w)

def plan (engine : Engine σ) (q : Query) (w : σ) : Plan :=
  match engine.explain { q with text := simplify q.text } w with
  | .ok (line :: lines) => Plan.ofDetails (line :: lines)
  | _ => Plan.conservative

def prune (s : Searcher) (now : Nat) : Nat × Searcher :=
  let (count, statements) := s.statements.prune s.settings.statementMaxAge now
  (count, { s with statements })

def invalidate (s : Searcher) (contentType : ContentType) : Nat × Searcher :=
  let (rows, results) := s.results.invalidateNamespace (resultsOf contentType.table)
  let (numbers, counts) := s.counts.invalidateNamespace (countsOf contentType.table)
  (rows + numbers, { s with results, counts })

def spawnPruners (s : Searcher) : Searcher :=
  let results := Cache.Tended.spawn { cache := s.results, pruners := s.resultPruners }
  let counts := Cache.Tended.spawn { cache := s.counts, pruners := s.countPruners }
  { s with resultPruners := results.pruners, countPruners := counts.pruners }

def advance (s : Searcher) (now millis : Nat) : Searcher :=
  let results := Cache.Tended.advance { cache := s.results, pruners := s.resultPruners } now millis
  let counts := Cache.Tended.advance { cache := s.counts, pruners := s.countPruners } now millis
  { s with
    results := results.cache
    counts := counts.cache
    resultPruners := results.pruners
    countPruners := counts.pruners }

end Searcher

end ArchiveSearch
