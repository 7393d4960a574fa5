import ArchiveSearch.Settings
import ArchiveSearch.Suggest.Entry
import ArchiveSearch.Suggest.Store
import ArchiveSearch.Suggest.Suggestion

/- Rankers: they remember searches and rank suggestions by them.

   The history holds the latest searches, the newest first, each query once. The popularity table counts
   how often a query was searched for or selected; it is kept when the history is cleared. Queries that
   differ only in case, or in blanks around them, are one query. -/
namespace ArchiveSearch

set_option autoImplicit false

structure Ranker where
  settings : RankerSettings := {}
  history : List PastSearch := []
  counts : List (String × Popularity) := []

namespace Ranker

open Suggest (normalForm ranked fromTemplates fromVocabulary)

def popularity (r : Ranker) : List Popularity :=
  Popularity.sorted (r.counts.map (·.2))

def popularEntries (r : Ranker) : List Popularity :=
  Popularity.sorted
    ((r.counts.map (·.2)).filter fun p => r.settings.minPopularity ≤ p.count)

def addCount (count by_ : Nat) : Nat :=
  min (count + by_) (Bound.word32 - 1)

def file (key : String) (p : Popularity) (counts : List (String × Popularity)) :
    List (String × Popularity) :=
  if counts.any fun x => x.1 == key then counts.map fun x => if x.1 == key then (key, p) else x
  else counts ++ [(key, p)]

def bump (key spelling : String) (by_ : Nat) (counts : List (String × Popularity)) :
    List (String × Popularity) :=
  let old := ((counts.lookup key).map Popularity.count).getD 0
  file key { query := spelling, count := addCount old by_ } counts

def record (r : Ranker) (now : Nat) (query : String) (resultCount : Nat)
    (filter : Option Filter) : Ranker :=
  let spelling := Text.trim query
  let key := normalForm spelling
  if key.isEmpty then r
  else
    let entry : PastSearch :=
      { query := spelling, time := Instant.ofClock now, resultCount, filter }
    let others := r.history.filter fun p => normalForm p.query != key
    { r with
      history := (entry :: others).take r.settings.maxHistory
      counts := bump key spelling 1 r.counts }

def learn (r : Ranker) (text : String) : Ranker :=
  let spelling := Text.trim text
  let key := normalForm spelling
  if key.isEmpty then r
  else { r with counts := bump key spelling r.settings.selectionBoost r.counts }

def clear (r : Ranker) : Ranker :=
  { r with history := [] }

def restore (r : Ranker) (history : List PastSearch) (counts : List Popularity) : Ranker :=
  { r with
    history := history.take r.settings.maxHistory
    counts := counts.foldl (fun filed p => file (normalForm p.query) p filed) [] }

def historyName : String := "history"

def popularityName : String := "popularity"

def load (r : Ranker) (s : Store) : Ranker :=
  r.restore (s.load historyName PastSearch.decode) (s.load popularityName Popularity.decode)

def persist (r : Ranker) (s : Store) : Store :=
  (s.save historyName PastSearch.encode r.history).save popularityName Popularity.encode
    r.popularity

variable {R : Type} (a : Arithmetic R)

def recentSuggestion (p : PastSearch) (relevance : R) : Suggestion R :=
  { kind := .recent, text := p.query, relevance, resultCount := some p.resultCount }

def popularSuggestion (p : Popularity) (relevance : R) : Suggestion R :=
  { kind := .popular, text := p.query, relevance }

def recentMatches (r : Ranker) (needle : String) : List PastSearch :=
  r.history.filter fun p =>
    let query := Text.lower p.query
    Text.contains query needle || Text.contains needle query

def popularMatches (r : Ranker) (needle : String) : List Popularity :=
  r.popularEntries.filter fun p => Text.contains (Text.lower p.query) needle

def candidates (r : Ranker) (input : String) (contentType : Option ContentType) :
    List (Suggestion R) :=
  let needle := normalForm input
  ranked a Score.recentBase recentSuggestion (r.recentMatches needle) ++
    ranked a Score.popularBase popularSuggestion (r.popularMatches needle) ++
    fromTemplates a (Text.trim input) ++
    (match contentType with
      | some c => fromVocabulary a c needle
      | none => [])

def adjust (needle : String) (s : Suggestion R) : Suggestion R :=
  { s with relevance := Score.adjusted a s.relevance s.lowered.toList needle.toList }

def useCount (r : Ranker) (text : String) : Nat :=
  match r.counts.lookup (normalForm text) with
  | some p => max p.count 1
  | none => 1

def weigh (r : Ranker) (s : Suggestion R) : Suggestion R :=
  { s with relevance := Score.weighed a s.relevance (r.useCount s.text) }

def defaults (r : Ranker) : List (Suggestion R) :=
  ranked a Score.recentBase recentSuggestion r.history ++
    ranked a Score.popularBase popularSuggestion r.popularEntries

def suggestIn (r : Ranker) (input : String) (contentType : Option ContentType) :
    List (Suggestion R) :=
  let needle := normalForm input
  let found :=
    if needle.isEmpty then (r.defaults a).map (r.weigh a)
    else (r.candidates a input contentType).map (adjust a needle)
  Suggestion.best a r.settings.maxSuggestions found

def suggest (r : Ranker) (input : String) (contentType : Option ContentType) :
    List (Suggestion Binary64) :=
  r.suggestIn .binary64 input contentType

end Ranker

end ArchiveSearch
