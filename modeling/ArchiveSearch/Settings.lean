import ArchiveSearch.Json.Decode
import ArchiveSearch.Json.Draft
import ArchiveSearch.SearchError

namespace ArchiveSearch

set_option autoImplicit false

structure CacheSettings where
  defaultTtl : Nat := 300000
  maxEntries : Nat := 100
  pruneInterval : Nat := 60000
  deriving DecidableEq, Inhabited

structure OptimizerSettings where
  statementMaxAge : Nat := 3600000
  resultTtl : Nat := 300000
  countTtl : Nat := 600000
  deriving DecidableEq, Inhabited

structure RankerSettings where
  maxSuggestions : Nat := 8
  maxHistory : Nat := 50
  minPopularity : Nat := 2
  selectionBoost : Nat := 1
  deriving DecidableEq, Inhabited

structure Settings where
  resultsCache : CacheSettings := {}
  countsCache : CacheSettings := {}
  optimizer : OptimizerSettings := {}
  ranker : RankerSettings := {}
  deriving DecidableEq, Inhabited

namespace Settings

inductive Fault where
  | malformed
  | mismatch (e : DecodeError)

abbrev Reading (α : Type) := Except Fault α

inductive Medium where
  | text
  | value
  deriving DecidableEq

def scalar (wanted : String) (decode : Json → Decoded Nat) : Json.Draft → Reading Nat
  | .scalar (some j) => (decode j).mapError .mismatch
  | .string (some s) => (decode (.string s)).mapError .mismatch
  | .array _ => .error (.mismatch (.invalidType .sequence wanted))
  | .object _ => .error (.mismatch (.invalidType .map wanted))
  | _ => .error .malformed

def word32 : Json.Draft → Reading Nat :=
  scalar "u32" Decode.word32

def word64 : Json.Draft → Reading Nat :=
  scalar "u64" Decode.word64

def size : Json.Draft → Reading Nat :=
  scalar "usize" Decode.size

/-- Takes the members of an object in turn. A known name may stand there once; the value of an
unknown one only has to be written well. -/
def readMembers {σ : Type} (fields : List String) (read : String → Json.Draft → σ → Reading σ) :
    List String → List (Option String × Json.Draft) → σ → Reading σ
  | _, [], s => .ok s
  | _, (none, _) :: _, _ => .error .malformed
  | seen, (some name, value) :: rest, s =>
      if fields.contains name then
        if seen.contains name then .error (.mismatch (.duplicateField name))
        else do readMembers fields read (name :: seen) rest (← read name value s)
      else if value.isBroken then .error .malformed
      else readMembers fields read seen rest s

def readValues {σ : Type} (read : String → Json.Draft → σ → Reading σ) :
    List String → List Json.Draft → σ → Reading σ
  | name :: fields, value :: rest, s => do readValues read fields rest (← read name value s)
  | _, _, s => .ok s

def readRecord {σ : Type} (medium : Medium) (wanted : String) (fields : List String)
    (read : String → Json.Draft → σ → Reading σ) (initial : σ) : Json.Draft → Reading σ
  | .object members => readMembers fields read [] members initial
  | .array items => do
      let s ← readValues read fields items initial
      if items.length ≤ fields.length then return s
      else
        match medium with
        | .text => .error .malformed
        | .value =>
            .error (.mismatch (.invalidLength items.length "fewer elements in array"))
  | .scalar (some j) => .error (.mismatch (.invalidType j.found wanted))
  | .string (some s) => .error (.mismatch (.invalidType (.string s) wanted))
  | _ => .error .malformed

def readCache (medium : Medium) : Json.Draft → Reading CacheSettings :=
  readRecord medium "struct CacheConfig" ["defaultTtlMs", "maxEntries", "pruneIntervalMs"]
    (fun name value s =>
      match name with
      | "defaultTtlMs" => (word64 value).map fun n => { s with defaultTtl := n }
      | "maxEntries" => (size value).map fun n => { s with maxEntries := n }
      | "pruneIntervalMs" => (word64 value).map fun n => { s with pruneInterval := n }
      | _ => .ok s)
    {}

def readOptimizer (medium : Medium) : Json.Draft → Reading OptimizerSettings :=
  readRecord medium "struct OptimizerConfig" ["statementMaxAgeMs", "resultTtlMs", "countTtlMs"]
    (fun name value s =>
      match name with
      | "statementMaxAgeMs" => (word64 value).map fun n => { s with statementMaxAge := n }
      | "resultTtlMs" => (word64 value).map fun n => { s with resultTtl := n }
      | "countTtlMs" => (word64 value).map fun n => { s with countTtl := n }
      | _ => .ok s)
    {}

def readRanker (medium : Medium) : Json.Draft → Reading RankerSettings :=
  readRecord medium "struct RankerConfig"
    ["maxSuggestions", "maxHistory", "minPopularity", "selectionBoost"]
    (fun name value s =>
      match name with
      | "maxSuggestions" => (size value).map fun n => { s with maxSuggestions := n }
      | "maxHistory" => (size value).map fun n => { s with maxHistory := n }
      | "minPopularity" => (word32 value).map fun n => { s with minPopularity := n }
      | "selectionBoost" => (word32 value).map fun n => { s with selectionBoost := n }
      | _ => .ok s)
    {}

def readAll (medium : Medium) : Json.Draft → Reading Settings :=
  readRecord medium "struct SearchConfig" ["resultsCache", "countsCache", "optimizer", "ranker"]
    (fun name value s =>
      match name with
      | "resultsCache" => (readCache medium value).map fun c => { s with resultsCache := c }
      | "countsCache" => (readCache medium value).map fun c => { s with countsCache := c }
      | "optimizer" => (readOptimizer medium value).map fun o => { s with optimizer := o }
      | "ranker" => (readRanker medium value).map fun r => { s with ranker := r }
      | _ => .ok s)
    {}

def liftReading {α : Type} : Reading α → Outcome α
  | .ok a => .ok a
  | .error .malformed => .error .malformedJson
  | .error (.mismatch e) => .error (.ofDecode e)

def decodeWith {α : Type} (read : Medium → Json.Draft → Reading α) (j : Json) : Outcome α :=
  liftReading (read .value (Json.Draft.ofValue j.arrange))

def checkCache (name : String) (c : CacheSettings) : Outcome Unit :=
  if c.maxEntries = 0 then .error (.config (name ++ ".maxEntries must be at least 1"))
  else if c.pruneInterval = 0 then .error (.config (name ++ ".pruneIntervalMs must be positive"))
  else .ok ()

def check (s : Settings) : Outcome Unit := do
  checkCache "resultsCache" s.resultsCache
  checkCache "countsCache" s.countsCache
  if s.ranker.maxHistory = 0 then .error (.config "ranker.maxHistory must be at least 1")

def ofText (text : String) : Outcome Settings := do
  let (draft, trailing) := Json.Draft.ofText text
  let s ← liftReading (readAll .text draft)
  if trailing then .error .malformedJson
  s.check
  return s

end Settings

def CacheSettings.encode (s : CacheSettings) : Json :=
  .object [("defaultTtlMs", .integer s.defaultTtl), ("maxEntries", .integer s.maxEntries),
    ("pruneIntervalMs", .integer s.pruneInterval)]

def OptimizerSettings.encode (s : OptimizerSettings) : Json :=
  .object [("statementMaxAgeMs", .integer s.statementMaxAge),
    ("resultTtlMs", .integer s.resultTtl), ("countTtlMs", .integer s.countTtl)]

def RankerSettings.encode (s : RankerSettings) : Json :=
  .object [("maxSuggestions", .integer s.maxSuggestions), ("maxHistory", .integer s.maxHistory),
    ("minPopularity", .integer s.minPopularity), ("selectionBoost", .integer s.selectionBoost)]

def Settings.encode (s : Settings) : Json :=
  .object [("resultsCache", s.resultsCache.encode), ("countsCache", s.countsCache.encode),
    ("optimizer", s.optimizer.encode), ("ranker", s.ranker.encode)]

end ArchiveSearch
