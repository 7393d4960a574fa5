import ArchiveSearch.Number.Binary64
import ArchiveSearch.Settings

/- A bounded cache of results.

   Every entry lives for a time of its own and is not found afterwards; it is removed when that is
   noticed. A new key in a full cache drives out the oldest entry. Time is given to every operation that
   needs it, and may go back.

   Callers that compute the same missing result share a cell, which the cache keeps under the key as
   long as the result is under way. -/
namespace ArchiveSearch

set_option autoImplicit false

namespace Cache

structure Entry (α : Type) where
  key : String
  value : α
  timestamp : Nat
  ttl : Nat
  sequence : Nat
  deriving Inhabited

def Entry.isExpired {α : Type} (e : Entry α) (now : Nat) : Bool :=
  e.ttl < now - e.timestamp

def Entry.isOlder {α : Type} (a b : Entry α) : Bool :=
  a.timestamp < b.timestamp || (a.timestamp == b.timestamp && a.sequence < b.sequence)

structure Counters where
  hits : Nat := 0
  misses : Nat := 0
  evictions : Nat := 0
  expirations : Nat := 0
  deriving DecidableEq, Inhabited

structure Cell (α : Type) where
  value : Option α := none
  owner : Option Nat := none
  deriving Inhabited

end Cache

structure Cache (α : Type) where
  settings : CacheSettings := {}
  entries : List (Cache.Entry α) := []
  nextSequence : Nat := 0
  counters : Cache.Counters := {}
  slots : List (String × Nat) := []
  cells : List (Cache.Cell α) := []
  deriving Inhabited

namespace Cache

variable {α : Type}

def find? (c : Cache α) (key : String) : Option (Entry α) :=
  c.entries.find? fun e => e.key == key

def without (key : String) (entries : List (Entry α)) : List (Entry α) :=
  entries.filter fun e => e.key != key

def size (c : Cache α) : Nat :=
  c.entries.length

def capacity (c : Cache α) : Nat :=
  max c.settings.maxEntries 1

def lookup (c : Cache α) (now : Nat) (key : String) : Option α × Cache α :=
  match c.find? key with
  | none => (none, c)
  | some e =>
      if e.isExpired now then
        (none,
          { c with
            entries := without key c.entries
            counters := { c.counters with expirations := c.counters.expirations + 1 } })
      else (some e.value, c)

def get (c : Cache α) (now : Nat) (key : String) : Option α × Cache α :=
  let (found, c) := c.lookup now key
  match found with
  | some value =>
      (some value, { c with counters := { c.counters with hits := c.counters.hits + 1 } })
  | none => (none, { c with counters := { c.counters with misses := c.counters.misses + 1 } })

def has (c : Cache α) (now : Nat) (key : String) : Bool × Cache α :=
  let (found, c) := c.lookup now key
  (found.isSome, c)

def oldest : List (Entry α) → Option (Entry α)
  | [] => none
  | e :: rest =>
      match oldest rest with
      | none => some e
      | some other => if other.isOlder e then some other else some e

def evictOldest (entries : List (Entry α)) : List (Entry α) :=
  match oldest entries with
  | none => entries
  | some e => without e.key entries

def evictMany : Nat → List (Entry α) → List (Entry α)
  | 0, entries => entries
  | count + 1, entries => evictMany count (evictOldest entries)

def makeRoom (c : Cache α) : Cache α :=
  let count := c.size + 1 - c.capacity
  { c with
    entries := evictMany count c.entries
    counters := { c.counters with evictions := c.counters.evictions + count } }

def store (c : Cache α) (key : String) (value : α) (timestamp ttl : Nat) : Cache α :=
  let entry : Entry α := { key, value, timestamp, ttl, sequence := c.nextSequence }
  let c := if (c.find? key).isSome then c else c.makeRoom
  { c with
    entries := without key c.entries ++ [entry]
    nextSequence := c.nextSequence + 1 }

def set (c : Cache α) (now : Nat) (key : String) (value : α) (ttl : Option Nat) : Cache α :=
  c.store key value now (ttl.getD c.settings.defaultTtl)

def delete (c : Cache α) (key : String) : Bool × Cache α :=
  ((c.find? key).isSome, { c with entries := without key c.entries })

def invalidate (c : Cache α) (covers : String → Bool) : Nat × Cache α :=
  let kept := c.entries.filter fun e => !covers e.key
  (c.size - kept.length, { c with entries := kept })

def inNamespace (name key : String) : Bool :=
  (name.toList ++ [':']).isPrefixOf key.toList

def invalidateNamespace (c : Cache α) (name : String) : Nat × Cache α :=
  c.invalidate (inNamespace name)

def clear (c : Cache α) : Cache α :=
  { c with entries := [], slots := [] }

def prune (c : Cache α) (now : Nat) : Nat × Cache α :=
  let kept := c.entries.filter fun e => !e.isExpired now
  let count := c.size - kept.length
  (count,
    { c with
      entries := kept
      counters := { c.counters with expirations := c.counters.expirations + count } })

def live (c : Cache α) (now : Nat) : List (Entry α) :=
  (c.entries.filter fun e => !e.isExpired now).mergeSort fun a b => !b.isOlder a

def Counters.hitRate (k : Counters) : Binary64 :=
  Binary64.ofRatio false k.hits (k.hits + k.misses)

end Cache

end ArchiveSearch
