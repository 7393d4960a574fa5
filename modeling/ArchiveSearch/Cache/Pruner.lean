import ArchiveSearch.Cache.Basic

namespace ArchiveSearch.Cache

set_option autoImplicit false

structure Pruner where
  interval : Nat
  elapsed : Nat := 0
  orphaned : Bool := false
  stopped : Bool := false

namespace Pruner

def isDue (p : Pruner) (millis : Nat) : Bool :=
  p.elapsed / p.interval < (p.elapsed + millis) / p.interval

def advance (millis : Nat) (p : Pruner) : Pruner :=
  { p with
    elapsed := p.elapsed + millis
    stopped := p.stopped || (p.orphaned && p.isDue millis) }

def acts (millis : Nat) (p : Pruner) : Bool :=
  !p.orphaned && !p.stopped && p.isDue millis

end Pruner

variable {α : Type}

structure Tended (α : Type) where
  cache : Cache α
  pruners : List Pruner := []

namespace Tended

def spawn (t : Tended α) : Tended α :=
  let interval := t.cache.settings.pruneInterval
  { t with pruners := t.pruners ++ [{ interval, stopped := interval == 0 }] }

/-- The timers move on. However many intervals have passed, the cache is pruned at the present. -/
def advance (t : Tended α) (now millis : Nat) : Tended α :=
  { cache := if t.pruners.any (Pruner.acts millis) then (t.cache.prune now).2 else t.cache
    pruners := t.pruners.map (Pruner.advance millis) }

def recreate (t : Tended α) : Tended α :=
  { cache := { settings := t.cache.settings }
    pruners := t.pruners.map fun p => { p with orphaned := true } }

end Tended

end ArchiveSearch.Cache
