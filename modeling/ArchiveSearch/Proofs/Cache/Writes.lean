import ArchiveSearch.Cache.Snapshot
import ArchiveSearch.Proofs.Cache.Entries
import ArchiveSearch.Proofs.Cache.Interleaving

/- What is in a cache against the log of what was done to it. Whatever is done comes down to four kinds of steps: an
   entry is stored, a key is looked up, keys are removed, expired entries are pruned. A write stands until a step takes
   it away, and a value is found exactly while its write stands and has not expired. -/
namespace ArchiveSearch.Cache

set_option autoImplicit false

variable {α : Type}

structure Write (α : Type) where
  key : String
  value : α
  timestamp : Nat
  ttl : Nat

def Entry.written (e : Entry α) : Write α :=
  { key := e.key, value := e.value, timestamp := e.timestamp, ttl := e.ttl }

def Write.ExpiredAt (w : Write α) (now : Nat) : Prop :=
  w.ttl < now - w.timestamp

theorem is_expired_iff (e : Entry α) (now : Nat) : e.isExpired now = true ↔ e.written.ExpiredAt now :=
  decide_eq_true_iff

inductive Step (α : Type) where
  | store (w : Write α)
  | look (key : String) (now : Nat)
  | remove (covers : String → Bool)
  | prune (now : Nat)

def step (c : Cache α) : Step α → Cache α
  | .store w => c.store w.key w.value w.timestamp w.ttl
  | .look key now => (c.lookup now key).2
  | .remove covers => (c.invalidate covers).2
  | .prune now => (c.prune now).2

-- A step takes a write away from the cache in which it is taken: it writes the key anew, needs the room of the entry,
-- removes the key, or sees that the write has expired.
def Step.Ends (c : Cache α) (w : Write α) : Step α → Prop
  | .store later => w.key = later.key ∨ c.DrivesOut later.key w.key
  | .look key now => w.key = key ∧ w.ExpiredAt now
  | .remove covers => covers w.key = true
  | .prune now => w.ExpiredAt now

abbrev Log (α : Type) := List (Cache α × Step α)

def Stands (log : Log α) (w : Write α) : Prop :=
  ∃ before c after, log = before ++ (c, .store w) :: after ∧ ∀ later ∈ after, ¬ later.2.Ends later.1 w

theorem stands_nil (w : Write α) : ¬ Stands [] w := by
  rintro ⟨before, c, after, made, -⟩
  simp at made

theorem stands_append (log : Log α) (c : Cache α) (s : Step α) (w : Write α) :
    Stands (log ++ [(c, s)]) w ↔ s = .store w ∨ (Stands log w ∧ ¬ s.Ends c w) := by
  constructor
  · rintro ⟨before, c', after, made, kept⟩
    rcases List.eq_nil_or_concat after with rfl | ⟨others, last, rfl⟩
    · obtain ⟨-, same⟩ := List.append_inj' made rfl
      simp only [List.cons.injEq, Prod.mk.injEq, and_true] at same
      exact .inl same.2
    · rw [List.concat_eq_append, ← List.cons_append, ← List.append_assoc] at made
      obtain ⟨shorter, same⟩ := List.append_inj' made rfl
      simp only [List.cons.injEq, and_true] at same
      refine .inr ⟨⟨before, c', others, shorter, fun later mem => kept later (by simp [mem])⟩, ?_⟩
      have final := kept last (by simp)
      rwa [← same] at final
  · rintro (rfl | ⟨⟨before, c', after, made, kept⟩, stays⟩)
    · exact ⟨log, c, [], rfl, fun later mem => nomatch mem⟩
    · refine ⟨before, c', after ++ [(c, s)], by rw [made, List.append_assoc, List.cons_append], fun later mem => ?_⟩
      rcases List.mem_append.1 mem with old | new
      · exact kept later old
      · rw [List.mem_singleton.1 new]
        exact stays

structure Agrees (c : Cache α) (log : Log α) : Prop where
  orderly : c.Orderly
  holds : ∀ w, (∃ e ∈ c.entries, e.written = w) ↔ Stands log w

theorem Agrees.start (settings : CacheSettings) : Agrees ({ settings } : Cache α) [] where
  orderly := orderly_of_empty _ rfl
  holds w := ⟨fun ⟨_, mem, _⟩ => (nomatch mem), fun bad => absurd bad (stands_nil w)⟩

theorem step_orderly (c : Cache α) (orderly : c.Orderly) (s : Step α) : (c.step s).Orderly := by
  cases s with
  | store w => exact store_orderly orderly _ _ _ _
  | look key now =>
      obtain ⟨kept, settings, counter⟩ := c.lookup_kept now key
      exact orderly.thinned kept settings counter
  | remove covers => exact orderly.thinned List.filter_sublist rfl rfl
  | prune now => exact orderly.thinned List.filter_sublist rfl rfl

theorem step_holds (c : Cache α) (orderly : c.Orderly) (s : Step α) (w : Write α) :
    (∃ e ∈ (c.step s).entries, e.written = w) ↔
      s = .store w ∨ ((∃ e ∈ c.entries, e.written = w) ∧ ¬ s.Ends c w) := by
  cases s with
  | store later =>
      constructor
      · rintro ⟨e, mem, rfl⟩
        rcases (store_mem orderly _ _ _ _ e).1 mem with rfl | ⟨old, apart, stays⟩
        · exact .inl rfl
        · exact .inr ⟨⟨e, old, rfl⟩, fun ends => ends.elim apart stays⟩
      · rintro (same | ⟨⟨e, old, rfl⟩, stays⟩)
        · cases same
          exact ⟨_, (store_mem orderly _ _ _ _ _).2 (.inl rfl), rfl⟩
        · exact ⟨e, (store_mem orderly _ _ _ _ e).2 (.inr ⟨old, not_or.1 stays⟩), rfl⟩
  | look key now =>
      constructor
      · rintro ⟨e, mem, rfl⟩
        obtain ⟨old, stays⟩ := (c.lookup_mem_iff orderly.filed now key e).1 mem
        rw [is_expired_iff] at stays
        exact .inr ⟨⟨e, old, rfl⟩, stays⟩
      · rintro (bad | ⟨⟨e, old, rfl⟩, stays⟩)
        · cases bad
        · refine ⟨e, (c.lookup_mem_iff orderly.filed now key e).2 ⟨old, ?_⟩, rfl⟩
          rw [is_expired_iff]
          exact stays
  | remove covers =>
      constructor
      · rintro ⟨e, mem, rfl⟩
        obtain ⟨old, stays⟩ := (c.invalidate_mem covers e).1 mem
        exact .inr ⟨⟨e, old, rfl⟩, stays⟩
      · rintro (bad | ⟨⟨e, old, rfl⟩, stays⟩)
        · cases bad
        · exact ⟨e, (c.invalidate_mem covers e).2 ⟨old, stays⟩, rfl⟩
  | prune now =>
      constructor
      · rintro ⟨e, mem, rfl⟩
        obtain ⟨old, stays⟩ := (c.prune_mem now e).1 mem
        rw [is_expired_iff] at stays
        exact .inr ⟨⟨e, old, rfl⟩, stays⟩
      · rintro (bad | ⟨⟨e, old, rfl⟩, stays⟩)
        · cases bad
        · refine ⟨e, (c.prune_mem now e).2 ⟨old, ?_⟩, rfl⟩
          rw [is_expired_iff]
          exact stays

theorem Agrees.step {c : Cache α} {log : Log α} (agrees : Agrees c log) (s : Step α) :
    Agrees (c.step s) (log ++ [(c, s)]) where
  orderly := step_orderly c agrees.orderly s
  holds w := by rw [step_holds c agrees.orderly, agrees.holds, stands_append]

def steps (c : Cache α) (taken : List (Step α)) : Cache α :=
  taken.foldl step c

def logOf (c : Cache α) : List (Step α) → Log α
  | [] => []
  | s :: rest => (c, s) :: logOf (c.step s) rest

theorem Agrees.steps {c : Cache α} {log : Log α} (agrees : Agrees c log) (taken : List (Step α)) :
    Agrees (c.steps taken) (log ++ c.logOf taken) := by
  induction taken generalizing c log with
  | nil =>
      rw [logOf, List.append_nil]
      exact agrees
  | cons s rest ih =>
      have next := ih (agrees.step s)
      rwa [List.append_assoc] at next

theorem step_settings (c : Cache α) (s : Step α) : (c.step s).settings = c.settings := by
  cases s with
  | store w => exact (store_frame _ _ _ _).1
  | look key now => exact (c.lookup_kept now key).2.1
  | remove covers => rfl
  | prune now => rfl

theorem steps_settings (c : Cache α) (taken : List (Step α)) : (c.steps taken).settings = c.settings := by
  induction taken generalizing c with
  | nil => rfl
  | cons s rest ih => exact (ih _).trans (c.step_settings s)

structure Matches (c d : Cache α) : Prop where
  entries : c.entries = d.entries
  settings : c.settings = d.settings
  counter : c.nextSequence = d.nextSequence

theorem Matches.agrees {c d : Cache α} (same : Matches c d) {log : Log α} (agrees : Agrees d log) : Agrees c log := by
  obtain ⟨⟨filed, bounded, counted⟩, holds⟩ := agrees
  refine ⟨⟨same.entries ▸ filed, ?_, ?_⟩, same.entries ▸ holds⟩
  · rw [size, capacity, same.entries, same.settings]
    exact bounded
  · rw [same.entries, same.counter]
    exact counted

inductive Operation (α : Type) where
  | act (a : Act α)
  | get (key : String)
  | has (key : String)
  | delete (key : String)
  | invalidateNamespace (name : String)
  | prune
  | importText (text : String)

def entriesIn (decode : Json → Decoded α) (text : String) : List (Entry α) :=
  match Json.read? text with
  | some (.array items) => items.filterMap fun item => (Entry.decode decode item).toOption
  | _ => []

def moveSteps (now : Nat) (c : Cache α) (caller : Caller α) : Move α → List (Step α)
  | .look =>
      match caller.stage with
      | .ready => [.look caller.key now]
      | _ => []
  | .enter =>
      match caller.stage with
      | .waiting cell =>
          match c.cells[cell]? with
          | some { value := none, owner := none } => [.look caller.key now]
          | _ => []
      | _ => []
  | .finish (.ok value) =>
      match caller.stage with
      | .running _ => [.store ⟨caller.key, value, now, caller.ttl.getD c.settings.defaultTtl⟩]
      | _ => []
  | _ => []

namespace Crowd

def perform (decode : Json → Decoded α) (now : Nat) (s : Crowd α) : Operation α → Crowd α
  | .act a => s.act now a
  | .get key => { s with cache := (s.cache.get now key).2 }
  | .has key => { s with cache := (s.cache.has now key).2 }
  | .delete key => { s with cache := (s.cache.delete key).2 }
  | .invalidateNamespace name => { s with cache := (s.cache.invalidateNamespace name).2 }
  | .prune => { s with cache := (s.cache.prune now).2 }
  | .importText text => { s with cache := (s.cache.importText decode now text).2 }

def stepsOf (decode : Json → Decoded α) (now : Nat) (s : Crowd α) : Operation α → List (Step α)
  | .act (.move id m) => moveSteps now s.cache (s.callers id) m
  | .act (.set key value ttl) => [.store ⟨key, value, now, ttl.getD s.cache.settings.defaultTtl⟩]
  | .act (.remove covers) => [.remove covers]
  | .act .clear => [.remove fun _ => true]
  | .get key => [.look key now]
  | .has key => [.look key now]
  | .delete key => [.remove (· == key)]
  | .invalidateNamespace name => [.remove (inNamespace name)]
  | .prune => [.prune now]
  | .importText text =>
      ((entriesIn decode text).filter fun e => !e.isExpired now).map fun e => .store e.written

def after (decode : Json → Decoded α) : List (Nat × Operation α) → Crowd α → Crowd α
  | [], s => s
  | (now, o) :: rest, s => after decode rest (s.perform decode now o)

def log (decode : Json → Decoded α) : List (Nat × Operation α) → Crowd α → Log α
  | [], _ => []
  | (now, o) :: rest, s => s.cache.logOf (s.stepsOf decode now o) ++ log decode rest (s.perform decode now o)

end Crowd

theorem get_matches (c : Cache α) (now : Nat) (key : String) :
    Matches (c.get now key).2 (c.step (.look key now)) := by
  rw [step]
  unfold get
  cases answered : c.lookup now key with
  | mk found next => cases found <;> exact ⟨rfl, rfl, rfl⟩

theorem delete_matches (c : Cache α) (key : String) :
    Matches (c.delete key).2 (c.step (.remove (· == key))) :=
  ⟨rfl, rfl, rfl⟩

theorem clear_matches (c : Cache α) : Matches c.clear (c.step (.remove fun _ => true)) :=
  ⟨by simp [clear, step, invalidate], rfl, rfl⟩

theorem restore_steps (now : Nat) (found : List (Entry α)) (count : Nat) (c : Cache α) :
    found.foldl (restore now) (count, c) =
      (count + (found.filter fun e => !e.isExpired now).length,
        c.steps ((found.filter fun e => !e.isExpired now).map fun e => .store e.written)) := by
  induction found generalizing count c with
  | nil => rfl
  | cons e rest ih =>
      rw [List.foldl_cons, restore]
      by_cases expired : e.isExpired now = true
      · rw [if_pos expired, ih, List.filter_cons_of_neg (by simp [expired])]
      · rw [if_neg expired, ih, List.filter_cons_of_pos (by simp [expired]), List.length_cons, List.map_cons]
        refine Prod.ext ?_ rfl
        show count + 1 + _ = count + (_ + 1)
        omega

theorem import_text_steps (c : Cache α) (decode : Json → Decoded α) (now : Nat) (text : String) :
    c.importText decode now text =
      (((entriesIn decode text).filter fun e => !e.isExpired now).length,
        c.steps (((entriesIn decode text).filter fun e => !e.isExpired now).map fun e => .store e.written)) := by
  have restored := restore_steps now (entriesIn decode text) 0 c
  rw [Nat.zero_add] at restored
  rw [← restored]
  unfold importText entriesIn
  cases Json.read? text with
  | none => rfl
  | some j => cases j <;> rfl

theorem move_matches (now id : Nat) (m : Move α) (c : Cache α) (caller : Caller α) :
    Matches (move now id m c caller).1 (c.steps (moveSteps now c caller m)) := by
  have same : Matches c c := ⟨rfl, rfl, rfl⟩
  obtain ⟨key, ttl, stage⟩ := caller
  cases m with
  | look =>
      cases stage with
      | ready =>
          have looked := c.get_matches now key
          unfold move
          cases answered : c.get now key with
          | mk found next =>
              rw [answered] at looked
              cases found <;> exact looked
      | _ => exact same
  | join =>
      cases stage with
      | missed =>
          show Matches (c.joinCell key).2 c
          rcases c.join_cell_cases key with ⟨cell, -, joined⟩ | ⟨-, joined⟩
          · rw [joined]
            exact same
          · rw [joined]
            exact ⟨rfl, rfl, rfl⟩
      | _ => exact same
  | enter =>
      cases stage with
      | waiting cell =>
          simp only [move, moveSteps, enterCell]
          cases there : c.cells[cell]? with
          | none => exact same
          | some content =>
              obtain ⟨value, owner⟩ := content
              cases value with
              | some value => exact same
              | none =>
                  cases owner with
                  | some owner => exact same
                  | none =>
                      cases looked : c.lookup now key with
                      | mk found next =>
                          have whole : next = c.step (.look key now) := (congrArg Prod.snd looked).symm
                          subst whole
                          cases found <;> exact ⟨rfl, rfl, rfl⟩
      | _ => exact same
  | finish answer =>
      cases answer with
      | error e => cases stage <;> exact ⟨rfl, rfl, rfl⟩
      | ok value => cases stage <;> exact ⟨rfl, rfl, rfl⟩
  | leave =>
      cases stage with
      | leaving cell answer =>
          show Matches (c.release key cell) c
          unfold release
          split <;> exact ⟨rfl, rfl, rfl⟩
      | _ => exact same

namespace Crowd

theorem perform_matches (decode : Json → Decoded α) (now : Nat) (s : Crowd α) (o : Operation α) :
    Matches (s.perform decode now o).cache (s.cache.steps (s.stepsOf decode now o)) := by
  cases o with
  | act a =>
      cases a with
      | move id m => exact move_matches now id m s.cache (s.callers id)
      | set key value ttl => exact ⟨rfl, rfl, rfl⟩
      | remove covers => exact ⟨rfl, rfl, rfl⟩
      | clear => exact s.cache.clear_matches
  | get key => exact s.cache.get_matches now key
  | has key => exact ⟨rfl, rfl, rfl⟩
  | delete key => exact s.cache.delete_matches key
  | invalidateNamespace name => exact ⟨rfl, rfl, rfl⟩
  | prune => exact ⟨rfl, rfl, rfl⟩
  | importText text =>
      rw [perform, import_text_steps]
      exact ⟨rfl, rfl, rfl⟩

theorem after_agrees (decode : Json → Decoded α) (history : List (Nat × Operation α)) (s : Crowd α) (log : Log α)
    (agrees : Agrees s.cache log) : Agrees (s.after decode history).cache (log ++ s.log decode history) := by
  induction history generalizing s log with
  | nil =>
      rw [Crowd.log, List.append_nil]
      exact agrees
  | cons event rest ih =>
      have next := ih (s.perform decode event.1 event.2) _
        ((s.perform_matches decode event.1 event.2).agrees (agrees.steps (s.stepsOf decode event.1 event.2)))
      rwa [List.append_assoc] at next

theorem after_settings (decode : Json → Decoded α) (history : List (Nat × Operation α)) (s : Crowd α) :
    (s.after decode history).cache.settings = s.cache.settings := by
  induction history generalizing s with
  | nil => rfl
  | cons event rest ih =>
      refine (ih _).trans ((s.perform_matches decode event.1 event.2).settings.trans ?_)
      exact s.cache.steps_settings _

end Crowd

def Reached (decode : Json → Decoded α) (c : Cache α) : Prop :=
  ∃ settings requests history, ((Crowd.start { settings } requests).after decode history).cache = c

theorem Reached.orderly {decode : Json → Decoded α} {c : Cache α} (reached : Reached decode c) : c.Orderly := by
  obtain ⟨settings, requests, history, rfl⟩ := reached
  exact (Crowd.after_agrees decode history _ [] (Agrees.start settings)).orderly

theorem found_while_standing (settings : CacheSettings) (requests : Nat → String × Option Nat)
    (decode : Json → Decoded α) (history : List (Nat × Operation α)) :
    let start := Crowd.start ({ settings } : Cache α) requests
    let c := (start.after decode history).cache
    c.size ≤ max 1 settings.maxEntries ∧
      (∀ key e, c.find? key = some e ↔ e ∈ c.entries ∧ e.key = key) ∧
      (c.entries.map Entry.sequence).Nodup ∧ (∀ e ∈ c.entries, e.sequence < c.nextSequence) ∧
      ∀ key now value, (c.get now key).1 = some value ↔
        ∃ w : Write α, w.key = key ∧ w.value = value ∧ now - w.timestamp ≤ w.ttl ∧
          Stands (start.log decode history) w := by
  intro start c
  have agrees : Agrees c (start.log decode history) :=
    Crowd.after_agrees decode history start [] (Agrees.start settings)
  obtain ⟨⟨filed, bounded, counted⟩, holds⟩ := agrees
  have kept : c.settings = settings := Crowd.after_settings decode history start
  refine ⟨?_, c.find_iff filed, filed.numbered, counted, fun key now value => ?_⟩
  · rw [Nat.max_comm, ← kept]
    exact bounded
  · rw [c.get_iff filed]
    constructor
    · rintro ⟨e, mem, rfl, rfl, live⟩
      rw [is_expired_iff] at live
      exact ⟨e.written, rfl, rfl, Nat.not_lt.1 live, (holds _).1 ⟨e, mem, rfl⟩⟩
    · rintro ⟨w, rfl, rfl, live, stands⟩
      obtain ⟨e, mem, rfl⟩ := (holds w).2 stands
      refine ⟨e, mem, rfl, rfl, ?_⟩
      rw [is_expired_iff]
      exact Nat.not_lt.2 live

end ArchiveSearch.Cache
