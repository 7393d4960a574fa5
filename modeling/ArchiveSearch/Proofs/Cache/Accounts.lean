import ArchiveSearch.Proofs.Cache.Recency

/- The books of a cache. An entry that comes in under a new key is still there, or it left in one of five ways, each of
   which is counted once: it was driven out, it was seen to have expired, or it was deleted, invalidated or cleared on
   demand. Every question is a hit or a miss. -/
namespace ArchiveSearch.Cache

set_option autoImplicit false

variable {α : Type}

def Step.isNew (c : Cache α) : Step α → Bool
  | .store w => (c.find? w.key).isNone
  | _ => false

def insertions (log : Log α) : Nat :=
  log.countP fun taken => taken.2.isNew taken.1

def Caller.asks (caller : Caller α) : Move α → Nat
  | .look =>
      match caller.stage with
      | .ready => 1
      | _ => 0
  | _ => 0

namespace Crowd

def deleted (s : Crowd α) : Operation α → Nat
  | .delete key => if (s.cache.delete key).1 then 1 else 0
  | _ => 0

def invalidated (s : Crowd α) : Operation α → Nat
  | .act (.remove covers) => (s.cache.invalidate covers).1
  | .invalidateNamespace name => (s.cache.invalidateNamespace name).1
  | _ => 0

def cleared (s : Crowd α) : Operation α → Nat
  | .act .clear => s.cache.size
  | _ => 0

def asked (s : Crowd α) : Operation α → Nat
  | .get _ => 1
  | .act (.move id m) => (s.callers id).asks m
  | _ => 0

def total (count : Crowd α → Operation α → Nat) (decode : Json → Decoded α) :
    List (Nat × Operation α) → Crowd α → Nat
  | [], _ => 0
  | (now, o) :: rest, s => count s o + total count decode rest (s.perform decode now o)

end Crowd

def admitted (c : Cache α) : Nat :=
  c.size + c.counters.evictions + c.counters.expirations

def questions (c : Cache α) : Nat :=
  c.counters.hits + c.counters.misses

section Functions

variable (c : Cache α)

theorem lookup_booked (filed : Filed c.entries) (now : Nat) (key : String) :
    (c.lookup now key).2.admitted = c.admitted ∧ (c.lookup now key).2.questions = c.questions := by
  unfold lookup
  cases found : c.find? key with
  | none => exact ⟨rfl, rfl⟩
  | some e =>
      dsimp only
      by_cases expired : e.isExpired now = true
      · obtain ⟨there, rfl⟩ := (c.find_iff filed key e).1 found
        have one := without_length c.entries filed e there
        rw [if_pos expired]
        refine ⟨?_, rfl⟩
        simp only [admitted, size]
        omega
      · rw [if_neg expired]
        exact ⟨rfl, rfl⟩

theorem get_booked (filed : Filed c.entries) (now : Nat) (key : String) :
    (c.get now key).2.admitted = c.admitted ∧ (c.get now key).2.questions = c.questions + 1 := by
  obtain ⟨entries, before⟩ := c.lookup_booked filed now key
  unfold get
  cases answered : c.lookup now key with
  | mk found next =>
      rw [answered] at entries before
      cases found with
      | none => exact ⟨entries, congrArg (· + 1) before⟩
      | some value =>
          refine ⟨entries, Eq.trans ?_ (congrArg (· + 1) before)⟩
          simp only [questions]
          omega

theorem store_booked (orderly : c.Orderly) (w : Write α) :
    (c.step (.store w)).admitted = c.admitted + (if (Step.store w).isNew c then 1 else 0) ∧
      (c.step (.store w)).questions = c.questions := by
  have others : (c.step (.store w)).counters.expirations = c.counters.expirations ∧
      (c.step (.store w)).questions = c.questions := by
    unfold step store
    simp only
    split <;> exact ⟨rfl, rfl⟩
  refine ⟨?_, others.2⟩
  have fresh : (Step.store w).isNew c = !(c.find? w.key).isSome := (Option.not_isSome _).symm
  have counted := c.put_counters orderly ⟨w.timestamp, w.key, w.value, some w.ttl⟩
  have put_store : c.put ⟨w.timestamp, w.key, w.value, some w.ttl⟩ = c.step (.store w) := rfl
  rw [put_store] at counted
  simp only [admitted, others.1]
  by_cases known : (c.find? w.key).isSome = true
  · have old : ¬ (Step.store w).isNew c = true := by rw [fresh, known]; decide
    rw [if_pos known] at counted
    rw [if_neg old]
    omega
  · have new : (Step.store w).isNew c = true := by rw [fresh, Bool.eq_false_iff.2 known]; rfl
    rw [if_neg known] at counted
    rw [if_pos new]
    omega

theorem delete_booked (filed : Filed c.entries) (key : String) :
    (c.delete key).2.admitted + (if (c.delete key).1 then 1 else 0) = c.admitted := by
  unfold delete
  cases found : c.find? key with
  | none =>
      have whole : without key c.entries = c.entries :=
        List.filter_eq_self.2 fun e mem => bne_iff_ne.2 ((c.find_none_iff key).1 found e mem)
      rw [Option.isSome_none, if_neg Bool.false_ne_true, whole]
      rfl
  | some e =>
      obtain ⟨there, rfl⟩ := (c.find_iff filed key e).1 found
      have one := without_length c.entries filed e there
      rw [Option.isSome_some, if_pos rfl]
      simp only [admitted, size]
      omega

theorem invalidate_booked (covers : String → Bool) :
    (c.invalidate covers).2.admitted + (c.invalidate covers).1 = c.admitted := by
  have counted := c.invalidate_count covers
  have evictions : (c.invalidate covers).2.counters = c.counters := rfl
  simp only [admitted, evictions]
  omega

theorem prune_booked (now : Nat) : (c.prune now).2.admitted = c.admitted := by
  have less : (c.entries.filter fun e => !e.isExpired now).length ≤ c.entries.length := List.length_filter_le _ _
  simp only [prune, admitted, size]
  omega

theorem clear_booked : c.clear.admitted + c.size = c.admitted := by
  have nothing : c.clear.size = 0 := rfl
  have counters : c.clear.counters = c.counters := rfl
  simp only [admitted, nothing, counters]
  omega

end Functions

theorem stores_booked (c : Cache α) (orderly : c.Orderly) (writes : List (Write α)) :
    (c.steps (writes.map .store)).admitted = c.admitted + insertions (c.logOf (writes.map .store)) ∧
      (c.steps (writes.map .store)).questions = c.questions := by
  induction writes generalizing c with
  | nil => exact ⟨rfl, rfl⟩
  | cons w rest ih =>
      obtain ⟨here, same⟩ := c.store_booked orderly w
      obtain ⟨later, still⟩ := ih (c.step (.store w)) (step_orderly c orderly _)
      have counted : insertions (c.logOf ((w :: rest).map .store)) =
          insertions ((c.step (.store w)).logOf (rest.map .store)) + if (Step.store w).isNew c then 1 else 0 := by
        rw [List.map_cons, logOf, insertions, List.countP_cons]
        rfl
      refine ⟨?_, still.trans same⟩
      rw [counted]
      refine later.trans ?_
      rw [here]
      omega

theorem move_booked (c : Cache α) (orderly : c.Orderly) (now id : Nat) (m : Move α) (caller : Caller α) :
    (move now id m c caller).1.admitted = c.admitted + insertions (c.logOf (moveSteps now c caller m)) ∧
      (move now id m c caller).1.questions = c.questions + caller.asks m := by
  obtain ⟨key, ttl, stage⟩ := caller
  cases m with
  | look =>
      cases stage with
      | ready =>
          have booked := c.get_booked orderly.filed now key
          unfold move
          cases answered : c.get now key with
          | mk found next =>
              rw [answered] at booked
              cases found <;> exact booked
      | _ => exact ⟨rfl, rfl⟩
  | join =>
      cases stage with
      | missed =>
          show (c.joinCell key).2.admitted = c.admitted ∧ (c.joinCell key).2.questions = c.questions
          rcases c.join_cell_cases key with ⟨cell, -, joined⟩ | ⟨-, joined⟩ <;> rw [joined] <;> exact ⟨rfl, rfl⟩
      | _ => exact ⟨rfl, rfl⟩
  | enter =>
      cases stage with
      | waiting cell =>
          have booked := c.lookup_booked orderly.filed now key
          simp only [move, moveSteps, enterCell]
          cases there : c.cells[cell]? with
          | none => exact ⟨rfl, rfl⟩
          | some content =>
              obtain ⟨value, owner⟩ := content
              cases value with
              | some value => exact ⟨rfl, rfl⟩
              | none =>
                  cases owner with
                  | some owner => exact ⟨rfl, rfl⟩
                  | none =>
                      cases looked : c.lookup now key with
                      | mk found next =>
                          rw [looked] at booked
                          cases found <;> exact booked
      | _ => exact ⟨rfl, rfl⟩
  | finish answer =>
      cases answer with
      | error e => cases stage <;> exact ⟨rfl, rfl⟩
      | ok value =>
          cases stage with
          | running cell =>
              exact c.stores_booked orderly [⟨key, value, now, ttl.getD c.settings.defaultTtl⟩]
          | _ => exact ⟨rfl, rfl⟩
  | leave =>
      cases stage with
      | leaving cell answer =>
          show (c.release key cell).admitted = c.admitted ∧ (c.release key cell).questions = c.questions
          unfold release
          split <;> exact ⟨rfl, rfl⟩
      | _ => exact ⟨rfl, rfl⟩

namespace Crowd

theorem perform_booked (decode : Json → Decoded α) (now : Nat) (s : Crowd α) (orderly : s.cache.Orderly)
    (o : Operation α) :
    (s.perform decode now o).cache.admitted + (s.deleted o + s.invalidated o + s.cleared o) =
        s.cache.admitted + insertions (s.cache.logOf (s.stepsOf decode now o)) ∧
      (s.perform decode now o).cache.questions = s.cache.questions + s.asked o := by
  cases o with
  | act a =>
      cases a with
      | move id m =>
          exact s.cache.move_booked orderly now id m (s.callers id)
      | set key value ttl =>
          exact s.cache.stores_booked orderly [⟨key, value, now, ttl.getD s.cache.settings.defaultTtl⟩]
      | remove covers =>
          refine ⟨?_, rfl⟩
          show _ + (0 + (s.cache.invalidate covers).1) = _
          rw [Nat.zero_add]
          exact s.cache.invalidate_booked covers
      | clear =>
          refine ⟨?_, rfl⟩
          show _ + (0 + s.cache.size) = _
          rw [Nat.zero_add]
          exact s.cache.clear_booked
  | get key => exact s.cache.get_booked orderly.filed now key
  | has key => exact s.cache.lookup_booked orderly.filed now key
  | delete key => exact ⟨s.cache.delete_booked orderly.filed key, rfl⟩
  | invalidateNamespace name =>
      refine ⟨?_, rfl⟩
      show _ + (0 + (s.cache.invalidate (inNamespace name)).1) = _
      rw [Nat.zero_add]
      exact s.cache.invalidate_booked (inNamespace name)
  | prune => exact ⟨s.cache.prune_booked now, rfl⟩
  | importText text =>
      rw [perform, import_text_steps]
      have booked := s.cache.stores_booked orderly
        (((entriesIn decode text).filter fun e => !e.isExpired now).map Entry.written)
      rw [List.map_map] at booked
      exact booked

theorem after_booked (decode : Json → Decoded α) (history : List (Nat × Operation α)) (s : Crowd α)
    (log : Log α) (agrees : Agrees s.cache log) :
    (s.after decode history).cache.admitted + (s.total deleted decode history + s.total invalidated decode history +
          s.total cleared decode history) =
        s.cache.admitted + insertions (s.log decode history) ∧
      (s.after decode history).cache.questions = s.cache.questions + s.total asked decode history := by
  induction history generalizing s log with
  | nil => exact ⟨rfl, rfl⟩
  | cons event rest ih =>
      obtain ⟨now, o⟩ := event
      obtain ⟨entries, questions⟩ := s.perform_booked decode now agrees.orderly o
      obtain ⟨later, others⟩ := ih (s.perform decode now o) _
        ((s.perform_matches decode now o).agrees (agrees.steps (s.stepsOf decode now o)))
      have counted : insertions (s.log decode ((now, o) :: rest)) =
          insertions (s.cache.logOf (s.stepsOf decode now o)) +
            insertions ((s.perform decode now o).log decode rest) := List.countP_append
      simp only [total, after, counted]
      omega

end Crowd

theorem entries_accounted_for (settings : CacheSettings) (requests : Nat → String × Option Nat)
    (decode : Json → Decoded α) (history : List (Nat × Operation α)) :
    let start := Crowd.start ({ settings } : Cache α) requests
    let c := (start.after decode history).cache
    insertions (start.log decode history) =
        c.size + c.counters.evictions + c.counters.expirations + start.total Crowd.deleted decode history +
          start.total Crowd.invalidated decode history + start.total Crowd.cleared decode history ∧
      c.counters.hits + c.counters.misses = start.total Crowd.asked decode history := by
  intro start c
  obtain ⟨entries, questions⟩ := start.after_booked decode history [] (Agrees.start settings)
  have nothing : start.cache.admitted = 0 := rfl
  have now_there : (start.after decode history).cache.admitted =
      c.size + c.counters.evictions + c.counters.expirations := rfl
  rw [nothing, now_there] at entries
  exact ⟨by omega, questions.trans (Nat.zero_add _)⟩

end ArchiveSearch.Cache
