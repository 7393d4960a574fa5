import Mathlib.Data.List.Induction
import ArchiveSearch.Proofs.Cache.Entries
import ArchiveSearch.Proofs.Cache.Removal

namespace ArchiveSearch.Cache

set_option autoImplicit false

variable {α : Type}

def Crowd.Given (s : Crowd α) (events : List (Nat × Act α)) (key : String) (value : α) : Prop :=
  (∃ e ∈ s.cache.entries, e.key = key ∧ e.value = value) ∨
    ∃ before now a after, events = before ++ (now, a) :: after ∧ (s.run before).Puts key value a

def Crowd.Fails (s : Crowd α) (events : List (Nat × Act α)) (id : Nat) (e : SearchError) : Prop :=
  ∃ before now after, events = before ++ (now, .move id (.finish (.error e))) :: after ∧
    ((s.run before).callers id).stage.isRunning = true

namespace Atomic

theorem clean_from_start (c : Cache α) (quiet : c.Quiet) (requests : Nat → String × Option Nat)
    (events : List (Nat × Act α)) (key : String) (kept : α → Prop)
    (begun : ∀ e ∈ c.entries, e.key = key → kept e.value)
    (stores : ∀ value, (Crowd.start c requests).Stored events key value → kept value) :
    Clean kept kept key (fun _ => True) ((Crowd.start c requests).run events) := by
  have empty : c.slots = [] := quiet
  refine Clean.run (linked_start c quiet requests) (fun _ => id) ⟨begun, ?_, ?_, ?_⟩ events stores <;>
    simp [Crowd.start, empty, Stage.value?]

end Atomic

theorem clean_of_given (c : Cache α) (quiet : c.Quiet) (requests : Nat → String × Option Nat)
    (events : List (Nat × Act α)) (key : String) : Atomic.Clean ((Crowd.start c requests).Given events key)
      ((Crowd.start c requests).Given events key) key (fun _ => True)
      (Atomic.Crowd.of ((Crowd.start c requests).run events)) := by
  obtain ⟨steps, ran, brought⟩ := Atomic.run_composed (Crowd.start c requests) events
  rw [← ran]
  exact Atomic.clean_from_start c quiet requests steps key _ (fun e mem named => .inl ⟨e, mem, named, rfl⟩)
    fun value stored => .inr (brought key value stored)

theorem entry_given (c : Cache α) (quiet : c.Quiet) (requests : Nat → String × Option Nat)
    (events : List (Nat × Act α)) (e : Entry α) (mem : e ∈ ((Crowd.start c requests).run events).cache.entries) :
    (Crowd.start c requests).Given events e.key e.value :=
  (clean_of_given c quiet requests events e.key).entries e mem rfl

theorem value_given (c : Cache α) (quiet : c.Quiet) (requests : Nat → String × Option Nat)
    (events : List (Nat × Act α)) (id : Nat) (value : α)
    (done : (((Crowd.start c requests).run events).callers id).stage = .done (.ok value)) :
    (Crowd.start c requests).Given events (requests id).1 value := by
  have asked := (Crowd.start c requests).run_key events id
  refine (clean_of_given c quiet requests events _).told id value trivial asked ?_
  simp only [Atomic.Crowd.of, done]
  rfl

theorem has_get (c : Cache α) (now : Nat) (key : String) (there : (c.has now key).1 = true) :
    ∃ value, (c.get now key).1 = some value := by
  have found : (c.lookup now key).1.isSome = true := there
  obtain ⟨value, found⟩ := Option.isSome_iff_exists.1 found
  refine ⟨value, ?_⟩
  unfold Cache.get
  simp only [found]

namespace Atomic

inductive Removal (α : Type) where
  | single (key : String)
  | covering (covers : String → Bool)
  | everything (between : List (Nat × Act α))

namespace Removal

def events : Removal α → List (Nat × Act α)
  | .single key => [(0, .delete key)]
  | .covering covers => [(0, .remove covers)]
  | .everything between => (0, .empty) :: between ++ [(0, .forget)]

def removes (key : String) : Removal α → Prop
  | .single name => name = key
  | .covering covers => covers key = true
  | .everything _ => True

def keepsSlots : Removal α → Prop
  | .everything _ => False
  | _ => True

end Removal

def Crowd.Carried (s : Crowd α) (key : String) (value : α) : Prop :=
  ∃ id cell, (s.callers id).key = key ∧
    ((s.callers id).stage = .filling cell value ∨ (s.callers id).stage = .leaving cell (.ok value))

/-- Whoever asks for a key after its removal finds what was stored since the entries were removed, and is told of that
or, where the slots were kept, of what a caller of the key had in hand at the removal. -/
structure Crowd.RenewedOnly (s : Crowd α) (removal : Removal α) (after : List (Nat × Act α)) (key : String) : Prop where
  got : ∀ now value, (((s.run removal.events).run after).cache.get now key).1 = some value →
    s.Stored (removal.events ++ after) key value
  had : ∀ now, (((s.run removal.events).run after).cache.has now key).1 = true →
    ∃ value, (((s.run removal.events).run after).cache.get now key).1 = some value ∧
      s.Stored (removal.events ++ after) key value
  computed : ∀ id value, (s.callers id).key = key → ((s.run removal.events).callers id).stage = .ready →
    (((s.run removal.events).run after).callers id).stage = .done (.ok value) →
      s.Stored (removal.events ++ after) key value ∨ removal.keepsSlots ∧ s.Carried key value

theorem clean_when_ready (kept given : α → Prop) (key : String) (s : Crowd α)
    (entries : ∀ e ∈ s.cache.entries, e.key = key → kept e.value)
    (slot : ∀ cell, s.cache.slots.lookup key = some cell → Vouched given s cell) :
    Clean kept given key (fun id => (s.callers id).stage = .ready) s := by
  refine ⟨entries, slot, fun id cell ready _ waits => ?_, fun id value ready _ has => ?_⟩
  · rw [ready] at waits
    cases waits
  · rw [ready] at has
    cases has

theorem vouched_carried {keyOfCell : Nat → String} {s : Crowd α} (linked : Linked keyOfCell s) (backed : Backed s)
    (key : String) (cell : Nat) (there : s.cache.slots.lookup key = some cell) : Vouched (s.Carried key) s cell := by
  have serves := (linked.slots key cell there).2
  refine ⟨fun content value inside full => ?_, fun id value fills => ?_⟩
  · obtain ⟨id, left⟩ := backed key cell content value there inside full
    have mine := ((linked.fits id).held cell (by rw [left]; rfl)).2
    exact ⟨id, cell, mine.symm.trans serves, .inr left⟩
  · have mine := ((linked.fits id).held cell (by rw [fills]; rfl)).2
    exact ⟨id, cell, mine.symm.trans serves, .inl fills⟩

theorem clean_when_removed {keyOfCell : Nat → String} {s : Crowd α} (linked : Linked keyOfCell s) (backed : Backed s)
    (key : String) (kept : α → Prop) (next : Cache α) (removed : ∀ e ∈ next.entries, e.key ≠ key)
    (slots : next.slots = s.cache.slots) (cells : next.cells = s.cache.cells) :
    Clean kept (fun value => kept value ∨ True ∧ s.Carried key value) key (fun id => (s.callers id).stage = .ready)
      { s with cache := next } := by
  refine clean_when_ready _ _ key { s with cache := next } (fun e mem named => absurd named (removed e mem))
    fun cell there => ?_
  rw [slots] at there
  have vouched := vouched_carried linked backed key cell there
  refine ⟨fun content value inside full => ?_, fun id value fills => .inr ⟨trivial, vouched.filling id value fills⟩⟩
  rw [cells] at inside
  exact .inr ⟨trivial, vouched.filled content value inside full⟩

theorem clean_after_removal {keyOfCell : Nat → String} {s : Crowd α} (linked : Linked keyOfCell s) (backed : Backed s)
    (removal : Removal α) (key : String) (removes : removal.removes key) (kept : α → Prop)
    (stores : ∀ value, s.Stored removal.events key value → kept value) :
    Clean kept (fun value => kept value ∨ removal.keepsSlots ∧ s.Carried key value) key
      (fun id => ((s.run removal.events).callers id).stage = .ready) (s.run removal.events) := by
  cases removal with
  | single name =>
    refine clean_when_removed linked backed key kept _ (fun e mem named => ?_) rfl rfl
    exact ((mem_without _ _ _).1 mem).2 (named.trans removes.symm)
  | covering covers =>
    refine clean_when_removed linked backed key kept _ (fun e mem named => ?_) rfl rfl
    exact ((s.cache.invalidate_mem covers e).1 mem).2 (named ▸ removes)
  | everything between =>
    -- Until the slots are forgotten only the entries are known.
    have emptied : Clean kept (fun _ => True) key (fun _ => False) (s.act 0 .empty) :=
      ⟨fun _ mem => (by cases mem), fun _ _ => ⟨fun _ _ _ _ => trivial, fun _ _ _ => trivial⟩,
        fun _ _ late => late.elim, fun _ _ late => late.elim⟩
    obtain ⟨keyOfCell', linked'⟩ := linked.act 0 .empty
    have meanwhile := emptied.run linked' (fun _ _ => trivial) between fun value stored => stores value
      ((s.stored_cons _ _ key value).2 (.inr ((Crowd.stored_append _ _ _ key value).2 (.inl stored))))
    have whole : s.run (Removal.everything between).events = ((s.act 0 .empty).run between).act 0 .forget :=
      (s.act 0 .empty).run_append between [(0, .forget)]
    rw [whole]
    exact clean_when_ready _ _ key _ meanwhile.entries fun cell there => by cases there

theorem renewed_only {keyOfCell : Nat → String} {s : Crowd α} (linked : Linked keyOfCell s) (backed : Backed s)
    (removal : Removal α) (key : String) (removes : removal.removes key) (after : List (Nat × Act α)) :
    s.RenewedOnly removal after key := by
  obtain ⟨keyOfCell', linked'⟩ := linked.run removal.events
  have stored := s.stored_append removal.events after key
  have removed := clean_after_removal linked backed removal key removes (s.Stored (removal.events ++ after) key)
    fun value first => (stored value).2 (.inl first)
  have clean := removed.run linked' (fun _ => .inl) after fun value later => (stored value).2 (.inr later)
  have got : ∀ now value, (((s.run removal.events).run after).cache.get now key).1 = some value →
      s.Stored (removal.events ++ after) key value := by
    intro now value found
    obtain ⟨e, mem, named, rfl⟩ := get_found _ now key value found
    exact clean.entries e mem named
  refine ⟨got, fun now there => ?_, fun id value asked ready done => ?_⟩
  · obtain ⟨value, found⟩ := has_get _ now key there
    exact ⟨value, found, got now value found⟩
  · refine clean.told id value ready ?_ (by rw [done]; rfl)
    rw [Crowd.run_key, Crowd.run_key]
    exact asked

end Atomic

def Stage.outcome? : Stage α → Option (Outcome α)
  | .leaving _ answer => some answer
  | .done answer => some answer
  | _ => none

theorem Moved.failed {now id : Nat} {c next : Cache α} {caller : Caller α} {m : Move α} {stage : Stage α}
    (moved : Moved now id c caller m next stage) (e : SearchError) (ends : stage.outcome? = some (.error e)) :
    caller.stage.outcome? = some (.error e) ∨ m = .finish (.error e) ∧ caller.stage.isRunning = true := by
  cases moved with
  | idle => exact .inl ends
  | leave cell answer leaving =>
    rw [leaving]
    exact .inl ends
  | fail cell e' running =>
    cases ends
    rw [running]
    exact .inr ⟨rfl, rfl⟩
  | _ => cases ends

theorem act_failed (s : Crowd α) (now : Nat) (a : Act α) (id : Nat) (e : SearchError)
    (ends : ((s.act now a).callers id).stage.outcome? = some (.error e)) :
    (s.callers id).stage.outcome? = some (.error e) ∨
      a = .move id (.finish (.error e)) ∧ (s.callers id).stage.isRunning = true := by
  cases a with
  | move mover m =>
    simp only [Crowd.act] at ends
    by_cases same : id = mover
    · subst same
      rw [Function.update_self] at ends
      obtain ⟨moved, -⟩ := move_moved now id m s.cache (s.callers id)
      rcases moved.failed e ends with before | ⟨rfl, running⟩
      · exact .inl before
      · exact .inr ⟨rfl, running⟩
    · rw [Function.update_of_ne same] at ends
      exact .inl ends
  | set key value ttl => exact .inl ends
  | remove covers => exact .inl ends
  | clear => exact .inl ends

theorem error_own (c : Cache α) (requests : Nat → String × Option Nat) (events : List (Nat × Act α)) (id : Nat)
    (e : SearchError)
    (ends : (((Crowd.start c requests).run events).callers id).stage.outcome? = some (.error e)) :
    (Crowd.start c requests).Fails events id e := by
  induction events using List.reverseRecOn with
  | nil => cases ends
  | append_singleton events event ih =>
    rw [Crowd.run_append] at ends
    rcases act_failed _ event.1 event.2 id e ends with before | ⟨act, running⟩
    · obtain ⟨first, now, later, rfl, running⟩ := ih before
      exact ⟨first, now, later ++ [event], by simp, running⟩
    · exact ⟨events, event.1, [], by rw [← act], running⟩

theorem failure_entries (s : Crowd α) (now id : Nat) (e : SearchError) :
    (s.act now (.move id (.finish (.error e)))).cache.entries = s.cache.entries := by
  obtain ⟨moved, -⟩ := move_moved now id (.finish (.error e)) s.cache (s.callers id)
  simp only [Crowd.act]
  generalize (Cache.move now id (.finish (.error e)) s.cache (s.callers id)).1 = next at moved ⊢
  generalize (Cache.move now id (.finish (.error e)) s.cache (s.callers id)).2.stage = stage at moved
  cases moved with
  | idle => rfl
  | fail => rfl

end ArchiveSearch.Cache
