import Mathlib.Logic.Function.Basic
import ArchiveSearch.Proofs.Cache.Alone

/- Callers of a cache whose moves come in any order, with removals and explicit values between them.

   What one move can do is said once, and what holds among the callers in every order follows from it: a
   cell is computed by one caller at a time, and serves one key. -/
namespace ArchiveSearch.Cache

set_option autoImplicit false

variable {α : Type}

structure Crowd (α : Type) where
  cache : Cache α
  callers : Nat → Caller α

inductive Act (α : Type) where
  | move (id : Nat) (m : Move α)
  | set (key : String) (value : α) (ttl : Option Nat)
  | remove (covers : String → Bool)
  | clear

namespace Crowd

def start (c : Cache α) (requests : Nat → String × Option Nat) : Crowd α :=
  { cache := c, callers := fun id => { key := (requests id).1, ttl := (requests id).2 } }

def act (now : Nat) (s : Crowd α) : Act α → Crowd α
  | .move id m =>
      { cache := (Cache.move now id m s.cache (s.callers id)).1
        callers := Function.update s.callers id (Cache.move now id m s.cache (s.callers id)).2 }
  | .set key value ttl => { s with cache := s.cache.set now key value ttl }
  | .remove covers => { s with cache := (s.cache.invalidate covers).2 }
  | .clear => { s with cache := s.cache.clear }

def Puts (s : Crowd α) (key : String) (value : α) : Act α → Prop
  | .set name given _ => name = key ∧ given = value
  | .move id (.finish (.ok given)) =>
      (s.callers id).key = key ∧ (s.callers id).stage.isRunning = true ∧ given = value
  | _ => False

def run : List (Nat × Act α) → Crowd α → Crowd α
  | [], s => s
  | (now, a) :: rest, s => run rest (s.act now a)

def Brought (s : Crowd α) (events : List (Nat × Act α)) (key : String) (value : α) : Prop :=
  ∃ before now a after, events = before ++ (now, a) :: after ∧ (s.run before).Puts key value a

theorem run_append (first second : List (Nat × Act α)) (s : Crowd α) :
    run (first ++ second) s = run second (run first s) := by
  induction first generalizing s with
  | nil => rfl
  | cons event first ih => exact ih (s.act event.1 event.2)

end Crowd

inductive Moved (now id : Nat) (c : Cache α) (caller : Caller α) : Move α → Cache α → Stage α → Prop
  | idle (m : Move α) : Moved now id c caller m c caller.stage
  | hit (value : α) (ready : caller.stage = .ready) (found : (c.get now caller.key).1 = some value) :
      Moved now id c caller .look (c.get now caller.key).2 (.done (.ok value))
  | miss (ready : caller.stage = .ready) (missing : (c.get now caller.key).1 = none) :
      Moved now id c caller .look (c.get now caller.key).2 .missed
  | join (missed : caller.stage = .missed) :
      Moved now id c caller .join (c.joinCell caller.key).2 (.waiting (c.joinCell caller.key).1)
  | share (cell : Nat) (content : Cell α) (value : α) (waiting : caller.stage = .waiting cell)
      (there : c.cells[cell]? = some content) (filled : content.value = some value) :
      Moved now id c caller .enter c (.leaving cell (.ok value))
  | find (cell : Nat) (value : α) (waiting : caller.stage = .waiting cell)
      (vacant : c.cells[cell]? = some {}) (found : (c.lookup now caller.key).1 = some value) :
      Moved now id c caller .enter ((c.lookup now caller.key).2.setCell cell { value := some value })
        (.leaving cell (.ok value))
  | begin (cell : Nat) (waiting : caller.stage = .waiting cell) (vacant : c.cells[cell]? = some {})
      (missing : (c.lookup now caller.key).1 = none) :
      Moved now id c caller .enter ((c.lookup now caller.key).2.setCell cell { owner := some id })
        (.running cell)
  | succeed (cell : Nat) (value : α) (running : caller.stage = .running cell) :
      Moved now id c caller (.finish (.ok value))
        ((c.set now caller.key value caller.ttl).setCell cell { value := some value })
        (.leaving cell (.ok value))
  | fail (cell : Nat) (e : SearchError) (running : caller.stage = .running cell) :
      Moved now id c caller (.finish (.error e)) (c.setCell cell {}) (.leaving cell (.error e))
  | leave (cell : Nat) (answer : Outcome α) (leaving : caller.stage = .leaving cell answer) :
      Moved now id c caller .leave (c.release caller.key cell) (.done answer)

theorem entered (now id : Nat) (c : Cache α) (caller : Caller α) (cell : Nat)
    (waiting : caller.stage = .waiting cell) :
    Moved now id c caller .enter (c.enterCell now id caller cell).1 (c.enterCell now id caller cell).2.stage ∧
      (c.enterCell now id caller cell).2.key = caller.key := by
  unfold enterCell
  cases there : c.cells[cell]? with
  | none => exact ⟨.idle _, rfl⟩
  | some content =>
    obtain ⟨value, owner⟩ := content
    cases value with
    | some value => exact ⟨.share cell _ value waiting there rfl, rfl⟩
    | none =>
      cases owner with
      | some owner => exact ⟨.idle _, rfl⟩
      | none =>
        cases looked : c.lookup now caller.key with
        | mk found c' =>
          have whole := congrArg Prod.snd looked
          have part := congrArg Prod.fst looked
          cases found with
          | some value =>
            refine ⟨?_, rfl⟩
            have moved : Moved now id c caller _ _ _ := .find cell value waiting there part
            rwa [whole] at moved
          | none =>
            refine ⟨?_, rfl⟩
            have moved : Moved now id c caller _ _ _ := .begin cell waiting there part
            rwa [whole] at moved

theorem move_moved (now id : Nat) (m : Move α) (c : Cache α) (caller : Caller α) :
    Moved now id c caller m (move now id m c caller).1 (move now id m c caller).2.stage ∧
      (move now id m c caller).2.key = caller.key := by
  obtain ⟨key, ttl, stage⟩ := caller
  cases m with
  | look =>
    cases stage with
    | ready =>
      unfold move
      cases answered : c.get now key with
      | mk found c' =>
        have whole := congrArg Prod.snd answered
        have part := congrArg Prod.fst answered
        dsimp only
        cases found with
        | some value =>
          have moved : Moved now id c ⟨key, ttl, .ready⟩ _ _ _ := .hit value rfl part
          simp only [whole] at moved
          exact ⟨moved, rfl⟩
        | none =>
          have moved : Moved now id c ⟨key, ttl, .ready⟩ _ _ _ := .miss rfl part
          simp only [whole] at moved
          exact ⟨moved, rfl⟩
    | _ => exact ⟨.idle _, rfl⟩
  | join =>
    cases stage with
    | missed => exact ⟨.join rfl, rfl⟩
    | _ => exact ⟨.idle _, rfl⟩
  | enter =>
    cases stage with
    | waiting cell => exact entered now id c _ cell rfl
    | _ => exact ⟨.idle _, rfl⟩
  | finish answer =>
    cases stage with
    | running cell =>
      cases answer with
      | ok value => exact ⟨.succeed cell value rfl, rfl⟩
      | error e => exact ⟨.fail cell e rfl, rfl⟩
    | _ => exact ⟨.idle _, rfl⟩
  | leave =>
    cases stage with
    | leaving cell answer => exact ⟨.leave cell answer rfl, rfl⟩
    | _ => exact ⟨.idle _, rfl⟩

theorem move_caller (now id : Nat) (m : Move α) (c : Cache α) (caller : Caller α) :
    (move now id m c caller).2 = { caller with stage := (move now id m c caller).2.stage } := by
  have kept : ∀ cell, (c.enterCell now id caller cell).2 =
      { caller with stage := (c.enterCell now id caller cell).2.stage } := by
    intro cell
    unfold enterCell
    repeat' split
    all_goals rfl
  unfold move
  split
  · split <;> rfl
  · rfl
  · exact kept _
  · next answer _ _ => cases answer <;> rfl
  · rfl
  · rfl

theorem get_cells (c : Cache α) (now : Nat) (key : String) : (c.get now key).2.cells = c.cells := by
  unfold get lookup
  cases c.find? key with
  | none => rfl
  | some e => by_cases old : e.isExpired now <;> simp [old]

theorem lookup_slots (c : Cache α) (now : Nat) (key : String) : (c.lookup now key).2.slots = c.slots := by
  unfold lookup
  cases c.find? key with
  | none => rfl
  | some e => by_cases old : e.isExpired now <;> simp [old]

theorem lookup_cells (c : Cache α) (now : Nat) (key : String) : (c.lookup now key).2.cells = c.cells := by
  unfold lookup
  cases c.find? key with
  | none => rfl
  | some e => by_cases old : e.isExpired now <;> simp [old]

theorem set_cells (c : Cache α) (now : Nat) (key : String) (value : α) (ttl : Option Nat) :
    (c.set now key value ttl).cells = c.cells := by
  have framed := congrArg Cache.cells (c.set_frame now key value ttl c.slots c.cells)
  exact framed

theorem release_cells (c : Cache α) (key : String) (cell : Nat) : (c.release key cell).cells = c.cells := by
  unfold release
  split <;> rfl

theorem lookup_without (slots : List (String × Nat)) (key other : String) :
    (slots.filter fun slot => slot.1 != key).lookup other
      = if other = key then none else slots.lookup other := by
  induction slots with
  | nil => simp
  | cons slot slots ih =>
    obtain ⟨name, cell⟩ := slot
    have head : ∀ rest : List (String × Nat), ((name, cell) :: rest).lookup other
        = if other = name then some cell else rest.lookup other := by
      intro rest
      rw [List.lookup_cons]
      by_cases here : other = name
      · simp [here]
      · simp [here, beq_eq_false_iff_ne.2 here]
    by_cases same : name = key
    · subst same
      rw [List.filter_cons_of_neg (by simp), ih, head]
      split <;> rfl
    · rw [List.filter_cons_of_pos (by simpa using same), head, head, ih]
      by_cases here : other = name
      · rw [if_pos here, if_neg (here ▸ same), if_pos here]
      · rw [if_neg here, if_neg here]

theorem release_lookup (c : Cache α) (key : String) (cell : Nat) (other : String) (cell' : Nat) :
    (c.release key cell).slots.lookup other = some cell' ↔
      c.slots.lookup other = some cell' ∧ ¬ (other = key ∧ cell' = cell) := by
  unfold release
  by_cases holds : (c.slots.lookup key == some cell) = true
  · rw [if_pos holds, lookup_without]
    have holds := beq_iff_eq.1 holds
    by_cases here : other = key
    · subst here
      rw [if_pos rfl, holds]
      simp
      exact fun same => same.symm
    · simp [here]
  · rw [if_neg holds]
    refine ⟨fun found => ⟨found, ?_⟩, And.left⟩
    rintro ⟨rfl, rfl⟩
    exact holds (beq_iff_eq.2 found)

theorem join_cell_cases (c : Cache α) (key : String) :
    (∃ cell, c.slots.lookup key = some cell ∧ c.joinCell key = (cell, c)) ∨
      (c.slots.lookup key = none ∧ c.joinCell key = (c.cells.length,
        { c with slots := c.slots ++ [(key, c.cells.length)], cells := c.cells ++ [{}] })) := by
  unfold joinCell
  cases c.slots.lookup key with
  | some cell => exact .inl ⟨cell, rfl, rfl⟩
  | none => exact .inr ⟨rfl, rfl⟩

theorem joined_lookup (slots : List (String × Nat)) (key : String) (fresh : Nat)
    (free : slots.lookup key = none) (other : String) (cell : Nat) :
    (slots ++ [(key, fresh)]).lookup other = some cell ↔
      slots.lookup other = some cell ∨ (other = key ∧ cell = fresh) := by
  rw [List.lookup_append]
  by_cases here : other = key
  · subst here
    simp [free, eq_comm]
  · have apart : (other == key) = false := beq_eq_false_iff_ne.2 here
    simp [List.lookup_cons, apart, here]

def Stage.cell? : Stage α → Option Nat
  | .waiting cell => some cell
  | .running cell => some cell
  | .leaving cell _ => some cell
  | _ => none

-- What holds of every caller in every order: its cell serves its key, and is its own while it computes.
structure Fits (keyOfCell : Nat → String) (c : Cache α) (id : Nat) (caller : Caller α) : Prop where
  held : ∀ cell, caller.stage.cell? = some cell → cell < c.cells.length ∧ keyOfCell cell = caller.key
  owned : ∀ cell, caller.stage = .running cell → c.cells[cell]? = some { owner := some id }

structure Linked (keyOfCell : Nat → String) (c : Cache α) (callers : Nat → Caller α) : Prop where
  slots : ∀ key cell, c.slots.lookup key = some cell → cell < c.cells.length ∧ keyOfCell cell = key
  fits : ∀ id, Fits keyOfCell c id (callers id)

theorem Linked.running_alone {keyOfCell : Nat → String} {c : Cache α} {callers : Nat → Caller α}
    (linked : Linked keyOfCell c callers) (id other cell : Nat)
    (running : (callers id).stage = .running cell) (running' : (callers other).stage = .running cell) :
    id = other := by
  have owner := ((linked.fits id).owned cell running).symm.trans
    ((linked.fits other).owned cell running')
  simpa using owner

theorem someone_still (holds : Caller α → Prop) (callers : Nat → Caller α) (id : Nat) (caller : Caller α)
    (someone : ∃ other, holds (callers other)) (kept : holds (callers id) → holds caller) :
    ∃ other, holds (Function.update callers id caller other) := by
  obtain ⟨other, there⟩ := someone
  refine ⟨other, ?_⟩
  by_cases same : other = id
  · subst same
    rw [Function.update_self]
    exact kept there
  · rw [Function.update_of_ne same]
    exact there

theorem Crowd.act_key (s : Crowd α) (now : Nat) (a : Act α) (id : Nat) :
    ((s.act now a).callers id).key = (s.callers id).key := by
  cases a with
  | move mover m =>
    obtain ⟨-, key⟩ := move_moved now mover m s.cache (s.callers mover)
    simp only [Crowd.act]
    by_cases same : id = mover
    · subst same
      rw [Function.update_self]
      exact key
    · rw [Function.update_of_ne same]
  | set key value ttl => rfl
  | remove covers => rfl
  | clear => rfl

theorem Crowd.run_key (s : Crowd α) (events : List (Nat × Act α)) (id : Nat) :
    ((s.run events).callers id).key = (s.callers id).key := by
  induction events generalizing s with
  | nil => rfl
  | cons event events ih => exact (ih _).trans (s.act_key event.1 event.2 id)

theorem Crowd.run_unmoved (s : Crowd α) (events : List (Nat × Act α)) (id : Nat)
    (unmoved : ∀ event ∈ events, ∀ m, event.2 ≠ .move id m) : (s.run events).callers id = s.callers id := by
  induction events generalizing s with
  | nil => rfl
  | cons event events ih =>
    refine (ih _ fun later mem => unmoved later (List.mem_cons_of_mem _ mem)).trans ?_
    cases chosen : event.2 with
    | move mover m =>
      have apart : id ≠ mover := fun same => unmoved event (by simp) m (same ▸ chosen)
      exact Function.update_of_ne apart _ _
    | set key value ttl => rfl
    | remove covers => rfl
    | clear => rfl

end ArchiveSearch.Cache
