import Mathlib.Algebra.Order.BigOperators.Group.Finset
import ArchiveSearch.Proofs.Cache.Origins

namespace ArchiveSearch.Cache

set_option autoImplicit false

variable {α : Type}

structure Manned (c : Cache α) (callers : Nat → Caller α) : Prop where
  slots : ∀ key cell, c.slots.lookup key = some cell → ∃ id, (callers id).stage.cell? = some cell
  owners : ∀ cell content id, c.cells[cell]? = some content → content.owner = some id →
    (callers id).stage = .running cell

theorem owner_still (callers : Nat → Caller α) (id : Nat) (caller : Caller α) (owner cell : Nat)
    (working : (callers owner).stage = .running cell)
    (kept : (callers id).stage = .running cell → caller.stage = .running cell) :
    (Function.update callers id caller owner).stage = .running cell := by
  by_cases same : owner = id
  · subst same
    rw [Function.update_self]
    exact kept working
  · rw [Function.update_of_ne same]
    exact working

section Moves

variable {keyOfCell : Nat → String} {c : Cache α} {callers : Nat → Caller α}
  (linked : Linked keyOfCell c callers) (manned : Manned c callers) (id : Nat) (next : Cache α) (caller : Caller α)

include manned

theorem Manned.same (slots : next.slots = c.slots) (cells : next.cells = c.cells)
    (held : ∀ cell, (callers id).stage.cell? = some cell → caller.stage.cell? = some cell)
    (working : ∀ cell, (callers id).stage = .running cell → caller.stage = .running cell) :
    Manned next (Function.update callers id caller) := by
  refine ⟨fun key cell there => ?_, fun cell content owner inside owned => ?_⟩
  · rw [slots] at there
    exact someone_still (fun caller => caller.stage.cell? = some cell) callers id caller (manned.slots key cell there)
      (held cell)
  · rw [cells] at inside
    exact owner_still callers id caller owner cell (manned.owners cell content owner inside owned) (working cell)

theorem Manned.grown (key : String) (free : c.slots.lookup key = none) (missed : (callers id).stage = .missed)
    (waiting : caller.stage = .waiting c.cells.length) :
    Manned { c with slots := c.slots ++ [(key, c.cells.length)], cells := c.cells ++ [{}] }
      (Function.update callers id caller) := by
  refine ⟨fun name cell there => ?_, fun cell content owner inside owned => ?_⟩
  · rcases (joined_lookup c.slots key c.cells.length free name cell).1 there with old | ⟨-, rfl⟩
    · exact someone_still (fun caller => caller.stage.cell? = some cell) callers id caller (manned.slots name cell old)
        fun held => absurd held (by simp [missed, Stage.cell?])
    · exact ⟨id, by rw [Function.update_self, waiting]; rfl⟩
  · rcases Nat.lt_or_ge cell c.cells.length with old | fresh
    · rw [List.getElem?_append_left old] at inside
      exact owner_still callers id caller owner cell (manned.owners cell content owner inside owned)
        fun working => absurd working (by simp [missed])
    · have none_ : content = {} := by
        rw [List.getElem?_append_right fresh] at inside
        exact List.mem_singleton.1 (List.mem_of_getElem? inside)
      rw [none_] at owned
      cases owned

include linked

theorem Manned.changed (cell : Nat) (content : Cell α) (slots : next.slots = c.slots)
    (cells : next.cells = c.cells.set cell content) (before : (callers id).stage.cell? = some cell)
    (after : caller.stage.cell? = some cell)
    (owner : ∀ owner, content.owner = some owner → owner = id ∧ caller.stage = .running cell) :
    Manned next (Function.update callers id caller) := by
  refine ⟨fun key held there => ?_, fun held found other inside owned => ?_⟩
  · rw [slots] at there
    refine someone_still (fun caller => caller.stage.cell? = some held) callers id caller (manned.slots key held there)
      fun mine => ?_
    rw [before] at mine
    exact after.trans mine
  · rw [cells] at inside
    by_cases here : held = cell
    · subst here
      rw [List.getElem?_set_self ((linked.fits id).held held before).1, Option.some.injEq] at inside
      obtain ⟨rfl, working⟩ := owner other (inside ▸ owned)
      rw [Function.update_self]
      exact working
    · rw [List.getElem?_set_ne (Ne.symm here)] at inside
      refine owner_still callers id caller other held (manned.owners held found other inside owned) fun working => ?_
      rw [working] at before
      exact absurd (Option.some.inj before) here

theorem Manned.left (cell : Nat) (answer : Outcome α) (leaving : (callers id).stage = .leaving cell answer) :
    Manned (c.release (callers id).key cell) (Function.update callers id caller) := by
  have mine := (linked.fits id).held cell (by rw [leaving]; rfl)
  refine ⟨fun key held there => ?_, fun held content owner inside owned => ?_⟩
  · obtain ⟨old, apart⟩ := (c.release_lookup _ cell key held).1 there
    refine someone_still (fun caller => caller.stage.cell? = some held) callers id caller (manned.slots key held old)
      fun held_ => ?_
    rw [leaving] at held_
    obtain rfl := Option.some.inj held_
    exact absurd ⟨(linked.slots key cell old).2.symm.trans mine.2, rfl⟩ apart
  · rw [c.release_cells] at inside
    exact owner_still callers id caller owner held (manned.owners held content owner inside owned)
      fun working => absurd working (by simp [leaving])

theorem Manned.move (now : Nat) (m : Move α) (moved : Moved now id c (callers id) m next caller.stage) :
    Manned next (Function.update callers id caller) := by
  generalize stage_ : caller.stage = stage at moved
  cases moved with
  | idle => exact manned.same id _ caller rfl rfl (by simp [stage_]) (by simp [stage_])
  | hit value ready found =>
    exact manned.same id _ caller (c.get_slots now _) (c.get_cells now _) (by simp [ready, Stage.cell?]) (by simp [ready])
  | miss ready missing =>
    exact manned.same id _ caller (c.get_slots now _) (c.get_cells now _) (by simp [ready, Stage.cell?]) (by simp [ready])
  | join missed =>
    rcases c.join_cell_cases (callers id).key with ⟨cell, there, joined⟩ | ⟨free, joined⟩
    · rw [joined]
      exact manned.same id _ caller rfl rfl (by simp [missed, Stage.cell?]) (by simp [missed])
    · rw [joined] at stage_ ⊢
      exact manned.grown id caller _ free missed stage_
  | share cell content value waiting there filled =>
    exact manned.same id _ caller rfl rfl (by simp [stage_, waiting, Stage.cell?]) (by simp [waiting])
  | find cell value waiting vacant found =>
    exact manned.changed linked id _ caller cell { value := some value } (c.lookup_slots now _)
      (congrArg (List.set · cell _) (c.lookup_cells now _)) (by rw [waiting]; rfl) (by rw [stage_]; rfl) (by simp)
  | begin cell waiting vacant missing =>
    exact manned.changed linked id _ caller cell { owner := some id } (c.lookup_slots now _)
      (congrArg (List.set · cell _) (c.lookup_cells now _)) (by rw [waiting]; rfl) (by rw [stage_]; rfl)
      (by simp [stage_, eq_comm])
  | succeed cell value running =>
    exact manned.changed linked id _ caller cell { value := some value }
      (c.set_slots now _ value (callers id).ttl)
      (congrArg (List.set · cell _) (c.set_cells now _ value (callers id).ttl)) (by rw [running]; rfl)
      (by rw [stage_]; rfl) (by simp)
  | fail cell e running =>
    exact manned.changed linked id _ caller cell {} rfl rfl (by rw [running]; rfl) (by rw [stage_]; rfl) (by simp)
  | leave cell answer leaving => exact manned.left linked id caller cell answer leaving

end Moves

theorem Manned.act {keyOfCell : Nat → String} {s : Crowd α} (linked : Linked keyOfCell s.cache s.callers)
    (manned : Manned s.cache s.callers) (now : Nat) (a : Act α) :
    Manned (s.act now a).cache (s.act now a).callers := by
  cases a with
  | move id m =>
    obtain ⟨moved, -⟩ := move_moved now id m s.cache (s.callers id)
    exact manned.move linked id _ _ now m moved
  | set key value ttl =>
    have slots := s.cache.set_slots now key value ttl
    have cells := s.cache.set_cells now key value ttl
    refine ⟨?_, ?_⟩ <;> simp only [Crowd.act, slots, cells]
    · exact manned.slots
    · exact manned.owners
  | remove covers => exact ⟨manned.slots, manned.owners⟩
  | clear => exact ⟨fun _ _ there => absurd there (by simp [Crowd.act, Cache.clear]), manned.owners⟩

structure AtRest (c : Cache α) : Prop where
  quiet : c.Quiet
  cells : ∀ content ∈ c.cells, content.owner = none

theorem Manned.start (c : Cache α) (rest : c.AtRest) (requests : Nat → String × Option Nat) :
    Manned (Crowd.start c requests).cache (Crowd.start c requests).callers := by
  refine ⟨fun key cell there => ?_, fun cell content id inside owned => ?_⟩
  · have empty : c.slots = [] := rest.quiet
    simp [Crowd.start, empty] at there
  · rw [rest.cells content (List.mem_of_getElem? inside)] at owned
    cases owned

theorem Manned.rest {c : Cache α} {callers : Nat → Caller α} (manned : Manned c callers)
    (away : ∀ id, (callers id).stage.cell? = none) : c.AtRest := by
  refine ⟨?_, fun content mem => ?_⟩
  · cases slots : c.slots with
    | nil => exact slots
    | cons slot rest =>
      have there : c.slots.lookup slot.1 = some slot.2 := by
        rw [slots, List.lookup_cons_self]
      obtain ⟨id, held⟩ := manned.slots _ _ there
      rw [away id] at held
      cases held
  · cases owned : content.owner with
    | none => rfl
    | some owner =>
      obtain ⟨cell, inside⟩ := List.getElem?_of_mem mem
      have held := away owner
      rw [manned.owners cell content owner inside owned] at held
      cases held

theorem Manned.run {keyOfCell : Nat → String} {s : Crowd α} (linked : Linked keyOfCell s.cache s.callers)
    (manned : Manned s.cache s.callers) (events : List (Nat × Act α)) :
    Manned (s.run events).cache (s.run events).callers := by
  induction events generalizing s keyOfCell with
  | nil => exact manned
  | cons event events ih =>
    obtain ⟨keyOfCell', linked'⟩ := linked.act event.1 event.2
    exact ih linked' (manned.act linked event.1 event.2)

def Stage.rank : Stage α → Nat
  | .ready => 5
  | .missed => 4
  | .waiting _ => 3
  | .running _ => 2
  | .leaving _ _ => 1
  | .done _ => 0

def Move.fits : Move α → Stage α → Bool
  | .look, .ready => true
  | .join, .missed => true
  | .enter, .waiting _ => true
  | .finish _, .running _ => true
  | .leave, .leaving _ _ => true
  | _, _ => false

theorem rank_zero_iff (stage : Stage α) : stage.rank = 0 ↔ ∃ answer, stage = .done answer := by
  cases stage <;> simp [Stage.rank]

theorem act_rank_le (s : Crowd α) (now : Nat) (a : Act α) (id : Nat) :
    ((s.act now a).callers id).stage.rank ≤ (s.callers id).stage.rank := by
  cases a with
  | move mover m =>
    obtain ⟨moved, -⟩ := move_moved now mover m s.cache (s.callers mover)
    simp only [Crowd.act]
    by_cases same : id = mover
    · subst same
      rw [Function.update_self]
      generalize (move now id m s.cache (s.callers id)).1 = next at moved
      generalize (move now id m s.cache (s.callers id)).2.stage = stage at moved
      cases moved <;> simp [Stage.rank, *]
    · rw [Function.update_of_ne same]
  | set key value ttl => exact Nat.le_refl _
  | remove covers => exact Nat.le_refl _
  | clear => exact Nat.le_refl _

theorem move_rank_lt (now id : Nat) (m : Move α) (c : Cache α) (caller : Caller α)
    (inside : ∀ cell, caller.stage.cell? = some cell → cell < c.cells.length) (fits : m.fits caller.stage = true) :
    (move now id m c caller).2.stage.rank < caller.stage.rank ∨
      ∃ cell content owner, caller.stage = .waiting cell ∧ c.cells[cell]? = some content ∧
        content.owner = some owner := by
  obtain ⟨key, ttl, stage⟩ := caller
  cases stage with
  | ready =>
    cases m with
    | look =>
      refine .inl ?_
      unfold move
      cases c.get now key with
      | mk found c' => cases found <;> simp [Stage.rank]
    | _ => cases fits
  | missed =>
    cases m with
    | join => exact .inl (Nat.lt_succ_self 3)
    | _ => cases fits
  | waiting cell =>
    cases m with
    | enter =>
      obtain ⟨content, there⟩ : ∃ content, c.cells[cell]? = some content :=
        ⟨_, List.getElem?_eq_getElem (inside cell rfl)⟩
      cases owned : content.owner with
      | some owner => exact .inr ⟨cell, content, owner, rfl, there, owned⟩
      | none =>
        refine .inl ?_
        simp only [move, enterCell, there, owned]
        cases content.value with
        | some value => simp [Stage.rank]
        | none =>
          cases c.lookup now key with
          | mk found c' => cases found <;> simp [Stage.rank]
    | _ => cases fits
  | running cell =>
    cases m with
    | finish answer => cases answer <;> exact .inl (Nat.lt_succ_self 1)
    | _ => cases fits
  | leaving cell answer =>
    cases m with
    | leave => exact .inl (Nat.lt_succ_self 0)
    | _ => cases fits
  | done answer => cases m <;> cases fits

def Crowd.stateAt (s : Crowd α) (events : Nat → Nat × Act α) (t : Nat) : Crowd α :=
  s.run ((List.range t).map events)

theorem state_at_succ (s : Crowd α) (events : Nat → Nat × Act α) (t : Nat) :
    s.stateAt events (t + 1) = (s.stateAt events t).act (events t).1 (events t).2 := by
  rw [Crowd.stateAt, List.range_succ, List.map_append, Crowd.run_append]
  rfl

-- The first callers and no others move, and whoever of them has no answer is given a move that fits its stage, sooner or
-- later.
structure Fair (s : Crowd α) (count : Nat) (events : Nat → Nat × Act α) : Prop where
  among : ∀ t id m, (events t).2 = .move id m → id < count
  turns : ∀ id < count, ∀ t, (∀ answer, ((s.stateAt events t).callers id).stage ≠ .done answer) →
    ∃ later ≥ t, ∃ m, (events later).2 = .move id m ∧ m.fits ((s.stateAt events later).callers id).stage = true

theorem state_at_rank_antitone (s : Crowd α) (events : Nat → Nat × Act α) (id : Nat) :
    Antitone fun t => ((s.stateAt events t).callers id).stage.rank := by
  refine antitone_nat_of_succ_le fun t => ?_
  rw [state_at_succ]
  exact act_rank_le _ _ _ id

theorem last_turn (s : Crowd α) (events : Nat → Nat × Act α) (id last : Nat) (m : Move α)
    (act : (events last).2 = .move id m) (fits : m.fits ((s.stateAt events last).callers id).stage = true)
    (ended : ((s.stateAt events (last + 1)).callers id).stage.rank = 0) (t : Nat)
    (undone : ∀ answer, ((s.stateAt events t).callers id).stage ≠ .done answer) :
    ∃ later ≥ t, ∃ m, (events later).2 = .move id m ∧ m.fits ((s.stateAt events later).callers id).stage = true := by
  by_cases early : t ≤ last
  · exact ⟨last, early, m, act, fits⟩
  · have later := state_at_rank_antitone s events id (Nat.not_le.1 early)
    obtain ⟨answer, done⟩ := (rank_zero_iff _).1 (Nat.le_zero.1 (Nat.le_trans later (Nat.le_of_eq ended)))
    exact absurd done (undone answer)

theorem ranks_settle (s : Crowd α) (events : Nat → Nat × Act α) (count : Nat) :
    ∃ t, ∀ later ≥ t, ∀ id < count,
      ((s.stateAt events later).callers id).stage.rank = ((s.stateAt events t).callers id).stage.rank := by
  let total := fun t => ∑ id ∈ Finset.range count, ((s.stateAt events t).callers id).stage.rank
  obtain ⟨t, -, least⟩ := (measure total).wf.has_min Set.univ ⟨0, trivial⟩
  refine ⟨t, fun later after id among => ?_⟩
  have each : ∀ id ∈ Finset.range count,
      ((s.stateAt events later).callers id).stage.rank ≤ ((s.stateAt events t).callers id).stage.rank :=
    fun id _ => state_at_rank_antitone s events id after
  have same : total later = total t :=
    Nat.le_antisymm (Finset.sum_le_sum each) (Nat.le_of_not_lt (least later trivial))
  exact (Finset.sum_eq_sum_iff_of_le each).1 same id (Finset.mem_range.2 among)

theorem Fair.outside {c : Cache α} {requests : Nat → String × Option Nat} {count : Nat} {events : Nat → Nat × Act α}
    (fair : Fair (Crowd.start c requests) count events) (t id : Nat) (outside : ¬ id < count) :
    (((Crowd.start c requests).stateAt events t).callers id).stage = .ready := by
  have unmoved := (Crowd.start c requests).run_unmoved ((List.range t).map events) id fun event mem m same => by
    obtain ⟨t, -, rfl⟩ := List.mem_map.1 mem
    exact outside (fair.among t id m same)
  rw [Crowd.stateAt, unmoved]
  rfl

theorem all_finish (c : Cache α) (rest : c.AtRest) (requests : Nat → String × Option Nat) (count : Nat)
    (events : Nat → Nat × Act α) (fair : Fair (Crowd.start c requests) count events) :
    ∃ t, ∀ later ≥ t, ∀ id < count,
      ∃ answer, (((Crowd.start c requests).stateAt events later).callers id).stage = .done answer := by
  obtain ⟨t, settled⟩ := ranks_settle (Crowd.start c requests) events count
  -- Once no caller is brought forward, a move that fits can only be one of a caller that waits for an owner.
  have blocked : ∀ later ≥ t, ∀ id < count, ∀ m, (events later).2 = .move id m →
      m.fits (((Crowd.start c requests).stateAt events later).callers id).stage = true →
      ∃ cell owner, (((Crowd.start c requests).stateAt events later).callers id).stage = .waiting cell ∧
        (((Crowd.start c requests).stateAt events later).callers owner).stage = .running cell := by
    intro later late id among m act fits
    have begin_ := Linked.start c requests rest.quiet
    obtain ⟨keyOfCell, linked⟩ := begin_.run ((List.range later).map events)
    have manned := (Manned.start c rest requests).run begin_ ((List.range later).map events)
    have next := settled (later + 1) (Nat.le_succ_of_le late) id among
    rw [← settled later late id among, state_at_succ, act, Crowd.act] at next
    simp only [Function.update_self] at next
    rcases move_rank_lt (events later).1 id m _ _ (fun cell held => ((linked.fits id).held cell held).1) fits with
      less | ⟨cell, content, owner, waiting, there, owned⟩
    · exact absurd next (Nat.ne_of_lt less)
    · exact ⟨cell, owner, waiting, manned.owners cell content owner there owned⟩
  refine ⟨t, fun later late id among => (rank_zero_iff _).1 ?_⟩
  rw [settled later late id among]
  by_contra undone
  obtain ⟨later, late, m, act, fits⟩ := fair.turns id among t fun answer done =>
    undone ((rank_zero_iff _).2 ⟨answer, done⟩)
  obtain ⟨cell, owner, -, working⟩ := blocked later late id among m act fits
  have among' : owner < count := by
    by_contra outside
    rw [fair.outside later owner outside] at working
    cases working
  -- The owner stays at work until its own turn, and a move that fits then ends its work.
  obtain ⟨last, late', m', act', fits'⟩ := fair.turns owner among' later fun answer done => by
    rw [working] at done
    cases done
  obtain ⟨cell', -, waiting, -⟩ := blocked last (Nat.le_trans late late') owner among' m' act' fits'
  have same := (settled last (Nat.le_trans late late') owner among').trans (settled later late owner among').symm
  rw [waiting, working] at same
  cases same

-- Callers in any number and any order, with values that are set and keys that are removed between their moves. A slot is
-- held by a caller of its key that has not finished, so that with nobody under way the cache is at rest. A caller ends
-- with a value that its key was given, or with the error of its own computation, which leaves no entry behind. If all are
-- given their turns, all end.
theorem callers_finish (c : Cache α) (rest : c.AtRest) (requests : Nat → String × Option Nat) :
    (∀ (events : List (Nat × Act α)) (s : Crowd α), s = (Crowd.start c requests).run events →
      (∀ key cell, s.cache.slots.lookup key = some cell →
        ∃ id, (s.callers id).key = key ∧ (s.callers id).stage.cell? = some cell) ∧
      ((∀ id, (s.callers id).stage.cell? = none) → s.cache.AtRest) ∧
      (∀ id value, (s.callers id).stage = .done (.ok value) →
        (Crowd.start c requests).Given events (requests id).1 value) ∧
      (∀ id e, (s.callers id).stage = .done (.error e) → (Crowd.start c requests).Fails events id e) ∧
      (∀ entry ∈ s.cache.entries, (Crowd.start c requests).Given events entry.key entry.value) ∧
      ∀ now id e, (s.act now (.move id (.finish (.error e)))).cache.entries = s.cache.entries) ∧
    ∀ (count : Nat) (events : Nat → Nat × Act α), Fair (Crowd.start c requests) count events →
      ∃ t, ∀ later ≥ t,
        (∀ id < count, ∃ answer, (((Crowd.start c requests).stateAt events later).callers id).stage = .done answer) ∧
        ((Crowd.start c requests).stateAt events later).cache.AtRest := by
  have begin_ := Linked.start c requests rest.quiet
  have manned := (Manned.start c rest requests).run begin_
  constructor
  · rintro events s rfl
    obtain ⟨keyOfCell, linked⟩ := begin_.run events
    refine ⟨fun key cell there => ?_, (manned events).rest, value_given c rest.quiet requests events,
      fun id e done => error_own c requests events id e (by rw [done]; rfl), entry_given c rest.quiet requests events,
      fun now id e => failure_entries _ now id e⟩
    obtain ⟨id, held⟩ := (manned events).slots key cell there
    exact ⟨id, ((linked.fits id).held cell held).2.symm.trans (linked.slots key cell there).2, held⟩
  · intro count events fair
    obtain ⟨t, done⟩ := all_finish c rest requests count events fair
    refine ⟨t, fun later late => ⟨done later late, (manned _).rest fun id => ?_⟩⟩
    by_cases among : id < count
    · obtain ⟨answer, ended⟩ := done later late id among
      exact congrArg Stage.cell? ended
    · exact congrArg Stage.cell? (fair.outside later id among)

def askers : Crowd Nat :=
  Crowd.start {} fun _ => ("k", none)

def retrying : List (Nat × Act Nat) :=
  [.move 0 .look, .move 0 .join, .move 0 .enter, .move 1 .look, .move 1 .join, .move 1 .enter,
    .move 0 (.finish (.error (.other "failed"))), .move 1 .enter, .move 0 .leave, .move 1 (.finish (.ok 7)),
    .move 1 .leave].map (0, ·)

def retryingOn (t : Nat) : Nat × Act Nat :=
  retrying.getD t (0, .remove fun _ => false)

theorem retrying_fair : Fair askers 2 retryingOn := by
  refine ⟨fun t id m act => ?_, fun id among => ?_⟩
  · have each : ∀ event ∈ retrying, ∀ id m, event.2 = .move id m → id < 2 := by
      simp [retrying, eq_comm]
    rw [retryingOn, List.getD_eq_getElem?_getD] at act
    cases there : retrying[t]? with
    | none =>
      rw [there] at act
      cases act
    | some event =>
      rw [there] at act
      exact each event (List.mem_of_getElem? there) id m act
  · match id, among with
    | 0, _ => exact last_turn askers retryingOn 0 8 .leave rfl rfl rfl
    | 1, _ => exact last_turn askers retryingOn 1 10 .leave rfl rfl rfl

theorem retrying_callers_finish :
    askers.Given retrying "k" 7 ∧
      askers.Fails retrying 0 (.other "failed") ∧
      ∃ t, ∀ later ≥ t,
        (∀ id < 2, ∃ answer,
          ((askers.stateAt retryingOn later).callers id).stage = .done answer) ∧
        (askers.stateAt retryingOn later).cache.AtRest := by
  have finish := callers_finish (α := Nat) {} ⟨rfl, by simp⟩ fun _ => ("k", none)
  obtain ⟨-, -, values, errors, -⟩ := finish.1 retrying _ rfl
  exact ⟨values 1 7 rfl, errors 0 _ rfl, finish.2 2 retryingOn retrying_fair⟩

end ArchiveSearch.Cache
