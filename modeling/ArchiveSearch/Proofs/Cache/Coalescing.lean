import ArchiveSearch.Proofs.Cache.Linking

namespace ArchiveSearch.Cache

set_option autoImplicit false

variable {α : Type}

def Act.spares (key : String) (keys : Nat → String) : Act α → Prop
  | .move id (.finish (.error _)) => keys id ≠ key
  | .clear => False
  | _ => True

structure Pends (key : String) (c : Cache α) (caller : Caller α) : Prop where
  slotted : ∀ cell content, (caller.stage = .waiting cell ∨ caller.stage = .running cell) →
    c.cells[cell]? = some content → content.value = none → c.slots.lookup key = some cell
  ended : ∀ cell answer, caller.stage = .leaving cell answer →
    ∃ content value, c.cells[cell]? = some content ∧ content.value = some value

def Pending (key : String) (c : Cache α) (callers : Nat → Caller α) : Prop :=
  ∀ id, (callers id).key = key → Pends key c (callers id)

theorem Pending.update (key : String) (c : Cache α) (callers : Nat → Caller α) (id : Nat)
    (caller : Caller α) (mine : caller.key = key → Pends key c caller)
    (others : ∀ other ≠ id, (callers other).key = key → Pends key c (callers other)) :
    Pending key c (Function.update callers id caller) :=
  (Function.forall_update_iff callers fun _ caller => caller.key = key → Pends key c caller).2 ⟨mine, others⟩

theorem Pends.changed (key : String) (c next : Cache α) (caller : Caller α) (pends : Pends key c caller)
    (cell : Nat) (content : Cell α) (slots : next.slots = c.slots)
    (cells : next.cells = c.cells.set cell content) (inside : cell < c.cells.length)
    (emptied : content.value = none → caller.stage.cell? = some cell → c.cells[cell]? = some {}) :
    Pends key next caller := by
  have changed : next.cells[cell]? = some content := by rw [cells, List.getElem?_set_self inside]
  have kept : ∀ held, held ≠ cell → next.cells[held]? = c.cells[held]? := fun held apart => by
    rw [cells, List.getElem?_set_ne (Ne.symm apart)]
  refine ⟨fun held found stage there empty => ?_, fun held answer left => ?_⟩
  · rw [slots]
    by_cases same : held = cell
    · subst same
      obtain rfl := Option.some.inj (changed.symm.trans there)
      have mine : caller.stage.cell? = some held := by rcases stage with at_ | at_ <;> rw [at_] <;> rfl
      exact pends.slotted held {} stage (emptied empty mine) rfl
    · rw [kept held same] at there
      exact pends.slotted held found stage there empty
  · obtain ⟨found, value, there, filled⟩ := pends.ended held answer left
    by_cases same : held = cell
    · subst same
      cases filled' : content.value with
      | some value => exact ⟨content, value, changed, filled'⟩
      | none =>
        rw [emptied filled' (by rw [left]; rfl), Option.some.injEq] at there
        rw [← there] at filled
        cases filled
    · exact ⟨found, value, by rw [kept held same]; exact there, filled⟩

theorem Pends.of_leaving (key : String) (c : Cache α) (caller : Caller α) (cell : Nat)
    (answer : Outcome α) (leaving : caller.stage = .leaving cell answer) (content : Cell α) (value : α)
    (there : c.cells[cell]? = some content) (filled : content.value = some value) : Pends key c caller := by
  refine ⟨by simp [leaving], fun held answer left => ?_⟩
  rw [leaving] at left
  obtain ⟨rfl, -⟩ := Stage.leaving.inj left
  exact ⟨content, value, there, filled⟩

section Moves

variable {keyOfCell : Nat → String} {c : Cache α} {callers : Nat → Caller α}
  (linked : Linked keyOfCell c callers) (key : String) (pending : Pending key c callers) (id : Nat)
  (next : Cache α) (caller : Caller α)

include pending

theorem Pending.same (slots : next.slots = c.slots) (cells : next.cells = c.cells)
    (mine : caller.key = key → Pends key c caller) :
    Pending key next (Function.update callers id caller) := by
  have kept : ∀ caller, Pends key c caller → Pends key next caller := fun caller pends =>
    ⟨by rw [slots, cells]; exact pends.slotted, by rw [cells]; exact pends.ended⟩
  exact .update key next callers id caller (fun asked => kept _ (mine asked))
    fun other _ asked => kept _ (pending other asked)

theorem Pending.left (cell : Nat) (answer : Outcome α) (leaving : (callers id).stage = .leaving cell answer)
    (done : caller.stage = .done answer) :
    Pending key (c.release (callers id).key cell) (Function.update callers id caller) := by
  have released := c.release_lookup (callers id).key cell
  have cells := c.release_cells (callers id).key cell
  refine .update key _ callers id caller (fun _ => ⟨by simp [done], by simp [done]⟩)
    fun other _ asked => ⟨fun held content at_ inside empty => ?_, ?_⟩
  · rw [cells] at inside
    refine (released key held).2 ⟨(pending other asked).slotted held content at_ inside empty, ?_⟩
    -- The slot that is taken away holds a filled cell, and nobody waits at one.
    rintro ⟨rfl, rfl⟩
    obtain ⟨found, value, there, filled⟩ := (pending id rfl).ended held answer leaving
    rw [there, Option.some.injEq] at inside
    rw [inside, empty] at filled
    cases filled
  · rw [cells]
    exact (pending other asked).ended

include linked

theorem Pending.changed (cell : Nat) (content : Cell α) (slots : next.slots = c.slots)
    (cells : next.cells = c.cells.set cell content) (before : (callers id).stage.cell? = some cell)
    (emptied : content.value = none → keyOfCell cell = key → c.cells[cell]? = some {})
    (mine : caller.key = key → next.cells[cell]? = some content → Pends key next caller) :
    Pending key next (Function.update callers id caller) := by
  have inside := ((linked.fits id).held cell before).1
  refine .update key next callers id caller (fun asked => mine asked ?_) fun other _ asked => ?_
  · rw [cells, List.getElem?_set_self inside]
  · exact (pending other asked).changed key c next _ cell content slots cells inside
      fun none_ held => emptied none_ (((linked.fits other).held cell held).2.trans asked)

theorem Pending.grown (free : c.slots.lookup caller.key = none)
    (waiting : caller.stage = .waiting c.cells.length) :
    Pending key
      { c with slots := c.slots ++ [(caller.key, c.cells.length)], cells := c.cells ++ [{}] }
      (Function.update callers id caller) := by
  have slots := joined_lookup c.slots caller.key c.cells.length free key
  refine .update key _ callers id caller (fun asked => ⟨?_, by simp [waiting]⟩) fun other _ asked => ?_
  · intro held content at_ inside empty
    simp only [waiting, Stage.waiting.injEq, reduceCtorEq, or_false] at at_
    exact (slots held).2 (.inr ⟨asked.symm, at_.symm⟩)
  · obtain ⟨slotted, ended⟩ := pending other asked
    have old : ∀ held, (callers other).stage.cell? = some held →
        (c.cells ++ [({} : Cell α)])[held]? = c.cells[held]? := fun held mine =>
      List.getElem?_append_left ((linked.fits other).held held mine).1
    refine ⟨fun held content at_ inside empty => ?_, fun held answer left => ?_⟩
    · simp only at inside
      rw [old held (by rcases at_ with at_ | at_ <;> rw [at_] <;> rfl)] at inside
      exact (slots held).2 (.inl (slotted held content at_ inside empty))
    · simp only
      rw [old held (by rw [left]; rfl)]
      exact ended held answer left

end Moves

theorem Pending.move {keyOfCell : Nat → String} {c : Cache α} {callers : Nat → Caller α}
    (linked : Linked keyOfCell c callers) (key : String) (pending : Pending key c callers) (now id : Nat)
    (m : Move α) (next : Cache α) (caller : Caller α)
    (moved : Moved now id c (callers id) m next caller.stage) (same : caller.key = (callers id).key)
    (spares : (Act.move id m).spares key fun id => (callers id).key) :
    Pending key next (Function.update callers id caller) := by
  generalize stage_ : caller.stage = stage at moved
  cases moved with
  | idle =>
    refine pending.same key id _ caller rfl rfl fun asked => ?_
    obtain ⟨slotted, ended⟩ := pending id (same ▸ asked)
    exact ⟨by rw [stage_]; exact slotted, by rw [stage_]; exact ended⟩
  | hit value ready found =>
    exact pending.same key id _ caller (c.get_slots now _) (c.get_cells now _) fun _ =>
      ⟨by simp [stage_], by simp [stage_]⟩
  | miss ready missing =>
    exact pending.same key id _ caller (c.get_slots now _) (c.get_cells now _) fun _ =>
      ⟨by simp [stage_], by simp [stage_]⟩
  | share cell content value waiting there filled =>
    exact pending.same key id _ caller rfl rfl fun _ =>
      .of_leaving key c caller cell _ stage_ content value there filled
  | join missed =>
    rcases c.join_cell_cases (callers id).key with ⟨cell, there, joined⟩ | ⟨free, joined⟩
    · rw [joined] at stage_ ⊢
      refine pending.same key id _ caller rfl rfl fun asked =>
        ⟨fun held content at_ inside empty => ?_, by simp [stage_]⟩
      simp only [stage_, Stage.waiting.injEq, reduceCtorEq, or_false] at at_
      rw [← at_, ← asked, same]
      exact there
    · rw [joined] at stage_ ⊢
      rw [← same] at free ⊢
      exact pending.grown linked key id caller free stage_
  | find cell value waiting vacant found =>
    exact pending.changed linked key id _ caller cell { value := some value } (c.lookup_slots now _)
      (congrArg (List.set · cell _) (c.lookup_cells now _)) (by rw [waiting]; rfl)
      (fun none_ => absurd none_ (by simp)) fun _ changed =>
        .of_leaving key _ caller cell _ stage_ _ value changed rfl
  | begin cell waiting vacant missing =>
    refine pending.changed linked key id _ caller cell { owner := some id } (c.lookup_slots now _)
      (congrArg (List.set · cell _) (c.lookup_cells now _)) (by rw [waiting]; rfl)
      (fun _ _ => vacant) fun asked _ => ⟨fun held content at_ inside empty => ?_, by simp [stage_]⟩
    simp only [stage_, Stage.running.injEq, reduceCtorEq, false_or] at at_
    subst at_
    have slots := c.lookup_slots now (callers id).key
    have mine := (pending id (same ▸ asked)).slotted cell {} (.inl waiting) vacant rfl
    rw [← slots] at mine
    exact mine
  | succeed cell value running =>
    exact pending.changed linked key id _ caller cell { value := some value }
      (c.set_slots now _ value (callers id).ttl)
      (congrArg (List.set · cell _) (c.set_cells now _ value (callers id).ttl)) (by rw [running]; rfl)
      (fun none_ => absurd none_ (by simp)) fun _ changed =>
        .of_leaving key _ caller cell _ stage_ _ value changed rfl
  | fail cell e running =>
    have mine := ((linked.fits id).held cell (by rw [running]; rfl)).2
    have spares : (callers id).key ≠ key := spares
    refine pending.changed linked key id _ caller cell {} rfl rfl (by rw [running]; rfl)
      (fun _ serves => absurd (mine.symm.trans serves) spares) fun asked _ => ?_
    exact absurd (same ▸ asked) spares
  | leave cell answer leaving => exact pending.left key id caller cell answer leaving stage_

theorem Pending.act {keyOfCell : Nat → String} {s : Crowd α} (linked : Linked keyOfCell s.cache s.callers)
    (key : String) (pending : Pending key s.cache s.callers) (now : Nat) (a : Act α)
    (spares : a.spares key fun id => (s.callers id).key) :
    Pending key (s.act now a).cache (s.act now a).callers := by
  cases a with
  | move id m =>
    obtain ⟨moved, same⟩ := move_moved now id m s.cache (s.callers id)
    exact pending.move linked key now id m _ _ moved same spares
  | set name value ttl =>
    intro id asked
    obtain ⟨slotted, ended⟩ := pending id asked
    have slots := s.cache.set_slots now name value ttl
    have cells := s.cache.set_cells now name value ttl
    refine ⟨?_, ?_⟩ <;> simp only [Crowd.act, slots, cells]
    · exact slotted
    · exact ended
  | remove covers => exact fun id asked => ⟨(pending id asked).slotted, (pending id asked).ended⟩
  | clear => exact absurd spares (by simp [Act.spares])

theorem Pending.run {keyOfCell : Nat → String} {s : Crowd α} (linked : Linked keyOfCell s.cache s.callers)
    (key : String) (pending : Pending key s.cache s.callers) (events : List (Nat × Act α))
    (spares : ∀ event ∈ events, event.2.spares key fun id => (s.callers id).key) :
    Pending key (s.run events).cache (s.run events).callers := by
  induction events generalizing s keyOfCell with
  | nil => exact pending
  | cons event events ih =>
    obtain ⟨keyOfCell', linked'⟩ := linked.act event.1 event.2
    refine ih linked' (pending.act linked key event.1 event.2 (spares event (by simp))) fun later mem => ?_
    have keys : (fun id => ((s.act event.1 event.2).callers id).key) = fun id => (s.callers id).key :=
      funext fun id => s.act_key event.1 event.2 id
    rw [keys]
    exact spares later (List.mem_cons_of_mem _ mem)

theorem Pending.start (c : Cache α) (requests : Nat → String × Option Nat) (key : String) :
    Pending key (Crowd.start c requests).cache (Crowd.start c requests).callers :=
  fun _ _ => ⟨by simp [Crowd.start], by simp [Crowd.start]⟩

-- Callers and acts in any order. One caller at most computes for a cell, and one at most for a key that
-- was spared.
theorem computed_by_one (c : Cache α) (quiet : c.Quiet) (requests : Nat → String × Option Nat)
    (events : List (Nat × Act α)) :
    (∀ id other cell, (((Crowd.start c requests).run events).callers id).stage = .running cell →
        (((Crowd.start c requests).run events).callers other).stage = .running cell → id = other) ∧
      ∀ key, (∀ event ∈ events, event.2.spares key fun id => (requests id).1) →
        ∀ id other, (requests id).1 = key → (requests other).1 = key →
          (((Crowd.start c requests).run events).callers id).stage.isRunning = true →
          (((Crowd.start c requests).run events).callers other).stage.isRunning = true → id = other := by
  obtain ⟨keyOfCell, linked⟩ := (Linked.start c requests quiet).run events
  refine ⟨linked.running_alone, ?_⟩
  intro key spares id other asked asked' running running'
  have pending := (Pending.start c requests key).run (Linked.start c requests quiet) key events spares
  have at_cell : ∀ id, (requests id).1 = key →
      (((Crowd.start c requests).run events).callers id).stage.isRunning = true →
      ∃ cell, (((Crowd.start c requests).run events).callers id).stage = .running cell ∧
        ((Crowd.start c requests).run events).cache.slots.lookup key = some cell := by
    intro id asked running
    have mine : (((Crowd.start c requests).run events).callers id).key = key :=
      ((Crowd.start c requests).run_key events id).trans asked
    cases stage : (((Crowd.start c requests).run events).callers id).stage with
    | running cell =>
      exact ⟨cell, rfl, (pending id mine).slotted cell _ (.inr stage) ((linked.fits id).owned cell stage) rfl⟩
    | _ => rw [stage] at running; cases running
  obtain ⟨cell, here, slot⟩ := at_cell id asked running
  obtain ⟨cell', here', slot'⟩ := at_cell other asked' running'
  obtain rfl := Option.some.inj (slot.symm.trans slot')
  exact linked.running_alone id other cell here here'

def sharing : List (Nat × Act Nat) :=
  [.move 0 .look, .move 0 .join, .move 0 .enter, .move 1 .look, .move 1 .join, .move 1 .enter,
    .move 0 (.finish (.ok 7)), .move 1 .enter, .move 0 .leave, .move 1 .leave].map (0, ·)

theorem sharing_computed_by_one :
    (((Crowd.start {} fun _ => ("k", none)).run (sharing.take 6)).callers 0).stage.isRunning = true ∧
      ¬ (((Crowd.start {} fun _ => ("k", none)).run (sharing.take 6)).callers 1).stage.isRunning = true := by
  have first : (((Crowd.start {} fun _ => ("k", none)).run (sharing.take 6)).callers 0).stage.isRunning = true :=
    rfl
  refine ⟨first, fun second => absurd ?_ Nat.zero_ne_one⟩
  exact (computed_by_one {} rfl (fun _ => ("k", none)) (sharing.take 6)).2 "k"
    (by simp [sharing, Act.spares]) 0 1 rfl rfl first second

-- Three callers of one key. The first fails while the second waits; the second begins at the same cell, the
-- first gives the slot free, and the third gets a cell of its own.
def comingLate : List (Nat × Act Nat) :=
  [.move 0 .look, .move 0 .join, .move 0 .enter, .move 1 .look, .move 1 .join,
    .move 0 (.finish (.error (.other "failed"))), .move 1 .enter, .move 0 .leave,
    .move 2 .look, .move 2 .join, .move 2 .enter].map (0, ·)

theorem late_caller_computes_beside :
    (((Crowd.start {} fun _ => ("k", none)).run comingLate).callers 1).stage.isRunning = true ∧
      (((Crowd.start {} fun _ => ("k", none)).run comingLate).callers 2).stage.isRunning = true := by
  decide

end ArchiveSearch.Cache
