import ArchiveSearch.Proofs.Cache.Atomic

namespace ArchiveSearch.Cache

set_option autoImplicit false

variable {α : Type}

namespace Atomic

def Stage.cell? : Stage α → Option Nat
  | .waiting cell => some cell
  | .entered cell => some cell
  | .running cell => some cell
  | .ended cell _ => some cell
  | .filling cell _ => some cell
  | .leaving cell _ => some cell
  | _ => none

def Stage.owned? : Stage α → Option Nat
  | .entered cell => some cell
  | .running cell => some cell
  | .ended cell _ => some cell
  | .filling cell _ => some cell
  | _ => none

theorem owned_cell (stage : Stage α) (cell : Nat) (owned : stage.owned? = some cell) : stage.cell? = some cell := by
  cases stage <;> first | exact owned | cases owned

structure Fits (keyOfCell : Nat → String) (c : Cache α) (id : Nat) (key : String) (stage : Stage α) : Prop where
  held : ∀ cell, stage.cell? = some cell → cell < c.cells.length ∧ keyOfCell cell = key
  owned : ∀ cell, stage.owned? = some cell → c.cells[cell]? = some { owner := some id }

/-- A cell serves one key, for the slots and for the callers, and whoever has entered it is alone in it. -/
structure Linked (keyOfCell : Nat → String) (s : Crowd α) : Prop where
  slots : ∀ key cell, s.cache.slots.lookup key = some cell → cell < s.cache.cells.length ∧ keyOfCell cell = key
  fits : ∀ id, Fits keyOfCell s.cache id (s.callers id).key (s.callers id).stage

theorem Fits.of_cells {keyOfCell : Nat → String} {c next : Cache α} (cells : next.cells = c.cells) {id : Nat}
    {key : String} {stage : Stage α} (fits : Fits keyOfCell c id key stage) : Fits keyOfCell next id key stage :=
  ⟨by rw [cells]; exact fits.held, by rw [cells]; exact fits.owned⟩

theorem Fits.of_none {keyOfCell : Nat → String} {c : Cache α} {id : Nat} {key : String} {stage : Stage α}
    (none_ : stage.cell? = none) : Fits keyOfCell c id key stage := by
  refine ⟨fun cell held => ?_, fun cell owned => ?_⟩
  · rw [none_] at held
    cases held
  · have held := owned_cell stage cell owned
    rw [none_] at held
    cases held

section Steps

variable {keyOfCell : Nat → String} {s : Crowd α} (linked : Linked keyOfCell s) (id : Nat) (next : Cache α)
  (stage : Stage α)

theorem linked_put {keyOfCell : Nat → String} {s : Crowd α} (id : Nat) (next : Cache α) (stage : Stage α)
    (slots : ∀ key cell, next.slots.lookup key = some cell → cell < next.cells.length ∧ keyOfCell cell = key)
    (mine : Fits keyOfCell next id (s.callers id).key stage)
    (others : ∀ other ≠ id, Fits keyOfCell next other (s.callers other).key (s.callers other).stage) :
    Linked keyOfCell (s.put id next stage) := by
  refine ⟨slots, fun other => ?_⟩
  rw [Crowd.put_key]
  by_cases same : other = id
  · subst same
    rwa [Crowd.put_stage]
  · rw [s.put_other id next stage other same]
    exact others other same

include linked

theorem Linked.same (slots : ∀ key cell, next.slots.lookup key = some cell → s.cache.slots.lookup key = some cell)
    (cells : next.cells = s.cache.cells) (mine : Fits keyOfCell s.cache id (s.callers id).key stage) :
    Linked keyOfCell (s.put id next stage) := by
  refine linked_put id next stage (fun key cell there => ?_) (mine.of_cells cells)
    fun other _ => (linked.fits other).of_cells cells
  rw [cells]
  exact linked.slots key cell (slots key cell there)

theorem Linked.kept (slots : next.slots = s.cache.slots) (cells : next.cells = s.cache.cells)
    (mine : Fits keyOfCell s.cache id (s.callers id).key stage) : Linked keyOfCell (s.put id next stage) :=
  linked.same id next stage (fun key cell there => by rwa [slots] at there) cells mine

theorem Linked.changed (cell : Nat) (content : Cell α) (before : (s.callers id).stage.cell? = some cell)
    (vacant : s.cache.cells[cell]? = some {} ∨ (s.callers id).stage.owned? = some cell)
    (after : stage.cell? = some cell) (owned : stage.owned? = none ∨ content = { owner := some id }) :
    Linked keyOfCell (s.put id (s.cache.setCell cell content) stage) := by
  have inside := (linked.fits id).held cell before
  have count : (s.cache.setCell cell content).cells.length = s.cache.cells.length := List.length_set
  have alone : ∀ other ≠ id, (s.callers other).stage.owned? ≠ some cell := by
    intro other apart mine
    have there := (linked.fits other).owned cell mine
    rcases vacant with vacant | owned
    · rw [vacant] at there
      cases there
    · rw [(linked.fits id).owned cell owned] at there
      cases there
      exact apart rfl
  refine linked_put id _ stage (by rw [count]; exact linked.slots) ⟨?_, fun held mine => ?_⟩
    fun other apart => ⟨by rw [count]; exact (linked.fits other).held, fun held mine => ?_⟩
  · rintro held mine
    rw [after] at mine
    cases mine
    rwa [count]
  · cases (owned_cell stage held mine).symm.trans after
    rcases owned with none_ | rfl
    · rw [none_] at mine
      cases mine
    · exact List.getElem?_set_self inside.1
  · have elsewhere : cell ≠ held := fun same => alone other apart (same ▸ mine)
    exact (List.getElem?_set_ne elsewhere).trans ((linked.fits other).owned held mine)

theorem Linked.grown (free : s.cache.slots.lookup (s.callers id).key = none) :
    ∃ keyOfCell', Linked keyOfCell' (s.put id
      { s.cache with
        slots := s.cache.slots ++ [((s.callers id).key, s.cache.cells.length)], cells := s.cache.cells ++ [{}] }
      (.waiting s.cache.cells.length)) := by
  have slots := joined_lookup s.cache.slots (s.callers id).key s.cache.cells.length free
  have longer : ∀ cell ≤ s.cache.cells.length, cell < (s.cache.cells ++ [({} : Cell α)]).length := fun cell within => by
    rw [List.length_append, List.length_singleton]
    omega
  have serves : ∀ cell < s.cache.cells.length,
      Function.update keyOfCell s.cache.cells.length (s.callers id).key cell = keyOfCell cell := fun cell old =>
    Function.update_of_ne (by omega) _ _
  refine ⟨Function.update keyOfCell s.cache.cells.length (s.callers id).key,
    linked_put id _ _ (fun key cell there => ?_) ⟨fun held mine => ?_, fun held mine => by cases mine⟩
      fun other _ => ⟨fun held mine => ?_, fun held mine => ?_⟩⟩
  · rcases (slots key cell).1 there with old | ⟨rfl, rfl⟩
    · obtain ⟨inside, same⟩ := linked.slots key cell old
      exact ⟨longer cell (Nat.le_of_lt inside), (serves cell inside).trans same⟩
    · exact ⟨longer _ (Nat.le_refl _), Function.update_self _ _ _⟩
  · cases mine
    exact ⟨longer _ (Nat.le_refl _), Function.update_self _ _ _⟩
  · obtain ⟨inside, same⟩ := (linked.fits other).held held mine
    exact ⟨longer held (Nat.le_of_lt inside), (serves held inside).trans same⟩
  · have old := (linked.fits other).owned held mine
    exact (List.getElem?_append_left (List.getElem?_eq_some_iff.1 old).1).trans old

theorem Linked.joined : ∃ keyOfCell', Linked keyOfCell' (s.put id (s.cache.joinCell (s.callers id).key).2
    (.waiting (s.cache.joinCell (s.callers id).key).1)) := by
  rcases s.cache.join_cell_cases (s.callers id).key with ⟨cell, there, joined⟩ | ⟨free, joined⟩ <;> rw [joined]
  · refine ⟨keyOfCell, linked.kept id _ _ rfl rfl ⟨fun held mine => ?_, fun held mine => by cases mine⟩⟩
    cases mine
    exact linked.slots _ _ there
  · exact linked.grown id free

theorem Linked.stepped (now : Nat) (stepped : Stepped now id s.cache (s.callers id).key (s.callers id).ttl
    (s.callers id).stage next stage) : ∃ keyOfCell', Linked keyOfCell' (s.put id next stage) := by
  have fits := linked.fits id
  generalize stage_ : (s.callers id).stage = before at stepped fits
  cases stepped with
  | idle => exact ⟨_, linked.kept id _ _ rfl rfl fits⟩
  | hit value found =>
    exact ⟨_, linked.kept id _ _ (s.cache.get_slots now _) (s.cache.get_cells now _) (Fits.of_none rfl)⟩
  | miss => exact ⟨_, linked.kept id _ _ (s.cache.get_slots now _) (s.cache.get_cells now _) (Fits.of_none rfl)⟩
  | join => exact linked.joined id
  | share cell content value there filled =>
    exact ⟨_, linked.kept id _ _ rfl rfl ⟨fits.held, fun _ mine => by cases mine⟩⟩
  | enter cell empty =>
    exact ⟨_, linked.changed id _ cell _ (by rw [stage_]; rfl) (.inl empty) rfl (.inr rfl)⟩
  | find cell value found =>
    exact ⟨_, linked.kept id _ _ (s.cache.lookup_slots now _) (s.cache.lookup_cells now _) ⟨fits.held, fits.owned⟩⟩
  | begin cell =>
    exact ⟨_, linked.kept id _ _ (s.cache.lookup_slots now _) (s.cache.lookup_cells now _) ⟨fits.held, fits.owned⟩⟩
  | finish cell answer => exact ⟨_, linked.kept id _ _ rfl rfl ⟨fits.held, fits.owned⟩⟩
  | store cell value =>
    exact ⟨_, linked.kept id _ _ (s.cache.set_slots now _ value _) (s.cache.set_cells now _ value _)
      ⟨fits.held, fits.owned⟩⟩
  | vacate cell e =>
    have mine : (s.callers id).stage.owned? = some cell := by rw [stage_]; rfl
    exact ⟨_, linked.changed id _ cell _ (owned_cell _ cell mine) (.inr mine) rfl (.inl rfl)⟩
  | fill cell value =>
    have mine : (s.callers id).stage.owned? = some cell := by rw [stage_]; rfl
    exact ⟨_, linked.changed id _ cell _ (owned_cell _ cell mine) (.inr mine) rfl (.inl rfl)⟩
  | leave cell answer =>
    exact ⟨_, linked.same id _ _ (fun key held there => ((s.cache.release_lookup _ cell key held).1 there).1)
      (s.cache.release_cells _ cell) (Fits.of_none rfl)⟩

theorem Linked.act (now : Nat) (a : Act α) : ∃ keyOfCell', Linked keyOfCell' (s.act now a) := by
  cases a with
  | advance id => exact linked.stepped id _ _ now (advance_stepped now id _ _ _ _)
  | finish id answer =>
    rcases s.act_finish now id answer with same | ⟨cell, running, ended⟩
    · exact ⟨keyOfCell, by rwa [same]⟩
    · rw [ended]
      exact linked.stepped id _ _ now (running ▸ .finish cell answer)
  | set key value ttl =>
    have cells := s.cache.set_cells now key value ttl
    refine ⟨_, fun name cell there => ?_, fun id => (linked.fits id).of_cells cells⟩
    rw [Crowd.act, set_slots] at there
    rw [Crowd.act, cells]
    exact linked.slots name cell there
  | delete key => exact ⟨_, linked.slots, fun id => ⟨(linked.fits id).held, (linked.fits id).owned⟩⟩
  | remove covers => exact ⟨_, linked.slots, fun id => ⟨(linked.fits id).held, (linked.fits id).owned⟩⟩
  | empty => exact ⟨_, linked.slots, fun id => ⟨(linked.fits id).held, (linked.fits id).owned⟩⟩
  | forget =>
    exact ⟨keyOfCell, fun _ _ there => (by cases there), fun id => ⟨(linked.fits id).held, (linked.fits id).owned⟩⟩

theorem Linked.run (events : List (Nat × Act α)) : ∃ keyOfCell', Linked keyOfCell' (s.run events) := by
  induction events generalizing s keyOfCell with
  | nil => exact ⟨keyOfCell, linked⟩
  | cons event events ih =>
    obtain ⟨keyOfCell', linked'⟩ := linked.act event.1 event.2
    exact ih linked'

end Steps

theorem linked_start (c : Cache α) (quiet : c.Quiet) (requests : Nat → String × Option Nat) :
    Linked (fun _ => "") (Crowd.start c requests) := by
  have empty : c.slots = [] := quiet
  refine ⟨?_, fun id => ⟨?_, ?_⟩⟩ <;> simp [Crowd.start, empty, Stage.cell?, Stage.owned?]

def Backed (s : Crowd α) : Prop :=
  ∀ key cell content value, s.cache.slots.lookup key = some cell → s.cache.cells[cell]? = some content →
    content.value = some value → ∃ id, (s.callers id).stage = .leaving cell (.ok value)

theorem backed_put {s : Crowd α} (backed : Backed s) (id : Nat) (next : Cache α) (stage : Stage α)
    (known : ∀ key cell content value, next.slots.lookup key = some cell → next.cells[cell]? = some content →
      content.value = some value → stage = .leaving cell (.ok value) ∨
        (s.cache.slots.lookup key = some cell ∧ s.cache.cells[cell]? = some content ∧
          (s.callers id).stage ≠ .leaving cell (.ok value))) : Backed (s.put id next stage) := by
  intro key cell content value there inside full
  rcases known key cell content value there inside full with left | ⟨there, inside, before⟩
  · exact ⟨id, by rw [Crowd.put_stage, left]⟩
  · obtain ⟨other, left⟩ := backed key cell content value there inside full
    have apart : other ≠ id := fun same => before (same ▸ left)
    exact ⟨other, by rw [s.put_other id next stage other apart, left]⟩

theorem Backed.stepped {keyOfCell : Nat → String} {s : Crowd α} (linked : Linked keyOfCell s) (backed : Backed s)
    (now id : Nat) (next : Cache α) (stage : Stage α) (stepped : Stepped now id s.cache (s.callers id).key
      (s.callers id).ttl (s.callers id).stage next stage) : Backed (s.put id next stage) := by
  have fits := linked.fits id
  refine backed_put backed id next stage fun key held content value there inside full => ?_
  generalize (s.callers id).stage = before at stepped fits
  have kept : next.slots = s.cache.slots → next.cells = s.cache.cells → before ≠ .leaving held (.ok value) →
      s.cache.slots.lookup key = some held ∧ s.cache.cells[held]? = some content ∧ before ≠ .leaving held (.ok value) := by
    intro slots cells apart
    rw [slots] at there
    rw [cells] at inside
    exact ⟨there, inside, apart⟩
  cases stepped with
  | idle =>
    by_cases left : stage = .leaving held (.ok value)
    · exact .inl left
    · exact .inr (kept rfl rfl left)
  | hit => exact .inr (kept (s.cache.get_slots now _) (s.cache.get_cells now _) (by simp))
  | miss => exact .inr (kept (s.cache.get_slots now _) (s.cache.get_cells now _) (by simp))
  | join =>
    rcases s.cache.join_cell_cases (s.callers id).key with ⟨cell, -, joined⟩ | ⟨free, joined⟩ <;>
      rw [joined] at there inside
    · exact .inr ⟨there, inside, by simp⟩
    · rcases (joined_lookup s.cache.slots _ _ free key held).1 there with old | ⟨-, rfl⟩
      · exact .inr ⟨old, (List.getElem?_append_left (linked.slots key held old).1).symm.trans inside, by simp⟩
      · rw [List.getElem?_concat_length] at inside
        cases inside
        cases full
  | share => exact .inr (kept rfl rfl (by simp))
  | enter cell =>
    rcases s.cache.set_cell_found cell _ held content inside with ⟨-, rfl⟩ | ⟨-, old⟩
    · cases full
    · exact .inr ⟨there, old, by simp⟩
  | find => exact .inr (kept (s.cache.lookup_slots now _) (s.cache.lookup_cells now _) (by simp))
  | begin => exact .inr (kept (s.cache.lookup_slots now _) (s.cache.lookup_cells now _) (by simp))
  | finish => exact .inr (kept rfl rfl (by simp))
  | store cell given =>
    exact .inr (kept (s.cache.set_slots now _ given _) (s.cache.set_cells now _ given _) (by simp))
  | vacate cell =>
    rcases s.cache.set_cell_found cell _ held content inside with ⟨-, rfl⟩ | ⟨-, old⟩
    · cases full
    · exact .inr ⟨there, old, by simp⟩
  | fill cell =>
    rcases s.cache.set_cell_found cell _ held content inside with ⟨rfl, rfl⟩ | ⟨-, old⟩
    · cases full
      exact .inl rfl
    · exact .inr ⟨there, old, by simp⟩
  | leave cell answer =>
    obtain ⟨old, apart⟩ := (s.cache.release_lookup _ cell key held).1 there
    rw [release_cells] at inside
    refine .inr ⟨old, inside, fun left => apart ?_⟩
    -- A slot that holds this cell has this key, and was taken away.
    cases left
    exact ⟨(linked.slots key held old).2.symm.trans (fits.held held rfl).2, rfl⟩

theorem Backed.act {keyOfCell : Nat → String} {s : Crowd α} (linked : Linked keyOfCell s) (backed : Backed s)
    (now : Nat) (a : Act α) : Backed (s.act now a) := by
  cases a with
  | advance id => exact backed.stepped linked now id _ _ (advance_stepped now id _ _ _ _)
  | finish id answer =>
    rcases s.act_finish now id answer with same | ⟨cell, running, ended⟩
    · rwa [same]
    · rw [ended]
      exact backed.stepped linked now id _ _ (running ▸ .finish cell answer)
  | set name given ttl =>
    intro key cell content value there inside
    rw [Crowd.act, set_slots] at there
    rw [Crowd.act, set_cells] at inside
    exact backed key cell content value there inside
  | delete key => exact backed
  | remove covers => exact backed
  | empty => exact backed
  | forget => exact fun _ _ _ _ there => by cases there

theorem backed_start (c : Cache α) (quiet : c.Quiet) (requests : Nat → String × Option Nat) :
    Backed (Crowd.start c requests) := by
  intro key cell content value there
  have empty : c.slots = [] := quiet
  simp [Crowd.start, empty] at there

theorem Backed.run {keyOfCell : Nat → String} {s : Crowd α} (linked : Linked keyOfCell s) (backed : Backed s)
    (events : List (Nat × Act α)) : Backed (s.run events) := by
  induction events generalizing s keyOfCell with
  | nil => exact backed
  | cons event events ih =>
    obtain ⟨keyOfCell', linked'⟩ := linked.act event.1 event.2
    exact ih linked' (backed.act linked event.1 event.2)

theorem reached_linked (c : Cache α) (quiet : c.Quiet) (requests : Nat → String × Option Nat)
    (events : List (Nat × Act α)) :
    (∃ keyOfCell, Linked keyOfCell ((Crowd.start c requests).run events)) ∧
      Backed ((Crowd.start c requests).run events) := by
  have linked := linked_start c quiet requests
  exact ⟨linked.run events, (backed_start c quiet requests).run linked events⟩

theorem of_cell (stage : Cache.Stage α) : (Stage.of stage).cell? = stage.cell? := by
  cases stage <;> rfl

theorem of_owned_iff (stage : Cache.Stage α) (cell : Nat) :
    (Stage.of stage).owned? = some cell ↔ stage = .running cell := by
  cases stage <;> simp [Stage.of, Stage.owned?]

theorem of_linked_iff (keyOfCell : Nat → String) (s : Cache.Crowd α) :
    Linked keyOfCell (Crowd.of s) ↔ Cache.Linked keyOfCell s.cache s.callers := by
  constructor
  · refine fun linked => ⟨linked.slots, fun id => ⟨fun cell held => ?_, fun cell running => ?_⟩⟩
    · exact (linked.fits id).held cell ((of_cell _).trans held)
    · exact (linked.fits id).owned cell ((of_owned_iff _ cell).2 running)
  · refine fun linked => ⟨linked.slots, fun id => ⟨fun cell held => ?_, fun cell owned => ?_⟩⟩
    · exact (linked.fits id).held cell ((of_cell _).symm.trans held)
    · exact (linked.fits id).owned cell ((of_owned_iff _ cell).1 owned)

end Atomic

theorem Linked.act {keyOfCell : Nat → String} {s : Crowd α} (linked : Linked keyOfCell s.cache s.callers) (now : Nat)
    (a : Act α) : ∃ keyOfCell', Linked keyOfCell' (s.act now a).cache (s.act now a).callers := by
  obtain ⟨acts, acted, -⟩ := Atomic.act_composed s now a
  obtain ⟨keyOfCell', linked'⟩ := ((Atomic.of_linked_iff keyOfCell s).2 linked).run (acts.map (now, ·))
  rw [acted] at linked'
  exact ⟨keyOfCell', (Atomic.of_linked_iff _ _).1 linked'⟩

theorem Linked.start (c : Cache α) (requests : Nat → String × Option Nat) (quiet : c.Quiet) :
    Linked (fun _ => "") (Crowd.start c requests).cache (Crowd.start c requests).callers :=
  (Atomic.of_linked_iff _ (Crowd.start c requests)).1 (Atomic.linked_start c quiet requests)

theorem Linked.run {keyOfCell : Nat → String} {s : Crowd α} (linked : Linked keyOfCell s.cache s.callers)
    (events : List (Nat × Act α)) :
    ∃ keyOfCell', Linked keyOfCell' (s.run events).cache (s.run events).callers := by
  induction events generalizing s keyOfCell with
  | nil => exact ⟨keyOfCell, linked⟩
  | cons event events ih =>
    obtain ⟨keyOfCell', linked⟩ := linked.act event.1 event.2
    exact ih linked

end ArchiveSearch.Cache
