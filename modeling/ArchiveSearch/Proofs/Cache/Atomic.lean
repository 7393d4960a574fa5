import ArchiveSearch.Proofs.Cache.Interleaving

namespace ArchiveSearch.Cache

set_option autoImplicit false

variable {α : Type}

theorem lookup_set_cell (c : Cache α) (now : Nat) (key : String) (cell : Nat) (content : Cell α) :
    (c.setCell cell content).lookup now key = ((c.lookup now key).1, (c.lookup now key).2.setCell cell content) := by
  unfold lookup
  rw [show (c.setCell cell content).find? key = c.find? key from rfl]
  cases c.find? key with
  | none => rfl
  | some e => by_cases old : e.isExpired now <;> simp [old, setCell]

theorem set_cell_twice (c : Cache α) (cell : Nat) (first second : Cell α) :
    (c.setCell cell first).setCell cell second = c.setCell cell second := by
  simp [setCell]

theorem set_cell_found (c : Cache α) (cell : Nat) (content : Cell α) (held : Nat) (found : Cell α)
    (there : (c.setCell cell content).cells[held]? = some found) :
    (held = cell ∧ found = content) ∨ (held ≠ cell ∧ c.cells[held]? = some found) := by
  rw [setCell, List.getElem?_set] at there
  split at there
  · next same =>
    split at there
    · exact .inl ⟨same.symm, (Option.some.inj there).symm⟩
    · cases there
  · next apart => exact .inr ⟨Ne.symm apart, there⟩

/- Callers whose steps are as small as the locks make them. Between two steps a caller holds no lock: it has taken the
   cell but has not looked into the cache again, its computation has ended and its value is not stored yet, the value is
   stored and the cell not filled yet. To clear the cache takes two locks, and anything may come between them. The moves
   of callers are made of such steps, so that what every run of steps keeps is kept by the moves. -/
namespace Atomic

inductive Stage (α : Type) where
  | ready
  | missed
  | waiting (cell : Nat)
  | entered (cell : Nat)
  | running (cell : Nat)
  | ended (cell : Nat) (answer : Outcome α)
  | filling (cell : Nat) (value : α)
  | leaving (cell : Nat) (answer : Outcome α)
  | done (answer : Outcome α)

structure Caller (α : Type) where
  key : String
  ttl : Option Nat
  stage : Stage α := .ready

inductive Act (α : Type) where
  | advance (id : Nat)
  | finish (id : Nat) (answer : Outcome α)
  | set (key : String) (value : α) (ttl : Option Nat)
  | delete (key : String)
  | remove (covers : String → Bool)
  | empty
  | forget

def enter (id : Nat) (c : Cache α) (cell : Nat) : Cache α × Stage α :=
  match c.cells[cell]? with
  | none => (c, .waiting cell)
  | some content =>
      match content.value, content.owner with
      | some value, _ => (c, .leaving cell (.ok value))
      | none, some _ => (c, .waiting cell)
      | none, none => (c.setCell cell { owner := some id }, .entered cell)

def advance (now id : Nat) (c : Cache α) (key : String) (ttl : Option Nat) : Stage α → Cache α × Stage α
  | .ready =>
      ((c.get now key).2, match (c.get now key).1 with
        | some value => .done (.ok value)
        | none => .missed)
  | .missed => ((c.joinCell key).2, .waiting (c.joinCell key).1)
  | .waiting cell => enter id c cell
  | .entered cell =>
      ((c.lookup now key).2, match (c.lookup now key).1 with
        | some value => .filling cell value
        | none => .running cell)
  | .running cell => (c, .running cell)
  | .ended cell (.ok value) => (c.set now key value ttl, .filling cell value)
  | .ended cell (.error e) => (c.setCell cell {}, .leaving cell (.error e))
  | .filling cell value => (c.setCell cell { value := some value }, .leaving cell (.ok value))
  | .leaving cell answer => (c.release key cell, .done answer)
  | .done answer => (c, .done answer)

def Stage.finished (answer : Outcome α) : Stage α → Stage α
  | .running cell => .ended cell answer
  | stage => stage

structure Crowd (α : Type) where
  cache : Cache α
  callers : Nat → Caller α

namespace Crowd

def start (c : Cache α) (requests : Nat → String × Option Nat) : Crowd α :=
  { cache := c, callers := fun id => { key := (requests id).1, ttl := (requests id).2 } }

def put (s : Crowd α) (id : Nat) (c : Cache α) (stage : Stage α) : Crowd α :=
  { cache := c, callers := Function.update s.callers id { s.callers id with stage } }

def act (now : Nat) (s : Crowd α) : Act α → Crowd α
  | .advance id =>
      let (c, stage) := advance now id s.cache (s.callers id).key (s.callers id).ttl (s.callers id).stage
      s.put id c stage
  | .finish id answer => s.put id s.cache ((s.callers id).stage.finished answer)
  | .set key value ttl => { s with cache := s.cache.set now key value ttl }
  | .delete key => { s with cache := (s.cache.delete key).2 }
  | .remove covers => { s with cache := (s.cache.invalidate covers).2 }
  | .empty => { s with cache := { s.cache with entries := [] } }
  | .forget => { s with cache := { s.cache with slots := [] } }

def run : List (Nat × Act α) → Crowd α → Crowd α
  | [], s => s
  | (now, a) :: rest, s => run rest (s.act now a)

theorem run_append (first second : List (Nat × Act α)) (s : Crowd α) :
    run (first ++ second) s = run second (run first s) := by
  induction first generalizing s with
  | nil => rfl
  | cons event first ih => exact ih (s.act event.1 event.2)

@[simp]
theorem put_cache (s : Crowd α) (id : Nat) (c : Cache α) (stage : Stage α) : (s.put id c stage).cache = c :=
  rfl

@[simp]
theorem put_stage (s : Crowd α) (id : Nat) (c : Cache α) (stage : Stage α) :
    ((s.put id c stage).callers id).stage = stage := by
  simp [put]

theorem put_other (s : Crowd α) (id : Nat) (c : Cache α) (stage : Stage α) (other : Nat) (apart : other ≠ id) :
    (s.put id c stage).callers other = s.callers other :=
  Function.update_of_ne apart _ _

theorem put_caller (s : Crowd α) (id : Nat) (c : Cache α) (stage : Stage α) (other : Nat) :
    ((s.put id c stage).callers other).key = (s.callers other).key ∧
      ((s.put id c stage).callers other).ttl = (s.callers other).ttl := by
  by_cases same : other = id
  · simp [put, same]
  · rw [s.put_other id c stage other same]
    exact ⟨rfl, rfl⟩

@[simp]
theorem put_key (s : Crowd α) (id : Nat) (c : Cache α) (stage : Stage α) (other : Nat) :
    ((s.put id c stage).callers other).key = (s.callers other).key :=
  (s.put_caller id c stage other).1

@[simp]
theorem put_ttl (s : Crowd α) (id : Nat) (c : Cache α) (stage : Stage α) (other : Nat) :
    ((s.put id c stage).callers other).ttl = (s.callers other).ttl :=
  (s.put_caller id c stage other).2

@[simp]
theorem put_put (s : Crowd α) (id : Nat) (c next : Cache α) (stage later : Stage α) :
    (s.put id c stage).put id next later = s.put id next later := by
  simp [put]

theorem put_self (s : Crowd α) (id : Nat) : s.put id s.cache (s.callers id).stage = s :=
  congrArg (mk s.cache) (Function.update_eq_self id s.callers)

theorem act_finish (s : Crowd α) (now id : Nat) (answer : Outcome α) : s.act now (.finish id answer) = s ∨
    ∃ cell, (s.callers id).stage = .running cell ∧
      s.act now (.finish id answer) = s.put id s.cache (.ended cell answer) := by
  rw [act]
  cases stage : (s.callers id).stage with
  | running cell => exact .inr ⟨cell, rfl, rfl⟩
  | _ => exact .inl ((congrArg (s.put id s.cache) stage.symm).trans (s.put_self id))

theorem act_key (s : Crowd α) (now : Nat) (a : Act α) (id : Nat) :
    ((s.act now a).callers id).key = (s.callers id).key := by
  cases a with
  | advance mover => exact s.put_key mover _ _ id
  | finish mover answer => exact s.put_key mover _ _ id
  | _ => rfl

theorem run_key (s : Crowd α) (events : List (Nat × Act α)) (id : Nat) :
    ((s.run events).callers id).key = (s.callers id).key := by
  induction events generalizing s with
  | nil => rfl
  | cons event events ih => exact (ih _).trans (s.act_key event.1 event.2 id)

end Crowd

inductive Stepped (now id : Nat) (c : Cache α) (key : String) (ttl : Option Nat) : Stage α → Cache α → Stage α → Prop
  | idle (stage : Stage α) : Stepped now id c key ttl stage c stage
  | hit (value : α) (found : (c.get now key).1 = some value) :
      Stepped now id c key ttl .ready (c.get now key).2 (.done (.ok value))
  | miss : Stepped now id c key ttl .ready (c.get now key).2 .missed
  | join : Stepped now id c key ttl .missed (c.joinCell key).2 (.waiting (c.joinCell key).1)
  | share (cell : Nat) (content : Cell α) (value : α) (there : c.cells[cell]? = some content)
      (filled : content.value = some value) :
      Stepped now id c key ttl (.waiting cell) c (.leaving cell (.ok value))
  | enter (cell : Nat) (vacant : c.cells[cell]? = some {}) :
      Stepped now id c key ttl (.waiting cell) (c.setCell cell { owner := some id }) (.entered cell)
  | find (cell : Nat) (value : α) (found : (c.lookup now key).1 = some value) :
      Stepped now id c key ttl (.entered cell) (c.lookup now key).2 (.filling cell value)
  | begin (cell : Nat) : Stepped now id c key ttl (.entered cell) (c.lookup now key).2 (.running cell)
  | finish (cell : Nat) (answer : Outcome α) :
      Stepped now id c key ttl (.running cell) c (.ended cell answer)
  | store (cell : Nat) (value : α) :
      Stepped now id c key ttl (.ended cell (.ok value)) (c.set now key value ttl) (.filling cell value)
  | vacate (cell : Nat) (e : SearchError) :
      Stepped now id c key ttl (.ended cell (.error e)) (c.setCell cell {}) (.leaving cell (.error e))
  | fill (cell : Nat) (value : α) :
      Stepped now id c key ttl (.filling cell value) (c.setCell cell { value := some value }) (.leaving cell (.ok value))
  | leave (cell : Nat) (answer : Outcome α) :
      Stepped now id c key ttl (.leaving cell answer) (c.release key cell) (.done answer)

theorem advance_stepped (now id : Nat) (c : Cache α) (key : String) (ttl : Option Nat) (stage : Stage α) :
    Stepped now id c key ttl stage (advance now id c key ttl stage).1 (advance now id c key ttl stage).2 := by
  cases stage with
  | ready =>
    unfold advance
    cases found : (c.get now key).1 with
    | some value => exact .hit value found
    | none => exact .miss
  | missed => exact .join
  | waiting cell =>
    unfold advance enter
    dsimp only
    cases there : c.cells[cell]? with
    | none => exact .idle _
    | some content =>
      obtain ⟨value, owner⟩ := content
      cases value with
      | some value => exact .share cell _ value there rfl
      | none =>
        cases owner with
        | some owner => exact .idle _
        | none => exact .enter cell there
  | entered cell =>
    unfold advance
    cases found : (c.lookup now key).1 with
    | some value => exact .find cell value found
    | none => exact .begin cell
  | running cell => exact .idle _
  | ended cell answer =>
    cases answer with
    | ok value => exact .store cell value
    | error e => exact .vacate cell e
  | filling cell value => exact .fill cell value
  | leaving cell answer => exact .leave cell answer
  | done answer => exact .idle _

namespace Crowd

def Stores (s : Crowd α) (key : String) (value : α) : Act α → Prop
  | .set name given _ => name = key ∧ given = value
  | .advance id => (s.callers id).key = key ∧ ∃ cell, (s.callers id).stage = .ended cell (.ok value)
  | _ => False

def Stored (s : Crowd α) (events : List (Nat × Act α)) (key : String) (value : α) : Prop :=
  ∃ before now a after, events = before ++ (now, a) :: after ∧ (s.run before).Stores key value a

theorem stored_nil (s : Crowd α) (key : String) (value : α) : ¬ s.Stored [] key value := by
  rintro ⟨before, now, a, after, split, -⟩
  simp at split

theorem stored_cons (s : Crowd α) (event : Nat × Act α) (rest : List (Nat × Act α)) (key : String) (value : α) :
    s.Stored (event :: rest) key value ↔
      s.Stores key value event.2 ∨ (s.act event.1 event.2).Stored rest key value := by
  constructor
  · rintro ⟨before, now, a, after, split, stores⟩
    cases before with
    | nil =>
      cases split
      exact .inl stores
    | cons first before =>
      cases split
      exact .inr ⟨before, now, a, after, rfl, stores⟩
  · rintro (stores | ⟨before, now, a, after, rfl, stores⟩)
    · exact ⟨[], event.1, event.2, rest, rfl, stores⟩
    · exact ⟨event :: before, now, a, after, rfl, stores⟩

theorem stored_append (s : Crowd α) (first second : List (Nat × Act α)) (key : String) (value : α) :
    s.Stored (first ++ second) key value ↔ s.Stored first key value ∨ (s.run first).Stored second key value := by
  induction first generalizing s with
  | nil => simp [run, s.stored_nil key value]
  | cons event first ih => rw [List.cons_append, stored_cons, stored_cons, ih, or_assoc, run]

end Crowd

def Stage.of : Cache.Stage α → Stage α
  | .ready => .ready
  | .missed => .missed
  | .waiting cell => .waiting cell
  | .running cell => .running cell
  | .leaving cell answer => .leaving cell answer
  | .done answer => .done answer

def Crowd.of (s : Cache.Crowd α) : Crowd α :=
  { cache := s.cache
    callers := fun id => { key := (s.callers id).key, ttl := (s.callers id).ttl, stage := .of (s.callers id).stage } }

section Composition

variable (s : Crowd α) (now id : Nat) (c : Cache α)

theorem put_advance (stage : Stage α) : (s.put id c stage).act now (.advance id) =
    s.put id (advance now id c (s.callers id).key (s.callers id).ttl stage).1
      (advance now id c (s.callers id).key (s.callers id).ttl stage).2 := by
  simp [Crowd.act]

theorem put_finish (cell : Nat) (answer : Outcome α) : (s.put id c (.running cell)).act now (.finish id answer) =
    s.put id c (.ended cell answer) := by
  simp [Crowd.act, Stage.finished]

theorem put_stores (stage : Stage α) (key : String) (value : α) :
    (s.put id c stage).Stores key value (.advance id) ↔
      (s.callers id).key = key ∧ ∃ cell, stage = .ended cell (.ok value) := by
  simp [Crowd.Stores]

end Composition

theorem moved_composed {s : Cache.Crowd α} {now id : Nat} {m : Move α} {next : Cache α} {stage : Cache.Stage α}
    (moved : Moved now id s.cache (s.callers id) m next stage) :
    ∃ acts : List (Act α), (Crowd.of s).run (acts.map (now, ·)) = (Crowd.of s).put id next (.of stage) ∧
      ∀ key value, (Crowd.of s).Stored (acts.map (now, ·)) key value → s.Puts key value (.move id m) := by
  have key : ((Crowd.of s).callers id).key = (s.callers id).key := rfl
  have ttl : ((Crowd.of s).callers id).ttl = (s.callers id).ttl := rfl
  have start : ∀ stage, (s.callers id).stage = stage → (Crowd.of s).put id s.cache (.of stage) = Crowd.of s := by
    rintro _ rfl
    exact (Crowd.of s).put_self id
  cases moved with
  | idle => exact ⟨[], (start _ rfl).symm, fun key value stored => absurd stored ((Crowd.of s).stored_nil key value)⟩
  | hit value ready found =>
    refine ⟨[.advance id], ?_, ?_⟩ <;> rw [← start _ ready]
    · simp [Crowd.run, put_advance, Stage.of, key, advance, found]
    · simp [Crowd.stored_cons, Crowd.stored_nil, put_advance, put_stores, Stage.of]
  | miss ready missing =>
    refine ⟨[.advance id], ?_, ?_⟩ <;> rw [← start _ ready]
    · simp [Crowd.run, put_advance, Stage.of, key, advance, missing]
    · simp [Crowd.stored_cons, Crowd.stored_nil, put_advance, put_stores, Stage.of]
  | join missed =>
    refine ⟨[.advance id], ?_, ?_⟩ <;> rw [← start _ missed]
    · simp [Crowd.run, put_advance, Stage.of, key, advance]
    · simp [Crowd.stored_cons, Crowd.stored_nil, put_advance, put_stores, Stage.of]
  | share cell content value waiting there filled =>
    refine ⟨[.advance id], ?_, ?_⟩ <;> rw [← start _ waiting]
    · simp [Crowd.run, put_advance, Stage.of, advance, enter, there, filled]
    · simp [Crowd.stored_cons, Crowd.stored_nil, put_advance, put_stores, Stage.of]
  | find cell value waiting vacant found =>
    refine ⟨[.advance id, .advance id, .advance id], ?_, ?_⟩ <;> rw [← start _ waiting]
    · simp [Crowd.run, put_advance, Stage.of, key, advance, enter, vacant, lookup_set_cell, found, set_cell_twice]
    · simp [Crowd.stored_cons, Crowd.stored_nil, put_advance, put_stores, Stage.of, key, advance, enter, vacant,
        lookup_set_cell, found]
  | begin cell waiting vacant missing =>
    refine ⟨[.advance id, .advance id], ?_, ?_⟩ <;> rw [← start _ waiting]
    · simp [Crowd.run, put_advance, Stage.of, key, advance, enter, vacant, lookup_set_cell, missing]
    · simp [Crowd.stored_cons, Crowd.stored_nil, put_advance, put_stores, Stage.of, advance, enter, vacant]
  | succeed cell value running =>
    refine ⟨[.finish id (.ok value), .advance id, .advance id], ?_, ?_⟩ <;> rw [← start _ running]
    · simp [Crowd.run, put_advance, put_finish, Stage.of, key, ttl, advance]
    · simp [Crowd.stored_cons, Crowd.stored_nil, put_advance, put_finish, Stage.of, key, advance, Crowd.Stores,
        Crowd.Puts, Stage.isRunning, running]
  | fail cell e running =>
    refine ⟨[.finish id (.error e), .advance id], ?_, ?_⟩ <;> rw [← start _ running]
    · simp [Crowd.run, put_advance, put_finish, Stage.of, advance]
    · simp [Crowd.stored_cons, Crowd.stored_nil, put_finish, Stage.of, Crowd.Stores]
  | leave cell answer leaving =>
    refine ⟨[.advance id], ?_, ?_⟩ <;> rw [← start _ leaving]
    · simp [Crowd.run, put_advance, Stage.of, key, advance]
    · simp [Crowd.stored_cons, Crowd.stored_nil, put_advance, put_stores, Stage.of]

theorem act_composed (s : Cache.Crowd α) (now : Nat) (a : Cache.Act α) :
    ∃ acts : List (Act α), (Crowd.of s).run (acts.map (now, ·)) = Crowd.of (s.act now a) ∧
      ∀ key value, (Crowd.of s).Stored (acts.map (now, ·)) key value → s.Puts key value a := by
  cases a with
  | move id m =>
    obtain ⟨moved, -⟩ := move_moved now id m s.cache (s.callers id)
    obtain ⟨acts, ran, stored⟩ := moved_composed moved
    refine ⟨acts, ran.trans ?_, stored⟩
    rw [Crowd.put, Crowd.of, Cache.Crowd.act, move_caller, Crowd.of]
    congr 1
    funext other
    by_cases same : other = id
    · subst same
      simp
    · simp [same]
  | set name given ttl =>
    refine ⟨[.set name given ttl], rfl, ?_⟩
    simp [Crowd.stored_cons, Crowd.stored_nil, Crowd.Stores, Crowd.Puts]
  | remove covers =>
    refine ⟨[.remove covers], rfl, ?_⟩
    simp [Crowd.stored_cons, Crowd.stored_nil, Crowd.Stores]
  | clear =>
    refine ⟨[.empty, .forget], rfl, ?_⟩
    simp [Crowd.stored_cons, Crowd.stored_nil, Crowd.Stores]

theorem run_composed (s : Cache.Crowd α) (events : List (Nat × Cache.Act α)) :
    ∃ steps, (Crowd.of s).run steps = Crowd.of (s.run events) ∧
      ∀ key value, (Crowd.of s).Stored steps key value → s.Brought events key value := by
  induction events generalizing s with
  | nil => exact ⟨[], rfl, fun key value stored => absurd stored ((Crowd.of s).stored_nil key value)⟩
  | cons event events ih =>
    obtain ⟨acts, acted, puts⟩ := act_composed s event.1 event.2
    obtain ⟨steps, ran, brought⟩ := ih (s.act event.1 event.2)
    refine ⟨acts.map (event.1, ·) ++ steps, ?_, fun key value stored => ?_⟩
    · rw [Crowd.run_append, acted, ran]
      rfl
    · rcases ((Crowd.of s).stored_append _ _ key value).1 stored with first | later
      · exact ⟨[], event.1, event.2, events, rfl, puts key value first⟩
      · rw [acted] at later
        obtain ⟨before, now, a, after, split, put⟩ := brought key value later
        exact ⟨event :: before, now, a, after, congrArg (event :: ·) split, put⟩

end Atomic

end ArchiveSearch.Cache
