import ArchiveSearch.Proofs.Cache.Linking

namespace ArchiveSearch.Cache

set_option autoImplicit false

variable {α : Type}

theorem release_entries (c : Cache α) (key : String) (cell : Nat) : (c.release key cell).entries = c.entries := by
  unfold release
  split <;> rfl

theorem join_entries (c : Cache α) (key : String) : (c.joinCell key).2.entries = c.entries := by
  rcases c.join_cell_cases key with ⟨cell, -, joined⟩ | ⟨-, joined⟩ <;> rw [joined]

namespace Atomic

def Stage.value? : Stage α → Option α
  | .filling _ value => some value
  | .leaving _ (.ok value) => some value
  | .done (.ok value) => some value
  | _ => none

section Sources

variable {now id : Nat} {c next : Cache α} {key : String} {ttl : Option Nat} {before after : Stage α}
  (stepped : Stepped now id c key ttl before next after)

include stepped

theorem entry_source (e : Entry α) (mem : e ∈ next.entries) :
    e ∈ c.entries ∨ (e.key = key ∧ ∃ cell, before = .ended cell (.ok e.value)) := by
  cases stepped with
  | hit => exact .inl (c.get_entries now key mem)
  | miss => exact .inl (c.get_entries now key mem)
  | join => exact .inl (c.join_entries key ▸ mem)
  | find => exact .inl (c.lookup_entries now key mem)
  | begin => exact .inl (c.lookup_entries now key mem)
  | store cell value =>
    rcases c.store_entries key value now _ e mem with old | ⟨named, rfl⟩
    · exact .inl old
    · exact .inr ⟨named, cell, rfl⟩
  | leave cell => exact .inl (c.release_entries key cell ▸ mem)
  | _ => exact .inl mem

theorem content_source (cell : Nat) (content : Cell α) (value : α) (there : next.cells[cell]? = some content)
    (full : content.value = some value) : c.cells[cell]? = some content ∨ before = .filling cell value := by
  cases stepped with
  | hit => exact .inl (c.get_cells now key ▸ there)
  | miss => exact .inl (c.get_cells now key ▸ there)
  | join =>
    rcases c.join_cell_cases key with ⟨held, -, joined⟩ | ⟨-, joined⟩ <;> rw [joined] at there
    · exact .inl there
    · by_cases old : cell < c.cells.length
      · exact .inl ((List.getElem?_append_left old).symm.trans there)
      · rw [List.getElem?_append_right (Nat.le_of_not_lt old)] at there
        cases List.mem_singleton.1 (List.mem_of_getElem? there)
        cases full
  | enter held =>
    rcases c.set_cell_found held _ cell content there with ⟨-, rfl⟩ | ⟨-, old⟩
    · cases full
    · exact .inl old
  | find => exact .inl (c.lookup_cells now key ▸ there)
  | begin => exact .inl (c.lookup_cells now key ▸ there)
  | store held given => exact .inl (c.set_cells now key given ttl ▸ there)
  | vacate held =>
    rcases c.set_cell_found held _ cell content there with ⟨-, rfl⟩ | ⟨-, old⟩
    · cases full
    · exact .inl old
  | fill held given =>
    rcases c.set_cell_found held _ cell content there with ⟨rfl, rfl⟩ | ⟨-, old⟩
    · cases full
      exact .inr rfl
    · exact .inl old
  | leave held => exact .inl (c.release_cells key held ▸ there)
  | _ => exact .inl there

theorem slot_source (name : String) (cell : Nat) (there : next.slots.lookup name = some cell) :
    c.slots.lookup name = some cell ∨ cell = c.cells.length := by
  cases stepped with
  | hit => exact .inl (c.get_slots now key ▸ there)
  | miss => exact .inl (c.get_slots now key ▸ there)
  | join =>
    rcases c.join_cell_cases key with ⟨held, -, joined⟩ | ⟨free, joined⟩ <;> rw [joined] at there
    · exact .inl there
    · exact ((joined_lookup c.slots key _ free name cell).1 there).imp_right And.right
  | find => exact .inl (c.lookup_slots now key ▸ there)
  | begin => exact .inl (c.lookup_slots now key ▸ there)
  | store held given => exact .inl (c.set_slots now key given ttl ▸ there)
  | leave held => exact .inl ((c.release_lookup key held name cell).1 there).1
  | _ => exact .inl there

theorem waiting_source (cell : Nat) (waits : after = .waiting cell) :
    before = .waiting cell ∨ next.slots.lookup key = some cell := by
  cases stepped with
  | idle => exact .inl waits
  | join =>
    cases waits
    rcases c.join_cell_cases key with ⟨held, there, joined⟩ | ⟨free, joined⟩ <;> rw [joined]
    · exact .inr there
    · exact .inr ((joined_lookup c.slots key _ free key _).2 (.inr ⟨rfl, rfl⟩))
  | _ => cases waits

theorem filling_source (cell : Nat) (value : α) (fills : after = .filling cell value) :
    before = .filling cell value ∨ before.cell? = some cell ∧
      ((∃ e ∈ c.entries, e.key = key ∧ e.value = value) ∨ before = .ended cell (.ok value)) := by
  cases stepped with
  | idle => exact .inl fills
  | find held found there =>
    cases fills
    exact .inr ⟨rfl, .inl (c.lookup_found now key value there)⟩
  | store =>
    cases fills
    exact .inr ⟨rfl, .inr rfl⟩
  | _ => cases fills

theorem value_source (value : α) (has : after.value? = some value) :
    before.value? = some value ∨ (∃ e ∈ c.entries, e.key = key ∧ e.value = value) ∨
      (∃ cell content, before = .waiting cell ∧ c.cells[cell]? = some content ∧ content.value = some value) ∨
      ∃ cell, before = .ended cell (.ok value) := by
  cases stepped with
  | idle => exact .inl has
  | hit found there =>
    cases has
    exact .inr (.inl (c.get_found now key value there))
  | share cell content found there full =>
    cases has
    exact .inr (.inr (.inl ⟨cell, content, rfl, there, full⟩))
  | find cell found there =>
    cases has
    exact .inr (.inl (c.lookup_found now key value there))
  | store cell =>
    cases has
    exact .inr (.inr (.inr ⟨cell, rfl⟩))
  | fill => exact .inl has
  | leave cell answer => exact .inl (by cases answer <;> exact has)
  | _ => cases has

end Sources

structure Vouched (given : α → Prop) (s : Crowd α) (cell : Nat) : Prop where
  filled : ∀ content value, s.cache.cells[cell]? = some content → content.value = some value → given value
  filling : ∀ id value, (s.callers id).stage = .filling cell value → given value

/-- What is kept under a key satisfies the one predicate. The other is satisfied by what the cell in its slot has or is
about to be filled with, and by what those of its callers have who came late. -/
structure Clean (kept given : α → Prop) (key : String) (late : Nat → Prop) (s : Crowd α) : Prop where
  entries : ∀ e ∈ s.cache.entries, e.key = key → kept e.value
  slot : ∀ cell, s.cache.slots.lookup key = some cell → Vouched given s cell
  waiting : ∀ id cell, late id → (s.callers id).key = key → (s.callers id).stage = .waiting cell → Vouched given s cell
  told : ∀ id value, late id → (s.callers id).key = key → (s.callers id).stage.value? = some value → given value

theorem Clean.recached {kept given : α → Prop} {key : String} {late : Nat → Prop} {s : Crowd α}
    (clean : Clean kept given key late s) (next : Cache α) (entries : ∀ e ∈ next.entries, e.key = key → kept e.value)
    (slots : ∀ cell, next.slots.lookup key = some cell → s.cache.slots.lookup key = some cell)
    (cells : next.cells = s.cache.cells) : Clean kept given key late { s with cache := next } := by
  have still : ∀ cell, Vouched given s cell → Vouched given { s with cache := next } cell := fun cell vouched =>
    ⟨by rw [cells]; exact vouched.filled, vouched.filling⟩
  exact ⟨entries, fun cell there => still cell (clean.slot cell (slots cell there)),
    fun id cell came asked waits => still cell (clean.waiting id cell came asked waits), clean.told⟩

section Steps

variable {keyOfCell : Nat → String} {s : Crowd α} (linked : Linked keyOfCell s) {kept given : α → Prop}
  (less : ∀ value, kept value → given value) {key : String} {late : Nat → Prop}

include linked in
theorem vouched_fresh : Vouched given s s.cache.cells.length := by
  refine ⟨fun content value there => ?_, fun id value fills => ?_⟩
  · rw [List.getElem?_eq_none (Nat.le_refl _)] at there
    cases there
  · have inside := ((linked.fits id).held s.cache.cells.length (by rw [fills]; rfl)).1
    exact absurd inside (Nat.lt_irrefl _)

include less in
theorem Vouched.stepped {cell : Nat} (vouched : Vouched given s cell)
    (entries : ∀ e ∈ s.cache.entries, e.key = key → kept e.value) (now id : Nat) (next : Cache α) (stage : Stage α)
    (stepped : Stepped now id s.cache (s.callers id).key (s.callers id).ttl (s.callers id).stage next stage)
    (stores : ∀ value cell, (s.callers id).key = key → (s.callers id).stage = .ended cell (.ok value) → kept value)
    (serves : ∀ id, (s.callers id).stage.cell? = some cell → (s.callers id).key = key) :
    Vouched given (s.put id next stage) cell := by
  refine ⟨fun content value there full => ?_, fun other value fills => ?_⟩
  · rcases content_source stepped cell content value there full with old | filling
    · exact vouched.filled content value old full
    · exact vouched.filling id value filling
  · by_cases same : other = id
    · subst same
      rw [Crowd.put_stage] at fills
      rcases filling_source stepped cell value fills with old | ⟨held, ⟨e, mem, named, rfl⟩ | ended⟩
      · exact vouched.filling other value old
      · exact less _ (entries e mem (named.trans (serves other held)))
      · exact less _ (stores value cell (serves other held) ended)
    · rw [s.put_other id next stage other same] at fills
      exact vouched.filling other value fills

include linked less

theorem Clean.stepped (clean : Clean kept given key late s) (now id : Nat) (next : Cache α) (stage : Stage α)
    (stepped : Stepped now id s.cache (s.callers id).key (s.callers id).ttl (s.callers id).stage next stage)
    (stores : ∀ value cell, (s.callers id).key = key → (s.callers id).stage = .ended cell (.ok value) → kept value) :
    Clean kept given key late (s.put id next stage) := by
  have still : ∀ cell, Vouched given s cell → (∀ id, (s.callers id).stage.cell? = some cell → (s.callers id).key = key) →
      Vouched given (s.put id next stage) cell := fun cell vouched =>
    vouched.stepped less clean.entries now id next stage stepped stores
  have serves : ∀ cell, cell < s.cache.cells.length ∧ keyOfCell cell = key →
      ∀ id, (s.callers id).stage.cell? = some cell → (s.callers id).key = key := fun cell inside id held =>
    ((linked.fits id).held cell held).2.symm.trans inside.2
  have slot : ∀ cell, next.slots.lookup key = some cell → Vouched given (s.put id next stage) cell := by
    intro cell there
    rcases slot_source stepped key cell there with old | rfl
    · exact still cell (clean.slot cell old) (serves cell (linked.slots key cell old))
    · exact still _ (vouched_fresh linked) fun id held =>
        absurd ((linked.fits id).held _ held).1 (Nat.lt_irrefl _)
  refine ⟨fun e mem named => ?_, slot, fun other cell came asked waits => ?_, fun other value came asked has => ?_⟩
  · rcases entry_source stepped e mem with old | ⟨mine, cell, ended⟩
    · exact clean.entries e old named
    · exact stores e.value cell (mine.symm.trans named) ended
  · rw [Crowd.put_key] at asked
    have waited : ∀ other, late other → (s.callers other).key = key → (s.callers other).stage = .waiting cell →
        Vouched given (s.put id next stage) cell := by
      intro other came asked waits
      have inside := (linked.fits other).held cell (by rw [waits]; rfl)
      exact still cell (clean.waiting other cell came asked waits) (serves cell ⟨inside.1, inside.2.trans asked⟩)
    by_cases same : other = id
    · subst same
      rw [Crowd.put_stage] at waits
      rcases waiting_source stepped cell waits with old | there
      · exact waited other came asked old
      · exact slot cell (asked ▸ there)
    · rw [s.put_other id next stage other same] at waits
      exact waited other came asked waits
  · rw [Crowd.put_key] at asked
    by_cases same : other = id
    · subst same
      rw [Crowd.put_stage] at has
      rcases value_source stepped value has with
        old | ⟨e, mem, named, rfl⟩ | ⟨cell, content, waits, there, full⟩ | ⟨cell, ended⟩
      · exact clean.told other value came asked old
      · exact less _ (clean.entries e mem (named.trans asked))
      · exact (clean.waiting other cell came asked waits).filled content value there full
      · exact less _ (stores value cell asked ended)
    · rw [s.put_other id next stage other same] at has
      exact clean.told other value came asked has

theorem Clean.act (clean : Clean kept given key late s) (now : Nat) (a : Act α)
    (stores : ∀ value, s.Stores key value a → kept value) : Clean kept given key late (s.act now a) := by
  cases a with
  | advance id =>
    exact clean.stepped linked less now id _ _ (advance_stepped now id _ _ _ _) fun value cell asked ended =>
      stores value ⟨asked, cell, ended⟩
  | finish id answer =>
    rcases s.act_finish now id answer with same | ⟨cell, running, ended⟩
    · rwa [same]
    · rw [ended]
      refine clean.stepped linked less now id _ _ (running ▸ .finish cell answer) fun value held asked before => ?_
      rw [running] at before
      cases before
  | set name value ttl =>
    refine clean.recached _ (fun e mem named => ?_) (fun cell there => ?_) (s.cache.set_cells now name value ttl)
    · rcases s.cache.store_entries name value now _ e mem with old | ⟨mine, rfl⟩
      · exact clean.entries e old named
      · exact stores e.value ⟨mine.symm.trans named, rfl⟩
    · rwa [set_slots] at there
  | delete name =>
    exact clean.recached _ (fun e mem => clean.entries e ((mem_without _ _ _).1 mem).1) (fun _ there => there) rfl
  | remove covers =>
    exact clean.recached _ (fun e mem => clean.entries e (s.cache.invalidate_entries covers mem))
      (fun _ there => there) rfl
  | empty => exact clean.recached _ (fun _ mem => by cases mem) (fun _ there => there) rfl
  | forget => exact clean.recached _ clean.entries (fun _ there => by cases there) rfl

end Steps

theorem Clean.run {keyOfCell : Nat → String} {s : Crowd α} (linked : Linked keyOfCell s) {kept given : α → Prop}
    (less : ∀ value, kept value → given value) {key : String} {late : Nat → Prop} (clean : Clean kept given key late s)
    (events : List (Nat × Act α)) (stores : ∀ value, s.Stored events key value → kept value) :
    Clean kept given key late (s.run events) := by
  induction events generalizing s keyOfCell with
  | nil => exact clean
  | cons event events ih =>
    obtain ⟨keyOfCell', linked'⟩ := linked.act event.1 event.2
    have first := clean.act linked less event.1 event.2 fun value now_ =>
      stores value ((s.stored_cons event events key value).2 (.inl now_))
    exact ih linked' first fun value later => stores value ((s.stored_cons event events key value).2 (.inr later))

end Atomic

end ArchiveSearch.Cache
