import ArchiveSearch.Cache.Flight

namespace ArchiveSearch.Cache

set_option autoImplicit false

variable {α σ : Type}

theorem mem_without (key : String) (entries : List (Entry α)) (e : Entry α) :
    e ∈ without key entries ↔ e ∈ entries ∧ e.key ≠ key := by
  simp [without]

theorem evict_many_subset (count : Nat) (entries : List (Entry α)) :
    evictMany count entries ⊆ entries := by
  induction count generalizing entries with
  | zero => exact fun _ mem => mem
  | succ count ih =>
    intro e mem
    have kept := ih (evictOldest entries) mem
    unfold evictOldest at kept
    split at kept
    · exact kept
    · exact ((mem_without _ _ _).1 kept).1

theorem store_entries (c : Cache α) (key : String) (value : α) (timestamp ttl : Nat) (e : Entry α)
    (mem : e ∈ (c.store key value timestamp ttl).entries) :
    e ∈ c.entries ∨ (e.key = key ∧ e.value = value) := by
  simp only [store, List.mem_append, List.mem_singleton] at mem
  rcases mem with kept | rfl
  · refine .inl ?_
    have kept := ((mem_without _ _ _).1 kept).1
    split at kept
    · exact kept
    · exact evict_many_subset _ _ kept
  · exact .inr ⟨rfl, rfl⟩

theorem invalidate_entries (c : Cache α) (covers : String → Bool) :
    (c.invalidate covers).2.entries ⊆ c.entries :=
  fun _ mem => (List.mem_filter.1 mem).1

theorem lookup_entries (c : Cache α) (now : Nat) (key : String) :
    (c.lookup now key).2.entries ⊆ c.entries := by
  unfold lookup
  split
  · exact fun _ mem => mem
  · split
    · exact fun e mem => ((mem_without _ _ _).1 mem).1
    · exact fun _ mem => mem

theorem get_entries (c : Cache α) (now : Nat) (key : String) :
    (c.get now key).2.entries ⊆ c.entries := by
  have kept := c.lookup_entries now key
  unfold get
  simp only
  split <;> exact kept

theorem lookup_found (c : Cache α) (now : Nat) (key : String) (value : α)
    (found : (c.lookup now key).1 = some value) : ∃ e ∈ c.entries, e.key = key ∧ e.value = value := by
  unfold lookup at found
  cases hit : c.find? key with
  | none => rw [hit] at found; exact absurd found (by simp)
  | some e =>
    rw [hit] at found
    simp only at found
    split at found
    · exact absurd found (by simp)
    · have named := List.find?_some hit
      exact ⟨e, List.mem_of_find?_eq_some hit, beq_iff_eq.1 named, Option.some.inj found⟩

theorem get_found (c : Cache α) (now : Nat) (key : String) (value : α)
    (found : (c.get now key).1 = some value) : ∃ e ∈ c.entries, e.key = key ∧ e.value = value := by
  refine c.lookup_found now key value ?_
  unfold get at found
  simp only at found
  split at found
  · next hit => rw [hit, ← found]
  · exact absurd found (by simp)

def Quiet (c : Cache α) : Prop :=
  c.slots = []

theorem get_slots (c : Cache α) (now : Nat) (key : String) :
    (c.get now key).2.slots = c.slots := by
  unfold get lookup
  cases c.find? key with
  | none => rfl
  | some e => by_cases old : e.isExpired now <;> simp [old]

theorem missed_again (c : Cache α) (now : Nat) (key : String) (missed : (c.get now key).1 = none) :
    (c.get now key).2.find? key = none := by
  unfold get lookup at missed ⊢
  cases hit : c.find? key with
  | none => simpa [find?] using hit
  | some e =>
    rw [hit] at missed
    by_cases old : e.isExpired now
    · simp [old, find?, without]
    · exact absurd missed (by simp [old])

theorem set_frame (c : Cache α) (now : Nat) (key : String) (value : α) (ttl : Option Nat)
    (slots : List (String × Nat)) (cells : List (Cell α)) :
    ({ c with slots, cells } : Cache α).set now key value ttl
      = { c.set now key value ttl with slots, cells } := by
  unfold set store
  rw [show ({ c with slots, cells } : Cache α).find? key = c.find? key from rfl]
  by_cases there : (c.find? key).isSome = true
  · simp only [there, if_true]
  · simp only [there]
    rfl

theorem set_slots (c : Cache α) (now : Nat) (key : String) (value : α) (ttl : Option Nat) :
    (c.set now key value ttl).slots = c.slots := by
  unfold set store
  by_cases there : (c.find? key).isSome = true
  · simp only [there, if_true]
  · simp only [there]
    rfl

theorem begins_alone (c : Cache α) (now : Nat) (key : String) (ttl : Option Nat) (quiet : c.Quiet)
    (missing : c.find? key = none) :
    moves now 0 [.join, .enter] c { key, ttl, stage := .missed } =
      ({ c with slots := [(key, c.cells.length)], cells := c.cells ++ [{ owner := some 0 }] },
        { key, ttl, stage := .running c.cells.length }) := by
  have fresh : c.joinCell key = (c.cells.length,
      { c with slots := [(key, c.cells.length)], cells := c.cells ++ [{}] }) := by
    unfold joinCell
    rw [show c.slots = [] from quiet]
    rfl
  have unseen : ({ c with slots := [(key, c.cells.length)], cells := c.cells ++ [{}] } : Cache α).lookup
      now key = (none, { c with slots := [(key, c.cells.length)], cells := c.cells ++ [{}] }) := by
    unfold lookup
    rw [show ({ c with slots := [(key, c.cells.length)], cells := c.cells ++ [{}] } : Cache α).find? key
      = none from missing]
  simp [moves, move, fresh, enterCell, unseen, setCell]

theorem ends_alone (c : Cache α) (now : Nat) (key : String) (ttl : Option Nat) (quiet : c.Quiet)
    (answer : Outcome α) :
    (moves now 0 [.finish answer, .leave]
      { c with slots := [(key, c.cells.length)], cells := c.cells ++ [{ owner := some 0 }] }
      { key, ttl, stage := .running c.cells.length }).1 =
      match answer with
      | .ok value => { c.set now key value ttl with cells := c.cells ++ [{ value := some value }] }
      | .error _ => { c with cells := c.cells ++ [{}] } := by
  have empty : c.slots = [] := quiet
  cases answer with
  | ok value =>
    have stored := c.set_slots now key value ttl
    simp [moves, move, finishCell, setCell, release, set_frame, stored, empty]
  | error e => simp [moves, move, finishCell, setCell, release, empty]

theorem get_or_set_alone (c : Cache α) (now : Nat) (key : String) (ttl : Option Nat)
    (compute : σ → Outcome α × σ) (s : σ) (quiet : c.Quiet) :
    c.getOrSet now key ttl compute s =
      match c.get now key with
      | (some value, c) => (.ok value, c, s)
      | (none, c) =>
          match compute s with
          | (.ok value, s) =>
              (.ok value, { c.set now key value ttl with cells := c.cells ++ [{ value := some value }] }, s)
          | (.error e, s) => (.error e, { c with cells := c.cells ++ [{}] }, s) := by
  have slots := c.get_slots now key
  have gone := c.missed_again now key
  unfold getOrSet
  cases answered : c.get now key with
  | mk found c' =>
    rw [answered] at slots gone
    cases found with
    | some value => simp [moves, move, answered, Stage.isRunning, Stage.answer?]
    | none =>
      have begins := c'.begins_alone now key ttl (slots.trans quiet) (gone rfl)
      have ends := c'.ends_alone now key ttl (slots.trans quiet) (compute s).1
      have looked : moves now 0 [.look, .join, .enter] c { key, ttl }
          = moves now 0 [.join, .enter] c' { key, ttl, stage := .missed } := by
        simp [moves, move, answered]
      simp only [looked, begins, Stage.isRunning, if_true, ends]
      cases compute s with
      | mk answer s => cases answer <;> rfl

-- If all that is kept is true of its key, a call answers what is true of its key or what it computed,
-- and what it leaves is true again.
theorem get_or_set_true (c : Cache α) (now : Nat) (key : String) (ttl : Option Nat)
    (compute : σ → Outcome α × σ) (s : σ) (quiet : c.Quiet) (IsTrue : String → α → Prop)
    (kept : ∀ e ∈ c.entries, IsTrue e.key e.value)
    (computed : ∀ value, (compute s).1 = .ok value → IsTrue key value) :
    ((c.getOrSet now key ttl compute s).1 = (compute s).1 ∨
        ∃ value, IsTrue key value ∧ (c.getOrSet now key ttl compute s).1 = .ok value) ∧
      (∀ e ∈ (c.getOrSet now key ttl compute s).2.1.entries, IsTrue e.key e.value) ∧
      (c.getOrSet now key ttl compute s).2.1.Quiet := by
  have less := c.get_entries now key
  have found := c.get_found now key
  have slots := c.get_slots now key
  rw [get_or_set_alone c now key ttl compute s quiet]
  cases answered : c.get now key with
  | mk hit c' =>
    rw [answered] at less found slots
    have still : c'.Quiet := slots.trans quiet
    cases hit with
    | some value =>
      obtain ⟨e, mem, rfl, rfl⟩ := found value rfl
      exact ⟨.inr ⟨e.value, kept e mem, rfl⟩, fun e mem => kept e (less mem), still⟩
    | none =>
      cases ended : compute s with
      | mk answer s' =>
        rw [ended] at computed
        cases answer with
        | error e => exact ⟨.inl rfl, fun e mem => kept e (less mem), still⟩
        | ok value =>
          refine ⟨.inl rfl, fun e mem => ?_, (c'.set_slots now key value ttl).trans still⟩
          rcases c'.store_entries key value now (ttl.getD c'.settings.defaultTtl) e mem with old | ⟨rfl, rfl⟩
          · exact kept e (less old)
          · exact computed e.value rfl

end ArchiveSearch.Cache
