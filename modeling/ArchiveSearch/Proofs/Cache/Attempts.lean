import ArchiveSearch.Proofs.Cache.Interleaving

/- A call for a missing result, whatever else is under way. It computes exactly if the key is missing and no other caller
   computes it, or has done so, in the cell that it joins. If the computation fails, only an entry that had expired and the
   slot of the key are gone afterwards, so that the next call computes again. -/
namespace ArchiveSearch.Cache

set_option autoImplicit false

variable {α σ : Type}

def Vacant (c : Cache α) (key : String) : Prop :=
  ∀ cell, c.slots.lookup key = some cell → c.cells[cell]? = some {}

theorem vacant_of_free (c : Cache α) (key : String) (free : c.slots.lookup key = none) : c.Vacant key := by
  intro cell there
  rw [free] at there
  cases there

theorem get_missed (c : Cache α) (now : Nat) (key : String) (missed : (c.get now key).1 = none) :
    (c.get now key).2.entries = without key c.entries ∧
      ∀ e, c.find? key = some e → e.isExpired now = true := by
  unfold get lookup at missed ⊢
  cases found : c.find? key with
  | none =>
      have whole : without key c.entries = c.entries :=
        List.filter_eq_self.2 fun e mem => by simpa using List.find?_eq_none.1 found e mem
      exact ⟨whole.symm, fun e there => nomatch there⟩
  | some e =>
      rw [found] at missed
      by_cases expired : e.isExpired now = true
      · simp only [if_pos expired]
        exact ⟨trivial, fun other same => Option.some.inj same ▸ expired⟩
      · simp [expired] at missed

theorem get_of_absent (c : Cache α) (now : Nat) (key : String) (absent : c.find? key = none) :
    (c.get now key).1 = none := by
  simp [get, lookup, absent]

structure Spared (c next : Cache α) (now : Nat) (key : String) : Prop where
  expired : ∀ e, c.find? key = some e → e.isExpired now = true
  entries : next.entries = without key c.entries
  slots : next.slots = c.slots.filter fun slot => slot.1 != key

theorem Spared.missing {c next : Cache α} {now : Nat} {key : String} (spared : Spared c next now key) (later : Nat) :
    (next.get later key).1 = none ∧ next.Vacant key := by
  constructor
  · refine next.get_of_absent later key (List.find?_eq_none.2 fun e mem => ?_)
    rw [spared.entries, mem_without] at mem
    simpa using mem.2
  · refine next.vacant_of_free key ?_
    rw [spared.slots, lookup_without, if_pos rfl]

section Calls

variable (c : Cache α) (now : Nat) (key : String) (ttl : Option Nat) (compute : σ → Outcome α × σ) (s : σ)

theorem moves_missed (missed : (c.get now key).1 = none) :
    moves now 0 [.look, .join, .enter] c { key, ttl } =
      ((c.get now key).2.joinCell key).2.enterCell now 0
        { key, ttl, stage := .waiting ((c.get now key).2.joinCell key).1 } ((c.get now key).2.joinCell key).1 := by
  cases answered : c.get now key with
  | mk found next =>
      rw [answered] at missed
      cases missed
      simp [moves, move, answered]

theorem get_or_set_idle (idle : (moves now 0 [.look, .join, .enter] c { key, ttl }).2.stage.isRunning = false) :
    (c.getOrSet now key ttl compute s).2.2 = s := by
  unfold getOrSet
  simp only [idle]
  rfl

theorem enter_cell_idle (id : Nat) (caller : Caller α) (cell : Nat) (waiting : caller.stage = .waiting cell)
    (taken : c.cells[cell]? ≠ some {}) : (c.enterCell now id caller cell).2.stage.isRunning = false := by
  unfold enterCell
  cases there : c.cells[cell]? with
  | none => rw [waiting]; rfl
  | some content =>
      obtain ⟨value, owner⟩ := content
      cases value with
      | some value => rfl
      | none =>
          cases owner with
          | some owner => simp only [waiting]; rfl
          | none => exact absurd there taken

theorem joined_cell : ((c.joinCell key).2.cells[(c.joinCell key).1]? = some {} ↔ c.Vacant key) ∧
    (c.joinCell key).2.slots.lookup key = some (c.joinCell key).1 ∧
    (c.joinCell key).2.slots.filter (fun slot => slot.1 != key) = c.slots.filter fun slot => slot.1 != key := by
  rcases c.join_cell_cases key with ⟨cell, there, joined⟩ | ⟨free, joined⟩
  · rw [joined]
    refine ⟨⟨fun vacant other same => ?_, fun vacant => vacant cell there⟩, there, rfl⟩
    rw [there] at same
    exact Option.some.inj same ▸ vacant
  · rw [joined]
    refine ⟨⟨fun _ => c.vacant_of_free key free, fun _ => by simp⟩, ?_, by simp⟩
    exact (joined_lookup c.slots key c.cells.length free key _).2 (.inr ⟨rfl, rfl⟩)

theorem join_cell_entries : (c.joinCell key).2.entries = c.entries := by
  rcases c.join_cell_cases key with ⟨cell, -, joined⟩ | ⟨-, joined⟩ <;> rw [joined]

theorem get_or_set_computes_or_idle : ((c.get now key).1 = none ∧ c.Vacant key) ∨
    (c.getOrSet now key ttl compute s).2.2 = s := by
  cases answered : (c.get now key).1 with
  | some value =>
      refine .inr (c.get_or_set_idle now key ttl compute s ?_)
      cases looked : c.get now key with
      | mk found next =>
          rw [looked] at answered
          cases answered
          simp [moves, move, looked, Stage.isRunning]
  | none =>
      by_cases vacant : ((c.get now key).2.joinCell key).2.cells[((c.get now key).2.joinCell key).1]? = some {}
      · have free := ((c.get now key).2.joined_cell key).1.1 vacant
        rw [Vacant, get_slots, get_cells] at free
        exact .inl ⟨rfl, free⟩
      · refine .inr (c.get_or_set_idle now key ttl compute s ?_)
        rw [c.moves_missed now key ttl answered]
        exact enter_cell_idle _ now 0 _ _ rfl vacant

variable (missed : (c.get now key).1 = none) (vacant : c.Vacant key)

include missed vacant

theorem moves_running : moves now 0 [.look, .join, .enter] c { key, ttl } =
    (((c.get now key).2.joinCell key).2.setCell ((c.get now key).2.joinCell key).1 { owner := some 0 },
      { key, ttl, stage := .running ((c.get now key).2.joinCell key).1 }) := by
  have absent := c.missed_again now key missed
  have entries := (c.get now key).2.join_cell_entries key
  have free : (c.get now key).2.Vacant key := by
    rw [Vacant, get_slots, get_cells]
    exact vacant
  have empty := ((c.get now key).2.joined_cell key).1.2 free
  rw [c.moves_missed now key ttl missed]
  generalize (c.get now key).2.joinCell key = joined at *
  have unseen : joined.2.lookup now key = (none, joined.2) := by
    rw [lookup, find?, entries, show List.find? (fun e => e.key == key) (c.get now key).2.entries = none from absent]
  simp [enterCell, empty, unseen]

theorem get_or_set_computes : (c.getOrSet now key ttl compute s).1 = (compute s).1 ∧
    (c.getOrSet now key ttl compute s).2.2 = (compute s).2 := by
  unfold getOrSet
  rw [c.moves_running now key ttl missed vacant]
  exact ⟨rfl, rfl⟩

theorem get_or_set_failed (e : SearchError) (failed : (compute s).1 = .error e) :
    Spared c (c.getOrSet now key ttl compute s).2.1 now key := by
  obtain ⟨entries, expired⟩ := c.get_missed now key missed
  obtain ⟨-, held, others⟩ := (c.get now key).2.joined_cell key
  have joins := (c.get now key).2.join_cell_entries key
  rw [get_slots] at others
  unfold getOrSet
  rw [c.moves_running now key ttl missed vacant]
  simp only [Stage.isRunning, if_true]
  generalize (c.get now key).2.joinCell key = joined at *
  cases ended : compute s with
  | mk answer s' =>
      rw [ended] at failed
      subst failed
      simp only [moves, move, finishCell, setCell, release, held, beq_self_eq_true, if_true]
      exact ⟨expired, joins.trans entries, others⟩

end Calls

end ArchiveSearch.Cache
