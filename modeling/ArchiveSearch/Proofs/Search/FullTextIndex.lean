import ArchiveSearch.Search.FullTextIndex

/- Set-ups of a full-text index that may be cut short, with changes of rows between them.

   A complete set-up leaves the index in step with its table, and changes keep it there, as long as no set-up before
   was cut short behind its first trigger. One that was goes unseen: the trigger passes for a sign that the index is
   complete. -/
namespace ArchiveSearch.IndexState

set_option autoImplicit false

variable {ρ : Type}

def call (statements : List IndexStatement) : Option Nat → IndexState ρ → Bool × IndexState ρ
  | none, s => run statements s
  | some count, s => (false, (run (statements.take count) s).2)

inductive Event (ρ : Type) where
  | ensure (cut : Option Nat)
  | rebuild (cut : Option Nat)
  | change (c : Change ρ)

structure InStep (s : IndexState ρ) : Prop where
  table : s.hasTable = true
  triggers : ∀ t, s.hasTrigger t = true
  rows : s.indexed = s.content

def Honest (s : IndexState ρ) : Prop :=
  s.hasTrigger .insertion = true → s.InStep

theorem has_trigger_created (s : IndexState ρ) (t other : IndexTrigger) :
    (if s.hasTrigger t then s else { s with triggers := s.triggers ++ [t] }).hasTrigger other =
      (s.hasTrigger other || other == t) := by
  by_cases present : s.hasTrigger t = true
  · rw [if_pos present]
    by_cases same : other = t
    · rw [same, present, Bool.true_or]
    · rw [beq_eq_false_iff_ne.mpr same, Bool.or_false]
  · rw [if_neg present]
    cases other <;> cases t <;> simp [hasTrigger]

theorem create_triggers_run (s : IndexState ρ) :
    ∃ next, run createTriggers s = (true, next) ∧ (∀ t, next.hasTrigger t = true) ∧
      next.hasTable = s.hasTable ∧ next.content = s.content ∧ next.indexed = s.indexed := by
  have step : ∀ (s : IndexState ρ) t, ∃ next, s.apply (.createTrigger t) = some next ∧
      (∀ other, next.hasTrigger other = (s.hasTrigger other || other == t)) ∧
      next.hasTable = s.hasTable ∧ next.content = s.content ∧ next.indexed = s.indexed := by
    intro s t
    refine ⟨_, rfl, has_trigger_created s t, ?_⟩
    split <;> exact ⟨rfl, rfl, rfl⟩
  obtain ⟨first, madeFirst, hasFirst, tableFirst, contentFirst, indexedFirst⟩ := step s .insertion
  obtain ⟨second, madeSecond, hasSecond, tableSecond, contentSecond, indexedSecond⟩ := step first .deletion
  obtain ⟨third, madeThird, hasThird, tableThird, contentThird, indexedThird⟩ := step second .update
  refine ⟨third, ?_, ?_, ?_, ?_, ?_⟩
  · simp [createTriggers, IndexTrigger.all, run, madeFirst, madeSecond, madeThird]
  · intro t
    rw [hasThird, hasSecond, hasFirst]
    cases t <;> simp
  · rw [tableThird, tableSecond, tableFirst]
  · rw [contentThird, contentSecond, contentFirst]
  · rw [indexedThird, indexedSecond, indexedFirst]

theorem run_append (first second : List IndexStatement) (s next : IndexState ρ)
    (done : run first s = (true, next)) : run (first ++ second) s = run second next := by
  induction first generalizing s with
  | nil =>
      cases done
      rfl
  | cons statement first ih =>
      rw [run] at done
      rw [List.cons_append, run]
      cases applied : s.apply statement with
      | none =>
          rw [applied] at done
          cases done
      | some after =>
          rw [applied] at done
          exact ih after done

theorem apply_untriggered (s next : IndexState ρ) (statement : IndexStatement)
    (other : statement ≠ .createTrigger .insertion) (absent : s.hasTrigger .insertion = false)
    (applied : s.apply statement = some next) : next.hasTrigger .insertion = false := by
  cases statement with
  | createTrigger t =>
      cases applied
      have apart : (IndexTrigger.insertion == t) = false := beq_eq_false_iff_ne.mpr fun same => other (same ▸ rfl)
      rw [has_trigger_created, absent, apart]
      rfl
  | dropTrigger t =>
      cases applied
      simp only [hasTrigger, List.contains_eq_mem, decide_eq_false_iff_not] at absent ⊢
      exact fun member => absent (List.mem_filter.mp member).1
  | createTable =>
      cases applied
      split <;> exact absent
  | dropTable =>
      cases applied
      exact absent
  | populate | optimize =>
      rw [apply] at applied
      split at applied
      · cases applied
        exact absent
      · cases applied

theorem run_untriggered (statements : List IndexStatement) (s : IndexState ρ)
    (none_ : .createTrigger .insertion ∉ statements) (absent : s.hasTrigger .insertion = false) :
    (run statements s).2.hasTrigger .insertion = false := by
  induction statements generalizing s with
  | nil => exact absent
  | cons statement statements ih =>
      obtain ⟨here, others⟩ := List.ne_and_not_mem_of_not_mem_cons none_
      rw [run]
      cases applied : s.apply statement with
      | none => exact absent
      | some next => exact ih next others (apply_untriggered s next statement here.symm absent applied)

theorem populated_in_step (s : IndexState ρ) (before : List IndexStatement)
    (done : ∃ next, run before s = (true, next) ∧ next.hasTable = true ∧ next.indexed = next.content) :
    (run (before ++ createTriggers) s).1 = true ∧ (run (before ++ createTriggers) s).2.InStep := by
  obtain ⟨next, before_, table, rows⟩ := done
  obtain ⟨last, triggers, all, tableLast, contentLast, indexedLast⟩ := create_triggers_run next
  rw [run_append before createTriggers s next before_, triggers]
  exact ⟨rfl, tableLast.trans table, all, by rw [indexedLast, contentLast, rows]⟩

theorem ensured_in_step (s : IndexState ρ) (honest : s.Honest) :
    (call s.ensure none s).1 = true ∧ (call s.ensure none s).2.InStep := by
  rw [call]
  apply populated_in_step s
  by_cases table : s.hasTable = true
  · by_cases trigger : s.hasTrigger .insertion = true
    · simp [table, trigger, run, (honest trigger).rows]
    · simp [table, trigger, run, apply]
  · simp [table, run, apply]

theorem rebuilt_in_step (s : IndexState ρ) : (run rebuild s).2.InStep := by
  -- Behind the statements that drop everything the table is new and no trigger is left.
  obtain ⟨made, before⟩ : ∃ next, run (dropTriggers ++ [.dropTable, .createTable]) s = (true, next) ∧
      next.hasTable = true := ⟨_, rfl, rfl⟩
  obtain ⟨last, triggers, all, tableLast, _, _⟩ := create_triggers_run made
  have table : last.hasTable = true := tableLast.trans before.2
  rw [rebuild, List.append_assoc, run_append _ _ s made before.1, run_append _ _ made last triggers]
  have populated : run [.populate] last = (true, { last with indexed := last.content }) := by
    simp [run, apply, table]
  rw [populated]
  exact ⟨table, all, rfl⟩

theorem cut_ensure_honest (s : IndexState ρ) (count : Nat) (honest : s.Honest)
    (early : .createTrigger .insertion ∉ s.ensure.take count) : (call s.ensure (some count) s).2.Honest := by
  rw [call]
  by_cases trigger : s.hasTrigger .insertion = true
  · have inStep := honest trigger
    have complete : s.ensure = createTriggers := by simp [ensure, inStep.table, trigger]
    rw [complete] at early ⊢
    cases count with
    | zero => exact honest
    | succ count => exact absurd List.mem_cons_self early
  · have absent := run_untriggered _ s early (by simpa using trigger)
    exact fun later => absurd later (by simp [absent])

theorem cut_rebuild_honest (s : IndexState ρ) (count : Nat) (honest : s.Honest)
    (early : .createTrigger .insertion ∉ rebuild.take count) : (call rebuild (some count) s).2.Honest := by
  rw [call]
  cases count with
  | zero => exact honest
  | succ count =>
      -- The first statement drops the trigger that would show a complete index.
      have dropped : ({ s with triggers := s.triggers.filter fun other => other != .insertion } :
          IndexState ρ).hasTrigger .insertion = false := by
        simp [hasTrigger]
      have absent := run_untriggered _ _ (fun member => early (List.mem_cons_of_mem _ member)) dropped
      exact fun later => absurd later (by rw [Bool.not_eq_true]; exact absent)

variable [DecidableEq ρ]

def changed (s : IndexState ρ) (c : Change ρ) : IndexState ρ :=
  (s.change c).getD s

theorem changed_parts (s : IndexState ρ) (c : Change ρ) :
    (s.changed c).hasTable = s.hasTable ∧ (s.changed c).triggers = s.triggers := by
  rw [changed, change]
  split
  · split <;> exact ⟨rfl, rfl⟩
  · exact ⟨rfl, rfl⟩

theorem changed_in_step (s : IndexState ρ) (c : Change ρ) (inStep : s.InStep) : (s.changed c).InStep := by
  obtain ⟨table, triggers⟩ := s.changed_parts c
  refine ⟨table.trans inStep.table, fun t => ?_, ?_⟩
  · rw [hasTrigger, triggers]
    exact inStep.triggers t
  · rw [changed, change, if_pos (inStep.triggers c.trigger)]
    split
    · exact inStep.rows
    · exact congrArg c.onRows inStep.rows

theorem changes_in_step (changes : List (Change ρ)) (s : IndexState ρ) (inStep : s.InStep) :
    (changes.foldl changed s).InStep := by
  induction changes generalizing s with
  | nil => exact inStep
  | cons c changes ih => exact ih _ (s.changed_in_step c inStep)

theorem changed_honest (s : IndexState ρ) (c : Change ρ) (honest : s.Honest) : (s.changed c).Honest := by
  intro trigger
  rw [hasTrigger, (s.changed_parts c).2] at trigger
  exact s.changed_in_step c (honest trigger)

namespace Event

def apply (s : IndexState ρ) : Event ρ → IndexState ρ
  | .ensure cut => (call s.ensure cut s).2
  | .rebuild cut => (call IndexState.rebuild cut s).2
  | .change c => s.changed c

def CutEarly (s : IndexState ρ) : Event ρ → Prop
  | .ensure (some count) => .createTrigger .insertion ∉ s.ensure.take count
  | .rebuild (some count) => .createTrigger .insertion ∉ IndexState.rebuild.take count
  | _ => True

instance (s : IndexState ρ) (e : Event ρ) : Decidable (e.CutEarly s) :=
  match e with
  | .ensure (some count) => inferInstanceAs (Decidable (.createTrigger .insertion ∉ s.ensure.take count))
  | .rebuild (some count) => inferInstanceAs (Decidable (.createTrigger .insertion ∉ IndexState.rebuild.take count))
  | .ensure none | .rebuild none | .change _ => inferInstanceAs (Decidable True)

theorem apply_honest (s : IndexState ρ) (e : Event ρ) (honest : s.Honest) (early : e.CutEarly s) :
    (e.apply s).Honest := by
  cases e with
  | ensure cut =>
      cases cut with
      | none => exact fun _ => (s.ensured_in_step honest).2
      | some count => exact s.cut_ensure_honest count honest early
  | rebuild cut =>
      cases cut with
      | none => exact fun _ => s.rebuilt_in_step
      | some count => exact s.cut_rebuild_honest count honest early
  | change c => exact s.changed_honest c honest

end Event

def CutsEarly : IndexState ρ → List (Event ρ) → Prop
  | _, [] => True
  | s, e :: rest => e.CutEarly s ∧ CutsEarly (e.apply s) rest

instance decidableCutsEarly (s : IndexState ρ) : (events : List (Event ρ)) → Decidable (CutsEarly s events)
  | [] => inferInstanceAs (Decidable True)
  | e :: rest =>
      have := decidableCutsEarly (e.apply s) rest
      inferInstanceAs (Decidable (e.CutEarly s ∧ CutsEarly (e.apply s) rest))

def after (rows : List ρ) (events : List (Event ρ)) : IndexState ρ :=
  events.foldl Event.apply { content := rows }

theorem run_honest (events : List (Event ρ)) (s : IndexState ρ) (honest : s.Honest) (early : CutsEarly s events) :
    (events.foldl Event.apply s).Honest := by
  induction events generalizing s with
  | nil => exact honest
  | cons e events ih => exact ih _ (e.apply_honest s honest early.1) early.2

theorem index_in_step (rows : List ρ) (events : List (Event ρ)) (early : CutsEarly { content := rows } events)
    (changes : List (Change ρ)) :
    let made := call (after rows events).ensure none (after rows events)
    made.1 = true ∧ made.2.indexed = made.2.content ∧
      (changes.foldl changed made.2).indexed = (changes.foldl changed made.2).content := by
  have honest := run_honest events { content := rows } (fun trigger => by cases trigger) early
  obtain ⟨done, inStep⟩ := (after rows events).ensured_in_step honest
  exact ⟨done, inStep.rows, (changes_in_step changes _ inStep).rows⟩

theorem index_in_step_after_cuts :
    let events : List (Event Nat) := [.change (.insert 2), .ensure (some 1), .change (.delete 1), .ensure none,
      .rebuild (some 1), .change (.insert 3), .change (.update 2 4)]
    CutsEarly { content := [1] } events ∧
      (call (after [1] events).ensure none (after [1] events)).2.content = [4, 3] ∧
      (call (after [1] events).ensure none (after [1] events)).2.indexed = [4, 3] ∧
      (call (after [1] events).ensure none (after [1] events)).1 = true := by
  intro events
  have early : CutsEarly { content := [1] } events := by decide
  obtain ⟨done, inStep, _⟩ := index_in_step [1] events early []
  have rows : (call (after [1] events).ensure none (after [1] events)).2.content = [4, 3] := by decide
  exact ⟨early, rows, inStep.trans rows, done⟩

-- A rebuilding that is cut short before it reads the rows, and a set-up that is cut short behind its first trigger:
-- the next set-up reports success and leaves an index that is not in step.
theorem late_cut_unseen :
    ¬ ∀ (rows : List Nat) (events : List (Event Nat)),
      (call (after rows events).ensure none (after rows events)).1 = true →
        (call (after rows events).ensure none (after rows events)).2.indexed =
          (call (after rows events).ensure none (after rows events)).2.content := by
  intro all
  have rebuilt := all [1] [.rebuild (some 8)] (by decide)
  revert rebuilt
  decide

end ArchiveSearch.IndexState
