import ArchiveSearch.Proofs.Cache.Attempts
import ArchiveSearch.Proofs.Search.Transparency

/- Calls that fail. What cannot be compiled, or has no statement, is refused before anything is touched. What the engine
   fails at, or answers without a count, is not kept: only an entry that had expired is gone afterwards, no slot is left
   under its key, and the same call asks the engine again. -/
namespace ArchiveSearch

set_option autoImplicit false

variable {σ : Type}

def Engine.watched (engine : Engine σ) : Engine (σ × List Query) where
  run q w := ((engine.run q w.1).1, ((engine.run q w.1).2, w.2 ++ [q]))
  explain q w := engine.explain q w.1

inductive Question where
  | rows (statement : Statement) (params : List Value)
  | number (contentType : ContentType) (q : Query)

namespace Question

def query : Question → Query
  | rows statement params => { text := statement.text, params }
  | number _ q => q

def key : Question → String
  | rows statement params => Searcher.resultKey statement params
  | number contentType q => Searcher.countKey contentType q

def answer : Question → Outcome (List Row) → Answer
  | rows _ _, found => .rows found
  | number _ _, found => .number (found.bind Searcher.countOf)

end Question

def Call.failed : Call → SearchError → Answer
  | .count _, e => .number (.error e)
  | _, e => .rows (.error e)

namespace Session

def asksRows (s : Session σ) (q : Query) : Question :=
  .rows (s.searcher.prepare s.now q).1 q.params

def question (s : Session σ) : Call → Option (Outcome Question)
  | .execute id params =>
      some (match s.searcher.statements.find? id with
        | none => .error (.statementNotFound id)
        | some known => .ok (.rows known (params.getD known.params)))
  | .search filter => some ((filter.compile s.today).map s.asksRows)
  | .searchTree tree => some ((tree.compile s.today).map s.asksRows)
  | .count filter => some ((filter.compileCount s.today).map fun q => .number filter.contentType q.simplest)
  | _ => none

def Unharmed (s next : Session σ) : Question → Prop
  | .rows statement params =>
      Cache.Spared s.searcher.results next.searcher.results s.now (Question.rows statement params).key ∧
        next.searcher.counts = s.searcher.counts
  | .number contentType q =>
      Cache.Spared s.searcher.counts next.searcher.counts s.now (Question.number contentType q).key ∧
        next.searcher.results = s.searcher.results

def rowsOf (engine : Engine σ) (s : Session σ) (q : Query) (key : String) : Outcome (List Row) × Cache (List Row) × σ :=
  s.searcher.results.getOrSet s.now key (some s.searcher.settings.resultTtl) (engine.run q) s.world

def numberOf (engine : Engine σ) (s : Session σ) (q : Query) (key : String) : Outcome Nat × Cache Nat × σ :=
  s.searcher.counts.getOrSet s.now key (some s.searcher.settings.countTtl) (Searcher.runCount engine q) s.world

def Recalls (s : Session σ) (call : Call) (statement : Statement) (params : List Value) : Prop :=
  ∃ again, s.question call = some (.ok (.rows again params)) ∧ again.id = statement.id ∧ again.text = statement.text

theorem prepared_again (s later : Session σ) (q : Query)
    (kept : later.searcher.statements = (s.searcher.prepare s.now q).2.statements) :
    (later.searcher.prepare later.now q).1.id = (s.searcher.prepare s.now q).1.id ∧
      (later.searcher.prepare later.now q).1.text = (s.searcher.prepare s.now q).1.text := by
  have found := prepare_found s.searcher.statements (simplify q.text) q.params s.now
  have known := prepare_known _ (simplify q.text) q.params later.now _ found
  unfold Searcher.prepare at kept ⊢
  rw [kept, known]
  exact ⟨rfl, rfl⟩

theorem search_query_asks (engine : Engine σ) (s : Session σ) (q : Query) :
    s.searcher.searchQuery engine s.now q s.world =
      let found := s.rowsOf engine (s.asksRows q).query (s.asksRows q).key
      (found.1, { (s.searcher.prepare s.now q).2 with results := found.2.1 }, found.2.2) := by
  have kept : (s.searcher.prepare s.now q).2.statements.find? (s.searcher.prepare s.now q).1.id =
      some (s.searcher.prepare s.now q).1 := by
    have found := prepare_found s.searcher.statements (simplify q.text) q.params s.now
    rwa [← prepare_id s.searcher.statements (simplify q.text) q.params s.now] at found
  unfold Searcher.searchQuery Searcher.execute
  simp only [kept]
  rfl

def TakesRows (engine : Engine σ) (s : Session σ) (call : Call) (statement : Statement) (params : List Value) : Prop :=
  let question := Question.rows statement params
  let found := s.rowsOf engine question.query question.key
  ∃ table, s.step engine call = (.rows found.1, { s with
      searcher := { s.searcher with statements := table, results := found.2.1 }, world := found.2.2 }) ∧
    ∀ later : Session σ, later.searcher.statements = table → later.today = s.today →
      later.Recalls call statement params

theorem search_query_step (engine : Engine σ) (s : Session σ) (call : Call) (q : Query)
    (searches : (s.step engine call) = (.rows (s.searcher.searchQuery engine s.now q s.world).1,
      { s with
        searcher := (s.searcher.searchQuery engine s.now q s.world).2.1
        world := (s.searcher.searchQuery engine s.now q s.world).2.2 }))
    (asks : ∀ later : Session σ, later.today = s.today → later.question call = some (.ok (later.asksRows q))) :
    s.TakesRows engine call (s.searcher.prepare s.now q).1 q.params := by
  refine ⟨(s.searcher.prepare s.now q).2.statements, ?_, fun later same day => ?_⟩
  · rw [searches, search_query_asks]
    rfl
  · exact ⟨(later.searcher.prepare later.now q).1, asks later day, s.prepared_again later q same⟩

theorem rows_step (engine : Engine σ) (s : Session σ) (call : Call) (statement : Statement) (params : List Value)
    (asks : s.question call = some (.ok (.rows statement params))) : s.TakesRows engine call statement params := by
  cases call with
  | execute id values =>
      cases known : s.searcher.statements.find? id with
      | none => simp [question, known] at asks
      | some old =>
          simp only [question, known, Option.some.injEq, Except.ok.injEq, Question.rows.injEq] at asks
          obtain ⟨rfl, rfl⟩ := asks
          refine ⟨s.searcher.statements, ?_, fun later same _ => ⟨old, ?_, rfl, rfl⟩⟩
          · unfold step Searcher.execute
            simp only [known]
            rfl
          · simp only [question, same, known]
  | search filter =>
      obtain ⟨q, compiled, same⟩ := (map_ok_iff _ _ _).1 (Option.some.inj asks)
      obtain ⟨rfl, rfl⟩ := Question.rows.inj same
      refine s.search_query_step engine _ q ?_ fun later day => ?_
      · rw [step, Searcher.search, compiled]
      · rw [question, day, compiled]
        rfl
  | searchTree tree =>
      obtain ⟨q, compiled, same⟩ := (map_ok_iff _ _ _).1 (Option.some.inj asks)
      obtain ⟨rfl, rfl⟩ := Question.rows.inj same
      refine s.search_query_step engine _ q ?_ fun later day => ?_
      · rw [step, Searcher.searchTree, compiled]
      · rw [question, day, compiled]
        rfl
  | count filter =>
      obtain ⟨q, -, same⟩ := (map_ok_iff _ _ _).1 (Option.some.inj asks)
      cases same
  | _ => cases asks

theorem number_step (engine : Engine σ) (s : Session σ) (call : Call) (contentType : ContentType) (q : Query)
    (asks : s.question call = some (.ok (.number contentType q))) :
    let found := s.numberOf engine q (Question.number contentType q).key
    s.step engine call = (.number found.1, { s with
        searcher := { s.searcher with counts := found.2.1 }, world := found.2.2 }) ∧
      (∀ e, call.failed e = .number (.error e)) ∧
      ∀ later : Session σ, later.today = s.today → later.question call = some (.ok (.number contentType q)) := by
  cases call with
  | execute id values => cases known : s.searcher.statements.find? id <;> simp [question, known] at asks
  | search filter =>
      obtain ⟨made, -, same⟩ := (map_ok_iff _ _ _).1 (Option.some.inj asks)
      cases same
  | searchTree tree =>
      obtain ⟨made, -, same⟩ := (map_ok_iff _ _ _).1 (Option.some.inj asks)
      cases same
  | count filter =>
      obtain ⟨made, compiled, same⟩ := (map_ok_iff _ _ _).1 (Option.some.inj asks)
      obtain ⟨rfl, rfl⟩ := Question.number.inj same
      refine ⟨?_, fun e => rfl, fun later day => ?_⟩
      · unfold step Searcher.count
        simp only [compiled]
        rfl
      · simp only [question, day, compiled]
        rfl
  | _ => cases asks

theorem error_of_map {α β : Type} (f : α → β) (made : Outcome α) (e : SearchError) (failed : made.map f = .error e) :
    made = .error e := by
  cases made with
  | error other => exact congrArg Except.error (Except.error.inj failed)
  | ok a => cases failed

theorem refused_step (engine : Engine σ) (s : Session σ) (call : Call) (e : SearchError)
    (refused : s.question call = some (.error e)) : s.step engine call = (call.failed e, s) := by
  cases call with
  | execute id values =>
      cases known : s.searcher.statements.find? id with
      | none =>
          simp only [question, known, Option.some.injEq, Except.error.injEq] at refused
          subst refused
          rw [step, Searcher.execute, known]
          rfl
      | some old => simp [question, known] at refused
  | search filter =>
      rw [step, Searcher.search, error_of_map _ _ e (Option.some.inj refused)]
      rfl
  | searchTree tree =>
      rw [step, Searcher.searchTree, error_of_map _ _ e (Option.some.inj refused)]
      rfl
  | count filter =>
      rw [step, Searcher.count, error_of_map _ _ e (Option.some.inj refused)]
      rfl
  | _ => cases refused

def Asks (engine : Engine σ) (s : Session (σ × List Query)) (call : Call) (q : Query) : Prop :=
  (s.step engine.watched call).2.world = ((engine.run q s.world.1).2, s.world.2 ++ [q])

-- A call that the engine fails at: it tells the error, and leaves nothing that would keep the engine from being asked
-- again, whenever the call is repeated and whatever has become of the engine.
structure FailsWithoutTrace (engine : Engine σ) (s : Session (σ × List Query)) (call : Call) (question : Question)
    (e : SearchError) : Prop where
  told : (s.step engine.watched call).1 = call.failed e
  asked : s.Asks engine call question.query
  unharmed : s.Unharmed (s.step engine.watched call).2 question
  askedAgain : ∀ now world, Asks engine { (s.step engine.watched call).2 with now, world } call question.query

theorem rows_asked (engine : Engine σ) (s : Session (σ × List Query)) (call : Call) (statement : Statement)
    (params : List Value) (asks : s.question call = some (.ok (.rows statement params)))
    (missing : (s.searcher.results.get s.now (Question.rows statement params).key).1 = none ∧
      s.searcher.results.Vacant (Question.rows statement params).key) :
    s.Asks engine call (Question.rows statement params).query := by
  obtain ⟨table, stepped, -⟩ := s.rows_step engine.watched call statement params asks
  rw [Asks, stepped]
  exact (s.searcher.results.get_or_set_computes s.now _ _ _ _ missing.1 missing.2).2

theorem rows_failed (engine : Engine σ) (s : Session (σ × List Query)) (call : Call) (statement : Statement)
    (params : List Value) (asks : s.question call = some (.ok (.rows statement params))) (e : SearchError)
    (asked : (s.step engine.watched call).2.world.2 ≠ s.world.2)
    (failed : (Question.rows statement params).answer (engine.run (Question.rows statement params).query s.world.1).1 =
      call.failed e) :
    s.FailsWithoutTrace engine call (.rows statement params) e := by
  obtain ⟨table, stepped, again⟩ := s.rows_step engine.watched call statement params asks
  have attempted := s.searcher.results.get_or_set_computes_or_idle s.now (Question.rows statement params).key
    (some s.searcher.settings.resultTtl) (engine.watched.run (Question.rows statement params).query) s.world
  have missing := attempted.resolve_right fun idle => by
    rw [stepped] at asked
    exact asked (congrArg Prod.snd idle)
  have error : (engine.watched.run (Question.rows statement params).query s.world).1 = .error e := by
    cases call with
    | count filter => cases failed
    | _ => exact Answer.rows.inj failed
  have spared := s.searcher.results.get_or_set_failed s.now _ (some s.searcher.settings.resultTtl) _ s.world
    missing.1 missing.2 e error
  refine ⟨?_, s.rows_asked engine call statement params asks missing, ?_, fun now world => ?_⟩
  · rw [stepped, ← failed]
    exact congrArg Answer.rows (s.searcher.results.get_or_set_computes s.now _ _ _ _ missing.1 missing.2).1
  · rw [stepped]
    exact ⟨spared, rfl⟩
  · obtain ⟨other, question, id, text⟩ := again { (s.step engine.watched call).2 with now, world }
      (by rw [stepped]) (by rw [stepped])
    have key : (Question.rows other params).key = (Question.rows statement params).key := by
      simp only [Question.key, Searcher.resultKey, Statement.table?, id, text]
    have query : (Question.rows other params).query = (Question.rows statement params).query := by
      rw [Question.query, text]
      rfl
    rw [← query]
    refine rows_asked engine _ call other params question ?_
    rw [key, stepped]
    exact spared.missing now

theorem number_asked (engine : Engine σ) (s : Session (σ × List Query)) (call : Call) (contentType : ContentType)
    (q : Query) (asks : s.question call = some (.ok (.number contentType q)))
    (missing : (s.searcher.counts.get s.now (Question.number contentType q).key).1 = none ∧
      s.searcher.counts.Vacant (Question.number contentType q).key) :
    s.Asks engine call q := by
  obtain ⟨stepped, -, -⟩ := s.number_step engine.watched call contentType q asks
  rw [Asks, stepped]
  exact (s.searcher.counts.get_or_set_computes s.now _ _ _ _ missing.1 missing.2).2

theorem number_failed (engine : Engine σ) (s : Session (σ × List Query)) (call : Call) (contentType : ContentType)
    (q : Query) (asks : s.question call = some (.ok (.number contentType q))) (e : SearchError)
    (asked : (s.step engine.watched call).2.world.2 ≠ s.world.2)
    (failed : (Question.number contentType q).answer (engine.run q s.world.1).1 = call.failed e) :
    s.FailsWithoutTrace engine call (.number contentType q) e := by
  obtain ⟨stepped, fails, again⟩ := s.number_step engine.watched call contentType q asks
  have attempted := s.searcher.counts.get_or_set_computes_or_idle s.now (Question.number contentType q).key
    (some s.searcher.settings.countTtl) (Searcher.runCount engine.watched q) s.world
  have missing := attempted.resolve_right fun idle => by
    rw [stepped] at asked
    exact asked (congrArg Prod.snd idle)
  have error : (Searcher.runCount engine.watched q s.world).1 = .error e := by
    rw [fails] at failed
    exact Answer.number.inj failed
  have spared := s.searcher.counts.get_or_set_failed s.now _ (some s.searcher.settings.countTtl) _ s.world
    missing.1 missing.2 e error
  refine ⟨?_, s.number_asked engine call contentType q asks missing, ?_, fun now world => ?_⟩
  · rw [stepped, ← failed]
    exact congrArg Answer.number (s.searcher.counts.get_or_set_computes s.now _ _ _ _ missing.1 missing.2).1
  · rw [stepped]
    exact ⟨spared, rfl⟩
  · rw [stepped]
    exact number_asked engine _ call contentType q (again _ rfl) (spared.missing now)

theorem failures_leave_no_trace (engine : Engine σ) (s : Session (σ × List Query)) (call : Call) :
    (∀ e, s.question call = some (.error e) → s.step engine.watched call = (call.failed e, s)) ∧
      ∀ question e, s.question call = some (.ok question) →
        (s.step engine.watched call).2.world.2 ≠ s.world.2 →
        question.answer (engine.run question.query s.world.1).1 = call.failed e →
        s.FailsWithoutTrace engine call question e := by
  refine ⟨s.refused_step engine.watched call, fun question e asks asked failed => ?_⟩
  cases question with
  | rows statement params => exact s.rows_failed engine call statement params asks e asked failed
  | number contentType q => exact s.number_failed engine call contentType q asks e asked failed

def wordy : Engine Unit where
  run _ w := (.ok [[("count", .string "7")]], w)
  explain _ _ := .ok []

def appointedCount : Query :=
  { text := "SELECT COUNT(*) AS count FROM faculty WHERE faculty.appointed_on >= ?", params := [.date Date.epoch] }

def outdated : Session (Unit × List Query) where
  searcher :=
    { counts :=
        { entries := [{ key := (Question.number .faculty appointedCount).key, value := 7, timestamp := 0, ttl := 600000,
                        sequence := 0 }]
          nextSequence := 1 } }
  now := 700000
  today := Date.epoch
  world := ((), [])

theorem textual_count_leaves_no_trace :
    outdated.question (.count appointed) = some (.ok (.number .faculty appointedCount)) ∧
      (outdated.step wordy.watched (.count appointed)).2.world.2 ≠ outdated.world.2 ∧
      outdated.FailsWithoutTrace wordy (.count appointed) (.number .faculty appointedCount)
        (.execution "count query returned no count") := by
  have compiled : (appointed.compileCount Date.epoch).map Query.simplest = .ok appointedCount := by decide +kernel
  have asks : outdated.question (.count appointed) = some (.ok (.number .faculty appointedCount)) := by
    obtain ⟨q, made, same⟩ := (map_ok_iff _ _ _).1 compiled
    rw [← same, question, show outdated.today = Date.epoch from rfl, made]
    rfl
  have missing : (outdated.searcher.counts.get outdated.now (Question.number .faculty appointedCount).key).1 = none := by
    simp [outdated, Cache.get, Cache.lookup, Cache.find?, Cache.Entry.isExpired]
  have asked := outdated.number_asked wordy (.count appointed) .faculty appointedCount asks
    ⟨missing, Cache.vacant_of_free _ _ rfl⟩
  have heard : (outdated.step wordy.watched (.count appointed)).2.world.2 ≠ outdated.world.2 := by
    rw [asked]
    exact List.cons_ne_nil _ _
  exact ⟨asks, heard, (failures_leave_no_trace wordy outdated (.count appointed)).2 _ _ asks heard rfl⟩

end Session

end ArchiveSearch
