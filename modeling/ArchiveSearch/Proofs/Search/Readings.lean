import ArchiveSearch.Proofs.Cache.Entries
import ArchiveSearch.Proofs.Query.Tables
import ArchiveSearch.Proofs.Search.Transparency

/- What the calls of a run read, and how: rows through the statement that is found and the cache of rows, numbers through
   the cache of counts, both under a key in the namespace of the table that is read.

   A statement is found by an id of 64 bits. Of the ids it is assumed that those of texts about different tables differ. -/
namespace ArchiveSearch

set_option autoImplicit false

variable {σ : Type}

-- What a call reads: from which table, by which query, and whether rows are asked for or their number.
structure Reading where
  contentType : ContentType
  query : Query
  counted : Bool

namespace Reading

def key (r : Reading) : String :=
  if r.counted then Searcher.countKey r.contentType r.query
  else Cache.keyOfValue (Searcher.resultsOf r.contentType.table)
    (.array [.string (Statement.idOf r.query.text), .array (r.query.params.map Value.encode)])

def answer (r : Reading) (rows : Outcome (List Row)) : Answer :=
  if r.counted then .number (rows.bind Searcher.countOf) else .rows rows

end Reading

def FilterTree.category (today : Date) (tree : FilterTree) : Outcome ContentType :=
  (tree.condition today).map fun found => found.2.getD .alumni

namespace Call

def reading? (today : Date) : Call → Option Reading
  | .search filter => (filter.compile today).toOption.map fun q => ⟨filter.contentType, q.simplest, false⟩
  | .searchTree tree => (tree.compile today).toOption.bind fun q =>
      (tree.category today).toOption.map fun contentType => ⟨contentType, q.simplest, false⟩
  | .count filter => (filter.compileCount today).toOption.map fun q => ⟨filter.contentType, q.simplest, true⟩
  | _ => none

def day (today : Date) : Call → Date
  | .clock _ next => next
  | _ => today

def readings : Date → List Call → List Reading
  | _, [] => []
  | today, call :: rest => (call.reading? today).toList ++ readings (call.day today) rest

def IsVisit : Call → Prop
  | .search _ | .searchTree _ | .count _ | .invalidate _ | .clock _ _ => True
  | _ => False

def IsClock : Call → Prop
  | .clock _ _ => True
  | _ => False

instance : DecidablePred IsVisit := fun call => by
  cases call <;> unfold IsVisit <;> infer_instance

theorem search_table (today : Date) (call : Call) (r : Reading) (reads : call.reading? today = some r)
    (rows : r.counted = false) : Statement.tableOf? r.query.text = some r.contentType.table := by
  cases call with
  | search filter =>
      obtain ⟨q, compiled, rfl⟩ := Option.map_eq_some_iff.1 reads
      cases made : filter.compile today with
      | error e => rw [made] at compiled; cases compiled
      | ok q' =>
          rw [made] at compiled
          cases compiled
          exact filter.compiled_table today q made
  | searchTree tree =>
      obtain ⟨q, compiled, same⟩ := Option.bind_eq_some_iff.1 reads
      obtain ⟨contentType, found, rfl⟩ := Option.map_eq_some_iff.1 same
      cases made : tree.condition today with
      | error e =>
          rw [FilterTree.compile, made] at compiled
          cases compiled
      | ok condition =>
          rw [FilterTree.category, made] at found
          cases found
          rw [FilterTree.compile, made] at compiled
          cases compiled
          exact tree.compiled_table today condition _ made (by rw [FilterTree.compile, made]; rfl)
  | count filter =>
      obtain ⟨q, compiled, rfl⟩ := Option.map_eq_some_iff.1 reads
      cases rows
  | _ => cases reads

theorem readings_append (today : Date) (xs ys : List Call) :
    readings today (xs ++ ys) = readings today xs ++ readings (xs.foldl day today) ys := by
  induction xs generalizing today with
  | nil => rfl
  | cons x xs ih => rw [List.cons_append, readings, readings, ih, List.foldl_cons, List.append_assoc]

end Call

theorem namespace_apart (kind : String) (a b : ContentType) (key : String)
    (first : Cache.inNamespace (kind ++ a.table) key = true) (second : Cache.inNamespace (kind ++ b.table) key = true) :
    a = b := by
  rw [Cache.inNamespace, List.isPrefixOf_iff_prefix, String.toList_append, table_to_list, List.append_assoc] at first second
  have either := List.prefix_or_prefix_of_prefix first second
  rw [List.prefix_append_right_inj, List.prefix_append_right_inj] at either
  revert either
  cases a <;> cases b <;> decide

theorem key_in_namespace (namespace_ : String) (part : Json) :
    Cache.inNamespace namespace_ (Cache.keyOfValue namespace_ part) = true := by
  rw [Cache.inNamespace, List.isPrefixOf_iff_prefix, Cache.keyOfValue, Cache.key_of_eq]
  simp only [String.toList_append]
  exact ⟨_, rfl⟩

theorem Reading.rows_key (r : Reading) (rows : r.counted = false) :
    Cache.inNamespace (Searcher.resultsOf r.contentType.table) r.key = true := by
  rw [Reading.key, rows]
  exact key_in_namespace _ _

theorem Reading.count_key (r : Reading) (counted : r.counted = true) :
    Cache.inNamespace (Searcher.countsOf r.contentType.table) r.key = true := by
  rw [Reading.key, counted]
  exact key_in_namespace _ _

namespace Session

def after (engine : Engine σ) (s : Session σ) (calls : List Call) : Session σ :=
  calls.foldl (fun s call => (s.step engine call).2) s

theorem after_concat (engine : Engine σ) (s : Session σ) (calls : List Call) (call : Call) :
    s.after engine (calls ++ [call]) = ((s.after engine calls).step engine call).2 :=
  List.foldl_concat _ s call calls

theorem step_day (engine : Engine σ) (s : Session σ) (call : Call) :
    (s.step engine call).2.today = call.day s.today := by
  cases call <;> rfl

theorem after_day (engine : Engine σ) (s : Session σ) (calls : List Call) :
    (s.after engine calls).today = calls.foldl Call.day s.today := by
  induction calls using List.reverseRecOn with
  | nil => rfl
  | append_singleton calls call ih => rw [after_concat, step_day, ih, List.foldl_concat]

def made (s : Session σ) (r : Reading) : Statement :=
  (s.searcher.statements.prepare r.query.text r.query.params s.now).1

def rowsThrough (engine : Engine σ) (s : Session σ) (r : Reading) : Outcome (List Row) × Cache (List Row) × σ :=
  s.searcher.results.getOrSet s.now (Searcher.resultKey (s.made r) r.query.params) (some s.searcher.settings.resultTtl)
    (engine.run { r.query with text := (s.made r).text }) s.world

def countThrough (engine : Engine σ) (s : Session σ) (r : Reading) : Outcome Nat × Cache Nat × σ :=
  s.searcher.counts.getOrSet s.now r.key (some s.searcher.settings.countTtl) (Searcher.runCount engine r.query) s.world

theorem search_query_through (engine : Engine σ) (s : Session σ) (q : Query) (r : Reading) (asked : r.query = q.simplest) :
    s.searcher.searchQuery engine s.now q s.world = ((s.rowsThrough engine r).1,
      { s.searcher with
        statements := (s.searcher.statements.prepare r.query.text r.query.params s.now).2
        results := (s.rowsThrough engine r).2.1 }, (s.rowsThrough engine r).2.2) := by
  unfold Searcher.searchQuery Searcher.prepare Searcher.execute rowsThrough made
  rw [asked]
  simp only [prepare_id, Query.simplest, prepare_found, Option.getD_some]

theorem step_rows (engine : Engine σ) (s : Session σ) (call : Call) (r : Reading)
    (reads : call.reading? s.today = some r) (rows : r.counted = false) :
    s.step engine call = (.rows (s.rowsThrough engine r).1,
      { s with
        searcher := { s.searcher with
          statements := (s.searcher.statements.prepare r.query.text r.query.params s.now).2
          results := (s.rowsThrough engine r).2.1 }
        world := (s.rowsThrough engine r).2.2 }) := by
  cases call with
  | search filter =>
      cases compiled : filter.compile s.today with
      | error e => rw [Call.reading?, compiled] at reads; cases reads
      | ok q =>
          rw [Call.reading?, compiled] at reads
          obtain rfl := Option.some.inj reads
          rw [step, Searcher.search, compiled]
          simp only [search_query_through engine s q ⟨filter.contentType, q.simplest, false⟩ rfl]
  | searchTree tree =>
      cases compiled : tree.compile s.today with
      | error e => rw [Call.reading?, compiled] at reads; cases reads
      | ok q =>
          rw [Call.reading?, compiled] at reads
          obtain ⟨contentType, -, rfl⟩ := Option.map_eq_some_iff.1 reads
          rw [step, Searcher.searchTree, compiled]
          simp only [search_query_through engine s q ⟨contentType, q.simplest, false⟩ rfl]
  | count filter =>
      obtain ⟨q, -, rfl⟩ := Option.map_eq_some_iff.1 reads
      cases rows
  | _ => cases reads

theorem step_count (engine : Engine σ) (s : Session σ) (call : Call) (r : Reading)
    (reads : call.reading? s.today = some r) (counted : r.counted = true) :
    s.step engine call = (.number (s.countThrough engine r).1,
      { s with
        searcher := { s.searcher with counts := (s.countThrough engine r).2.1 }
        world := (s.countThrough engine r).2.2 }) := by
  cases call with
  | search filter =>
      obtain ⟨q, -, rfl⟩ := Option.map_eq_some_iff.1 reads
      cases counted
  | searchTree tree =>
      obtain ⟨q, -, same⟩ := Option.bind_eq_some_iff.1 reads
      obtain ⟨contentType, -, rfl⟩ := Option.map_eq_some_iff.1 same
      cases counted
  | count filter =>
      cases compiled : filter.compileCount s.today with
      | error e => rw [Call.reading?, compiled] at reads; cases reads
      | ok q =>
          rw [Call.reading?, compiled] at reads
          obtain rfl := Option.some.inj reads
          rw [step, Searcher.count, compiled]
          rfl
  | _ => cases reads

theorem step_idle (engine : Engine σ) (s : Session σ) (call : Call) (visit : call.IsVisit)
    (idle : call.reading? s.today = none) :
    (s.step engine call).2.searcher = s.searcher ∨
      ∃ contentType, call = .invalidate contentType ∧
        (s.step engine call).2.searcher = (s.searcher.invalidate contentType).2 := by
  cases call with
  | search filter =>
      cases compiled : filter.compile s.today with
      | error e =>
          rw [step, Searcher.search, compiled]
          exact .inl rfl
      | ok q => rw [Call.reading?, compiled] at idle; cases idle
  | searchTree tree =>
      cases compiled : tree.compile s.today with
      | error e =>
          rw [step, Searcher.searchTree, compiled]
          exact .inl rfl
      | ok q =>
          rw [Call.reading?, compiled] at idle
          cases found : tree.condition s.today with
          | error e => rw [FilterTree.compile, found] at compiled; cases compiled
          | ok condition => rw [FilterTree.category, found] at idle; cases idle
  | count filter =>
      cases compiled : filter.compileCount s.today with
      | error e =>
          rw [step, Searcher.count, compiled]
          exact .inl rfl
      | ok q => rw [Call.reading?, compiled] at idle; cases idle
  | invalidate contentType => exact .inr ⟨contentType, rfl, rfl⟩
  | clock now today => exact .inl rfl
  | prepare q => exact visit.elim
  | execute id params => exact visit.elim
  | prune => exact visit.elim

end Session

namespace Session

def kept? (s : Session σ) (r : Reading) : Option Answer :=
  if r.counted then (s.searcher.counts.get s.now r.key).1.map fun count => .number (.ok count)
  else (s.searcher.results.get s.now r.key).1.map fun rows => .rows (.ok rows)

def AnswersKept (engine : Engine σ) (s : Session σ) (call : Call) (answer : Answer) : Prop :=
  (s.step engine call).1 = answer ∧ (s.step engine call).2.world = s.world

def AsksEngine (engine : Engine σ) (s : Session σ) (call : Call) (r : Reading) : Prop :=
  ∃ text, Statement.idOf text = Statement.idOf r.query.text ∧
    (s.step engine call).1 = r.answer (engine.run { r.query with text } s.world).1 ∧
    (s.step engine call).2.world = (engine.run { r.query with text } s.world).2

end Session

def searchTexts (rs : List Reading) : List String :=
  (rs.filter fun r => !r.counted).map fun r => r.query.text

def TablesApart (rs : List Reading) : Prop :=
  ∀ a ∈ rs, ∀ b ∈ rs, a.counted = false → b.counted = false → a.contentType ≠ b.contentType →
    Statement.idOf a.query.text ≠ Statement.idOf b.query.text

instance (rs : List Reading) : Decidable (TablesApart rs) :=
  inferInstanceAs (Decidable (∀ a ∈ rs, ∀ b ∈ rs, _ → _ → _ → _ ≠ _))

structure Placed (rs : List Reading) (s : Searcher) : Prop where
  filed : Filed (searchTexts rs) s.statements
  results : s.results.Orderly ∧ s.results.Quiet
  counts : s.counts.Orderly ∧ s.counts.Quiet

section Placed

variable (engine : Engine σ) (rs : List Reading)
  (named : ∀ r ∈ rs, r.counted = false → Statement.tableOf? r.query.text = some r.contentType.table)
  (ids : TablesApart rs) (s : Session σ) (placed : Placed rs s.searcher)

theorem search_texts_mem (r : Reading) (mem : r ∈ rs) (rows : r.counted = false) : r.query.text ∈ searchTexts rs :=
  List.mem_map.2 ⟨r, List.mem_filter.2 ⟨mem, by rw [rows]; rfl⟩, rfl⟩

include placed

theorem made_id (r : Reading) (mem : r ∈ rs) (rows : r.counted = false) :
    Statement.idOf (s.made r).text = Statement.idOf r.query.text ∧
      ∃ other ∈ rs, other.counted = false ∧ other.query.text = (s.made r).text := by
  obtain ⟨same, known⟩ := prepare_text _ _ placed.filed _ (search_texts_mem rs r mem rows) r.query.params s.now
  obtain ⟨other, inside, text⟩ := List.mem_map.1 known
  obtain ⟨there, rows'⟩ := List.mem_filter.1 inside
  exact ⟨same, other, there, by simpa using rows', text⟩

include named ids in
theorem made_key (r : Reading) (mem : r ∈ rs) (rows : r.counted = false) :
    Searcher.resultKey (s.made r) r.query.params = r.key := by
  obtain ⟨same, other, there, rows', text⟩ := made_id rs s placed r mem rows
  have table : (s.made r).table? = some r.contentType.table := by
    have category : other.contentType = r.contentType :=
      not_imp_not.1 (ids other there r mem rows' rows) (by rw [text, same])
    rw [Statement.table?, ← text, named other there rows', category]
  have id : (s.made r).id = Statement.idOf r.query.text := prepare_id _ _ _ _
  rw [Searcher.resultKey, table, id, Reading.key, rows]
  rfl

theorem placed_step (call : Call) (visit : call.IsVisit) (inside : ∀ r, call.reading? s.today = some r → r ∈ rs) :
    Placed rs (s.step engine call).2.searcher := by
  cases reads : call.reading? s.today with
  | none =>
      rcases Session.step_idle engine s call visit reads with same | ⟨contentType, -, same⟩
      · rw [same]
        exact placed
      · rw [same]
        exact ⟨placed.filed, ⟨placed.results.1.thinned List.filter_sublist rfl rfl, placed.results.2⟩,
          ⟨placed.counts.1.thinned List.filter_sublist rfl rfl, placed.counts.2⟩⟩
  | some r =>
      cases counted : r.counted with
      | false =>
          rw [Session.step_rows engine s call r reads counted]
          exact ⟨prepare_keeps_filed _ _ placed.filed _ (search_texts_mem rs r (inside r reads) counted) _ _,
            s.searcher.results.get_or_set_orderly _ _ _ _ _ placed.results.2 placed.results.1, placed.counts⟩
      | true =>
          rw [Session.step_count engine s call r reads counted]
          exact ⟨placed.filed, placed.results, s.searcher.counts.get_or_set_orderly _ _ _ _ _ placed.counts.2 placed.counts.1⟩

include named ids in
theorem step_entries (call : Call) (visit : call.IsVisit) (inside : ∀ r, call.reading? s.today = some r → r ∈ rs) :
    (∀ e ∈ (s.step engine call).2.searcher.results.entries, e ∈ s.searcher.results.entries ∨
      ∃ r, call.reading? s.today = some r ∧ r.counted = false ∧ e.key = r.key) ∧
    ∀ e ∈ (s.step engine call).2.searcher.counts.entries, e ∈ s.searcher.counts.entries ∨
      ∃ r, call.reading? s.today = some r ∧ r.counted = true ∧ e.key = r.key := by
  cases reads : call.reading? s.today with
  | none =>
      rcases Session.step_idle engine s call visit reads with same | ⟨contentType, -, same⟩
      · rw [same]
        exact ⟨fun e mem => .inl mem, fun e mem => .inl mem⟩
      · rw [same]
        exact ⟨fun e mem => .inl (s.searcher.results.invalidate_entries _ mem),
          fun e mem => .inl (s.searcher.counts.invalidate_entries _ mem)⟩
  | some r =>
      cases counted : r.counted with
      | false =>
          rw [Session.step_rows engine s call r reads counted]
          refine ⟨fun e mem => ?_, fun e mem => .inl mem⟩
          refine (s.searcher.results.get_or_set_entries _ _ _ _ _ placed.results.2 e mem).imp id fun key => ?_
          exact ⟨r, rfl, counted, key.trans (made_key rs named ids s placed r (inside r reads) counted)⟩
      | true =>
          rw [Session.step_count engine s call r reads counted]
          refine ⟨fun e mem => .inl mem, fun e mem => ?_⟩
          exact (s.searcher.counts.get_or_set_entries _ _ _ _ _ placed.counts.2 e mem).imp id fun key =>
            ⟨r, rfl, counted, key⟩

include named ids in
theorem step_answers (call : Call) (r : Reading) (reads : call.reading? s.today = some r) (mem : r ∈ rs) :
    match s.kept? r with
    | some answer => s.AnswersKept engine call answer
    | none => s.AsksEngine engine call r := by
  unfold Session.AnswersKept Session.AsksEngine Reading.answer Session.kept?
  cases counted : r.counted with
  | false =>
      have key := made_key rs named ids s placed r mem counted
      rw [Session.step_rows engine s call r reads counted, if_neg Bool.false_ne_true, Session.rowsThrough, key]
      cases found : (s.searcher.results.get s.now r.key).1 with
      | some rows =>
          rw [s.searcher.results.get_or_set_hit _ _ _ _ _ placed.results.2 rows found]
          exact ⟨rfl, rfl⟩
      | none =>
          obtain ⟨answered, ran⟩ := s.searcher.results.get_or_set_miss s.now r.key (some s.searcher.settings.resultTtl)
            (engine.run { r.query with text := (s.made r).text }) s.world placed.results.2 found
          exact ⟨(s.made r).text, (made_id rs s placed r mem counted).1, congrArg Answer.rows answered, ran⟩
  | true =>
      rw [Session.step_count engine s call r reads counted, if_pos rfl, Session.countThrough]
      cases found : (s.searcher.counts.get s.now r.key).1 with
      | some count =>
          rw [s.searcher.counts.get_or_set_hit _ _ _ _ _ placed.counts.2 count found]
          exact ⟨rfl, rfl⟩
      | none =>
          obtain ⟨answered, ran⟩ := s.searcher.counts.get_or_set_miss s.now r.key (some s.searcher.settings.countTtl)
            (Searcher.runCount engine r.query) s.world placed.counts.2 found
          exact ⟨r.query.text, rfl, congrArg Answer.number answered, ran⟩

end Placed

end ArchiveSearch
