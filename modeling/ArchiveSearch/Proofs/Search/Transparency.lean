import ArchiveSearch.Proofs.Cache.Alone
import ArchiveSearch.Proofs.Search.Requests

/- A searcher answers as if it kept nothing: rows and counts are those that the engine gives for the
   query itself, whatever was found in a cache, dropped from it or prepared before.

   The searcher is compared with one that has statements and a clock but no caches. It is assumed of the
   engine that its answer depends on the text and the bound cells alone, and of the digests that they
   differ on the texts that are digested. -/
namespace ArchiveSearch

set_option autoImplicit false

inductive Call where
  | prepare (q : Query)
  | execute (id : String) (params : Option (List Value))
  | search (filter : Filter)
  | searchTree (tree : FilterTree)
  | count (filter : Filter)
  | invalidate (contentType : ContentType)
  | prune
  | clock (now : Nat) (today : Date)

inductive Answer where
  | statement (s : Statement)
  | rows (answer : Outcome (List Row))
  | number (answer : Outcome Nat)
  | dropped (count : Nat)
  | done

variable {σ : Type}

structure Session (σ : Type) where
  searcher : Searcher
  now : Nat
  today : Date
  world : σ

namespace Session

def step (engine : Engine σ) (s : Session σ) : Call → Answer × Session σ
  | .prepare q =>
      let (statement, searcher) := s.searcher.prepare s.now q
      (.statement statement, { s with searcher })
  | .execute id params =>
      let (answer, searcher, world) := s.searcher.execute engine s.now id params s.world
      (.rows answer, { s with searcher, world })
  | .search filter =>
      let (answer, searcher, world) := s.searcher.search engine s.now s.today filter s.world
      (.rows answer, { s with searcher, world })
  | .searchTree tree =>
      let (answer, searcher, world) := s.searcher.searchTree engine s.now s.today tree s.world
      (.rows answer, { s with searcher, world })
  | .count filter =>
      let (answer, searcher, world) := s.searcher.count engine s.now s.today filter s.world
      (.number answer, { s with searcher, world })
  | .invalidate contentType => (.done, { s with searcher := (s.searcher.invalidate contentType).2 })
  | .prune =>
      let (count, searcher) := s.searcher.prune s.now
      (.dropped count, { s with searcher })
  | .clock now today => (.done, { s with now, today })

def answers (engine : Engine σ) : List Call → Session σ → List Answer
  | [], _ => []
  | call :: rest, s => (s.step engine call).1 :: answers engine rest (s.step engine call).2

end Session

abbrev Oracle := String → List Cell → Outcome (List Row)

def Oracle.rows (oracle : Oracle) (q : Query) : Outcome (List Row) :=
  oracle q.text (q.params.map Cell.ofValue)

def Query.simplest (q : Query) : Query :=
  { q with text := simplify q.text }

structure Bare where
  maxAge : Nat
  statements : Statements := []
  now : Nat
  today : Date

namespace Bare

def prepared (s : Bare) : Call → Option Query
  | .prepare q => some q.simplest
  | .search filter => ((filter.compile s.today).map Query.simplest).toOption
  | .searchTree tree => ((tree.compile s.today).map Query.simplest).toOption
  | _ => none

def executed (s : Bare) : Call → Option Query
  | .execute id params =>
      (s.statements.find? id).map fun known => { text := known.text, params := params.getD known.params }
  | .search filter => ((filter.compile s.today).map Query.simplest).toOption
  | .searchTree tree => ((tree.compile s.today).map Query.simplest).toOption
  | _ => none

def counted (s : Bare) : Call → Option Query
  | .count filter => ((filter.compileCount s.today).map Query.simplest).toOption
  | _ => none

def answer (oracle : Oracle) (s : Bare) : Call → Answer
  | .prepare q => .statement (s.statements.prepare q.simplest.text q.params s.now).1
  | .execute id params =>
      .rows (match s.statements.find? id with
        | none => .error (.statementNotFound id)
        | some known => oracle.rows { text := known.text, params := params.getD known.params })
  | .search filter => .rows ((filter.compile s.today).bind fun q => oracle.rows q.simplest)
  | .searchTree tree => .rows ((tree.compile s.today).bind fun q => oracle.rows q.simplest)
  | .count filter =>
      .number ((filter.compileCount s.today).bind fun q => (oracle.rows q.simplest).bind Searcher.countOf)
  | .prune => .dropped (s.statements.prune s.maxAge s.now).1
  | _ => .done

def filed (table : Statements) (now : Nat) : Option Query → Statements
  | some q => (table.prepare q.text q.params now).2
  | none => table

def step (s : Bare) : Call → Bare
  | .prune => { s with statements := (s.statements.prune s.maxAge s.now).2 }
  | .clock now today => { s with now, today }
  | call => { s with statements := filed s.statements s.now (s.prepared call) }

def answers (oracle : Oracle) : List Call → Bare → List Answer
  | [], _ => []
  | call :: rest, s => s.answer oracle call :: answers oracle rest (s.step call)

def visits : List Call → Bare → List (Bare × Call)
  | [], _ => []
  | call :: rest, s => (s, call) :: visits rest (s.step call)

def textsOf (visit : Bare × Call) : List String :=
  (visit.1.prepared visit.2).toList.map Query.text

def keyTextsOf (visit : Bare × Call) : List String :=
  (visit.1.executed visit.2).toList.map (fun q => requestText (Statement.idOf q.text) q.params) ++
    (visit.1.counted visit.2).toList.map (fun q => requestText q.text q.params)

def valuesOf (visit : Bare × Call) : List Value :=
  ((visit.1.executed visit.2).toList ++ (visit.1.counted visit.2).toList).flatMap Query.params

end Bare

def Apart (digest : String → String) (texts : List String) : Prop :=
  ∀ s ∈ texts, ∀ t ∈ texts, digest s = digest t → s = t

theorem Apart.of_pair (digest : String → String) (a b : String) (different : digest a ≠ digest b) :
    Apart digest [a, b] := by
  intro s mem t mem' same
  simp only [List.mem_cons, List.not_mem_nil, or_false] at mem mem'
  rcases mem with rfl | rfl <;> rcases mem' with rfl | rfl
  · rfl
  · exact absurd same different
  · exact absurd same.symm different
  · rfl

theorem Apart.of_subset (digest : String → String) (texts more : List String)
    (apart : Apart digest more) (within : texts ⊆ more) : Apart digest texts :=
  fun s mem t mem' => apart s (within mem) t (within mem')

def Filed (texts : List String) (table : Statements) : Prop :=
  ∀ known ∈ table, known.id = Statement.idOf known.text ∧ known.text ∈ texts

theorem find_mem (table : Statements) (id : String) (known : Statement)
    (found : table.find? id = some known) : known ∈ table ∧ known.id = id := by
  have named := List.find?_some found
  exact ⟨List.mem_of_find?_eq_some found, beq_iff_eq.1 named⟩

theorem prepare_known (table : Statements) (text : String) (params : List Value) (now : Nat)
    (known : Statement) (found : table.find? (Statement.idOf text) = some known) :
    table.prepare text params now =
      ({ known with params, useCount := known.useCount + 1 },
        table.map fun s => if s.id == Statement.idOf text
          then { known with params, useCount := known.useCount + 1 } else s) := by
  simp only [Statements.prepare, found]

theorem prepare_new (table : Statements) (text : String) (params : List Value) (now : Nat)
    (missing : table.find? (Statement.idOf text) = none) :
    table.prepare text params now =
      ({ id := Statement.idOf text, text, params, createdAt := now, useCount := 1 },
        table ++ [{ id := Statement.idOf text, text, params, createdAt := now, useCount := 1 }]) := by
  simp only [Statements.prepare, missing]

theorem prepare_id (table : Statements) (text : String) (params : List Value) (now : Nat) :
    (table.prepare text params now).1.id = Statement.idOf text := by
  cases found : table.find? (Statement.idOf text) with
  | some known =>
    rw [prepare_known table text params now known found]
    exact (find_mem table _ known found).2
  | none => rw [prepare_new table text params now found]

theorem prepare_found (table : Statements) (text : String) (params : List Value) (now : Nat) :
    (table.prepare text params now).2.find? (Statement.idOf text) = some (table.prepare text params now).1 := by
  cases found : table.find? (Statement.idOf text) with
  | some known =>
    rw [prepare_known table text params now known found]
    generalize next_ : ({ known with params, useCount := known.useCount + 1 } : Statement) = next
    have id : next.id = Statement.idOf text := by rw [← next_, ← (find_mem table _ known found).2]
    have kept : ((fun s : Statement => s.id == Statement.idOf text) ∘ fun s : Statement =>
        if s.id == Statement.idOf text then next else s) = fun s => s.id == Statement.idOf text := by
      funext s
      by_cases here : (s.id == Statement.idOf text) = true
      · rw [Function.comp_apply, if_pos here, here, id, beq_self_eq_true]
      · rw [Function.comp_apply, if_neg here]
    rw [Statements.find?, List.find?_map, kept,
      show List.find? (fun s : Statement => s.id == Statement.idOf text) table = some known from found,
      Option.map_some, (find_mem table _ known found).2, beq_self_eq_true, if_pos rfl]
  | none =>
    rw [prepare_new table text params now found, Statements.find?, List.find?_append,
      show List.find? (fun s : Statement => s.id == Statement.idOf text) table = none from found]
    simp

theorem prepare_keeps_filed (texts : List String) (table : Statements) (filed : Filed texts table)
    (text : String) (mem : text ∈ texts) (params : List Value) (now : Nat) :
    Filed texts (table.prepare text params now).2 := by
  cases found : table.find? (Statement.idOf text) with
  | some known =>
    obtain ⟨inside, named⟩ := find_mem table _ known found
    rw [prepare_known table text params now known found]
    intro s there
    obtain ⟨old, oldThere, rfl⟩ := List.mem_map.1 there
    split
    · exact filed known inside
    · exact filed old oldThere
  | none =>
    rw [prepare_new table text params now found]
    intro s there
    rcases List.mem_append.1 there with old | new
    · exact filed s old
    · rw [List.mem_singleton.1 new]
      exact ⟨rfl, mem⟩

theorem prepare_text (texts : List String) (table : Statements) (filed : Filed texts table)
    (text : String) (mem : text ∈ texts) (params : List Value) (now : Nat) :
    Statement.idOf (table.prepare text params now).1.text = Statement.idOf text ∧
      (table.prepare text params now).1.text ∈ texts := by
  obtain ⟨inside, -⟩ := find_mem _ _ _ (prepare_found table text params now)
  obtain ⟨named, known⟩ := prepare_keeps_filed texts table filed text mem params now _ inside
  exact ⟨named.symm.trans (prepare_id table text params now), known⟩

theorem prepare_filed (texts : List String) (table : Statements) (filed : Filed texts table)
    (apart : Apart Statement.idOf texts) (text : String) (mem : text ∈ texts) (params : List Value)
    (now : Nat) :
    Filed texts (table.prepare text params now).2 ∧
      (table.prepare text params now).2.find? (table.prepare text params now).1.id
        = some (table.prepare text params now).1 ∧
      (table.prepare text params now).1.text = text := by
  obtain ⟨same, known⟩ := prepare_text texts table filed text mem params now
  refine ⟨prepare_keeps_filed texts table filed text mem params now, ?_, apart _ known _ mem same⟩
  rw [prepare_id, prepare_found]

theorem prune_filed (texts : List String) (table : Statements) (filed : Filed texts table)
    (maxAge now : Nat) : Filed texts (table.prune maxAge now).2 :=
  fun known mem => filed known (List.mem_filter.1 mem).1

def Keyed (keys : List String) (head : String → String) (q : Query) (key : String) : Prop :=
  q.params.all Value.isFinite = true ∧ requestText (head q.text) q.params ∈ keys ∧
    ∃ namespace_, key = Cache.keyOfValue namespace_
      (.array [.string (head q.text), .array (q.params.map Value.encode)])

theorem keyed_agree (keys : List String) (apart : Apart Cache.hashOf keys) (head : String → String)
    (q other : Query) (key : String) (keyed : Keyed keys head q key) (keyed' : Keyed keys head other key) :
    head q.text = head other.text ∧ q.params.map Cell.ofValue = other.params.map Cell.ofValue := by
  obtain ⟨finite, mem, namespace_, rfl⟩ := keyed
  obtain ⟨finite', mem', namespace', same⟩ := keyed'
  exact request_text_read _ _ _ _ finite finite'
    (apart _ mem _ mem' (Cache.hash_of_key namespace_ namespace' _ _ same))

def IsRows (oracle : Oracle) (texts keys : List String) (key : String) (rows : List Row) : Prop :=
  ∃ q : Query, q.text ∈ texts ∧ Keyed keys Statement.idOf q key ∧ oracle.rows q = .ok rows

def IsCount (oracle : Oracle) (keys : List String) (key : String) (count : Nat) : Prop :=
  ∃ q : Query, Keyed keys id q key ∧ (oracle.rows q).bind Searcher.countOf = .ok count

theorem is_rows_agrees (oracle : Oracle) (texts keys : List String) (ids : Apart Statement.idOf texts)
    (hashes : Apart Cache.hashOf keys) (q : Query) (mem : q.text ∈ texts) (key : String)
    (keyed : Keyed keys Statement.idOf q key) (rows : List Row)
    (kept : IsRows oracle texts keys key rows) : oracle.rows q = .ok rows := by
  obtain ⟨other, mem', keyed', answered⟩ := kept
  obtain ⟨head, cells⟩ := keyed_agree keys hashes _ q other key keyed keyed'
  rw [Oracle.rows, ids _ mem _ mem' head, cells]
  exact answered

theorem is_count_agrees (oracle : Oracle) (keys : List String) (hashes : Apart Cache.hashOf keys)
    (q : Query) (key : String) (keyed : Keyed keys id q key) (count : Nat)
    (kept : IsCount oracle keys key count) :
    (oracle.rows q).bind Searcher.countOf = .ok count := by
  obtain ⟨other, keyed', answered⟩ := kept
  obtain ⟨text, cells⟩ := keyed_agree keys hashes _ q other key keyed keyed'
  rw [Oracle.rows, show q.text = other.text from text, cells]
  exact answered

structure Sound (oracle : Oracle) (texts keys : List String) (s : Searcher) : Prop where
  filed : Filed texts s.statements
  rows : ∀ e ∈ s.results.entries, IsRows oracle texts keys e.key e.value
  counts : ∀ e ∈ s.counts.entries, IsCount oracle keys e.key e.value
  results_quiet : s.results.Quiet
  counts_quiet : s.counts.Quiet

theorem prepared_within (texts : List String) (b : Bare) (call : Call)
    (digested : ∀ t ∈ Bare.textsOf (b, call), t ∈ texts) (q : Query)
    (prepared : b.prepared call = some q) : q.text ∈ texts :=
  digested _ (by simp [Bare.textsOf, prepared])

theorem executed_within (keys : List String) (b : Bare) (call : Call)
    (keyed : ∀ t ∈ Bare.keyTextsOf (b, call), t ∈ keys)
    (finite : ∀ v ∈ Bare.valuesOf (b, call), v.isFinite = true) (q : Query)
    (executed : b.executed call = some q) :
    q.params.all Value.isFinite = true ∧ requestText (Statement.idOf q.text) q.params ∈ keys := by
  refine ⟨List.all_eq_true.2 fun v mem => finite v ?_, keyed _ ?_⟩
  · simp [Bare.valuesOf, executed, mem]
  · simp [Bare.keyTextsOf, executed]

theorem counted_within (keys : List String) (b : Bare) (call : Call)
    (keyed : ∀ t ∈ Bare.keyTextsOf (b, call), t ∈ keys)
    (finite : ∀ v ∈ Bare.valuesOf (b, call), v.isFinite = true) (q : Query)
    (counted : b.counted call = some q) :
    q.params.all Value.isFinite = true ∧ requestText q.text q.params ∈ keys := by
  refine ⟨List.all_eq_true.2 fun v mem => finite v ?_, keyed _ ?_⟩
  · simp only [Bare.valuesOf, counted, Option.toList_some, List.flatMap_append, List.mem_append]
    exact .inr (by simpa using mem)
  · simp only [Bare.keyTextsOf, counted, Option.toList_some, List.mem_append]
    exact .inr (by simp)

section Calls

variable (engine : Engine σ) (oracle : Oracle) (texts keys : List String)
  (faithful : ∀ q w, (engine.run q w).1 = oracle.rows q) (ids : Apart Statement.idOf texts)
  (hashes : Apart Cache.hashOf keys)

include faithful ids hashes

theorem execute_sound (s : Searcher) (sound : Sound oracle texts keys s) (now : Nat) (id : String)
    (params : Option (List Value)) (w : σ) (known : Statement) (found : s.statements.find? id = some known)
    (q : Query) (asked : q = { text := known.text, params := params.getD known.params })
    (finite : q.params.all Value.isFinite = true)
    (mem : requestText (Statement.idOf q.text) q.params ∈ keys) :
    (s.execute engine now id params w).1 = oracle.rows q ∧
      Sound oracle texts keys (s.execute engine now id params w).2.1 ∧
      (s.execute engine now id params w).2.1.statements = s.statements ∧
      (s.execute engine now id params w).2.1.settings = s.settings := by
  subst asked
  obtain ⟨inside, -⟩ := find_mem s.statements id known found
  obtain ⟨named, text⟩ := sound.filed known inside
  have keyed : Keyed keys Statement.idOf { text := known.text, params := params.getD known.params }
      (Searcher.resultKey known (params.getD known.params)) :=
    ⟨finite, mem, _, by rw [Searcher.resultKey, named]⟩
  have kept := s.results.get_or_set_true now (Searcher.resultKey known (params.getD known.params))
    (some s.settings.resultTtl) (engine.run { text := known.text, params := params.getD known.params }) w
    sound.results_quiet (IsRows oracle texts keys) sound.rows
    (fun rows answered => ⟨_, text, keyed, (faithful _ w).symm.trans answered⟩)
  unfold Searcher.execute
  rw [found]
  refine ⟨?_, ⟨sound.filed, kept.2.1, sound.counts, kept.2.2, sound.counts_quiet⟩, rfl, rfl⟩
  rcases kept.1 with computed | ⟨rows, isRows, answered⟩
  · exact computed.trans (faithful _ w)
  · exact answered.trans (is_rows_agrees oracle texts keys ids hashes _ text _ keyed rows isRows).symm

theorem search_query_sound (s : Searcher) (sound : Sound oracle texts keys s) (now : Nat) (q : Query)
    (w : σ) (text : q.simplest.text ∈ texts) (finite : q.params.all Value.isFinite = true)
    (mem : requestText (Statement.idOf q.simplest.text) q.params ∈ keys) :
    (s.searchQuery engine now q w).1 = oracle.rows q.simplest ∧
      Sound oracle texts keys (s.searchQuery engine now q w).2.1 ∧
      (s.searchQuery engine now q w).2.1.statements
        = (s.statements.prepare q.simplest.text q.params now).2 ∧
      (s.searchQuery engine now q w).2.1.settings = s.settings := by
  obtain ⟨filed, found, same⟩ :=
    prepare_filed texts s.statements sound.filed ids q.simplest.text text q.params now
  have asked : q.simplest = { text := (s.statements.prepare q.simplest.text q.params now).1.text,
                              params := (some q.params).getD [] } := by
    rw [same]
    rfl
  exact execute_sound engine oracle texts keys faithful ids hashes
    { s with statements := (s.statements.prepare q.simplest.text q.params now).2 }
    ⟨filed, sound.rows, sound.counts, sound.results_quiet, sound.counts_quiet⟩ now _ (some q.params) w _
    found q.simplest asked finite mem

theorem searched_sound (s : Searcher) (sound : Sound oracle texts keys s) (now : Nat) (w : σ)
    (compiled : Outcome Query) (out : Outcome (List Row) × Searcher × σ)
    (ran : out = match compiled with
      | .error e => (.error e, s, w)
      | .ok q => s.searchQuery engine now q w)
    (within : ∀ q, (compiled.map Query.simplest).toOption = some q → q.text ∈ texts ∧
      q.params.all Value.isFinite = true ∧ requestText (Statement.idOf q.text) q.params ∈ keys) :
    out.1 = compiled.bind (fun q => oracle.rows q.simplest) ∧
      Sound oracle texts keys out.2.1 ∧
      out.2.1.statements = Bare.filed s.statements now (compiled.map Query.simplest).toOption ∧
      out.2.1.settings = s.settings := by
  subst ran
  cases compiled with
  | error e => exact ⟨rfl, sound, rfl, rfl⟩
  | ok q =>
    obtain ⟨text, finite, mem⟩ := within q.simplest rfl
    exact search_query_sound engine oracle texts keys faithful ids hashes s sound now q w text finite mem

omit ids in
theorem count_sound (s : Searcher) (sound : Sound oracle texts keys s) (now : Nat) (today : Date)
    (filter : Filter) (w : σ) (q : Query) (compiled : filter.compileCount today = .ok q)
    (finite : q.params.all Value.isFinite = true)
    (mem : requestText q.simplest.text q.params ∈ keys) :
    (s.count engine now today filter w).1 = (oracle.rows q.simplest).bind Searcher.countOf ∧
      Sound oracle texts keys (s.count engine now today filter w).2.1 ∧
      (s.count engine now today filter w).2.1.statements = s.statements ∧
      (s.count engine now today filter w).2.1.settings = s.settings := by
  have keyed : Keyed keys id q.simplest (Searcher.countKey filter.contentType q.simplest) :=
    ⟨finite, mem, _, rfl⟩
  have ran : ∀ w, (Searcher.runCount engine q.simplest w).1
      = (oracle.rows q.simplest).bind Searcher.countOf := fun w =>
    congrArg (Except.bind · Searcher.countOf) (faithful q.simplest w)
  have kept := s.counts.get_or_set_true now (Searcher.countKey filter.contentType q.simplest)
    (some s.settings.countTtl) (Searcher.runCount engine q.simplest) w
    sound.counts_quiet (IsCount oracle keys) sound.counts
    (fun count answered => ⟨_, keyed, (ran w).symm.trans answered⟩)
  unfold Searcher.count
  rw [compiled]
  refine ⟨?_, ⟨sound.filed, sound.rows, kept.2.1, sound.results_quiet, kept.2.2⟩, rfl, rfl⟩
  rcases kept.1 with computed | ⟨count, isCount, answered⟩
  · exact computed.trans (ran w)
  · exact answered.trans (is_count_agrees oracle keys hashes _ _ keyed count isCount).symm

structure Alongside (s : Session σ) (b : Bare) : Prop where
  statements : s.searcher.statements = b.statements
  maxAge : s.searcher.settings.statementMaxAge = b.maxAge
  now : s.now = b.now
  today : s.today = b.today

theorem step_sound (s : Session σ) (b : Bare) (alongside : Alongside s b)
    (sound : Sound oracle texts keys s.searcher) (call : Call)
    (digested : ∀ t ∈ Bare.textsOf (b, call), t ∈ texts)
    (keyed : ∀ t ∈ Bare.keyTextsOf (b, call), t ∈ keys)
    (finite : ∀ v ∈ Bare.valuesOf (b, call), v.isFinite = true) :
    (s.step engine call).1 = b.answer oracle call ∧
      Alongside (s.step engine call).2 (b.step call) ∧
      Sound oracle texts keys (s.step engine call).2.searcher := by
  obtain ⟨searcher, now, today, world⟩ := s
  obtain ⟨maxAge, statements, now', today'⟩ := b
  obtain ⟨rfl, rfl, rfl, rfl⟩ := alongside
  cases call with
  | prepare q =>
    obtain ⟨filed, -, -⟩ := prepare_filed texts searcher.statements sound.filed ids q.simplest.text
      (prepared_within texts _ _ digested _ rfl) q.params now
    exact ⟨rfl, ⟨rfl, rfl, rfl, rfl⟩,
      ⟨filed, sound.rows, sound.counts, sound.results_quiet, sound.counts_quiet⟩⟩
  | execute id params =>
    cases found : searcher.statements.find? id with
    | none =>
      rw [Session.step, Searcher.execute, found, Bare.answer, found]
      exact ⟨rfl, ⟨rfl, rfl, rfl, rfl⟩, sound⟩
    | some known =>
      obtain ⟨values, mem⟩ := executed_within keys _ _ keyed finite _ (congrArg (Option.map _) found)
      have executed := execute_sound engine oracle texts keys faithful ids hashes searcher sound now id params world known
        found _ rfl values mem
      rw [Bare.answer, found, Session.step]
      generalize searcher.execute engine now id params world = out at executed
      obtain ⟨answered, kept, statements, settings⟩ := executed
      exact ⟨congrArg Answer.rows answered, ⟨statements, congrArg _ settings, rfl, rfl⟩, kept⟩
  | search filter =>
    have searched := searched_sound engine oracle texts keys faithful ids hashes searcher sound now world
      (filter.compile today) (searcher.search engine now today filter world) rfl
      fun q here => ⟨prepared_within texts _ _ digested q here, executed_within keys _ _ keyed finite q here⟩
    rw [Session.step]
    generalize searcher.search engine now today filter world = out at searched
    obtain ⟨answered, kept, statements, settings⟩ := searched
    exact ⟨congrArg Answer.rows answered, ⟨statements, congrArg _ settings, rfl, rfl⟩, kept⟩
  | searchTree tree =>
    have searched := searched_sound engine oracle texts keys faithful ids hashes searcher sound now world
      (tree.compile today) (searcher.searchTree engine now today tree world) rfl
      fun q here => ⟨prepared_within texts _ _ digested q here, executed_within keys _ _ keyed finite q here⟩
    rw [Session.step]
    generalize searcher.searchTree engine now today tree world = out at searched
    obtain ⟨answered, kept, statements, settings⟩ := searched
    exact ⟨congrArg Answer.rows answered, ⟨statements, congrArg _ settings, rfl, rfl⟩, kept⟩
  | count filter =>
    cases compiled : filter.compileCount today with
    | error e =>
      rw [Session.step, Searcher.count, compiled, Bare.answer, compiled]
      exact ⟨rfl, ⟨rfl, rfl, rfl, rfl⟩, sound⟩
    | ok q =>
      obtain ⟨values, mem⟩ := counted_within keys _ _ keyed finite q.simplest
        (congrArg (fun outcome => (Except.map Query.simplest outcome).toOption) compiled)
      have counted := count_sound engine oracle texts keys faithful hashes searcher sound now today filter world q compiled
        values mem
      rw [Bare.answer, compiled, Session.step]
      generalize searcher.count engine now today filter world = out at counted
      obtain ⟨answered, kept, statements, settings⟩ := counted
      exact ⟨congrArg Answer.number answered, ⟨statements, congrArg _ settings, rfl, rfl⟩, kept⟩
  | invalidate contentType =>
    refine ⟨rfl, ⟨rfl, rfl, rfl, rfl⟩, ⟨sound.filed, fun e mem => ?_, fun e mem => ?_, sound.results_quiet,
      sound.counts_quiet⟩⟩
    · exact sound.rows e (searcher.results.invalidate_entries _ mem)
    · exact sound.counts e (searcher.counts.invalidate_entries _ mem)
  | prune =>
    exact ⟨rfl, ⟨rfl, rfl, rfl, rfl⟩, ⟨prune_filed texts _ sound.filed _ _, sound.rows, sound.counts,
      sound.results_quiet, sound.counts_quiet⟩⟩
  | clock now today => exact ⟨rfl, ⟨rfl, rfl, rfl, rfl⟩, sound⟩

theorem run_sound (calls : List Call) (s : Session σ) (b : Bare) (alongside : Alongside s b)
    (sound : Sound oracle texts keys s.searcher)
    (digested : ∀ t ∈ (b.visits calls).flatMap Bare.textsOf, t ∈ texts)
    (keyed : ∀ t ∈ (b.visits calls).flatMap Bare.keyTextsOf, t ∈ keys)
    (finite : ∀ v ∈ (b.visits calls).flatMap Bare.valuesOf, v.isFinite = true) :
    s.answers engine calls = b.answers oracle calls := by
  induction calls generalizing s b with
  | nil => rfl
  | cons call calls ih =>
    simp only [Bare.visits, List.flatMap_cons, List.forall_mem_append] at digested keyed finite
    obtain ⟨answered, along, kept⟩ := step_sound engine oracle texts keys faithful ids hashes s b alongside
      sound call digested.1 keyed.1 finite.1
    rw [Session.answers, Bare.answers, answered, ih _ _ along kept digested.2 keyed.2 finite.2]

end Calls

def Session.start (settings : Settings) (now : Nat) (today : Date) (world : σ) : Session σ :=
  { searcher := Searcher.new settings, now, today, world }

def Bare.start (settings : Settings) (now : Nat) (today : Date) : Bare :=
  { maxAge := settings.optimizer.statementMaxAge, now, today }

theorem answers_as_without_caches (engine : Engine σ) (oracle : Oracle)
    (faithful : ∀ q w, (engine.run q w).1 = oracle q.text (q.params.map Cell.ofValue))
    (settings : Settings) (now : Nat) (today : Date) (world : σ) (calls : List Call)
    (ids : Apart Statement.idOf (((Bare.start settings now today).visits calls).flatMap Bare.textsOf))
    (hashes : Apart Cache.hashOf (((Bare.start settings now today).visits calls).flatMap Bare.keyTextsOf))
    (finite : ∀ v ∈ ((Bare.start settings now today).visits calls).flatMap Bare.valuesOf,
      v.isFinite = true) :
    (Session.start settings now today world).answers engine calls
      = (Bare.start settings now today).answers oracle calls := by
  refine run_sound engine oracle _ _ faithful ids hashes calls _ _ ⟨rfl, rfl, rfl, rfl⟩ ?_
    (fun _ mem => mem) (fun _ mem => mem) finite
  exact ⟨fun _ none_ => absurd none_ (by simp [Session.start, Searcher.new]),
    fun _ none_ => absurd none_ (by simp [Session.start, Searcher.new]),
    fun _ none_ => absurd none_ (by simp [Session.start, Searcher.new]), rfl, rfl⟩

def recorder : Oracle := fun text cells =>
  .ok [[("count", .integer cells.length), ("text", .string text), ("cells", .array (cells.map Cell.encode))]]

def recorded : Engine Nat where
  run q asked := (recorder q.text (q.params.map Cell.ofValue), asked + 1)
  explain _ _ := .ok []

def appointed : Filter :=
  (Filter.empty .faculty).withCustom "appointedOn" .greaterOrEqual (.date Date.epoch)

-- One statement for a search and for a date given as a text, a clock that goes far ahead and back, and
-- rows that are dropped.
def appointments : List Call :=
  [.clock 900000000 Date.epoch, .search appointed, .clock 5 Date.epoch,
    .execute "stmt_dbe7d58b87913539" (some [.text "1970-01-01"]), .invalidate .faculty, .count appointed]

def appointedText : String :=
  "SELECT faculty.* FROM faculty WHERE faculty.appointed_on >= ?"

def appointedRowsKey : String :=
  requestText "stmt_dbe7d58b87913539" [.date Date.epoch]

def appointedCountKey : String :=
  requestText "SELECT COUNT(*) AS count FROM faculty WHERE faculty.appointed_on >= ?" [.date Date.epoch]

theorem appointed_compiled :
    appointed.compile Date.epoch = .ok { text := appointedText, params := [.date Date.epoch] } := by
  decide +kernel

theorem appointed_simplest : simplify appointedText = appointedText :=
  (simplify_of_list _).trans (congrArg String.ofList (by decide +kernel))

theorem appointed_counted : appointed.compileCount Date.epoch =
    .ok { text := "SELECT COUNT(*) AS count FROM faculty WHERE faculty.appointed_on >= ?", params := [.date Date.epoch] } := by
  decide +kernel

theorem appointed_count_simplest :
    simplify "SELECT COUNT(*) AS count FROM faculty WHERE faculty.appointed_on >= ?" =
      "SELECT COUNT(*) AS count FROM faculty WHERE faculty.appointed_on >= ?" :=
  (simplify_of_list _).trans (congrArg String.ofList (by decide +kernel))

theorem appointed_named : Statement.idOf appointedText = "stmt_dbe7d58b87913539" := by
  decide +kernel

theorem appointments_visited :
    ((Bare.start {} 0 Date.epoch).visits appointments).flatMap Bare.textsOf = [appointedText] ∧
      ((Bare.start {} 0 Date.epoch).visits appointments).flatMap Bare.keyTextsOf =
        [appointedRowsKey, requestText "stmt_dbe7d58b87913539" [.text "1970-01-01"], appointedCountKey] ∧
      ((Bare.start {} 0 Date.epoch).visits appointments).flatMap Bare.valuesOf =
        [.date Date.epoch, .text "1970-01-01", .date Date.epoch] := by
  simp [appointments, Bare.start, Bare.visits, Bare.step, Bare.prepared, Bare.executed, Bare.counted, Bare.filed,
    Bare.textsOf, Bare.keyTextsOf, Bare.valuesOf, Query.simplest, Except.map, Except.toOption, appointed_compiled,
    appointed_simplest, appointed_counted, appointed_count_simplest, appointed_named, Statements.prepare,
    Statements.find?, appointedRowsKey, appointedCountKey]

theorem appointments_as_without_caches :
    (Session.start {} 0 Date.epoch 0).answers recorded appointments
      = (Bare.start {} 0 Date.epoch).answers recorder appointments := by
  obtain ⟨texts, keys, values⟩ := appointments_visited
  have dated : requestText "stmt_dbe7d58b87913539" [.text "1970-01-01"] = appointedRowsKey :=
    (request_text_iff _ _ _ _).2 ⟨rfl, congrArg (fun day => [Json.string day]) (by decide +kernel)⟩
  have apart : Cache.hashOf appointedRowsKey ≠ Cache.hashOf appointedCountKey := by decide +kernel
  refine answers_as_without_caches recorded recorder (fun _ _ => rfl) {} 0 Date.epoch 0 appointments ?_ ?_ ?_
  · rw [texts]
    simp [Apart]
  · rw [keys, dated]
    exact Apart.of_subset _ _ _ (Apart.of_pair _ _ _ apart) (by simp)
  · rw [values]
    decide

end ArchiveSearch
