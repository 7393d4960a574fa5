import ArchiveSearch.Proofs.Search.Readings

/- Dropping what was read from one table: gone are just the entries that were stored for filters and trees compiled against
   it, so that the engine is asked again for these and for no others.

   It is assumed of the ids of statements that those of texts about different tables differ; two texts are given for which
   they do not. -/
namespace ArchiveSearch

set_option autoImplicit false

variable {σ : Type}

def StoredFor {α : Type} (engine : Engine σ) (start : Session σ) (cache : Searcher → Cache α) (calls : List Call)
    (contentType : ContentType) (e : Cache.Entry α) : Prop :=
  ∃ done call rest r, calls = done ++ call :: rest ∧ call.reading? (start.after engine done).today = some r ∧
    r.contentType = contentType ∧ e ∉ (cache (start.after engine done).searcher).entries ∧
    e ∈ (cache (start.after engine (done ++ [call])).searcher).entries

section Stored

variable {α : Type} (engine : Engine σ) (start : Session σ) (cache : Searcher → Cache α) (kind : String)
  (empty : (cache start.searcher).entries = [])

def FilesByTable (calls : List Call) : Prop :=
  ∀ done call rest, calls = done ++ call :: rest →
    ∀ e ∈ (cache (start.after engine (done ++ [call])).searcher).entries,
      e ∈ (cache (start.after engine done).searcher).entries ∨
        ∃ r, call.reading? (start.after engine done).today = some r ∧
          Cache.inNamespace (kind ++ r.contentType.table) e.key = true

theorem StoredFor.filed (calls : List Call) (files : FilesByTable engine start cache kind calls)
    (contentType : ContentType) (e : Cache.Entry α) (stored : StoredFor engine start cache calls contentType e) :
    Cache.inNamespace (kind ++ contentType.table) e.key = true := by
  obtain ⟨done, call, rest, r, split, reads, rfl, absent, there⟩ := stored
  rcases files done call rest split e there with old | ⟨r', reads', filed⟩
  · exact absurd old absent
  · obtain rfl := Option.some.inj (reads.symm.trans reads')
    exact filed

include empty

theorem stored_for_one (calls : List Call) (files : FilesByTable engine start cache kind calls) :
    ∀ e ∈ (cache (start.after engine calls).searcher).entries,
      ∃ contentType, StoredFor engine start cache calls contentType e := by
  induction calls using List.reverseRecOn with
  | nil =>
      intro e mem
      rw [Session.after, List.foldl_nil, empty] at mem
      exact absurd mem List.not_mem_nil
  | append_singleton calls call ih =>
      intro e mem
      by_cases old : e ∈ (cache (start.after engine calls).searcher).entries
      · have earlier : FilesByTable engine start cache kind calls := fun done call' rest split =>
          files done call' (rest ++ [call]) (by rw [split, List.append_assoc, List.cons_append])
        obtain ⟨contentType, done, call', rest, r, rfl, stored⟩ := ih earlier e old
        exact ⟨contentType, done, call', rest ++ [call], r, by rw [List.append_assoc, List.cons_append], stored⟩
      · rcases files calls call [] rfl e mem with there | ⟨r, reads, -⟩
        · exact absurd there old
        · exact ⟨r.contentType, calls, call, [], r, rfl, reads, rfl, old, mem⟩

theorem stored_iff (calls : List Call) (files : FilesByTable engine start cache kind calls) (contentType : ContentType)
    (e : Cache.Entry α) (mem : e ∈ (cache (start.after engine calls).searcher).entries) :
    StoredFor engine start cache calls contentType e ↔ Cache.inNamespace (kind ++ contentType.table) e.key = true := by
  refine ⟨StoredFor.filed engine start cache kind calls files contentType e, fun filed => ?_⟩
  obtain ⟨other, stored⟩ := stored_for_one engine start cache kind empty calls files e mem
  rwa [namespace_apart kind contentType other e.key filed
    (StoredFor.filed engine start cache kind calls files other e stored)]

end Stored

structure Drops (engine : Engine σ) (start : Session σ) (done : List Call) (contentType : ContentType) : Prop where
  owned : (∀ e ∈ (start.after engine done).searcher.results.entries,
      ∃ owner, StoredFor engine start Searcher.results done owner e) ∧
    ∀ e ∈ (start.after engine done).searcher.counts.entries, ∃ owner, StoredFor engine start Searcher.counts done owner e
  results : ∀ e, e ∈ ((start.after engine done).searcher.invalidate contentType).2.results.entries ↔
    e ∈ (start.after engine done).searcher.results.entries ∧
      ¬ StoredFor engine start Searcher.results done contentType e
  counts : ∀ e, e ∈ ((start.after engine done).searcher.invalidate contentType).2.counts.entries ↔
    e ∈ (start.after engine done).searcher.counts.entries ∧
      ¬ StoredFor engine start Searcher.counts done contentType e
  number : ((start.after engine done).searcher.invalidate contentType).1 +
      ((start.after engine done).searcher.invalidate contentType).2.results.size +
      ((start.after engine done).searcher.invalidate contentType).2.counts.size =
    (start.after engine done).searcher.results.size + (start.after engine done).searcher.counts.size

theorem Searcher.invalidate_count (s : Searcher) (contentType : ContentType) :
    (s.invalidate contentType).1 + (s.invalidate contentType).2.results.size + (s.invalidate contentType).2.counts.size =
      s.results.size + s.counts.size := by
  have rows := s.results.invalidate_count (Cache.inNamespace (Searcher.resultsOf contentType.table))
  have counts := s.counts.invalidate_count (Cache.inNamespace (Searcher.countsOf contentType.table))
  simp only [Searcher.invalidate, Cache.invalidateNamespace]
  omega

theorem readings_mem (engine : Engine σ) (start : Session σ) (done : List Call) (call : Call) (rest : List Call)
    (r : Reading) (reads : call.reading? (start.after engine done).today = some r) :
    r ∈ Call.readings start.today (done ++ call :: rest) := by
  rw [Session.after_day] at reads
  rw [Call.readings_append, Call.readings, reads]
  exact List.mem_append_right _ (List.mem_append_left _ (List.mem_singleton.2 rfl))

theorem readings_table (today : Date) (calls : List Call) (r : Reading) (mem : r ∈ Call.readings today calls)
    (rows : r.counted = false) : Statement.tableOf? r.query.text = some r.contentType.table := by
  induction calls generalizing today with
  | nil => exact absurd mem List.not_mem_nil
  | cons call rest ih =>
      rcases List.mem_append.1 mem with here | later
      · exact call.search_table today r (Option.mem_toList.1 here) rows
      · exact ih _ later

def Forgotten (s : Searcher) (r : Reading) : Prop :=
  (r.counted = false → ∀ e ∈ s.results.entries, e.key ≠ r.key) ∧ (r.counted = true → ∀ e ∈ s.counts.entries, e.key ≠ r.key)

theorem forgotten_kept (s : Session σ) (r : Reading) (forgotten : Forgotten s.searcher r) : s.kept? r = none := by
  unfold Session.kept?
  cases counted : r.counted with
  | false =>
      cases found : (s.searcher.results.get s.now r.key).1 with
      | none => rfl
      | some rows =>
          obtain ⟨e, mem, key, -⟩ := s.searcher.results.get_found _ _ _ found
          exact absurd key (forgotten.1 counted e mem)
  | true =>
      cases found : (s.searcher.counts.get s.now r.key).1 with
      | none => rfl
      | some count =>
          obtain ⟨e, mem, key, -⟩ := s.searcher.counts.get_found _ _ _ found
          exact absurd key (forgotten.2 counted e mem)

theorem invalidate_forgets (s : Searcher) (r : Reading) : Forgotten (s.invalidate r.contentType).2 r := by
  constructor
  · intro rows e mem same
    exact ((s.results.invalidate_mem _ e).1 mem).2 (same ▸ r.rows_key rows)
  · intro counted e mem same
    exact ((s.counts.invalidate_mem _ e).1 mem).2 (same ▸ r.count_key counted)

theorem invalidate_keeps (s : Session σ) (rs : List Reading) (placed : Placed rs s.searcher) (contentType : ContentType)
    (r : Reading) (other : r.contentType ≠ contentType) :
    ({ s with searcher := (s.searcher.invalidate contentType).2 } : Session σ).kept? r = s.kept? r := by
  unfold Session.kept? Searcher.invalidate
  cases counted : r.counted with
  | false =>
      have stays : ¬ Cache.inNamespace (Searcher.resultsOf contentType.table) r.key = true := fun inside =>
        other (namespace_apart "query:" _ _ _ (r.rows_key counted) inside)
      exact congrArg (Option.map _) (s.searcher.results.get_invalidate placed.results.1.filed _ s.now r.key stays)
  | true =>
      have stays : ¬ Cache.inNamespace (Searcher.countsOf contentType.table) r.key = true := fun inside =>
        other (namespace_apart "count:" _ _ _ (r.count_key counted) inside)
      exact congrArg (Option.map _) (s.searcher.counts.get_invalidate placed.counts.1.filed _ s.now r.key stays)

namespace Session

theorem after_append (engine : Engine σ) (s : Session σ) (calls more : List Call) :
    s.after engine (calls ++ more) = (s.after engine calls).after engine more :=
  List.foldl_append

theorem after_clocks (engine : Engine σ) (s : Session σ) (clocks : List Call) (only : ∀ call ∈ clocks, call.IsClock) :
    (s.after engine clocks).searcher = s.searcher := by
  induction clocks using List.reverseRecOn with
  | nil => rfl
  | append_singleton clocks call ih =>
      rw [List.forall_mem_append] at only
      rw [after_concat]
      cases call with
      | clock now today => exact ih only.1
      | _ => exact (only.2 _ List.mem_cons_self).elim

end Session

section Runs

variable (engine : Engine σ) (start : Session σ) (rs : List Reading)
  (named : ∀ r ∈ rs, r.counted = false → Statement.tableOf? r.query.text = some r.contentType.table)
  (ids : TablesApart rs)

theorem placed_after (placed : Placed rs start.searcher) (calls : List Call) (visits : ∀ call ∈ calls, call.IsVisit)
    (inside : Call.readings start.today calls ⊆ rs) : Placed rs (start.after engine calls).searcher := by
  induction calls using List.reverseRecOn with
  | nil => exact placed
  | append_singleton calls call ih =>
      rw [List.forall_mem_append] at visits
      have earlier : Call.readings start.today calls ⊆ rs := fun r mem =>
        inside (by rw [Call.readings_append]; exact List.mem_append_left _ mem)
      rw [Session.after_concat]
      exact placed_step engine rs _ (ih visits.1 earlier) call (visits.2 _ List.mem_cons_self) fun r reads =>
        inside (readings_mem engine start calls call [] r reads)

include named ids

theorem files_by_table (placed : Placed rs start.searcher) (calls : List Call) (visits : ∀ call ∈ calls, call.IsVisit)
    (inside : Call.readings start.today calls ⊆ rs) :
    FilesByTable engine start Searcher.results "query:" calls ∧ FilesByTable engine start Searcher.counts "count:" calls := by
  have stepped : ∀ done call rest, calls = done ++ call :: rest → _ := fun done call rest split =>
    have visits' : ∀ call' ∈ done, call'.IsVisit := fun call' mem => visits call' (split ▸ List.mem_append_left _ mem)
    have inside' : Call.readings start.today done ⊆ rs := fun r mem =>
      inside (by rw [split, Call.readings_append]; exact List.mem_append_left _ mem)
    step_entries engine rs named ids _ (placed_after engine start rs placed done visits' inside') call
      (visits call (split ▸ List.mem_append_right _ List.mem_cons_self)) fun r reads =>
        inside (split ▸ readings_mem engine start done call rest r reads)
  constructor
  · intro done call rest split e mem
    rw [Session.after_concat] at mem
    refine ((stepped done call rest split).1 e mem).imp id ?_
    rintro ⟨r, reads, rows, key⟩
    exact ⟨r, reads, key ▸ r.rows_key rows⟩
  · intro done call rest split e mem
    rw [Session.after_concat] at mem
    refine ((stepped done call rest split).2 e mem).imp id ?_
    rintro ⟨r, reads, counted, key⟩
    exact ⟨r, reads, key ▸ r.count_key counted⟩

theorem forgotten_after (s : Session σ) (placed : Placed rs s.searcher) (r : Reading) (forgotten : Forgotten s.searcher r)
    (calls : List Call) (visits : ∀ call ∈ calls, call.IsVisit) (inside : Call.readings s.today calls ⊆ rs)
    (unused : ∀ other ∈ Call.readings s.today calls, other.key ≠ r.key) : Forgotten (s.after engine calls).searcher r := by
  induction calls using List.reverseRecOn with
  | nil => exact forgotten
  | append_singleton calls call ih =>
      rw [List.forall_mem_append] at visits
      have earlier : Call.readings s.today calls ⊆ Call.readings s.today (calls ++ [call]) := fun r mem => by
        rw [Call.readings_append]
        exact List.mem_append_left _ mem
      have before := ih visits.1 (fun r mem => inside (earlier mem)) fun other mem => unused other (earlier mem)
      have here := placed_after engine s rs placed calls visits.1 fun r mem => inside (earlier mem)
      obtain ⟨rows, counts⟩ := step_entries engine rs named ids _ here call (visits.2 _ List.mem_cons_self) fun r reads =>
        inside (readings_mem engine s calls call [] r reads)
      rw [Session.after_concat]
      constructor
      · intro kind e mem same
        rcases rows e mem with old | ⟨other, reads, -, key⟩
        · exact before.1 kind e old same
        · exact unused other (readings_mem engine s calls call [] other reads) (key.symm.trans same)
      · intro kind e mem same
        rcases counts e mem with old | ⟨other, reads, -, key⟩
        · exact before.2 kind e old same
        · exact unused other (readings_mem engine s calls call [] other reads) (key.symm.trans same)

section Whole

variable (calls : List Call) (placed : Placed rs start.searcher) (visits : ∀ call ∈ calls, call.IsVisit)
  (inside : Call.readings start.today calls ⊆ rs)
include placed visits inside

omit named ids placed in
theorem visits_within (done rest : List Call) (split : calls = done ++ rest) :
    (∀ call ∈ done, call.IsVisit) ∧ Call.readings start.today done ⊆ rs := by
  subst split
  refine ⟨fun call mem => visits call (List.mem_append_left _ mem), fun r mem => inside ?_⟩
  rw [Call.readings_append]
  exact List.mem_append_left _ mem

omit named ids in
theorem placed_within (done rest : List Call) (split : calls = done ++ rest) :
    Placed rs (start.after engine done).searcher := by
  obtain ⟨visits', inside'⟩ := visits_within start rs calls visits inside done rest split
  exact placed_after engine start rs placed done visits' inside'

theorem answers_within (done : List Call) (call : Call) (rest : List Call) (r : Reading)
    (split : calls = done ++ call :: rest) (reads : call.reading? (start.after engine done).today = some r) :
    match (start.after engine done).kept? r with
    | some answer => (start.after engine done).AnswersKept engine call answer
    | none => (start.after engine done).AsksEngine engine call r :=
  step_answers engine rs named ids _ (placed_within engine start rs calls placed visits inside done _ split) call r reads
    (inside (split ▸ readings_mem engine start done call rest r reads))

theorem drops_their_table (results : start.searcher.results.entries = []) (counts : start.searcher.counts.entries = [])
    (done : List Call) (contentType : ContentType) (rest : List Call)
    (split : calls = done ++ .invalidate contentType :: rest) : Drops engine start done contentType := by
  obtain ⟨visits', inside'⟩ := visits_within start rs calls visits inside done _ split
  obtain ⟨rows, numbers⟩ := files_by_table engine start rs named ids placed done visits' inside'
  refine ⟨⟨stored_for_one engine start _ _ results done rows, stored_for_one engine start _ _ counts done numbers⟩,
    fun e => ?_, fun e => ?_, Searcher.invalidate_count _ _⟩
  · refine (Cache.invalidate_mem _ _ e).trans (and_congr_right fun mem => not_congr ?_)
    exact (stored_iff engine start _ "query:" results done rows contentType e mem).symm
  · refine (Cache.invalidate_mem _ _ e).trans (and_congr_right fun mem => not_congr ?_)
    exact (stored_iff engine start _ "count:" counts done numbers contentType e mem).symm

theorem asks_for_dropped (done later : List Call) (call : Call) (rest : List Call) (r : Reading)
    (split : calls = done ++ .invalidate r.contentType :: (later ++ call :: rest))
    (reads : call.reading? (start.after engine (done ++ .invalidate r.contentType :: later)).today = some r)
    (unused : ∀ other ∈ Call.readings (start.after engine done).today later, other.key ≠ r.key) :
    (start.after engine (done ++ .invalidate r.contentType :: later)).AsksEngine engine call r := by
  have whole : calls = (done ++ .invalidate r.contentType :: later) ++ call :: rest := by
    rw [split, List.append_assoc, List.cons_append]
  have dropped : calls = (done ++ [.invalidate r.contentType]) ++ (later ++ call :: rest) := by
    rw [split, List.append_assoc, List.singleton_append]
  obtain ⟨visits', inside'⟩ := visits_within start rs calls visits inside _ _ whole
  have later_ : Call.readings (start.after engine (done ++ [.invalidate r.contentType])).today later ⊆ rs :=
    fun other mem => by
      refine inside' ?_
      rw [← List.singleton_append, ← List.append_assoc, Call.readings_append, ← Session.after_day engine]
      exact List.mem_append_right _ mem
  have forgotten := forgotten_after engine rs named ids _
    (placed_within engine start rs calls placed visits inside _ _ dropped) r
    (by rw [Session.after_concat]; exact invalidate_forgets _ r) later
    (fun call mem => visits' call (List.mem_append_right _ (List.mem_cons_of_mem _ mem))) later_
    (by rwa [Session.after_concat])
  rw [← Session.after_append, List.append_assoc, List.singleton_append] at forgotten
  have answers := answers_within engine start rs named ids calls placed visits inside _ call rest r whole reads
  rwa [forgotten_kept _ r forgotten] at answers

theorem answers_beside_dropped (done : List Call) (contentType : ContentType) (clocks : List Call) (call : Call)
    (rest : List Call) (r : Reading) (answer : Answer)
    (split : calls = done ++ .invalidate contentType :: (clocks ++ call :: rest)) (only : ∀ tick ∈ clocks, tick.IsClock)
    (reads : call.reading? (start.after engine (done ++ .invalidate contentType :: clocks)).today = some r)
    (other : r.contentType ≠ contentType)
    (kept : ({ start.after engine done with
      now := (start.after engine (done ++ .invalidate contentType :: clocks)).now } : Session σ).kept? r = some answer) :
    (start.after engine (done ++ .invalidate contentType :: clocks)).AnswersKept engine call answer := by
  have whole : calls = (done ++ .invalidate contentType :: clocks) ++ call :: rest := by
    rw [split, List.append_assoc, List.cons_append]
  have same : (start.after engine (done ++ .invalidate contentType :: clocks)).searcher =
      ((start.after engine done).searcher.invalidate contentType).2 := by
    rw [← List.singleton_append, ← List.append_assoc, Session.after_append, Session.after_clocks engine _ clocks only,
      Session.after_concat]
    rfl
  have still := invalidate_keeps ({ start.after engine done with
    now := (start.after engine (done ++ .invalidate contentType :: clocks)).now } : Session σ) rs
    (placed_within engine start rs calls placed visits inside done _ split) contentType r other
  rw [kept, ← same] at still
  have here : (start.after engine (done ++ .invalidate contentType :: clocks)).kept? r = some answer := still
  have answers := answers_within engine start rs named ids calls placed visits inside _ call rest r whole reads
  rwa [here] at answers

end Whole

end Runs

theorem start_placed (settings : Settings) (now : Nat) (today : Date) (world : σ) (rs : List Reading) :
    Placed rs (Session.start settings now today world).searcher :=
  ⟨fun _ none_ => absurd none_ List.not_mem_nil, ⟨Cache.orderly_of_empty _ rfl, rfl⟩, Cache.orderly_of_empty _ rfl, rfl⟩

theorem dropped_with_their_table (engine : Engine σ) (settings : Settings) (now : Nat) (today : Date) (world : σ)
    (calls : List Call) (visits : ∀ call ∈ calls, call.IsVisit) (ids : TablesApart (Call.readings today calls))
    (start : Session σ) (starts : start = Session.start settings now today world) :
    (∀ done contentType rest, calls = done ++ .invalidate contentType :: rest →
      Drops engine start done contentType) ∧
    (∀ done contentType later call rest s r, calls = done ++ .invalidate contentType :: (later ++ call :: rest) →
      s = start.after engine (done ++ .invalidate contentType :: later) →
      call.reading? s.today = some r → r.contentType = contentType →
      (∀ other ∈ Call.readings (start.after engine done).today later, other.key ≠ r.key) →
      s.AsksEngine engine call r) ∧
    ∀ done contentType clocks call rest s r answer,
      calls = done ++ .invalidate contentType :: (clocks ++ call :: rest) → (∀ tick ∈ clocks, tick.IsClock) →
      s = start.after engine (done ++ .invalidate contentType :: clocks) →
      call.reading? s.today = some r → r.contentType ≠ contentType →
      ({ start.after engine done with now := s.now } : Session σ).kept? r = some answer →
      s.AnswersKept engine call answer := by
  have day : start.today = today := by rw [starts, Session.start]
  have empty : start.searcher.results.entries = [] ∧ start.searcher.counts.entries = [] := by rw [starts]; exact ⟨rfl, rfl⟩
  have named := readings_table today calls
  have placed : Placed (Call.readings today calls) start.searcher := by rw [starts]; exact start_placed ..
  rw [← day] at named placed ids
  have inside := List.Subset.refl (Call.readings start.today calls)
  refine ⟨?_, ?_, ?_⟩
  · exact drops_their_table engine start _ named ids calls placed visits inside empty.1 empty.2
  · rintro done contentType later call rest s r split rfl reads rfl unused
    exact asks_for_dropped engine start _ named ids calls placed visits inside done later call rest r split reads unused
  · rintro done contentType clocks call rest s r answer split only rfl reads other kept
    exact answers_beside_dropped engine start _ named ids calls placed visits inside done contentType clocks call rest r
      answer split only reads other kept

-- Rows of two tables, one of them read through a tree without filters. The rows of one table are dropped, and asked for
-- again.
def everyone : FilterTree :=
  .group none []

def reappointments : List Call :=
  [.search appointed, .searchTree everyone, .invalidate .faculty, .clock 5 Date.epoch, .search appointed]

theorem reappointments_dropped :
    Drops recorded (Session.start {} 0 Date.epoch 0) [.search appointed, .searchTree everyone] .faculty ∧
    ∃ r, ((Session.start {} 0 Date.epoch 0).after recorded
      [.search appointed, .searchTree everyone, .invalidate .faculty, .clock 5 Date.epoch]).AsksEngine recorded
        (.search appointed) r := by
  obtain ⟨dropped, asked, -⟩ := dropped_with_their_table recorded {} 0 Date.epoch 0 reappointments (by decide)
    (by decide +kernel) _ rfl
  obtain ⟨q, compiled⟩ : ∃ q, appointed.compile Date.epoch = .ok q := ⟨_, rfl⟩
  have reads : (Call.search appointed).reading? Date.epoch = some ⟨.faculty, q.simplest, false⟩ := by
    rw [Call.reading?, compiled]
    rfl
  exact ⟨dropped _ .faculty _ rfl, _, asked [.search appointed, .searchTree everyone] .faculty [.clock 5 Date.epoch]
    (.search appointed) [] _ _ rfl rfl (by rw [Session.after_day]; exact reads) rfl fun _ mem =>
      absurd mem List.not_mem_nil⟩

def collidingFaculty : Filter :=
  (Filter.empty .faculty).withCustom "yearofthefirstregistdpoeefiknempihpp" .equal (.integer 1)

def collidingAlumni : Filter :=
  (Filter.empty .alumni).withCustom "yearofthefirstregistratdmmnapkoabibjnjc" .equal (.integer 2)

theorem colliding_rows_outlive_their_table :
    ¬ Drops recorded (Session.start {} 0 Date.epoch 0) [.search collidingFaculty, .search collidingAlumni] .alumni := by
  intro drops
  obtain ⟨before, filed⟩ : ((Session.start {} 0 Date.epoch 0).after recorded
        [.search collidingFaculty]).searcher.results.entries.map Cache.Entry.sequence = [0] ∧
      ((Session.start {} 0 Date.epoch 0).after recorded
        [.search collidingFaculty, .search collidingAlumni]).searcher.results.entries.map (fun e =>
          (e.sequence, Cache.inNamespace "query:alumni" e.key)) = [(0, false), (1, false)] := by
    decide +kernel
  have second : (1, false) ∈ [(0, false), (1, false)] := by decide
  rw [← filed] at second
  obtain ⟨e, mem, same⟩ := List.mem_map.1 second
  obtain ⟨number, outside⟩ := Prod.mk.inj same
  have stays : e ∈ (((Session.start {} 0 Date.epoch 0).after recorded
      [.search collidingFaculty, .search collidingAlumni]).searcher.invalidate .alumni).2.results.entries := by
    refine (Cache.invalidate_mem _ _ e).2 ⟨mem, ?_⟩
    rw [show Cache.inNamespace (Searcher.resultsOf ContentType.alumni.table) e.key = false from outside]
    exact Bool.false_ne_true
  refine ((drops.results e).1 stays).2 ⟨[.search collidingFaculty], .search collidingAlumni, [], _, rfl, rfl, rfl, ?_, mem⟩
  intro there
  have zero : e.sequence ∈ [0] := before ▸ List.mem_map_of_mem there
  rw [number] at zero
  simp at zero

end ArchiveSearch
