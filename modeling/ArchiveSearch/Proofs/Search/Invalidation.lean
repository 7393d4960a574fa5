import ArchiveSearch.Proofs.Cache.Origins
import ArchiveSearch.Proofs.Search.Dropping
import ArchiveSearch.Proofs.Search.Endless

namespace ArchiveSearch

set_option autoImplicit false

open Cache.Atomic (Act Crowd Removal)

variable {σ : Type}

def rowsDropped (contentType : ContentType) : Removal (List Row) :=
  .covering (Cache.inNamespace (Searcher.resultsOf contentType.table))

def Session.Registers (s : Session σ) (r : Reading) : Prop :=
  ∀ known ∈ s.searcher.statements, known.id = Statement.idOf r.query.text → known.table? = some r.contentType.table

theorem made_table (s : Session σ) (call : Call) (r : Reading) (reads : call.reading? s.today = some r)
    (rows : r.counted = false) (registers : s.Registers r) : (s.made r).table? = some r.contentType.table := by
  unfold Session.made
  cases found : s.searcher.statements.find? (Statement.idOf r.query.text) with
  | some known =>
      obtain ⟨mem, id⟩ := find_mem _ _ known found
      rw [prepare_known _ _ _ _ known found]
      exact registers known mem id
  | none =>
      rw [prepare_new _ _ _ _ found]
      exact call.search_table s.today r reads rows

theorem made_dropped (s : Session σ) (call : Call) (r : Reading) (reads : call.reading? s.today = some r)
    (rows : r.counted = false) (registers : s.Registers r) :
    (rowsDropped r.contentType).removes (Searcher.resultKey (s.made r) r.query.params) := by
  rw [Searcher.resultKey, made_table s call r reads rows registers]
  exact key_in_namespace _ _

-- A search is made after its category was dropped: the drop acts on the cache of rows as a removal, whoever calls for the
-- rows of the search in any order with others is told renewed ones alone, and when nobody else calls the engine is asked.
structure Session.AsksAnew (s : Session σ) (call : Call) (r : Reading) : Prop where
  removes : ∀ x : Crowd (List Row), x.cache = s.searcher.results →
    (x.run (rowsDropped r.contentType).events).cache = (s.searcher.invalidate r.contentType).2.results
  among : ∀ (kept : Cache (List Row)) (requests : Nat → String × Option Nat)
    (before after : List (Nat × Act (List Row))), kept.Quiet →
    ((Crowd.start kept requests).run before).RenewedOnly (rowsDropped r.contentType) after
      (Searcher.resultKey (s.made r) r.query.params)
  alone : ∀ (engine : Engine σ) (dropped : Session σ), s.searcher.results.Quiet →
    dropped = (s.step engine (.invalidate r.contentType)).2 →
    (dropped.step engine call).1 = .rows (engine.run { r.query with text := (s.made r).text } s.world).1 ∧
      (dropped.step engine call).2.world = (engine.run { r.query with text := (s.made r).text } s.world).2

theorem dropped_alone (engine : Engine σ) (s : Session σ) (call : Call) (r : Reading)
    (reads : call.reading? s.today = some r) (rows : r.counted = false) (registers : s.Registers r)
    (quiet : s.searcher.results.Quiet) (dropped : Session σ)
    (drop : dropped = (s.step engine (.invalidate r.contentType)).2) :
    (dropped.step engine call).1 = .rows (engine.run { r.query with text := (s.made r).text } s.world).1 ∧
      (dropped.step engine call).2.world = (engine.run { r.query with text := (s.made r).text } s.world).2 := by
  subst drop
  have gone : ((s.searcher.invalidate r.contentType).2.results.get s.now
      (Searcher.resultKey (s.made r) r.query.params)).1 = none := by
    by_contra there
    obtain ⟨kept, found⟩ := Option.ne_none_iff_exists'.1 there
    obtain ⟨e, mem, named, -⟩ := Cache.get_found _ _ _ kept found
    exact ((s.searcher.results.invalidate_mem _ e).1 mem).2 (named ▸ made_dropped s call r reads rows registers)
  have still : (s.searcher.invalidate r.contentType).2.results.Quiet := quiet
  obtain ⟨answered, ran⟩ := Cache.get_or_set_miss _ s.now _ (some s.searcher.settings.resultTtl)
    (engine.run { r.query with text := (s.made r).text }) s.world still gone
  rw [Session.step_rows engine (s.step engine (.invalidate r.contentType)).2 call r reads rows]
  exact ⟨congrArg Answer.rows answered, ran⟩

-- Callers and acts in any order, with the removal of a key among them, and the searches of a category that is dropped.
theorem found_after_removal {α : Type} (c : Cache α) (quiet : c.Quiet) (requests : Nat → String × Option Nat)
    (before after : List (Nat × Act α)) (removal : Removal α) (key : String) (removes : removal.removes key) :
    ((Crowd.start c requests).run before).RenewedOnly removal after key ∧
      ∀ (s : Session σ) (call : Call) (r : Reading), call.reading? s.today = some r → r.counted = false →
        s.Registers r → s.AsksAnew call r := by
  obtain ⟨⟨keyOfCell, linked⟩, backed⟩ := Cache.Atomic.reached_linked c quiet requests before
  refine ⟨Cache.Atomic.renewed_only linked backed removal key removes after, fun s call r reads rows registers =>
    ⟨fun x same => ?_, fun kept requests before after still => ?_, fun engine dropped still drop => ?_⟩⟩
  · change (x.cache.invalidate _).2 = _
    rw [same]
    rfl
  · obtain ⟨⟨keyOfCell, linked⟩, backed⟩ := Cache.Atomic.reached_linked kept still requests before
    exact Cache.Atomic.renewed_only linked backed _ _ (made_dropped s call r reads rows registers) after
  · exact dropped_alone engine s call r reads rows registers still dropped drop

def callFrom (id value : Nat) : List (Nat × Act Nat) :=
  [.advance id, .advance id, .advance id, .advance id, .finish id (.ok value), .advance id, .advance id,
    .advance id].map (0, ·)

def searchedOnce : Session Nat :=
  (Session.start {} 0 Date.epoch 0).after recorded [.search appointed]

def firstCalled : Crowd Nat :=
  (Crowd.start {} fun _ => ("k", none)).run (callFrom 0 7)

theorem second_call_renewed :
    (firstCalled.Stored ((Removal.covering (· == "k")).events ++ callFrom 1 8) "k" 8 ∨
        (Removal.covering (· == "k") : Removal Nat).keepsSlots ∧ firstCalled.Carried "k" 8) ∧
    firstCalled.Stored ((Removal.everything [(0, .set "j" 9 none)]).events ++ callFrom 1 8) "k" 8 ∧
    searchedOnce.world = 1 ∧
    ((searchedOnce.step recorded (.invalidate .faculty)).2.step recorded (.search appointed)).2.world = 2 := by
  obtain ⟨q, compiled⟩ : ∃ q, appointed.compile Date.epoch = .ok q := ⟨_, rfl⟩
  have reads : (Call.search appointed).reading? searchedOnce.today = some ⟨.faculty, q.simplest, false⟩ := by
    have day : searchedOnce.today = Date.epoch := by
      rw [searchedOnce, Session.after_day]
      rfl
    rw [day, Call.reading?, compiled]
    rfl
  obtain ⟨once, quiet, about⟩ : searchedOnce.world = 1 ∧ searchedOnce.searcher.results.slots = [] ∧
      ∀ known ∈ searchedOnce.searcher.statements, known.table? = some "faculty" := by decide +kernel
  obtain ⟨renewed, searched⟩ := found_after_removal {} rfl (fun _ => ("k", none)) (callFrom 0 7) (callFrom 1 8)
    (.covering (· == "k")) "k" (by simp [Removal.removes])
  obtain ⟨cleared, -⟩ := found_after_removal (σ := Nat) {} rfl (fun _ => ("k", none)) (callFrom 0 7) (callFrom 1 8)
    (.everything [(0, .set "j" 9 none)]) "k" trivial
  have anew := searched searchedOnce (.search appointed) ⟨.faculty, q.simplest, false⟩ reads rfl
    fun known mem _ => about known mem
  have asks := anew.alone recorded (searchedOnce.step recorded (.invalidate .faculty)).2 quiet rfl
  have counts : ∀ q w, w = 1 → (recorded.run q w).2 = 2 := by
    rintro q _ rfl
    rfl
  have stored := (cleared.computed 1 8 rfl rfl rfl).resolve_right And.left
  exact ⟨renewed.computed 1 8 rfl rfl rfl, stored, once, asks.2.trans (counts _ _ once)⟩

def endingLate : List (Nat × Act Nat) :=
  [.advance 0, .advance 0, .advance 0, .advance 0, .remove (· == "k"), .finish 0 (.ok 7), .advance 0, .advance 0,
    .advance 0, .advance 1].map (0, ·)

def leavingLate : List (Nat × Act Nat) :=
  [.advance 0, .advance 0, .advance 0, .advance 0, .finish 0 (.ok 7), .advance 0, .advance 0, .delete "k",
    .advance 1, .advance 1, .advance 1, .advance 1].map (0, ·)

def storingLate : List (Nat × Act Nat) :=
  [.advance 0, .advance 0, .advance 0, .advance 0, .finish 0 (.ok 7), .empty, .forget, .advance 0, .advance 1].map (0, ·)

theorem step_orderly (engine : Engine σ) (s : Session σ) (call : Call) (r : Reading)
    (reads : call.reading? s.today = some r) (rows : r.counted = false) (quiet : s.searcher.results.Quiet)
    (orderly : s.searcher.results.Orderly) :
    (s.step engine call).2.searcher.results.Orderly ∧ (s.step engine call).2.searcher.results.Quiet := by
  rw [Session.step_rows engine s call r reads rows]
  exact Cache.get_or_set_orderly _ _ _ _ _ _ quiet orderly

theorem misfiled_outlives (engine : Engine σ) (s : Session σ) (call : Call) (r : Reading)
    (reads : call.reading? s.today = some r) (rows : r.counted = false) (quiet : s.searcher.results.Quiet)
    (orderly : s.searcher.results.Orderly) (other : ContentType) (apart : other ≠ r.contentType)
    (table : (s.made r).table? = some other.table) (found : List Row)
    (answered : (s.step engine call).1 = .rows (.ok found)) (dropped : Session σ)
    (drop : dropped = ((s.step engine call).2.step engine (.invalidate r.contentType)).2) :
    (dropped.step engine call).1 = .rows (.ok found) ∧ (dropped.step engine call).2.world = dropped.world := by
  have kept := step_orderly engine s call r reads rows quiet orderly
  rw [Session.step_rows engine s call r reads rows] at answered drop kept
  have key : Searcher.resultKey (dropped.made r) r.query.params = Searcher.resultKey (s.made r) r.query.params := by
    have again := prepare_known _ r.query.text r.query.params s.now _
      (prepare_found s.searcher.statements r.query.text r.query.params s.now)
    have made : dropped.made r = { s.made r with params := r.query.params, useCount := (s.made r).useCount + 1 } := by
      rw [drop]
      exact congrArg Prod.fst again
    rw [made]
    rfl
  have stays : ¬ Cache.inNamespace (Searcher.resultsOf r.contentType.table)
      (Searcher.resultKey (s.made r) r.query.params) = true := fun inside =>
    apart (namespace_apart "query:" other r.contentType _ (by
      rw [Searcher.resultKey, table]
      exact key_in_namespace _ _) inside)
  have there := Cache.get_or_set_finds s.searcher.results s.now _ (some s.searcher.settings.resultTtl)
    (engine.run { r.query with text := (s.made r).text }) s.world quiet orderly found (Answer.rows.inj answered)
  have hit : (dropped.searcher.results.get dropped.now (Searcher.resultKey (dropped.made r) r.query.params)).1 =
      some found := by
    rw [key, drop]
    exact (Cache.get_invalidate _ kept.1.filed _ s.now _ stays).trans there
  have still : dropped.searcher.results.Quiet := by
    rw [drop]
    exact kept.2
  have day : dropped.today = s.today := by
    rw [drop]
    rfl
  rw [Session.step_rows engine dropped call r (day ▸ reads) rows, Session.rowsThrough,
    Cache.get_or_set_hit _ _ _ _ _ _ still found hit]
  exact ⟨rfl, rfl⟩

theorem colliding_table (engine : Engine σ) (s : Session σ) (call : Call) (r r' : Reading)
    (reads : call.reading? s.today = some r) (rows : r.counted = false) (registers : s.Registers r)
    (ids : Statement.idOf r.query.text = Statement.idOf r'.query.text) :
    ((s.step engine call).2.made r').table? = some r.contentType.table := by
  have known := prepare_found s.searcher.statements r.query.text r.query.params s.now
  rw [ids] at known
  have made : ((s.step engine call).2.made r').text = (s.made r).text := by
    rw [Session.step_rows engine s call r reads rows]
    exact congrArg (fun x => x.1.text) (prepare_known _ r'.query.text r'.query.params s.now _ known)
  rw [Statement.table?, made]
  exact made_table s call r reads rows registers

theorem recorded_answers (s : Session Nat) (call : Call) (r : Reading) (reads : call.reading? s.today = some r)
    (rows : r.counted = false) (quiet : s.searcher.results.Quiet) :
    ∃ found, (s.step recorded call).1 = .rows (.ok found) := by
  rw [Session.step_rows recorded s call r reads rows, Session.rowsThrough]
  cases there : (s.searcher.results.get s.now (Searcher.resultKey (s.made r) r.query.params)).1 with
  | some found =>
      rw [Cache.get_or_set_hit _ _ _ _ _ _ quiet found there]
      exact ⟨found, rfl⟩
  | none =>
      rw [(Cache.get_or_set_miss _ _ _ _ _ _ quiet there).1]
      exact ⟨_, rfl⟩

def collidingFacultyText : String :=
  "SELECT faculty.* FROM faculty WHERE faculty.yearofthefirstregistdpoeefiknempihpp = ?"

def collidingAlumniText : String :=
  "SELECT alumni.* FROM alumni WHERE alumni.yearofthefirstregistratdmmnapkoabibjnjc = ?"

theorem colliding_reads :
    (Call.search collidingFaculty).reading? Date.epoch =
        some ⟨.faculty, ⟨collidingFacultyText, [.integer 1]⟩, false⟩ ∧
      (Call.search collidingAlumni).reading? Date.epoch =
        some ⟨.alumni, ⟨collidingAlumniText, [.integer 2]⟩, false⟩ := by
  have faculty : collidingFaculty.compile Date.epoch = .ok ⟨collidingFacultyText, [.integer 1]⟩ := by decide +kernel
  have alumni : collidingAlumni.compile Date.epoch = .ok ⟨collidingAlumniText, [.integer 2]⟩ := by decide +kernel
  have simplest : simplify collidingFacultyText = collidingFacultyText ∧
      simplify collidingAlumniText = collidingAlumniText :=
    ⟨(simplify_of_list _).trans (congrArg String.ofList (by decide +kernel)),
      (simplify_of_list _).trans (congrArg String.ofList (by decide +kernel))⟩
  rw [Call.reading?, Call.reading?, faculty, alumni]
  simp only [Except.toOption, Option.map_some, Query.simplest, simplest]
  exact ⟨rfl, rfl⟩

theorem colliding_ids : Statement.idOf collidingFacultyText = Statement.idOf collidingAlumniText := by
  decide +kernel

def facultySearched : Session Nat :=
  ((Session.start {} 0 Date.epoch 0).step recorded (.search collidingFaculty)).2

def alumniDropped : Session Nat :=
  ((facultySearched.step recorded (.search collidingAlumni)).2.step recorded (.invalidate .alumni)).2

theorem colliding_outlives :
    ∃ found, (facultySearched.step recorded (.search collidingAlumni)).1 = .rows (.ok found) ∧
      (alumniDropped.step recorded (.search collidingAlumni)).1 = .rows (.ok found) ∧
      (alumniDropped.step recorded (.search collidingAlumni)).2.world = alumniDropped.world := by
  obtain ⟨facultyReads, alumniReads⟩ := colliding_reads
  obtain ⟨orderly, quiet⟩ : facultySearched.searcher.results.Orderly ∧ facultySearched.searcher.results.Quiet := by
    rw [facultySearched]
    exact step_orderly recorded _ _ _ facultyReads rfl rfl (Cache.orderly_of_empty _ rfl)
  have table := colliding_table recorded (Session.start {} 0 Date.epoch 0) _ _
    ⟨.alumni, ⟨collidingAlumniText, [.integer 2]⟩, false⟩ facultyReads rfl
    (fun _ none_ => absurd none_ List.not_mem_nil) colliding_ids
  rw [← facultySearched] at table
  have day : facultySearched.today = Date.epoch := by
    rw [facultySearched, Session.step_day]
    rfl
  rw [← day] at alumniReads
  obtain ⟨found, answered⟩ := recorded_answers facultySearched _ _ alumniReads rfl quiet
  exact ⟨found, answered, misfiled_outlives recorded facultySearched _ _ alumniReads rfl quiet orderly .faculty
    (by decide) table found answered alumniDropped rfl⟩

theorem found_though_removed :
    (((Crowd.start {} fun _ => ("k", none)).run (endingLate.take 4)).callers 0).stage = .running 0 ∧
      (((Crowd.start {} fun _ => ("k", none)).run (endingLate.take 5)).callers 1).stage = .ready ∧
      (((Crowd.start {} fun _ => ("k", none)).run endingLate).callers 1).stage = .done (.ok 7) ∧
      (((Crowd.start {} fun _ => ("k", none)).run (leavingLate.take 8)).callers 1).stage = .ready ∧
      (((Crowd.start {} fun _ => ("k", none)).run leavingLate).callers 1).stage = .done (.ok 7) ∧
      (((Crowd.start {} fun _ => ("k", none)).run (storingLate.take 5)).callers 0).stage = .ended 0 (.ok 7) ∧
      (((Crowd.start {} fun _ => ("k", none)).run (storingLate.take 7)).callers 1).stage = .ready ∧
      (((Crowd.start {} fun _ => ("k", none)).run storingLate).callers 1).stage = .done (.ok 7) ∧
      ∃ found, (facultySearched.step recorded (.search collidingAlumni)).1 = .rows (.ok found) ∧
        (alumniDropped.step recorded (.search collidingAlumni)).1 = .rows (.ok found) ∧
        (alumniDropped.step recorded (.search collidingAlumni)).2.world = alumniDropped.world :=
  ⟨rfl, rfl, rfl, rfl, rfl, rfl, rfl, rfl, colliding_outlives⟩

end ArchiveSearch
