import ArchiveSearch.Command.Request
import ArchiveSearch.Proofs.Files.Reopening
import ArchiveSearch.Proofs.Suggest.Persistence

namespace ArchiveSearch

set_option autoImplicit false

def Recording.untimed (x : Recording) : Recording :=
  { x with now := 0 }

theorem Recording.entry_untimed (x : Recording) : x.entry.untimed = (Text.trim x.query, x.resultCount, x.filter) :=
  rfl

namespace Ranker

structure Agrees (r s : Ranker) : Prop where
  settings : r.settings = s.settings
  history : r.history.map PastSearch.untimed = s.history.map PastSearch.untimed
  counts : r.counts.Perm s.counts

theorem Agrees.trans {r s t : Ranker} (first : r.Agrees s) (next : s.Agrees t) : r.Agrees t :=
  ⟨first.settings.trans next.settings, first.history.trans next.history, first.counts.trans next.counts⟩

theorem bump_perm (key spelling : String) (times : Nat) (counts others : List (String × Popularity))
    (same : counts.Perm others) (apart : (others.map Prod.fst).Nodup) :
    (bump key spelling times counts).Perm (bump key spelling times others) := by
  rw [bump, bump, lookup_perm same apart, file, file, same.any_eq]
  split
  · exact same.map _
  · exact same.append_right _

theorem Agrees.suggest {r s : Ranker} (agrees : r.Agrees s) (filed : Filed r.counts) (input : String)
    (contentType : Option ContentType) : r.suggest input contentType = s.suggest input contentType :=
  suggest_of_perm r s agrees.settings agrees.history agrees.counts ((agrees.counts.map _).nodup_iff.1 filed.apart) input
    contentType

theorem Agrees.record {r s : Ranker} (agrees : r.Agrees s) (filed : Filed r.counts) (x y : Recording)
    (same : x.untimed = y.untimed) : (r.use (.record x)).Agrees (s.use (.record y)) := by
  obtain ⟨query, resultCount, filter⟩ : x.query = y.query ∧ x.resultCount = y.resultCount ∧ x.filter = y.filter := by
    simpa [Recording.untimed] using same
  have entry : x.entry.untimed = y.entry.untimed := by
    rw [x.entry_untimed, y.entry_untimed, query, resultCount, filter]
  cases blank : Text.isAllBlank x.query with
  | true => rwa [record_blank r x blank, record_blank s y (query ▸ blank)]
  | false =>
      have key : x.key = y.key := congrArg Suggest.normalForm query
      have spelling : x.entry.query = y.entry.query := congrArg Text.trim query
      rw [record_full r x blank, record_full s y (query ▸ blank)]
      refine ⟨agrees.settings, ?_, ?_⟩
      · have others : ∀ t : Ranker, (t.history.filter (Suggest.normalForm ·.query != x.key)).map PastSearch.untimed =
            (t.history.map PastSearch.untimed).filter (Suggest.normalForm ·.1 != x.key) := fun t => by
          rw [List.filter_map, Function.comp_def]
          rfl
        rw [List.map_take, List.map_take, List.map_cons, List.map_cons, entry, ← key, others, others, agrees.history,
          agrees.settings]
      · rw [key, spelling]
        exact bump_perm _ _ _ _ _ agrees.counts ((agrees.counts.map _).nodup_iff.1 filed.apart)

theorem persisted_agrees (r other : Ranker) (lasting : r.Lasting) (settings : other.settings = r.settings) (s : Store) :
    (other.load (r.persist s)).Agrees r := by
  obtain ⟨history, popularity⟩ := loaded_lists r lasting s historyName popularityName (by decide)
  rw [load, persist, history, popularity]
  exact ⟨settings, congrArg _ (restored_alike r other lasting settings).history, restored_perm r other lasting.filed⟩

end Ranker

structure Run where
  around : Circumstances
  request : Request

namespace Run

def Uses (path : String) : Run → Prop
  | ⟨around, .record _ results history⟩ => history.getD around.historyPath = path ∧ results < Bound.word64
  | ⟨around, .suggest _ history _⟩ => history.getD around.historyPath = path
  | _ => False

def search? : Run → Option Recording
  | ⟨around, .record query results _⟩ =>
      if Text.isAllBlank query then none
      else some { now := around.now, query, resultCount := results, filter := none }
  | _ => none

def searches (runs : List Run) : List Recording :=
  runs.filterMap search?

def files (settings : Settings) (f : Files) (runs : List Run) : Files :=
  runs.foldl (fun f x => (x.request.run settings x.around f).2) f

end Run

def Mirrors (settings : Settings) (path : String) (f : Files) (memory : Ranker) : Prop :=
  ∃ d g, f.openForRecords path = (.ok d, g) ∧ (Request.remembered settings d).Agrees memory

namespace Mirrors

variable (settings : Settings) (path : String) (f : Files) (memory : Ranker)

theorem remembered_reached (d : Database) : Ranker.Reached (Request.remembered settings d) :=
  .load _ d.store (.new settings.ranker)

theorem suggested (filed : Files.isUnfiled path = false) (mirrors : Mirrors settings path f memory) (input : String)
    (contentType : Option ContentType) :
    ∃ d g, (f.openForRecords path).1 = .ok d ∧ (g.openForRecords path).1 = .ok d ∧ Mirrors settings path g memory ∧
      Request.suggestFrom settings f path input contentType =
        (.ok (Json.ofList Suggestion.encode (memory.suggest input contentType)), g) := by
  obtain ⟨d, g, opened, agrees⟩ := mirrors
  have again : g.openForRecords path = (.ok d, g) := by
    have reopened := Files.reopened f g path d d filed opened
    rwa [Files.keep_opened f g path d filed opened] at reopened
  have lasting := Ranker.reached_lasting _ (remembered_reached settings d)
  refine ⟨d, g, congrArg Prod.fst opened, congrArg Prod.fst again, ⟨d, g, again, agrees⟩, ?_⟩
  rw [Request.suggestFrom, opened, ← agrees.suggest lasting.filed]
  rfl

theorem blank_recorded (query : String) (blank : Text.isAllBlank query = true) (now results : Nat) :
    Request.recordIn settings now f path query results = (.error { message := "Query must not be empty" }, f) :=
  if_pos blank

theorem recorded (filed : Files.isUnfiled path = false) (mirrors : Mirrors settings path f memory) (now : Nat)
    (query : String) (results : Nat) (full : Text.isAllBlank query = false) (counted : results < Bound.word64)
    (y : Recording) (same : y.untimed = { now := 0, query, resultCount := results, filter := none }) :
    ∃ history g, Request.recordIn settings now f path query results = (.ok (Json.ofList PastSearch.encode history), g) ∧
      history.map PastSearch.untimed = (memory.use (.record y)).history.map PastSearch.untimed ∧
      Mirrors settings path g (memory.use (.record y)) := by
  obtain ⟨d, g, opened, agrees⟩ := mirrors
  have reached := remembered_reached settings d
  let x : Recording := { now, query, resultCount := results, filter := none }
  have next : Ranker.Reached ((Request.remembered settings d).use (.record x)) :=
    .record _ x reached counted fun f mem => by cases mem
  have agrees' := agrees.record (Ranker.reached_lasting _ reached).filed x y same.symm
  have settled : ((Request.remembered settings d).use (.record x)).settings = settings.ranker :=
    Ranker.use_settings _ _
  have made : Request.recordIn settings now f path query results =
      (.ok (Json.ofList PastSearch.encode ((Request.remembered settings d).use (.record x)).history),
        g.keep path { d with store := ((Request.remembered settings d).use (.record x)).persist d.store }) := by
    rw [Request.recordIn, if_neg (by simp [full]), opened, Ranker.use]
  refine ⟨_, _, made, agrees'.history, _, _, Files.reopened f g path d _ filed opened, ?_⟩
  exact (Ranker.persisted_agrees _ _ (Ranker.reached_lasting _ next) settled.symm d.store).trans agrees'

theorem start (d : Database) (opens : (f.openForRecords path).1 = .ok d) (empty : d.store = []) :
    Mirrors settings path f (Ranker.after settings.ranker []) := by
  refine ⟨d, (f.openForRecords path).2, by rw [← opens], ?_⟩
  have nothing : Request.remembered settings d = Ranker.after settings.ranker [] := by
    simp [Request.remembered, empty, Ranker.load, Store.load, Store.payload?, Ranker.restore, Ranker.after]
  rw [nothing]
  exact ⟨rfl, rfl, List.Perm.refl _⟩

end Mirrors

namespace Run

theorem searches_concat (runs : List Run) (x : Run) : searches (runs ++ [x]) = searches runs ++ x.search?.toList := by
  rw [searches, List.filterMap_append, searches]
  cases found : x.search? <;> simp [found]

theorem after_searches (settings : Settings) (path : String) (f : Files) (d : Database)
    (filed : Files.isUnfiled path = false) (opens : (f.openForRecords path).1 = .ok d) (empty : d.store = [])
    (runs : List Run) (each : ∀ x ∈ runs, x.Uses path) (log : List Recording)
    (same : log.map Recording.untimed = (searches runs).map Recording.untimed) :
    Mirrors settings path (files settings f runs) (Ranker.after settings.ranker (log.map Use.record)) := by
  induction runs using List.reverseRecOn generalizing log with
  | nil =>
      rw [List.map_eq_nil_iff.1 same]
      exact Mirrors.start settings path f d opens empty
  | append_singleton runs x ih =>
      have before := ih fun y mem => each y (List.mem_append_left _ mem)
      have here := each x (List.mem_append_right _ (List.mem_singleton_self x))
      have last : files settings f (runs ++ [x]) = (x.request.run settings x.around (files settings f runs)).2 := by
        rw [files, List.foldl_append]
        rfl
      rw [searches_concat] at same
      rw [last]
      obtain ⟨around, request⟩ := x
      cases request with
      | suggest input history contentType =>
          rw [show search? ⟨around, .suggest input history contentType⟩ = none from rfl, Option.toList_none,
            List.append_nil] at same
          obtain ⟨d, g, -, -, mirrors, answered⟩ := (before log same).suggested settings path _ _ filed input contentType
          rw [Request.run, show history.getD around.historyPath = path from here, answered]
          exact mirrors
      | record query results history =>
          obtain ⟨named, counted⟩ : history.getD around.historyPath = path ∧ results < Bound.word64 := here
          rw [Request.run, named]
          cases blank : Text.isAllBlank query with
          | true =>
              rw [search?, if_pos blank, Option.toList_none, List.append_nil] at same
              rw [Mirrors.blank_recorded settings path _ query blank]
              exact before log same
          | false =>
              rw [search?, if_neg (by simp [blank]), Option.toList_some, List.map_append] at same
              obtain ⟨older, latest, rfl, agreed, last⟩ := List.map_eq_append_iff.1 same
              obtain ⟨y, rfl, untimed⟩ := List.map_eq_singleton_iff.1 last
              obtain ⟨_, g, made, -, mirrors⟩ := (before older agreed).recorded settings path _ _ filed around.now query
                results blank counted y untimed
              rw [made, List.map_append, List.map_singleton, Ranker.after_concat]
              exact mirrors
      | _ => exact here.elim

-- Whatever was run before on records that were empty at first, the next run answers as a ranker does to which the same
-- searches were reported, by whatever clock.
theorem runs_as_one_ranker (settings : Settings) (path : String) (f : Files) (d : Database)
    (filed : Files.isUnfiled path = false) (opens : (f.openForRecords path).1 = .ok d) (empty : d.store = [])
    (runs : List Run) (each : ∀ x ∈ runs, x.Uses path) (log : List Recording)
    (same : log.map Recording.untimed = (searches runs).map Recording.untimed) (around : Circumstances)
    (history : Option String) (named : history.getD around.historyPath = path) :
    let g := files settings f runs
    let memory := Ranker.after settings.ranker (log.map Use.record)
    (∀ query results, Text.isAllBlank query = true → (Request.record query results history).run settings around g =
        (.error { message := "Query must not be empty" }, g)) ∧
      (∀ query results now, Text.isAllBlank query = false → results < Bound.word64 → ∃ shown,
        ((Request.record query results history).run settings around g).1 = .ok (Json.ofList PastSearch.encode shown) ∧
          shown.map PastSearch.untimed = (memory.record now query results none).history.map PastSearch.untimed) ∧
      ∀ input contentType, ∃ kept h, (Request.suggest input history contentType).run settings around g =
          (.ok (Json.ofList Suggestion.encode (memory.suggest input contentType)), h) ∧
        (g.openForRecords path).1 = .ok kept ∧ (h.openForRecords path).1 = .ok kept := by
  intro g memory
  have mirrors : Mirrors settings path g memory := after_searches settings path f d filed opens empty runs each log same
  refine ⟨fun query results blank => ?_, fun query results now full counted => ?_, fun input contentType => ?_⟩
  · rw [Request.run, named]
    exact Mirrors.blank_recorded settings path g query blank around.now results
  · obtain ⟨shown, h, made, agreed, -⟩ := mirrors.recorded settings path g memory filed around.now query results full
      counted ⟨now, query, results, none⟩ rfl
    rw [Request.run, named, made]
    exact ⟨shown, rfl, agreed⟩
  · obtain ⟨kept, h, stored, stored', -, answered⟩ := mirrors.suggested settings path g memory filed input contentType
    rw [Request.run, named, answered]
    exact ⟨kept, h, rfl, stored, stored'⟩

def deskRuns : List Run :=
  let around : Circumstances := { now := 1700000000001, today := ⟨2023, 11, 14, rfl⟩, historyPath := "desk/past.db" }
  [⟨around, .record " Torts " 4 none⟩, ⟨around, .suggest "tor" none none⟩, ⟨around, .record "  " 0 none⟩,
    ⟨{ around with historyPath := "" }, .record "torts" 7 (some "desk/past.db")⟩]

def deskLog : List Recording :=
  [{ now := 0, query := " Torts ", resultCount := 4, filter := none },
    { now := 5, query := "torts", resultCount := 7, filter := none }]

theorem desk_runs_as_one_ranker :
    Files.isUnfiled "desk/past.db" = false ∧ (Files.openForRecords [] "desk/past.db").1 = .ok {} ∧
      (∀ x ∈ deskRuns, x.Uses "desk/past.db") ∧
      deskLog.map Recording.untimed = (searches deskRuns).map Recording.untimed ∧
      ∃ kept h, (Request.suggest "tor" (some "desk/past.db") none).run {} ⟨0, ⟨2023, 11, 14, rfl⟩, ""⟩ (files {} [] deskRuns) =
          (.ok (Json.ofList Suggestion.encode
            ((Ranker.after {} (deskLog.map Use.record)).suggest "tor" none)), h) ∧
        ((files {} [] deskRuns).openForRecords "desk/past.db").1 = .ok kept ∧
          (h.openForRecords "desk/past.db").1 = .ok kept := by
  have filed : Files.isUnfiled "desk/past.db" = false := by decide
  have opens : (Files.openForRecords [] "desk/past.db").1 = .ok {} := rfl
  have each : ∀ x ∈ deskRuns, x.Uses "desk/past.db" := by
    simp [deskRuns, Uses, Bound.word64]
  have same : deskLog.map Recording.untimed = (searches deskRuns).map Recording.untimed :=
    rfl
  refine ⟨filed, opens, each, same, ?_⟩
  exact (runs_as_one_ranker {} "desk/past.db" [] {} filed opens rfl deskRuns each deskLog same ⟨0, ⟨2023, 11, 14, rfl⟩, ""⟩
    (some "desk/past.db") rfl).2.2 "tor" none

end Run

end ArchiveSearch
