import Mathlib.Data.String.Basic
import ArchiveSearch.Proofs.Suggest.Representation
import ArchiveSearch.Proofs.Suggest.Stores

/- Rankers on their way through a store. Whatever a ranker went through, what it persists is loaded by another one of the
   same settings as the same history and the same popularity, so that both suggest the same from then on. -/
namespace ArchiveSearch

set_option autoImplicit false

open Suggest (normalForm)

namespace Popularity

theorem may_precede_iff (p q : Popularity) :
    mayPrecede p q = true ↔ q.count < p.count ∨ (p.count = q.count ∧ p.query ≤ q.query) := by
  simp [mayPrecede]

theorem may_precede_trans (p q r : Popularity) (first : mayPrecede p q = true) (next : mayPrecede q r = true) :
    mayPrecede p r = true := by
  rw [may_precede_iff] at *
  rcases first with more | ⟨same, before⟩
  · rcases next with more' | ⟨same', -⟩
    · exact .inl (more'.trans more)
    · exact .inl (same' ▸ more)
  · rcases next with more' | ⟨same', before'⟩
    · exact .inl (same ▸ more')
    · exact .inr ⟨same.trans same', before.trans before'⟩

theorem may_precede_total (p q : Popularity) : (mayPrecede p q || mayPrecede q p) = true := by
  rw [Bool.or_eq_true, may_precede_iff, may_precede_iff]
  rcases Nat.lt_trichotomy p.count q.count with less | same | more
  · exact .inr (.inl less)
  · rcases le_total p.query q.query with before | after
    · exact .inl (.inr ⟨same, before⟩)
    · exact .inr (.inr ⟨same.symm, after⟩)
  · exact .inl (.inl more)

theorem may_precede_antisymm (p q : Popularity) (first : mayPrecede p q = true) (next : mayPrecede q p = true) :
    p = q := by
  rw [may_precede_iff] at *
  obtain ⟨count, before⟩ : p.count = q.count ∧ p.query ≤ q.query := by
    rcases first with more | same
    · rcases next with more' | ⟨same', -⟩ <;> omega
    · exact same
  have after : q.query ≤ p.query := by
    rcases next with more | same
    · omega
    · exact same.2
  cases p
  cases q
  simp only [mk.injEq] at *
  exact ⟨le_antisymm before after, count⟩

theorem sorted_pairwise (entries : List Popularity) : (sorted entries).Pairwise fun p q => mayPrecede p q = true :=
  List.pairwise_mergeSort may_precede_trans may_precede_total entries

theorem sorted_perm (entries : List Popularity) : (sorted entries).Perm entries :=
  List.mergeSort_perm entries mayPrecede

theorem sorted_of_perm (entries others : List Popularity) (same : entries.Perm others) :
    sorted entries = sorted others :=
  List.Perm.eq_of_pairwise (fun p q _ _ => may_precede_antisymm p q) (sorted_pairwise entries) (sorted_pairwise others)
    ((sorted_perm entries).trans (same.trans (sorted_perm others).symm))

end Popularity

def PastSearch.untimed (p : PastSearch) : String × Nat × Option Filter :=
  (p.query, p.resultCount, p.filter)

namespace Ranker

-- Rankers that are used, and that load what was persisted, by themselves or by others: from the texts of a store, or
-- from lists that were kept as they were. A filter that is recorded with a search was read from JSON.
inductive Reached : Ranker → Prop
  | new (settings : RankerSettings) : Reached { settings }
  | record (r : Ranker) (x : Recording) (before : Reached r) (counted : x.resultCount < Bound.word64)
      (filter : ∀ f ∈ x.filter, ∃ place j, j.isData = true ∧ Filter.decode place j = .ok f) :
      Reached (r.use (.record x))
  | select (r : Ranker) (text : String) (before : Reached r) : Reached (r.use (.select text))
  | clear (r : Ranker) (before : Reached r) : Reached (r.use .clear)
  | load (r : Ranker) (s : Store) (before : Reached r) : Reached (r.load s)
  | takeOver (r other : Ranker) (before : Reached r) (persisted : Reached other) :
      Reached (r.restore other.history other.popularity)

structure Lasting (r : Ranker) : Prop where
  bounded : r.history.length ≤ r.settings.maxHistory
  filed : Filed r.counts
  history : ∀ p ∈ r.history, p.Lasting
  counts : ∀ x ∈ r.counts, x.2.Lasting

theorem popularity_mem (r : Ranker) (p : Popularity) (mem : p ∈ r.popularity) : ∃ x ∈ r.counts, x.2 = p :=
  List.mem_map.1 ((Popularity.sorted_perm _).mem_iff.1 mem)

theorem add_count_lasting (spelling : String) (count times : Nat) :
    Popularity.Lasting { query := spelling, count := addCount count times } :=
  Nat.lt_of_le_of_lt (Nat.min_le_right _ _) (by decide)

theorem file_lasting (key : String) (p : Popularity) (counts : List (String × Popularity)) (here : p.Lasting)
    (each : ∀ x ∈ counts, x.2.Lasting) : ∀ x ∈ file key p counts, x.2.Lasting := by
  intro x mem
  rcases put_pair_mem key p counts x mem with rfl | before
  · exact here
  · exact each x before

theorem restore_lasting (r : Ranker) (history : List PastSearch) (entries : List Popularity)
    (each : ∀ p ∈ history, p.Lasting) (counted : ∀ p ∈ entries, p.Lasting) : (r.restore history entries).Lasting where
  bounded := List.length_take_le _ _
  filed := restore_filed r history entries
  history p mem := each p (List.mem_of_mem_take mem)
  counts := by
    have folded : ∀ counts : List (String × Popularity), (∀ x ∈ counts, x.2.Lasting) →
        ∀ x ∈ entries.foldl (fun filed p => file (normalForm p.query) p filed) counts, x.2.Lasting := by
      induction entries with
      | nil => exact fun _ each => each
      | cons p entries ih =>
          obtain ⟨here, others⟩ := List.forall_mem_cons.1 counted
          exact fun counts each => ih others _ (file_lasting _ p counts here each)
    exact folded [] fun _ mem => absurd mem List.not_mem_nil

theorem record_lasting (r : Ranker) (x : Recording) (lasting : r.Lasting) (entry : x.entry.Lasting) :
    (r.use (.record x)).Lasting where
  bounded := by rw [use_settings]; exact use_bounded r (.record x) lasting.bounded
  filed := record_filed r x lasting.filed
  history := by
    cases blank : Text.isAllBlank x.query with
    | true => rw [record_blank r x blank]; exact lasting.history
    | false =>
        rw [record_full r x blank]
        intro p mem
        rcases List.mem_cons.1 (List.mem_of_mem_take mem) with rfl | before
        · exact entry
        · exact lasting.history p (List.mem_of_mem_filter before)
  counts := by
    cases blank : Text.isAllBlank x.query with
    | true => rw [record_blank r x blank]; exact lasting.counts
    | false =>
        rw [record_full r x blank]
        exact file_lasting _ _ _ (add_count_lasting _ _ _) lasting.counts

theorem learn_lasting (r : Ranker) (text : String) (lasting : r.Lasting) : (r.use (.select text)).Lasting where
  bounded := by rw [use_settings]; exact use_bounded r (.select text) lasting.bounded
  filed := learn_filed r text lasting.filed
  history := by rw [use, learn_history]; exact lasting.history
  counts := by
    rw [use, learn]
    split
    · exact lasting.counts
    · exact file_lasting _ _ _ (add_count_lasting _ _ _) lasting.counts

theorem clear_lasting (r : Ranker) (lasting : r.Lasting) : (r.use .clear).Lasting where
  bounded := Nat.zero_le _
  filed := lasting.filed
  history _ mem := absurd mem List.not_mem_nil
  counts := lasting.counts

theorem reached_lasting (r : Ranker) (reached : Reached r) : r.Lasting := by
  induction reached with
  | new settings =>
      exact ⟨Nat.zero_le _, filed_nil, fun _ mem => absurd mem List.not_mem_nil,
        fun _ mem => absurd mem List.not_mem_nil⟩
  | record r x _ counted filter ih =>
      refine record_lasting r x ih ⟨counted, fun f mem => ?_⟩
      obtain ⟨place, j, data, read⟩ := filter f mem
      exact filter_stable place j data f read
  | select r text _ ih => exact learn_lasting r text ih
  | clear r _ ih => exact clear_lasting r ih
  | load r s _ ih =>
      exact restore_lasting r _ _ (s.load_yields past_search_lasting historyName)
        (s.load_yields popularity_lasting popularityName)
  | takeOver r other _ _ _ ih =>
      refine restore_lasting r _ _ ih.history fun p mem => ?_
      obtain ⟨x, inside, rfl⟩ := other.popularity_mem p mem
      exact ih.counts x inside

theorem filed_in_order (entries : List Popularity) (before : List (String × Popularity))
    (apart : (before.map Prod.fst ++ entries.map fun p => normalForm p.query).Nodup) :
    entries.foldl (fun filed p => file (normalForm p.query) p filed) before =
      before ++ entries.map fun p => (normalForm p.query, p) := by
  induction entries generalizing before with
  | nil => exact (List.append_nil before).symm
  | cons p entries ih =>
      have fresh : normalForm p.query ∉ before.map Prod.fst := fun known =>
        List.disjoint_of_nodup_append apart known List.mem_cons_self
      have behind : file (normalForm p.query) p before = before ++ [(normalForm p.query, p)] :=
        if_neg (fresh ∘ (any_key _ before).1)
      rw [List.foldl_cons, behind, ih, List.append_assoc, List.singleton_append, List.map_cons]
      rw [List.map_append, List.append_assoc, List.map_singleton, List.singleton_append]
      exact apart

theorem counts_own (counts : List (String × Popularity)) (filed : Filed counts) :
    (counts.map (·.2)).map (fun p => (normalForm p.query, p)) = counts := by
  rw [List.map_map]
  refine (List.map_congr_left fun x mem => ?_).trans (List.map_id counts)
  rw [Function.comp_apply, ← filed.own x mem, id]

theorem restored_counts (r other : Ranker) (filed : Filed r.counts) :
    (other.restore r.history r.popularity).counts = r.popularity.map fun p => (normalForm p.query, p) := by
  refine filed_in_order r.popularity [] ?_
  have keys : (r.popularity.map fun p => normalForm p.query).Perm (r.counts.map Prod.fst) := by
    refine ((Popularity.sorted_perm _).map _).trans (List.Perm.of_eq ?_)
    have own := congrArg (List.map Prod.fst) (counts_own r.counts filed)
    rwa [List.map_map] at own
  exact keys.nodup_iff.2 filed.apart

theorem restored_perm (r other : Ranker) (filed : Filed r.counts) :
    (other.restore r.history r.popularity).counts.Perm r.counts := by
  rw [restored_counts r other filed]
  exact ((Popularity.sorted_perm _).map _).trans (List.Perm.of_eq (counts_own r.counts filed))

structure Alike (r s : Ranker) : Prop where
  history : r.history = s.history
  popularity : r.popularity = s.popularity
  suggest : ∀ input contentType, r.suggest input contentType = s.suggest input contentType

theorem ranked_untimed (base : Rat) (found others : List PastSearch)
    (same : found.map PastSearch.untimed = others.map PastSearch.untimed) :
    Suggest.ranked .binary64 base recentSuggestion found = Suggest.ranked .binary64 base recentSuggestion others := by
  have shown : ∀ entries : List PastSearch, Suggest.ranked .binary64 base recentSuggestion entries =
      Suggest.ranked .binary64 base
        (fun x relevance => { kind := .recent, text := x.1, relevance, resultCount := some x.2.1 })
        (entries.map PastSearch.untimed) := fun entries => by
    rw [Suggest.ranked, Suggest.ranked, List.zipIdx_map, List.map_map]
    rfl
  rw [shown, shown, same]

theorem recent_matches_untimed (r s : Ranker) (history : r.history.map PastSearch.untimed = s.history.map PastSearch.untimed)
    (needle : String) :
    (r.recentMatches needle).map PastSearch.untimed = (s.recentMatches needle).map PastSearch.untimed := by
  have matching : ∀ t : Ranker, (t.recentMatches needle).map PastSearch.untimed =
      (t.history.map PastSearch.untimed).filter fun x =>
        Text.contains (Text.lower x.1) needle || Text.contains needle (Text.lower x.1) := fun t => by
    rw [List.filter_map]
    rfl
  rw [matching, matching, history]

theorem suggest_of_perm (r s : Ranker) (settings : r.settings = s.settings)
    (history : r.history.map PastSearch.untimed = s.history.map PastSearch.untimed)
    (counts : r.counts.Perm s.counts) (apart : (s.counts.map Prod.fst).Nodup) (input : String)
    (contentType : Option ContentType) : r.suggest input contentType = s.suggest input contentType := by
  have entries : r.popularEntries = s.popularEntries := by
    rw [popularEntries, popularEntries, settings]
    exact Popularity.sorted_of_perm _ _ ((counts.map _).filter _)
  have counted : r.useCount = s.useCount := by
    funext text
    rw [useCount, useCount, lookup_perm counts apart]
  have weighed : ∀ x : Suggestion Binary64, r.weigh .binary64 x = s.weigh .binary64 x := fun x => by
    rw [weigh, weigh, counted]
  have defaults : r.defaults .binary64 = s.defaults .binary64 := by
    rw [Ranker.defaults, Ranker.defaults, ranked_untimed _ _ _ history, entries]
  have found : r.candidates .binary64 input contentType = s.candidates .binary64 input contentType := by
    have recent : ∀ needle, Suggest.ranked .binary64 Score.recentBase recentSuggestion (r.recentMatches needle) =
        Suggest.ranked .binary64 Score.recentBase recentSuggestion (s.recentMatches needle) := fun needle =>
      ranked_untimed _ _ _ (recent_matches_untimed r s history needle)
    have popular : r.popularMatches = s.popularMatches := by
      funext needle
      rw [popularMatches, popularMatches, entries]
    unfold candidates
    simp only [recent, popular]
  unfold suggest suggestIn
  rw [settings, defaults, found, funext weighed]

theorem restored_alike (r other : Ranker) (lasting : r.Lasting) (settings : other.settings = r.settings) :
    (other.restore r.history r.popularity).Alike r := by
  have history : (other.restore r.history r.popularity).history = r.history := by
    rw [restore, settings]
    exact List.take_of_length_le lasting.bounded
  have counts := restored_perm r other lasting.filed
  refine ⟨history, ?_, suggest_of_perm _ _ settings (congrArg _ history) counts lasting.filed.apart⟩
  exact Popularity.sorted_of_perm _ _ (counts.map _)

theorem loaded_lists (r : Ranker) (lasting : r.Lasting) (s : Store) (first second : String) (apart : first ≠ second) :
    let kept := (s.save first PastSearch.encode r.history).save second Popularity.encode r.popularity
    kept.load first PastSearch.decode = r.history ∧ kept.load second Popularity.decode = r.popularity := by
  have counted : ∀ p ∈ r.popularity, p.Lasting := fun p mem => by
    obtain ⟨x, inside, rfl⟩ := r.popularity_mem p mem
    exact lasting.counts x inside
  constructor
  · rw [Store.load_beside _ _ _ _ _ _ apart, Store.load_saved]
    exact Store.entries_restored _ _ _ past_search_arranges (fun p mem => p.encode_data (lasting.history p mem))
      (fun p _ => p.encode_depth) fun p mem => p.decode_encode (lasting.history p mem)
  · rw [Store.load_saved]
    exact Store.entries_restored _ _ _ popularity_arranges (fun p mem => p.encode_data (counted p mem))
      (fun p _ => p.encode_depth) fun p mem => p.decode_encode (counted p mem)

theorem persisted_and_loaded (r other : Ranker) (reached : Reached r) (settings : other.settings = r.settings)
    (s : Store) (first second : String) (apart : first ≠ second) :
    let kept := (s.save first PastSearch.encode r.history).save second Popularity.encode r.popularity
    (other.restore (kept.load first PastSearch.decode) (kept.load second Popularity.decode)).Alike r ∧
      (other.load (r.persist s)).Alike r ∧ (other.restore r.history r.popularity).Alike r := by
  have lasting := reached_lasting r reached
  have alike := restored_alike r other lasting settings
  obtain ⟨history, popularity⟩ := loaded_lists r lasting s first second apart
  obtain ⟨history', popularity'⟩ := loaded_lists r lasting s historyName popularityName (by decide)
  refine ⟨?_, ?_, alike⟩
  · rwa [history, popularity]
  · rwa [load, persist, history', popularity']

def bornJson : Json :=
  .object [("contentType", .string "alumni"), ("customFilters", .array [
    .array [.string "born", .string ">", .string "1999-7-4"]])]

def bornSearch : Recording :=
  { now := 1700000000001, query := " Torts ", resultCount := 18446744073709551615,
    filter := some { contentType := .alumni,
                     customs := [{ field := "born", comparison := .greater, value := .date ⟨1999, 7, 4, rfl⟩ }] } }

def used : Ranker :=
  (use {} (.record bornSearch)).use (.select "torts")

theorem used_persisted_and_loaded :
    Reached used ∧ ({} : Ranker).settings = used.settings ∧ "past" ≠ "counts" ∧
      let kept := (Store.save [] "past" PastSearch.encode used.history).save "counts" Popularity.encode used.popularity
      (restore {} (kept.load "past" PastSearch.decode) (kept.load "counts" Popularity.decode)).Alike used ∧
        (load {} (used.persist [])).Alike used ∧ (restore {} used.history used.popularity).Alike used := by
  have reached : Reached used := by
    refine .select _ "torts" (.record {} bornSearch (.new {}) (by decide) ?_)
    rintro f ⟨⟩
    exact ⟨.inOpen, bornJson, rfl, rfl⟩
  have settings : ({} : Ranker).settings = used.settings := by rw [used, use_settings, use_settings]
  exact ⟨reached, settings, by decide, persisted_and_loaded used {} reached settings [] "past" "counts" (by decide)⟩

end Ranker

end ArchiveSearch
