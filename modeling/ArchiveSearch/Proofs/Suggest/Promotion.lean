import ArchiveSearch.Proofs.Suggest.Places
import ArchiveSearch.Proofs.Suggest.Raising

/- A selection never takes a suggestion back. The text that was selected comes forward among the popular queries and
   weighs at least as much as before wherever it is suggested; every other text keeps its scores or falls behind. -/
namespace ArchiveSearch

set_option autoImplicit false

open Suggest (normalForm)
open Arithmetic (exact binary64)
open Popularity (Lifted Raise listedWith)
open Score (earned recentBase popularBase recent_unit popular_unit)
open List (zipIdxLE)

-- Where the kinds stand one behind the other, a candidate goes before another by its score and then by its number.
theorem Suggestion.zip_idx_le_iff {R : Type} (a : Arithmetic R) (s t : Suggestion R × Nat)
    (kinds : s.2 ≤ t.2 → s.1.kind.order ≤ t.1.kind.order) (kinds' : t.2 ≤ s.2 → t.1.kind.order ≤ s.1.kind.order) :
    zipIdxLE (mayPrecede a) s t = true ↔
      a.le t.1.relevance s.1.relevance = true ∧ (a.le s.1.relevance t.1.relevance = true → s.2 ≤ t.2) := by
  have first := may_precede_eq_true_iff a s.1 t.1
  have next := may_precede_eq_true_iff a t.1 s.1
  unfold zipIdxLE
  by_cases above : a.le t.1.relevance s.1.relevance = true
  · by_cases level : a.le s.1.relevance t.1.relevance = true
    · by_cases early : s.2 ≤ t.2
      · simp only [first, next, above, level, early, kinds early, true_and, forall_const, if_true, decide_true, ite_self]
      · have late := kinds' (Nat.le_of_not_le early)
        simp [first, next, above, level, early, late]
    · simp [first, next, above, level]
  · simp [first, above]

namespace Ranker

section Unprompted

variable {R : Type} (a : Arithmetic R)

def unprompted (r : Ranker) : List (Suggestion R) :=
  (r.defaults a).map (r.weigh a)

theorem suggest_in_blank (r : Ranker) (input : String) (contentType : Option ContentType)
    (blank : Text.isAllBlank input = true) :
    r.suggestIn a input contentType = Suggestion.best a r.settings.maxSuggestions (r.unprompted a) := by
  rw [suggestIn]
  simp only [normal_form_is_empty, blank, if_true]
  rfl

def recentOf (r : Ranker) (rank : Nat) (p : PastSearch) : Suggestion R :=
  recentSuggestion p (earned a recentBase rank (r.useCount p.query))

def popularOf (r : Ranker) (rank : Nat) (p : Popularity) : Suggestion R :=
  popularSuggestion p (earned a popularBase rank (r.useCount p.query))

inductive Unprompted (r : Ranker) : Suggestion R × Nat → Prop where
  | recent (rank : Nat) (p : PastSearch) (found : r.history[rank]? = some p) :
      Unprompted r (r.recentOf a rank p, rank)
  | popular (rank : Nat) (p : Popularity) (found : r.popularEntries[rank]? = some p) :
      Unprompted r (r.popularOf a rank p, r.history.length + rank)

theorem unprompted_eq (r : Ranker) :
    r.unprompted a = (r.history.zipIdx.map fun x => r.recentOf a x.2 x.1) ++
      r.popularEntries.zipIdx.map fun x => r.popularOf a x.2 x.1 := by
  rw [unprompted, defaults, List.map_append, Suggest.ranked, Suggest.ranked, List.map_map, List.map_map]
  rfl

theorem unprompted_iff (r : Ranker) (x : Suggestion R × Nat) : x ∈ (r.unprompted a).zipIdx ↔ Unprompted a r x := by
  obtain ⟨s, i⟩ := x
  rw [List.mem_zipIdx_iff_getElem?, unprompted_eq, List.getElem?_append, List.length_map, List.length_zipIdx,
    List.getElem?_map, List.getElem?_map, List.getElem?_zipIdx, List.getElem?_zipIdx, Option.map_map, Option.map_map]
  simp only [Nat.zero_add]
  constructor
  · intro found
    split at found
    · obtain ⟨p, at_, rfl⟩ := Option.map_eq_some_iff.1 found
      exact .recent i p at_
    · next behind =>
      obtain ⟨p, at_, rfl⟩ := Option.map_eq_some_iff.1 found
      have number : i = r.history.length + (i - r.history.length) := by omega
      rw [number]
      simpa using Unprompted.popular (a := a) (i - r.history.length) p at_
  · rintro (⟨rank, p, found⟩ | ⟨rank, p, found⟩)
    · rw [if_pos (List.getElem?_eq_some_iff.1 found).1, found]
      rfl
    · rw [if_neg (by omega), Nat.add_sub_cancel_left, found]
      rfl

theorem Unprompted.kinds {r : Ranker} {x y : Suggestion R × Nat} (first : Unprompted a r x) (next : Unprompted a r y)
    (before : x.2 ≤ y.2) : x.1.kind.order ≤ y.1.kind.order := by
  rcases first with ⟨rank, p, found⟩ | ⟨rank, p, found⟩
  · exact Nat.zero_le _
  · rcases next with ⟨rank', q, found'⟩ | ⟨rank', q, found'⟩
    · have bound := (List.getElem?_eq_some_iff.1 found').1
      simp only at before
      omega
    · exact Nat.le_refl _

variable {a}

theorem Unprompted.behind (orderly : a.Orderly) {r r' : Ranker} {s t u v : Suggestion R × Nat}
    (hs : Unprompted a r s) (hv : Unprompted a r v) (ht : Unprompted a r' t) (hu : Unprompted a r' u)
    (risen : a.le s.1.relevance t.1.relevance = true) (fallen : a.le u.1.relevance v.1.relevance = true)
    (places : u.2 ≤ t.2 → v.2 ≤ s.2) (before : zipIdxLE (Suggestion.mayPrecede a) u t = true) :
    zipIdxLE (Suggestion.mayPrecede a) v s = true := by
  rw [Suggestion.zip_idx_le_iff a u t (hu.kinds a ht) (ht.kinds a hu)] at before
  rw [Suggestion.zip_idx_le_iff a v s (hv.kinds a hs) (hs.kinds a hv)]
  obtain ⟨above, level⟩ := before
  refine ⟨orderly.trans _ _ _ risen (orderly.trans _ _ _ above fallen), fun back => places (level ?_)⟩
  exact orderly.trans _ _ _ fallen (orderly.trans _ _ _ back risen)

end Unprompted

theorem use_count_congr (r : Ranker) (text other : String) (same : normalForm text = normalForm other) :
    r.useCount text = r.useCount other := by
  rw [useCount, useCount, same]

structure Promotes (key : String) (r r' : Ranker) : Prop where
  history : r'.history = r.history
  uses : ∀ text, r.useCount text ≤ r'.useCount text
  others : ∀ text, normalForm text ≠ key → r'.useCount text = r.useCount text
  lifted : Lifted key r.popularEntries r'.popularEntries
  searched : ∀ p ∈ r.history, Text.trim p.query = p.query
  popular : ∀ p ∈ r.popularEntries, Text.trim p.query = p.query
  popular' : ∀ p ∈ r'.popularEntries, Text.trim p.query = p.query

theorem lower_trimmed (text : String) (trimmed : Text.trim text = text) : Text.lower text = normalForm text := by
  rw [normalForm, trimmed]

section Promotes

variable {R : Type} {a : Arithmetic R} {key : String} {r r' : Ranker} (orderly : a.Orderly) (promotes : Promotes key r r')

include orderly promotes

theorem Promotes.others_fallen (u : Suggestion R × Nat) (now : Unprompted a r' u) (other : u.1.lowered ≠ key) :
    ∃ v, Unprompted a r v ∧ v.1.lowered = u.1.lowered ∧ a.le u.1.relevance v.1.relevance = true ∧ v.2 ≤ u.2 := by
  cases now with
  | recent rank p found =>
      rw [promotes.history] at found
      have trimmed := promotes.searched p (List.mem_of_getElem? found)
      have uses := promotes.others p.query fun own => other ((lower_trimmed p.query trimmed).trans own)
      refine ⟨_, .recent rank p found, rfl, ?_, Nat.le_refl _⟩
      exact orderly.earned recentBase recent_unit.1 recent_unit.2 rank rank _ _ (Nat.le_refl _) uses.le
  | popular rank p found =>
      have trimmed := promotes.popular' p (List.mem_of_getElem? found)
      have unlike : normalForm p.query ≠ key := fun own => other ((lower_trimmed p.query trimmed).trans own)
      obtain ⟨earlier, early, there⟩ := promotes.lifted.others rank p found unlike
      refine ⟨_, .popular earlier p there, rfl, ?_, promotes.history ▸ Nat.add_le_add_left early _⟩
      exact orderly.earned popularBase popular_unit.1 popular_unit.2 rank earlier _ _ early
        (promotes.others p.query unlike).le

theorem Promotes.own_risen (s : Suggestion R × Nat) (offered : Unprompted a r s) (own : s.1.lowered = key) :
    ∃ t, Unprompted a r' t ∧ t.1.lowered = key ∧ a.le s.1.relevance t.1.relevance = true ∧ t.2 ≤ s.2 := by
  cases offered with
  | recent rank p found =>
      refine ⟨_, .recent rank p (promotes.history ▸ found), own, ?_, Nat.le_refl _⟩
      exact orderly.earned recentBase recent_unit.1 recent_unit.2 rank rank _ _ (Nat.le_refl _) (promotes.uses p.query)
  | popular rank p found =>
      have trimmed := promotes.popular p (List.mem_of_getElem? found)
      have named : normalForm p.query = key := (lower_trimmed p.query trimmed).symm.trans own
      obtain ⟨place, early, q, there, named'⟩ := promotes.lifted.own rank p found named
      have trimmed' := promotes.popular' q (List.mem_of_getElem? there)
      have own' : Text.lower q.query = key := (lower_trimmed q.query trimmed').trans named'
      refine ⟨_, .popular place q there, own', ?_, promotes.history ▸ Nat.add_le_add_left early _⟩
      refine orderly.earned popularBase popular_unit.1 popular_unit.2 rank place _ _ early ?_
      rw [r'.use_count_congr q.query p.query (named'.trans named.symm)]
      exact promotes.uses p.query

theorem Promotes.raised :
    Suggestion.Raised (Suggestion.mayPrecede a) key (r.unprompted a) (r'.unprompted a) := by
  intro s offered own
  simp only [unprompted_iff] at *
  obtain ⟨t, after, own', risen, early⟩ := promotes.own_risen orderly s offered own
  refine ⟨t, after, own', fun u now other before => ?_⟩
  obtain ⟨v, kept, same, fallen, early'⟩ := promotes.others_fallen orderly u now other
  exact ⟨v, kept, same, Unprompted.behind orderly offered kept after now risen fallen
    (fun behind => early'.trans (behind.trans early)) before⟩

end Promotes

def otherEntries (key : String) (r : Ranker) : List Popularity :=
  ((r.counts.filter (·.1 != key)).map (·.2)).filter (r.settings.minPopularity ≤ ·.count)

theorem popular_entries_parted (r : Ranker) (filed : Filed r.counts) (key : String) :
    r.popularEntries =
      Popularity.sorted (listedWith r.settings.minPopularity (r.counts.lookup key) (r.otherEntries key)) := by
  have parted := ((lookup_parted key r.counts filed.apart).map (·.2)).filter
    fun p => decide (r.settings.minPopularity ≤ p.count)
  refine Popularity.sorted_of_perm _ _ (parted.trans (List.Perm.of_eq ?_))
  rw [List.map_append, List.filter_append, listedWith, otherEntries]
  cases r.counts.lookup key <;> rfl

theorem other_entries_mem (key : String) (r : Ranker) (o : Popularity) (mem : o ∈ r.otherEntries key) :
    ∃ x ∈ r.counts, x.1 ≠ key ∧ x.2 = o := by
  obtain ⟨x, inside, rfl⟩ := List.mem_map.1 (List.mem_of_mem_filter mem)
  obtain ⟨filed, other⟩ := List.mem_filter.1 inside
  exact ⟨x, filed, by simpa using other, rfl⟩

theorem bump_others (key spelling : String) (times : Nat) (counts : List (String × Popularity)) :
    (bump key spelling times counts).filter (·.1 != key) = counts.filter (·.1 != key) :=
  put_pair_others key _ counts

theorem count_of_less (r : Ranker) (key : String) (boosted : 1 ≤ r.settings.selectionBoost)
    (room : r.countOf key < 4294967295) : r.countOf key < addCount (r.countOf key) r.settings.selectionBoost := by
  simp only [addCount, Bound.word32]
  omega

theorem learn_raise (r : Ranker) (text : String) (filed : Filed r.counts) (boosted : 1 ≤ r.settings.selectionBoost)
    (room : r.countOf (normalForm text) < 4294967295) :
    Raise (normalForm text) (r.counts.lookup (normalForm text))
      { query := Text.trim text, count := addCount (r.countOf (normalForm text)) r.settings.selectionBoost }
      (r.otherEntries (normalForm text)) where
  before p found := by
    have less := r.count_of_less (normalForm text) boosted room
    have counted : r.countOf (normalForm text) = p.count := by rw [countOf, Option.mem_def.1 found]; rfl
    exact ⟨(filed.own _ (lookup_mem _ _ p found)).symm, counted ▸ less⟩
  after := normal_form_trim text
  different o mem := by
    obtain ⟨x, inside, other, rfl⟩ := other_entries_mem _ r o mem
    rwa [← filed.own x inside]
  apart := (entries_nodup r.counts filed).sublist (List.filter_sublist.trans (List.filter_sublist.map _))

section Learn

variable (r : Ranker) (text : String) (full : Text.isAllBlank text = false)
  (boosted : 1 ≤ r.settings.selectionBoost) (room : r.countOf (normalForm text) < 4294967295)

include full

theorem learn_lookup (query : String) :
    (r.learn text).counts.lookup query =
      if query = normalForm text then
        some { query := Text.trim text, count := addCount (r.countOf (normalForm text)) r.settings.selectionBoost }
      else r.counts.lookup query := by
  rw [learn_full r text full]
  exact lookup_bump _ _ _ _ _

theorem learn_others : (r.learn text).otherEntries (normalForm text) = r.otherEntries (normalForm text) := by
  rw [learn_full r text full, otherEntries, otherEntries]
  simp only [bump_others]

include boosted room

theorem learn_uses (other : String) : r.useCount other ≤ (r.learn text).useCount other := by
  rw [useCount, useCount, learn_lookup r text full]
  by_cases own : normalForm other = normalForm text
  · have less := r.count_of_less (normalForm text) boosted room
    rw [if_pos own, own]
    cases found : r.counts.lookup (normalForm text) with
    | none => exact Nat.le_max_right _ _
    | some p =>
        have counted : r.countOf (normalForm text) = p.count := by rw [countOf, found]; rfl
        exact max_le_max (counted ▸ less.le) (Nat.le_refl 1)
  · rw [if_neg own]

theorem learn_promotes (filed : Filed r.counts) (searched : ∀ p ∈ r.history, Text.trim p.query = p.query)
    (counted : ∀ x ∈ r.counts, Text.trim x.2.query = x.2.query)
    (counted' : ∀ x ∈ (r.learn text).counts, Text.trim x.2.query = x.2.query) :
    Promotes (normalForm text) r (r.learn text) where
  history := r.learn_history text
  uses := r.learn_uses text full boosted room
  others other apart := by rw [useCount, useCount, learn_lookup r text full, if_neg apart]
  lifted := by
    have settings : (r.learn text).settings = r.settings := r.use_settings (.select text)
    rw [popular_entries_parted r filed (normalForm text),
      popular_entries_parted (r.learn text) (learn_filed r text filed) (normalForm text), settings,
      r.learn_others text full, learn_lookup r text full, if_pos rfl]
    exact (r.learn_raise text filed boosted room).lifted _
  searched := searched
  popular p mem := by
    obtain ⟨x, inside, rfl⟩ := List.mem_map.1 (List.mem_of_mem_filter ((Popularity.sorted_perm _).mem_iff.1 mem))
    exact counted x inside
  popular' p mem := by
    obtain ⟨x, inside, rfl⟩ := List.mem_map.1 (List.mem_of_mem_filter ((Popularity.sorted_perm _).mem_iff.1 mem))
    exact counted' x inside

end Learn

theorem selected_comes_forward (settings : RankerSettings) (boosted : 1 ≤ settings.selectionBoost) (log : List Use)
    (text : String) (full : Text.isAllBlank text = false)
    (room : (after settings log).countOf (normalForm text) < 4294967295) (input : String)
    (blank : Text.isAllBlank input = true) (contentType : Option ContentType) :
    let r := after settings log
    (∀ i : Nat, ((r.suggestIn exact input contentType).map Suggestion.lowered)[i]? = some (normalForm text) →
      ∃ j ≤ i, (((r.learn text).suggestIn exact input contentType).map Suggestion.lowered)[j]? =
        some (normalForm text)) ∧
    ∀ i : Nat, ((r.suggest input contentType).map Suggestion.lowered)[i]? = some (normalForm text) →
      ∃ j ≤ i, (((r.learn text).suggest input contentType).map Suggestion.lowered)[j]? = some (normalForm text) := by
  intro r
  have kept : r.settings = settings := after_settings settings log
  have kept' : (r.learn text).settings = r.settings := r.use_settings (.select text)
  have promotes : Promotes (normalForm text) r (r.learn text) := by
    refine learn_promotes r text full (kept.symm ▸ boosted) room (after_filed settings log)
      (after_history_trimmed settings log) (after_counts_trimmed settings log) ?_
    have next : r.learn text = after settings (log ++ [.select text]) := (after_concat settings log (.select text)).symm
    exact next ▸ after_counts_trimmed settings (log ++ [.select text])
  refine ⟨fun i shown => ?_, fun i shown => ?_⟩
  · rw [suggest_in_blank _ _ _ _ blank, kept'] at *
    exact Suggestion.raised_place Score.exact_orderly _ _ _ _ (promotes.raised Score.exact_orderly) i shown
  · rw [suggest, suggest_in_blank _ _ _ _ blank, kept'] at *
    exact Suggestion.raised_place Score.binary64_orderly _ _ _ _ (promotes.raised Score.binary64_orderly) i shown

def trials : List Use :=
  [.record { now := 0, query := "Torts", resultCount := 3, filter := none },
    .record { now := 1, query := "Moot Court", resultCount := 5, filter := none }]

theorem torts_come_forward :
    let r := after {} trials
    1 ≤ ({} : RankerSettings).selectionBoost ∧ Text.isAllBlank " TORTS" = false ∧
      r.countOf (normalForm " TORTS") < 4294967295 ∧ Text.isAllBlank "\t" = true ∧
      ((r.suggestIn exact "\t" none).map Suggestion.lowered)[1]? = some (normalForm " TORTS") ∧
      ∃ j ≤ 1, (((r.learn " TORTS").suggestIn exact "\t" none).map Suggestion.lowered)[j]? =
        some (normalForm " TORTS") := by
  intro r
  have room : r.countOf (normalForm " TORTS") < 4294967295 := by decide +kernel
  have shown : ((r.suggestIn exact "\t" none).map Suggestion.lowered)[1]? = some (normalForm " TORTS") := by
    rw [suggest_in_blank exact r "\t" none (by decide), Suggestion.best, List.mergeSort_of_pairwise (by decide +kernel)]
    decide +kernel
  exact ⟨by decide, by decide, room, by decide, shown,
    (selected_comes_forward {} (by decide) trials " TORTS" (by decide) room "\t" (by decide) none).1 1 shown⟩

end Ranker

end ArchiveSearch
