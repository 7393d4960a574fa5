import ArchiveSearch.Proofs.Suggest.Promotion

/- Suggestions after searches that were all different. Nothing weighs more than anything else then, and past some rank
   all scores are zero; what is shown before anything is typed are still the latest searches, the newest first. -/
namespace ArchiveSearch

set_option autoImplicit false

open Suggest (normalForm)
open Arithmetic (binary64)
open Score (earned recentBase recent_unit)

def Suggestion.shown {R : Type} (s : Suggestion R) : SuggestionKind × String × Option ContentType × Option Nat :=
  (s.kind, s.text, s.category, s.resultCount)

def PastSearch.shown (p : PastSearch) : SuggestionKind × String × Option ContentType × Option Nat :=
  (.recent, p.query, none, some p.resultCount)

def Recording.shown (x : Recording) : SuggestionKind × String × Option ContentType × Option Nat :=
  (.recent, Text.trim x.query, none, some x.resultCount)

theorem Suggestion.distinct_of_apart {R : Type} (seen : List String) (cs : List (Suggestion R))
    (fresh : ∀ c ∈ cs, c.lowered ∉ seen) (apart : (cs.map lowered).Nodup) : distinct seen cs = cs := by
  induction cs generalizing seen with
  | nil => rfl
  | cons c cs ih =>
      rw [List.map_cons, List.nodup_cons] at apart
      obtain ⟨here, later⟩ := List.forall_mem_cons.1 fresh
      rw [distinct, if_neg (by simpa using here), ih (c.lowered :: seen) _ apart.2]
      intro d mem
      rw [List.mem_cons, not_or]
      exact ⟨fun same => apart.1 (same ▸ List.mem_map_of_mem mem), later d mem⟩

namespace Use

theorem searches_recorded (found : List Recording) (full : ∀ x ∈ found, Text.isAllBlank x.query = false) :
    searches (found.map Use.record) = found := by
  induction found with
  | nil => rfl
  | cons x found ih =>
      obtain ⟨here, later⟩ := List.forall_mem_cons.1 full
      rw [List.map_cons, searches, if_neg (by simp [here]), ih later]

theorem newest_of_apart (seen : List String) (found : List Recording) (fresh : ∀ x ∈ found, x.key ∉ seen)
    (apart : (found.map Recording.key).Nodup) : newest seen found = found := by
  induction found generalizing seen with
  | nil => rfl
  | cons x found ih =>
      rw [List.map_cons, List.nodup_cons] at apart
      obtain ⟨here, later⟩ := List.forall_mem_cons.1 fresh
      rw [newest, if_neg here, ih (x.key :: seen) _ apart.2]
      intro y mem
      rw [List.mem_cons, not_or]
      exact ⟨fun same => apart.1 (same ▸ List.mem_map_of_mem mem), later y mem⟩

theorem times_used_recorded (boost : Nat) (found : List Recording) (apart : (found.map Recording.key).Nodup)
    (key : String) : timesUsed boost (found.map Use.record) key ≤ 1 := by
  have searched : (found.map Use.record).countP (records key) = (found.map Recording.key).count key := by
    rw [List.count, List.countP_map, List.countP_map]
    rfl
  have selected : (found.map Use.record).countP (selects key) = 0 := by
    rw [List.countP_map, List.countP_eq_zero]
    exact fun _ _ => Bool.false_ne_true
  rw [timesUsed, searched, selected, Nat.mul_zero, Nat.add_zero]
  exact List.nodup_iff_count_le_one.1 apart key

end Use

namespace Ranker

section Searched

variable (settings : RankerSettings) (found : List Recording)
  (full : ∀ x ∈ found, Text.isAllBlank x.query = false) (apart : (found.map Recording.key).Nodup)

include full apart in
theorem searched_history :
    (after settings (found.map Use.record)).history = (found.reverse.take settings.maxHistory).map Recording.entry := by
  rw [history_of_log, Use.history, ← List.map_reverse,
    Use.searches_recorded found.reverse fun x mem => full x (List.mem_reverse.1 mem),
    Use.newest_of_apart [] found.reverse (fun _ _ => List.not_mem_nil)]
  rw [List.map_reverse]
  exact List.nodup_reverse.2 apart

include apart

theorem searched_counts (key : String) (p : Popularity)
    (filed : (after settings (found.map Use.record)).counts.lookup key = some p) : p.count ≤ 1 := by
  have named : key ≠ "" := fun unnamed => by
    rw [unnamed, after_unnamed] at filed
    cases filed
  rw [after_lookup settings _ key named] at filed
  have counted := Use.tally_count settings.selectionBoost (found.map Use.record) key
  rw [filed, Option.map_some, Option.getD_some] at counted
  exact counted.trans_le ((Nat.min_le_left _ _).trans (Use.times_used_recorded _ found apart key))

theorem searched_use_count (text : String) : (after settings (found.map Use.record)).useCount text = 1 := by
  rw [useCount]
  split
  · next p filed => exact Nat.max_eq_right (searched_counts settings found apart _ p filed)
  · rfl

theorem searched_unpopular (least : 2 ≤ settings.minPopularity) :
    (after settings (found.map Use.record)).popularEntries = [] := by
  have none_ : ∀ p, p ∉ (after settings (found.map Use.record)).popularEntries := by
    intro p mem
    have inside := (Popularity.sorted_perm _).mem_iff.1 mem
    rw [after_settings, List.mem_filter, decide_eq_true_eq] at inside
    obtain ⟨⟨key, p⟩, filed, rfl⟩ := List.mem_map.1 inside.1
    have once := searched_counts settings found apart key p
      (lookup_of_nodup _ key p (after_filed settings _).apart filed)
    have enough : settings.minPopularity ≤ p.count := inside.2
    omega
  exact List.eq_nil_iff_forall_not_mem.2 none_

end Searched

theorem recents_in_order {R : Type} {a : Arithmetic R} (orderly : a.Orderly) (r : Ranker)
    (level : ∀ text, r.useCount text = 1) :
    (r.history.zipIdx.map fun x => r.recentOf a x.2 x.1).Pairwise fun s t => s.mayPrecede a t = true := by
  rw [List.pairwise_map]
  have numbers : r.history.zipIdx.Pairwise fun x y => x.2 < y.2 := by
    have counted : (List.range' 0 r.history.length).Pairwise (· < ·) := List.pairwise_lt_range'
    rwa [← List.zipIdx_map_snd, List.pairwise_map] at counted
  refine numbers.imp ?_
  intro x y before
  refine (Suggestion.may_precede_eq_true_iff a _ _).2 ⟨?_, fun _ => Nat.le_refl _⟩
  show a.le (earned a recentBase y.2 _) (earned a recentBase x.2 _) = true
  rw [level, level]
  exact orderly.earned recentBase recent_unit.1 recent_unit.2 _ _ 1 1 before.le (Nat.le_refl 1)

theorem recents_listed {R : Type} {a : Arithmetic R} (orderly : a.Orderly) (r : Ranker)
    (level : ∀ text, r.useCount text = 1) (unpopular : r.popularEntries = [])
    (texts : (r.history.map fun p => Text.lower p.query).Nodup) (input : String)
    (blank : Text.isAllBlank input = true) (contentType : Option ContentType) :
    (r.suggestIn a input contentType).map Suggestion.shown =
      (r.history.map PastSearch.shown).take r.settings.maxSuggestions := by
  have recents : r.unprompted a = r.history.zipIdx.map fun x => r.recentOf a x.2 x.1 := by
    rw [unprompted_eq, unpopular]
    exact List.append_nil _
  have listed {β : Type} (look : Suggestion R → β) (look' : PastSearch → β)
      (same : ∀ rank p, look (r.recentOf a rank p) = look' p) : (r.unprompted a).map look = r.history.map look' := by
    rw [recents, List.map_map, ← congrArg (List.map look') (List.zipIdx_map_fst 0 r.history), List.map_map]
    exact List.map_congr_left fun x _ => same x.2 x.1
  have apart : ((r.unprompted a).map Suggestion.lowered).Nodup := by
    rwa [listed Suggestion.lowered (fun p => Text.lower p.query) fun _ _ => rfl]
  have ordered := recents_in_order orderly r level
  rw [suggest_in_blank a r input contentType blank, Suggestion.best, List.mergeSort_of_pairwise (recents ▸ ordered),
    Suggestion.distinct_of_apart [] _ (fun _ _ => List.not_mem_nil) apart, List.map_take,
    listed Suggestion.shown PastSearch.shown fun _ _ => rfl]

theorem latest_searches_listed (settings : RankerSettings) (least : 2 ≤ settings.minPopularity)
    (found : List Recording) (full : ∀ x ∈ found, Text.isAllBlank x.query = false)
    (apart : (found.map Recording.key).Nodup) (input : String) (blank : Text.isAllBlank input = true)
    (contentType : Option ContentType) :
    ((after settings (found.map Use.record)).suggest input contentType).map Suggestion.shown =
      (found.reverse.take (min found.length (min settings.maxHistory settings.maxSuggestions))).map
        Recording.shown := by
  have history := searched_history settings found full apart
  have level := searched_use_count settings found apart
  have unpopular := searched_unpopular settings found apart least
  have kept := after_settings settings (found.map Use.record)
  generalize after settings (found.map Use.record) = r at *
  have keys : (r.history.map fun p => Text.lower p.query) =
      (found.reverse.take settings.maxHistory).map Recording.key := by
    rw [history, List.map_map]
    rfl
  have texts : (r.history.map fun p => Text.lower p.query).Nodup := by
    rw [keys]
    refine List.Nodup.sublist ((List.take_sublist _ _).map _) ?_
    rw [List.map_reverse]
    exact List.nodup_reverse.2 apart
  have shown : r.history.map PastSearch.shown = (found.reverse.take settings.maxHistory).map Recording.shown := by
    rw [history, List.map_map]
    rfl
  rw [suggest, recents_listed Score.binary64_orderly r level unpopular texts input blank contentType, shown, kept,
    ← List.map_take, List.take_take, Nat.min_comm settings.maxSuggestions, ← found.length_reverse,
    Nat.min_comm found.reverse.length, List.take_eq_take_min]

def spacious : RankerSettings :=
  { maxHistory := 12, maxSuggestions := 20 }

def letters : List Recording :=
  "ABCDEFGHIJKLM".toList.zipIdx.map fun x =>
    { now := x.2, query := " " ++ x.1.toString, resultCount := x.2, filter := none }

theorem twelve_letters_listed :
    2 ≤ spacious.minPopularity ∧ (∀ x ∈ letters, Text.isAllBlank x.query = false) ∧
      (letters.map Recording.key).Nodup ∧ Text.isAllBlank " " = true ∧
      ((after spacious (letters.map Use.record)).suggest " " none).map Suggestion.shown =
        (letters.reverse.take 12).map Recording.shown := by
  have full : ∀ x ∈ letters, Text.isAllBlank x.query = false := by decide +kernel
  have apart : (letters.map Recording.key).Nodup := by decide +kernel
  exact ⟨by decide, full, apart, by decide,
    latest_searches_listed spacious (by decide) letters full apart " " (by decide) none⟩

end Ranker

end ArchiveSearch
