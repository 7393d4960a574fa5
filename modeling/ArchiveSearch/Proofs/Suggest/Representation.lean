import ArchiveSearch.Proofs.Pairs
import ArchiveSearch.Proofs.Suggest.History

/- What holds of a ranker however it came about. Its history is no longer than it may be, and every entry of its
   popularity table is filed under the normal form of its own query. Searches never bring a query into the history
   twice; what is loaded is taken over as it stands, so that it may. -/
namespace ArchiveSearch

set_option autoImplicit false

open Suggest (normalForm)

namespace Ranker

structure Filed (counts : List (String × Popularity)) : Prop where
  own : ∀ x ∈ counts, x.1 = normalForm x.2.query
  apart : (counts.map Prod.fst).Nodup

theorem filed_nil : Filed [] :=
  ⟨fun _ mem => absurd mem List.not_mem_nil, List.nodup_nil⟩

theorem file_filed (key : String) (p : Popularity) (counts : List (String × Popularity)) (under : key = normalForm p.query)
    (filed : Filed counts) : Filed (file key p counts) := by
  refine ⟨fun x mem => ?_, put_pair_nodup key p counts filed.apart⟩
  rcases put_pair_mem key p counts x mem with rfl | before
  · exact under
  · exact filed.own x before

theorem bump_filed (spelling : String) (times : Nat) (counts : List (String × Popularity)) (filed : Filed counts) :
    Filed (bump (normalForm spelling) spelling times counts) :=
  file_filed _ _ counts rfl filed

theorem fold_filed (entries : List Popularity) (counts : List (String × Popularity)) (filed : Filed counts) :
    Filed (entries.foldl (fun filed p => file (normalForm p.query) p filed) counts) := by
  induction entries generalizing counts with
  | nil => exact filed
  | cons p entries ih => exact ih _ (file_filed _ p counts rfl filed)

theorem learn_filed (r : Ranker) (text : String) (filed : Filed r.counts) : Filed (r.learn text).counts := by
  rw [learn]
  split
  · exact filed
  · exact bump_filed _ _ _ filed

theorem record_filed (r : Ranker) (x : Recording) (filed : Filed r.counts) : Filed (r.use (.record x)).counts := by
  cases blank : Text.isAllBlank x.query with
  | true => rwa [record_blank r x blank]
  | false =>
      rw [record_full r x blank]
      show Filed (bump x.key x.entry.query 1 r.counts)
      rw [← x.entry_key]
      exact bump_filed _ _ _ filed

theorem use_filed (r : Ranker) (u : Use) (filed : Filed r.counts) : Filed (r.use u).counts := by
  cases u with
  | record x => exact record_filed r x filed
  | select text => exact learn_filed r text filed
  | clear => exact filed

theorem restore_filed (r : Ranker) (history : List PastSearch) (counts : List Popularity) :
    Filed (r.restore history counts).counts :=
  fold_filed counts [] filed_nil

theorem use_bounded (r : Ranker) (u : Use) (bounded : r.history.length ≤ r.settings.maxHistory) :
    (r.use u).history.length ≤ r.settings.maxHistory := by
  cases u with
  | record x =>
      cases blank : Text.isAllBlank x.query with
      | true => rwa [record_blank r x blank]
      | false => rw [record_full r x blank]; exact List.length_take_le _ _
  | select text => rwa [use, learn_history]
  | clear => exact Nat.zero_le _

def timesSearched (key : String) (history : List PastSearch) : Nat :=
  history.countP fun p => normalForm p.query == key

theorem times_searched_sublist (key : String) {some all : List PastSearch} (part : some.Sublist all) :
    timesSearched key some ≤ timesSearched key all :=
  part.countP_le

theorem times_searched_use (r : Ranker) (u : Use) (key : String) :
    timesSearched key (r.use u).history ≤ max 1 (timesSearched key r.history) := by
  cases u with
  | select text => rw [use, learn_history]; exact Nat.le_max_right _ _
  | clear => exact Nat.zero_le _
  | record x =>
      cases blank : Text.isAllBlank x.query with
      | true => rw [record_blank r x blank]; exact Nat.le_max_right _ _
      | false =>
          rw [record_full r x blank]
          refine (times_searched_sublist key (List.take_sublist _ _)).trans ?_
          rw [timesSearched, List.countP_cons, x.entry_key]
          by_cases same : x.key = key
          · have none : timesSearched key (r.history.filter (normalForm ·.query != x.key)) = 0 := by
              refine List.countP_eq_zero.2 fun p mem => ?_
              simpa [same] using (List.mem_filter.1 mem).2
            rw [timesSearched] at none
            rw [none, if_pos (beq_iff_eq.2 same)]
            exact Nat.le_max_left _ _
          · rw [if_neg (by simp [same])]
            exact (times_searched_sublist key List.filter_sublist).trans (Nat.le_max_right _ _)

inductive Move where
  | use (u : Use)
  | load (s : Store)
  | takeOver (history : List PastSearch) (counts : List Popularity)

def move (r : Ranker) : Move → Ranker
  | .use u => r.use u
  | .load s => r.load s
  | .takeOver history counts => r.restore history counts

def moved (settings : RankerSettings) (moves : List Move) : Ranker :=
  moves.foldl move { settings }

def broughtIn (most : Nat) : List Move → List PastSearch
  | [] => []
  | .use (.record _) :: older => broughtIn most older
  | .use (.select _) :: older => broughtIn most older
  | .use .clear :: _ => []
  | .load s :: _ => (s.load historyName PastSearch.decode).take most
  | .takeOver history _ :: _ => history.take most

structure Sound (r : Ranker) (brought : List PastSearch) : Prop where
  bounded : r.history.length ≤ r.settings.maxHistory
  filed : Filed r.counts
  noneAdded : ∀ key, timesSearched key r.history ≤ max 1 (timesSearched key brought)

theorem use_sound (r : Ranker) (u : Use) (brought : List PastSearch) (sound : Sound r brought) :
    Sound (r.use u) brought where
  bounded := by rw [use_settings]; exact use_bounded r u sound.bounded
  filed := use_filed r u sound.filed
  noneAdded key := by
    refine (times_searched_use r u key).trans ?_
    exact max_le (Nat.le_max_left _ _) (sound.noneAdded key)

theorem clear_sound (r : Ranker) (filed : Filed r.counts) : Sound r.clear [] where
  bounded := Nat.zero_le _
  filed := filed
  noneAdded _ := Nat.zero_le _

theorem restore_sound (r : Ranker) (history : List PastSearch) (counts : List Popularity) :
    Sound (r.restore history counts) (history.take r.settings.maxHistory) where
  bounded := List.length_take_le _ _
  filed := restore_filed r history counts
  noneAdded _ := Nat.le_max_right _ _

theorem moved_last (settings : RankerSettings) (moves : List Move) (m : Move) :
    moved settings (moves ++ [m]) = (moved settings moves).move m := by
  rw [moved, List.foldl_append]
  rfl

theorem moved_settings (settings : RankerSettings) (moves : List Move) : (moved settings moves).settings = settings := by
  induction moves using List.reverseRecOn with
  | nil => rfl
  | append_singleton moves m ih =>
      rw [moved_last]
      cases m with
      | use u => exact (use_settings _ u).trans ih
      | load s => exact ih
      | takeOver history counts => exact ih

theorem moved_sound (settings : RankerSettings) (moves : List Move) :
    Sound (moved settings moves) (broughtIn settings.maxHistory moves.reverse) := by
  induction moves using List.reverseRecOn with
  | nil => exact ⟨Nat.zero_le _, filed_nil, fun _ => Nat.zero_le _⟩
  | append_singleton moves m ih =>
      have kept := moved_settings settings moves
      rw [moved_last, List.reverse_append, List.reverse_singleton, List.singleton_append]
      cases m with
      | use u =>
          cases u with
          | record x => rw [broughtIn, move]; exact use_sound _ (.record x) _ ih
          | select text => rw [broughtIn, move]; exact use_sound _ (.select text) _ ih
          | clear => rw [broughtIn, move, use]; exact clear_sound _ ih.filed
      | load s =>
          have taken := restore_sound (moved settings moves) (s.load historyName PastSearch.decode)
            (s.load popularityName Popularity.decode)
          rwa [kept] at taken
      | takeOver history counts =>
          have taken := restore_sound (moved settings moves) history counts
          rwa [kept] at taken

theorem apart_of_times_searched (history : List PastSearch) (once : ∀ key, timesSearched key history ≤ 1) :
    (history.map fun p => normalForm p.query).Nodup := by
  refine List.nodup_iff_count_le_one.2 fun key => ?_
  rw [List.count_eq_countP, List.countP_map]
  exact once key

theorem times_searched_of_apart (history : List PastSearch) (apart : (history.map fun p => normalForm p.query).Nodup)
    (key : String) : timesSearched key history ≤ 1 := by
  have once := List.nodup_iff_count_le_one.1 apart key
  rw [List.count_eq_countP, List.countP_map] at once
  exact once

theorem representation_after_moves (settings : RankerSettings) (moves : List Move) :
    let r := moved settings moves
    let brought := broughtIn settings.maxHistory moves.reverse
    r.history.length ≤ settings.maxHistory ∧
      (∀ x ∈ r.counts, x.1 = normalForm x.2.query) ∧ (r.counts.map Prod.fst).Nodup ∧
      (∀ key, timesSearched key r.history ≤ max 1 (timesSearched key brought)) ∧
      ((brought.map fun p => normalForm p.query).Nodup → (r.history.map fun p => normalForm p.query).Nodup) := by
  have sound := moved_sound settings moves
  have kept := moved_settings settings moves
  have bounded := sound.bounded
  rw [kept] at bounded
  refine ⟨bounded, sound.filed.own, sound.filed.apart, sound.noneAdded, fun apart => ?_⟩
  refine apart_of_times_searched _ fun key => (sound.noneAdded key).trans ?_
  exact max_le (Nat.le_refl 1) (times_searched_of_apart _ apart key)

def doubledStore : Store :=
  [(historyName, "[\x7b\"query\":\"Torts\",\"timestamp\":\"1970-01-01T00:00:01Z\",\"resultCount\":2\x7d," ++
    "\x7b\"query\":\" torts\",\"timestamp\":\"1970-01-01T00:00:00Z\",\"resultCount\":1\x7d]")]

theorem doubled_when_loaded :
    ¬ ((moved {} [.load doubledStore]).history.map fun p => normalForm p.query).Nodup := by
  decide +kernel

end Ranker

end ArchiveSearch
