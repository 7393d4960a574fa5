import Mathlib.Data.List.Nodup
import ArchiveSearch.Proofs.Lists
import ArchiveSearch.Proofs.Text.Trimming
import ArchiveSearch.Suggest.Ranker

/- The history against the log of what was done to a ranker. It is cut after every search, and yet holds what the
   whole log would show if it were cut once: of the searches since it was last cleared the newest of every query, as
   many of them as may be kept. -/
namespace ArchiveSearch

set_option autoImplicit false

open Suggest (normalForm)

theorem normal_form_trim (text : String) : normalForm (Text.trim text) = normalForm text := by
  rw [normalForm, normalForm, Text.trim_again]

theorem normal_form_is_empty (text : String) : (normalForm text).isEmpty = Text.isAllBlank text :=
  Text.lower_trim_is_empty text

structure Recording where
  now : Nat
  query : String
  resultCount : Nat
  filter : Option Filter

namespace Recording

def key (x : Recording) : String :=
  normalForm x.query

def entry (x : Recording) : PastSearch :=
  { query := Text.trim x.query, time := Instant.ofClock x.now, resultCount := x.resultCount, filter := x.filter }

theorem entry_key (x : Recording) : normalForm x.entry.query = x.key :=
  normal_form_trim x.query

end Recording

inductive Use where
  | record (x : Recording)
  | select (text : String)
  | clear

namespace Use

def searches : List Use → List Recording
  | [] => []
  | .record x :: older => if Text.isAllBlank x.query then searches older else x :: searches older
  | .select _ :: older => searches older
  | .clear :: _ => []

def newest (seen : List String) : List Recording → List Recording
  | [] => []
  | x :: older => if x.key ∈ seen then newest seen older else x :: newest (x.key :: seen) older

def history (most : Nat) (log : List Use) : List PastSearch :=
  ((newest [] (searches log.reverse)).take most).map Recording.entry

theorem newest_seen (key : String) (seen : List String) (older : List Recording) :
    newest (key :: seen) older = (newest seen older).filter (·.key != key) := by
  induction older generalizing key seen with
  | nil => rfl
  | cons x older ih =>
      by_cases known : x.key ∈ seen
      · rw [newest, newest, if_pos known, if_pos (List.mem_cons_of_mem _ known), ih]
      · by_cases same : x.key = key
        · rw [newest, newest, if_neg known, if_pos (by simp [same]), same, List.filter_cons_of_neg (by simp [same]),
            ih, List.filter_filter]
          simp only [Bool.and_self]
        · have unseen : x.key ∉ key :: seen := by simp [same, known]
          rw [newest, newest, if_neg known, if_neg unseen, List.filter_cons_of_pos (by simp [same]),
            ih x.key (key :: seen), ih key seen, ih x.key seen, List.filter_filter, List.filter_filter]
          simp only [Bool.and_comm]

theorem newest_apart (seen : List String) (older : List Recording) :
    ((newest seen older).map Recording.key).Nodup := by
  induction older generalizing seen with
  | nil => exact List.nodup_nil
  | cons x older ih =>
      rw [newest]
      split
      · exact ih seen
      · rw [List.map_cons, List.nodup_cons]
        refine ⟨?_, ih _⟩
        rw [newest_seen, List.mem_map]
        rintro ⟨y, mem, same⟩
        simpa [same] using (List.mem_filter.1 mem).2

theorem history_clear (most : Nat) (log : List Use) : history most (log ++ [Use.clear]) = [] := by
  rw [history, List.reverse_append, List.reverse_singleton, List.singleton_append, searches, newest, List.take_nil,
    List.map_nil]

theorem history_select (most : Nat) (log : List Use) (text : String) :
    history most (log ++ [Use.select text]) = history most log := by
  rw [history, List.reverse_append, List.reverse_singleton, List.singleton_append, searches, history]

theorem history_blank (most : Nat) (log : List Use) (x : Recording) (blank : Text.isAllBlank x.query = true) :
    history most (log ++ [Use.record x]) = history most log := by
  rw [history, List.reverse_append, List.reverse_singleton, List.singleton_append, searches, if_pos blank, history]

theorem history_record (most : Nat) (log : List Use) (x : Recording) (full : Text.isAllBlank x.query = false) :
    history most (log ++ [Use.record x]) =
      (x.entry :: (history most log).filter (normalForm ·.query != x.key)).take most := by
  rw [history, List.reverse_append, List.reverse_singleton, List.singleton_append, searches, if_neg (by simp [full]),
    newest, if_neg List.not_mem_nil, newest_seen, history]
  have apart := newest_apart [] (searches log.reverse)
  generalize newest [] (searches log.reverse) = found at apart
  have filtered : ((found.take most).map Recording.entry).filter (normalForm ·.query != x.key) =
      ((found.take most).filter (·.key != x.key)).map Recording.entry := by
    rw [List.filter_map]
    refine congrArg (List.map Recording.entry) (List.filter_congr fun y _ => ?_)
    rw [Function.comp_apply, y.entry_key]
  rw [filtered]
  cases most with
  | zero => rfl
  | succ most =>
      rw [List.take_succ_cons, List.take_succ_cons, List.map_cons, ← List.map_take, take_filter_take _ _ _ apart]

end Use

namespace Ranker

def use (r : Ranker) : Use → Ranker
  | .record x => r.record x.now x.query x.resultCount x.filter
  | .select text => r.learn text
  | .clear => r.clear

def after (settings : RankerSettings) (log : List Use) : Ranker :=
  log.foldl use { settings }

theorem record_blank (r : Ranker) (x : Recording) (blank : Text.isAllBlank x.query = true) :
    r.use (.record x) = r := by
  rw [use, record]
  simp only [normal_form_trim, normal_form_is_empty, blank, if_true]

theorem record_full (r : Ranker) (x : Recording) (full : Text.isAllBlank x.query = false) :
    r.use (.record x) =
      { r with
        history := (x.entry :: r.history.filter (normalForm ·.query != x.key)).take r.settings.maxHistory
        counts := bump x.key x.entry.query 1 r.counts } := by
  rw [use, record]
  simp only [normal_form_trim, normal_form_is_empty, full, Bool.false_eq_true, if_false]
  rfl

theorem learn_history (r : Ranker) (text : String) : (r.learn text).history = r.history := by
  rw [learn]
  split <;> rfl

theorem use_settings (r : Ranker) (u : Use) : (r.use u).settings = r.settings := by
  cases u with
  | record x => rw [use, record]; split <;> rfl
  | select text => rw [use, learn]; split <;> rfl
  | clear => rfl

theorem after_concat (settings : RankerSettings) (log : List Use) (u : Use) :
    after settings (log ++ [u]) = (after settings log).use u := by
  rw [after, List.foldl_append]
  rfl

theorem after_settings (settings : RankerSettings) (log : List Use) : (after settings log).settings = settings := by
  induction log using List.reverseRecOn with
  | nil => rfl
  | append_singleton log u ih =>
      rw [after_concat]
      exact (use_settings _ u).trans ih

theorem history_of_log (settings : RankerSettings) (log : List Use) :
    (after settings log).history = Use.history settings.maxHistory log := by
  induction log using List.reverseRecOn with
  | nil => simp [after, Use.history, Use.searches, Use.newest]
  | append_singleton log u ih =>
      have last : after settings (log ++ [u]) = (after settings log).use u := by rw [after, List.foldl_append]; rfl
      rw [last]
      cases u with
      | clear => rw [Use.history_clear]; rfl
      | select text => rw [use, learn_history, ih, Use.history_select]
      | record x =>
          cases blank : Text.isAllBlank x.query with
          | true => rw [record_blank _ x blank, ih, Use.history_blank _ _ x blank]
          | false => rw [record_full _ x blank, Use.history_record _ _ x blank, ih, after_settings]

end Ranker

end ArchiveSearch
