import ArchiveSearch.Proofs.Suggest.Persistence

/- The popularity table against the log of what was done to a ranker. A count stops at the largest number of 32 bits
   after every step, and yet it is what counting the whole log once and stopping there would give; the spelling is the one
   that was used last. The table is listed in the only order there is for it. -/
namespace ArchiveSearch

set_option autoImplicit false

open Suggest (normalForm)

theorem normal_form_eq_empty_iff (text : String) : normalForm text = "" ↔ Text.isAllBlank text = true := by
  rw [← normal_form_is_empty, String.isEmpty_iff]

namespace Popularity

def Above (p q : Popularity) : Prop :=
  q.count < p.count ∨ p.count = q.count ∧ p.query < q.query

theorem above_of_may_precede (p q : Popularity) (before : mayPrecede p q = true) (apart : p ≠ q) : p.Above q := by
  rcases (may_precede_iff p q).1 before with more | ⟨level, spelled⟩
  · exact .inl more
  · refine .inr ⟨level, lt_of_le_of_ne spelled fun same => apart ?_⟩
    cases p
    cases q
    simp only [mk.injEq] at *
    exact ⟨same, level⟩

theorem sorted_above (entries : List Popularity) (apart : entries.Nodup) : (sorted entries).Pairwise Above := by
  have different : (sorted entries).Nodup := (sorted_perm entries).nodup_iff.2 apart
  exact (sorted_pairwise entries).imp₂ above_of_may_precede different

end Popularity

namespace Use

def spelling? (key : String) : Use → Option String
  | .record x => if x.key = key then some (Text.trim x.query) else none
  | .select text => if normalForm text = key then some (Text.trim text) else none
  | .clear => none

def records (key : String) : Use → Bool
  | .record x => x.key == key
  | _ => false

def selects (key : String) : Use → Bool
  | .select text => normalForm text == key
  | _ => false

def timesUsed (boost : Nat) (log : List Use) (key : String) : Nat :=
  log.countP (records key) + boost * log.countP (selects key)

def tally (boost : Nat) (log : List Use) (key : String) : Option Popularity :=
  (log.filterMap (spelling? key)).getLast?.map fun spelling =>
    { query := spelling, count := min (timesUsed boost log key) 4294967295 }

def worth (boost : Nat) : Use → Nat
  | .record _ => 1
  | .select _ => boost
  | .clear => 0

theorem times_used_concat (boost : Nat) (log : List Use) (u : Use) (key : String) :
    timesUsed boost (log ++ [u]) key =
      timesUsed boost log key + if (u.spelling? key).isSome then u.worth boost else 0 := by
  unfold timesUsed
  rw [List.countP_append, List.countP_append, List.countP_singleton, List.countP_singleton, Nat.mul_add]
  cases u with
  | record x =>
      by_cases own : x.key = key
      · simp only [records, selects, spelling?, worth, own, beq_self_eq_true, if_true, Option.isSome_some,
          Bool.false_eq_true, if_false]
        omega
      · simp [records, selects, spelling?, own]
  | select text =>
      by_cases own : normalForm text = key
      · simp only [records, selects, spelling?, worth, own, beq_self_eq_true, if_true, Option.isSome_some,
          Bool.false_eq_true, if_false]
        omega
      · simp [records, selects, spelling?, own]
  | clear => simp [records, selects, spelling?]

theorem times_used_unspelled (boost : Nat) (log : List Use) (key : String)
    (unspelled : log.filterMap (spelling? key) = []) : timesUsed boost log key = 0 := by
  induction log using List.reverseRecOn with
  | nil => rfl
  | append_singleton log u ih =>
      rw [List.filterMap_append, List.append_eq_nil_iff, List.filterMap_cons] at unspelled
      obtain ⟨before, last⟩ := unspelled
      rw [times_used_concat, ih before]
      cases spelled : u.spelling? key with
      | none => rfl
      | some spelling => rw [spelled] at last; cases last

theorem tally_count (boost : Nat) (log : List Use) (key : String) :
    ((tally boost log key).map Popularity.count).getD 0 = min (timesUsed boost log key) 4294967295 := by
  unfold tally
  cases spelled : (log.filterMap (spelling? key)).getLast? with
  | none =>
      rw [List.getLast?_eq_none_iff] at spelled
      rw [times_used_unspelled boost log key spelled]
      rfl
  | some spelling => rfl

theorem tally_trimmed (boost : Nat) (log : List Use) (key : String) (p : Popularity)
    (tallied : tally boost log key = some p) : Text.trim p.query = p.query := by
  obtain ⟨spelling, last, rfl⟩ := Option.map_eq_some_iff.1 tallied
  obtain ⟨u, -, spelled⟩ := List.mem_filterMap.1 (List.mem_of_getLast? last)
  cases u with
  | record x =>
      rw [spelling?, Option.ite_none_right_eq_some] at spelled
      rw [← Option.some.inj spelled.2, Text.trim_again]
  | select text =>
      rw [spelling?, Option.ite_none_right_eq_some] at spelled
      rw [← Option.some.inj spelled.2, Text.trim_again]
  | clear => cases spelled

theorem tally_idle (boost : Nat) (log : List Use) (u : Use) (key : String) (idle : u.spelling? key = none) :
    tally boost (log ++ [u]) key = tally boost log key := by
  unfold tally
  rw [times_used_concat, List.filterMap_append, List.filterMap_cons, idle]
  simp

theorem tally_spelled (boost : Nat) (log : List Use) (u : Use) (key spelling : String)
    (spelled : u.spelling? key = some spelling) :
    tally boost (log ++ [u]) key =
      some { query := spelling, count := min (timesUsed boost log key + u.worth boost) 4294967295 } := by
  unfold tally
  rw [times_used_concat, List.filterMap_append, List.filterMap_cons, spelled]
  simp

end Use

namespace Ranker

def countOf (r : Ranker) (key : String) : Nat :=
  ((r.counts.lookup key).map Popularity.count).getD 0

theorem lookup_bump (key spelling : String) (times : Nat) (counts : List (String × Popularity)) (query : String) :
    (bump key spelling times counts).lookup query =
      if query = key then
        some { query := spelling, count := addCount (((counts.lookup key).map Popularity.count).getD 0) times }
      else counts.lookup query :=
  lookup_put_pair key _ counts query

theorem learn_full (r : Ranker) (text : String) (full : Text.isAllBlank text = false) :
    r.learn text =
      { r with counts := bump (normalForm text) (Text.trim text) r.settings.selectionBoost r.counts } := by
  rw [learn]
  simp only [normal_form_trim, normal_form_is_empty, full, Bool.false_eq_true, if_false]

theorem learn_blank (r : Ranker) (text : String) (blank : Text.isAllBlank text = true) : r.learn text = r := by
  rw [learn]
  simp only [normal_form_trim, normal_form_is_empty, blank, if_true]

-- What a use files under a key. Nothing else changes, and nothing is ever filed for a blank text.
theorem use_lookup (r : Ranker) (u : Use) (key : String) (named : key ≠ "") :
    (r.use u).counts.lookup key =
      match u.spelling? key with
      | some spelling =>
          some { query := spelling, count := addCount (r.countOf key) (u.worth r.settings.selectionBoost) }
      | none => r.counts.lookup key := by
  cases u with
  | clear => rfl
  | record x =>
      rw [Use.spelling?]
      cases blank : Text.isAllBlank x.query with
      | true =>
          have unnamed : x.key ≠ key := fun own => named (own ▸ (normal_form_eq_empty_iff x.query).2 blank)
          rw [record_blank r x blank, if_neg unnamed]
      | false =>
          rw [record_full r x blank]
          show (bump x.key x.entry.query 1 r.counts).lookup key = _
          rw [lookup_bump]
          by_cases own : x.key = key
          · rw [if_pos own.symm, if_pos own, own]
            rfl
          · rw [if_neg (Ne.symm own), if_neg own]
  | select text =>
      rw [Use.spelling?, use]
      cases blank : Text.isAllBlank text with
      | true =>
          have unnamed : normalForm text ≠ key := fun own => named (own ▸ (normal_form_eq_empty_iff text).2 blank)
          rw [learn_blank r text blank, if_neg unnamed]
      | false =>
          rw [learn_full r text blank, lookup_bump]
          by_cases own : normalForm text = key
          · rw [if_pos own.symm, if_pos own, own]
            rfl
          · rw [if_neg (Ne.symm own), if_neg own]

theorem use_unnamed (r : Ranker) (u : Use) (unnamed : r.counts.lookup "" = none) :
    (r.use u).counts.lookup "" = none := by
  cases u with
  | clear => exact unnamed
  | record x =>
      cases blank : Text.isAllBlank x.query with
      | true => rwa [record_blank r x blank]
      | false =>
          have named : x.key ≠ "" := fun own => by simp [(normal_form_eq_empty_iff x.query).1 own] at blank
          rw [record_full r x blank]
          show (bump x.key x.entry.query 1 r.counts).lookup "" = none
          rw [lookup_bump, if_neg named.symm, unnamed]
  | select text =>
      cases blank : Text.isAllBlank text with
      | true => rwa [use, learn_blank r text blank]
      | false =>
          have named : normalForm text ≠ "" := fun own => by simp [(normal_form_eq_empty_iff text).1 own] at blank
          rw [use, learn_full r text blank, lookup_bump, if_neg named.symm, unnamed]

theorem after_unnamed (settings : RankerSettings) (log : List Use) :
    (after settings log).counts.lookup "" = none := by
  induction log using List.reverseRecOn with
  | nil => rfl
  | append_singleton log u ih => rw [after_concat]; exact use_unnamed _ u ih

theorem after_filed (settings : RankerSettings) (log : List Use) : Filed (after settings log).counts := by
  induction log using List.reverseRecOn with
  | nil => exact filed_nil
  | append_singleton log u ih => rw [after_concat]; exact use_filed _ u ih

theorem after_lookup (settings : RankerSettings) (log : List Use) (key : String) (named : key ≠ "") :
    (after settings log).counts.lookup key = Use.tally settings.selectionBoost log key := by
  induction log using List.reverseRecOn with
  | nil => rfl
  | append_singleton log u ih =>
      have counted : (after settings log).countOf key =
          min (Use.timesUsed settings.selectionBoost log key) 4294967295 := by
        rw [countOf, ih, Use.tally_count]
      rw [after_concat, use_lookup _ u key named, after_settings]
      cases spelled : u.spelling? key with
      | none => rw [Use.tally_idle _ log u key spelled]; exact ih
      | some spelling =>
          rw [Use.tally_spelled _ log u key spelling spelled]
          simp only [counted, addCount, Bound.word32]
          congr 2
          omega

theorem after_counts_trimmed (settings : RankerSettings) (log : List Use) (x : String × Popularity)
    (mem : x ∈ (after settings log).counts) : Text.trim x.2.query = x.2.query := by
  have found := lookup_of_nodup _ x.1 x.2 (after_filed settings log).apart mem
  have named : x.1 ≠ "" := fun unnamed => by
    rw [unnamed, after_unnamed] at found
    cases found
  exact Use.tally_trimmed _ log x.1 x.2 ((after_lookup settings log x.1 named).symm.trans found)

theorem after_history_trimmed (settings : RankerSettings) (log : List Use) (p : PastSearch)
    (mem : p ∈ (after settings log).history) : Text.trim p.query = p.query := by
  rw [history_of_log] at mem
  obtain ⟨x, -, rfl⟩ := List.mem_map.1 mem
  exact Text.trim_again x.query

theorem entries_nodup (counts : List (String × Popularity)) (filed : Filed counts) : (counts.map (·.2)).Nodup := by
  refine List.Nodup.of_map (fun p => normalForm p.query) ?_
  have own := congrArg (List.map Prod.fst) (counts_own counts filed)
  rw [List.map_map] at own
  exact (congrArg List.Nodup own).mpr filed.apart

theorem popularity_above (r : Ranker) (filed : Filed r.counts) : r.popularity.Pairwise Popularity.Above :=
  Popularity.sorted_above _ (entries_nodup r.counts filed)

theorem popularity_of_log (settings : RankerSettings) (log : List Use) :
    let r := after settings log
    let tally := Use.tally settings.selectionBoost log
    (∀ key, key ≠ "" → r.counts.lookup key = tally key) ∧ r.counts.lookup "" = none ∧
      (r.counts.map Prod.fst).Nodup ∧ (after settings (log ++ [.clear])).counts = r.counts ∧
      (∀ p, p ∈ r.popularity ↔ ∃ key, key ≠ "" ∧ tally key = some p) ∧ r.popularity.Pairwise Popularity.Above := by
  have filed := after_filed settings log
  have unnamed := after_unnamed settings log
  have lookup := after_lookup settings log
  refine ⟨lookup, unnamed, filed.apart, by rw [after_concat]; rfl, fun p => ?_, popularity_above _ filed⟩
  rw [popularity, (Popularity.sorted_perm _).mem_iff, List.mem_map]
  constructor
  · rintro ⟨⟨key, p⟩, mem, rfl⟩
    have found := lookup_of_nodup _ key p filed.apart mem
    have named : key ≠ "" := by
      rintro rfl
      rw [unnamed] at found
      cases found
    exact ⟨key, named, (lookup key named).symm.trans found⟩
  · rintro ⟨key, named, tallied⟩
    exact ⟨(key, p), lookup_mem _ key p ((lookup key named).trans tallied), rfl⟩

end Ranker

end ArchiveSearch
