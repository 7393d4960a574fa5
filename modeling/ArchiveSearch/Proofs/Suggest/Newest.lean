import ArchiveSearch.Proofs.Suggest.Ranking
import ArchiveSearch.Proofs.Text.Distances

/- What was just searched for is suggested first. It is the first of the past searches that match, and whatever else a
   ranker holds starts from a lower base, which no look at its text makes up for. -/
namespace ArchiveSearch

set_option autoImplicit false

open Suggest (normalForm)
open Arithmetic (binary64)

namespace Text

theorem contains_self (s : String) : contains s s = true :=
  (occurs_in_iff _ _).2 (List.infix_refl _)

end Text

theorem Suggestion.best_head (most : Nat) (cs : List (Suggestion Binary64)) (some_ : 1 ≤ most) (c : Suggestion Binary64)
    (mem : c ∈ cs) : ∃ first ∈ cs, (best binary64 most cs).head? = some first ∧ mayPrecede binary64 first c = true := by
  obtain ⟨s, kept, -, before⟩ := leaders_cover cs c mem
  have ordered := leaders_pairwise cs
  have offered := leaders_mem cs
  rw [best_eq]
  cases found : leaders cs with
  | nil => rw [found] at kept; cases kept
  | cons first rest =>
      rw [found] at kept ordered offered
      refine ⟨first, offered first List.mem_cons_self, by rw [List.head?_take, if_neg (by omega)]; rfl, ?_⟩
      rcases List.mem_cons.1 kept with rfl | later
      · exact before
      · exact may_precede_trans first s c ((List.pairwise_cons.1 ordered).1 s later) before

namespace Ranker

def newestSuggestion (x : Recording) : Suggestion Binary64 :=
  recentSuggestion x.entry (.ofRat (Score.recentBase * Score.equalBoost))

theorem recorded_matches (r : Ranker) (x : Recording) (full : Text.isAllBlank x.query = false)
    (kept : 1 ≤ r.settings.maxHistory) : ((r.use (.record x)).recentMatches x.key)[0]? = some x.entry := by
  obtain ⟨most, more⟩ : ∃ most, r.settings.maxHistory = most + 1 := ⟨r.settings.maxHistory - 1, by omega⟩
  rw [record_full r x full, recentMatches]
  simp only [more, List.take_succ_cons]
  rw [List.filter_cons_of_pos, List.getElem?_cons_zero]
  exact Bool.or_eq_true_iff.2 (.inl (Text.contains_self x.key))

theorem newest_adjusted (x : Recording) :
    adjust binary64 x.key (recentSuggestion x.entry (Score.decayed binary64 Score.recentBase 0)) =
      newestSuggestion x := by
  have typed : (recentSuggestion x.entry (Score.decayed binary64 Score.recentBase 0)).lowered = x.key := rfl
  rw [adjust, typed, newestSuggestion]
  exact congrArg (recentSuggestion x.entry) (Score.adjusted_newest x.key.toList)

theorem newest_offered (r : Ranker) (x : Recording) (full : Text.isAllBlank x.query = false)
    (kept : 1 ≤ r.settings.maxHistory) (input : String) (same : normalForm input = x.key)
    (contentType : Option ContentType) :
    (r.use (.record x)).Offered input contentType (newestSuggestion x) := by
  have offered : (r.use (.record x)).Offered input contentType (adjust binary64 (normalForm input)
      (recentSuggestion x.entry (Score.decayed binary64 Score.recentBase 0))) :=
    .recent 0 x.entry (same ▸ r.recorded_matches x full kept)
  rwa [same, newest_adjusted] at offered

theorem newest_only (r : Ranker) (x : Recording) (full : Text.isAllBlank x.query = false)
    (kept : 1 ≤ r.settings.maxHistory) (input : String) (same : normalForm input = x.key)
    (contentType : Option ContentType) (s : Suggestion Binary64)
    (offered : (r.use (.record x)).Offered input contentType s)
    (before : Suggestion.mayPrecede binary64 s (newestSuggestion x) = true) : s = newestSuggestion x := by
  rcases offered_below _ input contentType s offered with ⟨p, found, rfl⟩ | below
  · rw [same, r.recorded_matches x full kept, Option.some.injEq] at found
    rw [same, ← found, newest_adjusted]
  · have sign : (newestSuggestion x).relevance.isNegative = false :=
      Binary64.is_negative_of_rat_nonneg _ Score.newest_denoted.1
    have score : (newestSuggestion x).relevance.value = 3 / 2 :=
      Score.newest_denoted.2.2.trans (by norm_num [Score.recentBase, Score.equalBoost])
    have most := below.most
    rcases (s.may_precede_iff_leads (newestSuggestion x) below.sign sign).1 before with more | ⟨level, -⟩ <;> linarith

theorem recorded_comes_first (r : Ranker) (now : Nat) (query : String) (count : Nat) (filter : Option Filter)
    (full : Text.isAllBlank query = false) (kept : 1 ≤ r.settings.maxHistory) (some_ : 1 ≤ r.settings.maxSuggestions)
    (input : String) (same : normalForm input = normalForm query) (contentType : Option ContentType) :
    ∃ relevance : Binary64, relevance.value = Score.recentBase * Score.equalBoost ∧
      ((r.record now query count filter).suggest input contentType).head? =
        some { kind := .recent, text := Text.trim query, relevance, resultCount := some count } := by
  let x : Recording := { now, query, resultCount := count, filter }
  have typed : Text.isAllBlank input = false := by
    rw [← normal_form_is_empty, same, normal_form_is_empty, full]
  have settings : (r.use (.record x)).settings = r.settings := r.use_settings _
  have offered := (offered_iff _ _ _ _).1 (r.newest_offered x full kept input same contentType)
  obtain ⟨first, mem, head, before⟩ :=
    Suggestion.best_head r.settings.maxSuggestions _ some_ (newestSuggestion x) offered
  have only := r.newest_only x full kept input same contentType first ((offered_iff _ _ _ _).2 mem) before
  refine ⟨_, Score.newest_denoted.2.2, ?_⟩
  change ((r.use (.record x)).suggest input contentType).head? = some (newestSuggestion x)
  rw [suggest_eq _ input contentType typed, settings, head, only]

theorem recorded_comes_first_in_capitals :
    Text.isAllBlank " Tax Law" = false ∧ 1 ≤ lawful.settings.maxHistory ∧ 1 ≤ lawful.settings.maxSuggestions ∧
      normalForm "TAX LAW\t" = normalForm " Tax Law" ∧
      ∃ relevance : Binary64, relevance.value = Score.recentBase * Score.equalBoost ∧
        ((lawful.record 60000 " Tax Law" 7 none).suggest "TAX LAW\t" (some .alumni)).head? =
          some { kind := .recent, text := Text.trim " Tax Law", relevance, resultCount := some 7 } :=
  ⟨by decide, by decide, by decide, by decide +kernel,
    recorded_comes_first lawful 60000 " Tax Law" 7 none (by decide) (by decide) (by decide) "TAX LAW\t"
      (by decide +kernel) (some .alumni)⟩

end Ranker

end ArchiveSearch
