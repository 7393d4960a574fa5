import ArchiveSearch.Proofs.Suggest.History
import ArchiveSearch.Proofs.Suggest.Scores

/- The list of suggestions against all that is offered for an input. Of every text it shows the best, it shows the best
   texts, and it leaves out nothing while there is room. -/
namespace ArchiveSearch

set_option autoImplicit false

open Suggest (normalForm ranked)
open Arithmetic (binary64)

namespace Suggestion

theorem may_precede_iff (s t : Suggestion Binary64) :
    mayPrecede binary64 s t = true ↔ t.relevance.rank < s.relevance.rank ∨
      t.relevance.rank = s.relevance.rank ∧ s.kind.order ≤ t.kind.order := by
  rw [mayPrecede, Bool.and_eq_true, Bool.or_eq_true, Bool.not_eq_true', decide_eq_true_iff, ← Bool.not_eq_true,
    Score.le_iff, Score.le_iff]
  omega

theorem may_precede_refl (s : Suggestion Binary64) : mayPrecede binary64 s s = true :=
  (may_precede_iff s s).2 (.inr ⟨rfl, Nat.le_refl _⟩)

theorem may_precede_trans (s t u : Suggestion Binary64) (first : mayPrecede binary64 s t = true)
    (next : mayPrecede binary64 t u = true) : mayPrecede binary64 s u = true := by
  rw [may_precede_iff] at *
  omega

theorem may_precede_total (s t : Suggestion Binary64) :
    (mayPrecede binary64 s t || mayPrecede binary64 t s) = true := by
  rw [Bool.or_eq_true, may_precede_iff, may_precede_iff]
  omega

def Leads (s t : Suggestion Binary64) : Prop :=
  t.relevance.value < s.relevance.value ∨
    t.relevance.value = s.relevance.value ∧ s.kind.order ≤ t.kind.order

theorem may_precede_iff_leads (s t : Suggestion Binary64) (sign : s.relevance.isNegative = false)
    (sign' : t.relevance.isNegative = false) : mayPrecede binary64 s t = true ↔ s.Leads t := by
  have up := Binary64.rank_le_iff _ _ sign sign'
  have down := Binary64.rank_le_iff _ _ sign' sign
  rw [may_precede_iff, Leads, ← not_le, ← not_le, ← up, le_antisymm_iff, le_antisymm_iff, ← up, ← down]

theorem name_first (k l : SuggestionKind) (same : k.name.toList.head? = l.name.toList.head?) : k = l := by
  cases k <;> cases l <;> first | rfl | exact absurd same (by decide)

theorem lowered_of_id (s t : Suggestion Binary64) (same : s.id = t.id) : s.lowered = t.lowered := by
  have letters : s.kind.name.toList ++ ":".toList ++ s.lowered.toList =
      t.kind.name.toList ++ ":".toList ++ t.lowered.toList := by
    simpa only [id, String.toList_append] using congrArg String.toList same
  have some_ : ∀ k : SuggestionKind, k.name.toList ≠ [] := fun k => by cases k <;> decide
  have kinds : s.kind = t.kind := by
    have first := congrArg List.head? letters
    rw [List.append_assoc, List.append_assoc, List.head?_append_of_ne_nil _ (some_ _),
      List.head?_append_of_ne_nil _ (some_ _)] at first
    exact name_first _ _ first
  rw [kinds] at letters
  exact String.toList_inj.1 (List.append_cancel_left letters)

theorem ids_nodup (listed : List (Suggestion Binary64)) (texts : (listed.map lowered).Nodup) :
    (listed.map Suggestion.id).Nodup := by
  rw [List.Nodup, List.pairwise_map] at *
  exact texts.imp fun apart same => apart (lowered_of_id _ _ same)

section Distinct

variable {R : Type} (seen : List String) (cs : List (Suggestion R))

theorem distinct_sublist : (distinct seen cs).Sublist cs := by
  induction cs generalizing seen with
  | nil => exact List.Sublist.slnil
  | cons c cs ih =>
      rw [distinct]
      split
      · exact (ih seen).cons c
      · exact (ih (c.lowered :: seen)).cons_cons c

theorem distinct_fresh (s : Suggestion R) (kept : s ∈ distinct seen cs) : s.lowered ∉ seen := by
  induction cs generalizing seen with
  | nil => cases kept
  | cons c cs ih =>
      rw [distinct] at kept
      split at kept
      · exact ih seen kept
      · next fresh =>
        rcases List.mem_cons.1 kept with rfl | later
        · simpa using fresh
        · exact fun known => ih (c.lowered :: seen) later (List.mem_cons_of_mem _ known)

theorem distinct_nodup : ((distinct seen cs).map lowered).Nodup := by
  induction cs generalizing seen with
  | nil => exact List.nodup_nil
  | cons c cs ih =>
      rw [distinct]
      split
      · exact ih seen
      · rw [List.map_cons, List.nodup_cons]
        refine ⟨fun again => ?_, ih _⟩
        obtain ⟨s, later, same⟩ := List.mem_map.1 again
        exact distinct_fresh (c.lowered :: seen) cs s later (same ▸ List.mem_cons_self)

theorem distinct_best (before : Suggestion R → Suggestion R → Prop) (reflexive : ∀ s, before s s)
    (ordered : cs.Pairwise before) (t : Suggestion R) (mem : t ∈ cs) :
    t.lowered ∈ seen ∨ ∃ s ∈ distinct seen cs, s.lowered = t.lowered ∧ before s t := by
  induction cs generalizing seen with
  | nil => cases mem
  | cons c cs ih =>
      rw [List.pairwise_cons] at ordered
      rw [distinct]
      by_cases known : seen.contains c.lowered = true
      · rw [if_pos known]
        rcases List.mem_cons.1 mem with rfl | later
        · exact .inl (by simpa using known)
        · exact ih seen ordered.2 later
      · rw [if_neg known]
        have first : before c t := by
          rcases List.mem_cons.1 mem with rfl | later
          · exact reflexive t
          · exact ordered.1 t later
        by_cases same : c.lowered = t.lowered
        · exact .inr ⟨c, List.mem_cons_self, same, first⟩
        · have later : t ∈ cs := (List.mem_cons.1 mem).resolve_left fun here => same (here ▸ rfl)
          rcases ih (c.lowered :: seen) ordered.2 later with there | ⟨s, kept, found⟩
          · exact .inl ((List.mem_cons.1 there).resolve_left (Ne.symm same))
          · exact .inr ⟨s, List.mem_cons_of_mem c kept, found⟩

end Distinct

section Best

variable (most : Nat) (cs : List (Suggestion Binary64))

def leaders : List (Suggestion Binary64) :=
  distinct [] (cs.mergeSort (mayPrecede binary64))

theorem sorted_pairwise : (cs.mergeSort (mayPrecede binary64)).Pairwise fun s t => mayPrecede binary64 s t = true :=
  List.pairwise_mergeSort may_precede_trans may_precede_total cs

theorem leaders_pairwise : (leaders cs).Pairwise fun s t => mayPrecede binary64 s t = true :=
  (sorted_pairwise cs).sublist (distinct_sublist [] _)

theorem leaders_mem (s : Suggestion Binary64) (kept : s ∈ leaders cs) : s ∈ cs :=
  List.mem_mergeSort.1 ((distinct_sublist [] _).subset kept)

theorem leaders_cover (t : Suggestion Binary64) (mem : t ∈ cs) :
    ∃ s ∈ leaders cs, s.lowered = t.lowered ∧ mayPrecede binary64 s t = true :=
  (distinct_best [] _ (fun s t => mayPrecede binary64 s t = true) may_precede_refl (sorted_pairwise cs) t
    (List.mem_mergeSort.2 mem)).resolve_left List.not_mem_nil

theorem leaders_lead (s t : Suggestion Binary64) (kept : s ∈ leaders cs) (mem : t ∈ cs) (same : t.lowered = s.lowered) :
    mayPrecede binary64 s t = true := by
  obtain ⟨u, kept', same', first⟩ := leaders_cover cs t mem
  rwa [List.inj_on_of_nodup_map (distinct_nodup [] _) kept kept' (same.symm.trans same'.symm)]

theorem best_eq : best binary64 most cs = (leaders cs).take most :=
  rfl

theorem best_last (some_ : 1 ≤ most) (full : (best binary64 most cs).length = most) :
    ∃ last, (best binary64 most cs).getLast? = some last ∧ ∀ t ∈ cs,
      t.lowered ∉ (best binary64 most cs).map lowered → mayPrecede binary64 last t = true := by
  rw [best_eq] at *
  obtain ⟨last, at_⟩ : ∃ last, ((leaders cs).take most).getLast? = some last :=
    Option.isSome_iff_exists.1 (by rw [List.getLast?_isSome]; rintro none_; simp [none_] at full; omega)
  refine ⟨last, at_, fun t mem out => ?_⟩
  obtain ⟨u, kept, same, first⟩ := leaders_cover cs t mem
  have ordered := leaders_pairwise cs
  rw [← List.take_append_drop most (leaders cs)] at kept ordered
  have cut : u ∈ (leaders cs).drop most :=
    (List.mem_append.1 kept).resolve_left fun inside => out (same ▸ List.mem_map_of_mem inside)
  exact may_precede_trans last u t
    ((List.pairwise_append.1 ordered).2.2 last (List.mem_of_getLast? at_) u cut) first

theorem best_cover (room : (best binary64 most cs).length < most) (t : Suggestion Binary64) (mem : t ∈ cs) :
    t.lowered ∈ (best binary64 most cs).map lowered := by
  have all : best binary64 most cs = leaders cs := by
    rw [best_eq] at *
    exact List.take_of_length_le (by rw [List.length_take] at room; omega)
  obtain ⟨s, kept, same, -⟩ := leaders_cover cs t mem
  exact all ▸ same ▸ List.mem_map_of_mem kept

end Best

structure BestOf (most : Nat) (offered : Suggestion Binary64 → Prop) (listed : List (Suggestion Binary64)) : Prop where
  length : listed.length ≤ most
  ordered : listed.Pairwise Leads
  texts : (listed.map lowered).Nodup
  ids : (listed.map Suggestion.id).Nodup
  chosen : ∀ s ∈ listed, offered s ∧ ∀ t, offered t → t.lowered = s.lowered → s.Leads t
  covered : listed.length < most → ∀ t, offered t → t.lowered ∈ listed.map lowered
  cut : listed.length = most → ∃ last, listed.getLast? = some last ∧
    ∀ t, offered t → t.lowered ∉ listed.map lowered → last.Leads t

end Suggestion

namespace Ranker

-- What is offered for an input: past searches, queries that are counted often enough, templates and the vocabulary of
-- the category, each with its score after a look at its text.
inductive Offered (r : Ranker) (input : String) (contentType : Option ContentType) : Suggestion Binary64 → Prop where
  | recent (rank : Nat) (p : PastSearch) (found : (r.recentMatches (normalForm input))[rank]? = some p) :
      Offered r input contentType (adjust binary64 (normalForm input)
        (recentSuggestion p (Score.decayed binary64 Score.recentBase rank)))
  | popular (rank : Nat) (p : Popularity) (found : (r.popularMatches (normalForm input))[rank]? = some p) :
      Offered r input contentType (adjust binary64 (normalForm input)
        (popularSuggestion p (Score.decayed binary64 Score.popularBase rank)))
  | smart (text : String) (found : text ∈ Suggest.templates (Text.trim input)) :
      Offered r input contentType (adjust binary64 (normalForm input)
        { kind := .smart, text, relevance := binary64.number Score.templateBase })
  | category (c : ContentType) (chosen : contentType = some c) (rank : Nat) (term : String)
      (found : (c.vocabulary.filter fun term => Text.contains term (normalForm input))[rank]? = some term) :
      Offered r input contentType (adjust binary64 (normalForm input)
        { kind := .category, text := term, relevance := Score.decayed binary64 Score.vocabularyBase rank,
          category := some c })

theorem mem_ranked {R α : Type} {a : Arithmetic R} (base : Rat) (make : α → R → Suggestion R) (found : List α)
    (s : Suggestion R) :
    s ∈ ranked a base make found ↔ ∃ rank x, found[rank]? = some x ∧ make x (Score.decayed a base rank) = s := by
  rw [ranked, List.mem_map]
  constructor
  · rintro ⟨⟨x, rank⟩, mem, rfl⟩
    exact ⟨rank, x, List.mem_zipIdx_iff_getElem?.1 mem, rfl⟩
  · rintro ⟨rank, x, found, rfl⟩
    exact ⟨(x, rank), List.mem_zipIdx_iff_getElem?.2 found, rfl⟩

theorem mem_candidates {R : Type} {a : Arithmetic R} (r : Ranker) (input : String)
    (contentType : Option ContentType) (s : Suggestion R) :
    s ∈ r.candidates a input contentType ↔
      s ∈ ranked a Score.recentBase recentSuggestion (r.recentMatches (normalForm input)) ∨
      s ∈ ranked a Score.popularBase popularSuggestion (r.popularMatches (normalForm input)) ∨
      s ∈ Suggest.fromTemplates a (Text.trim input) ∨
      ∃ c, contentType = some c ∧ s ∈ Suggest.fromVocabulary a c (normalForm input) := by
  cases contentType with
  | none => simp [candidates]
  | some c => simp [candidates]

def offers (r : Ranker) (input : String) (contentType : Option ContentType) : List (Suggestion Binary64) :=
  (r.candidates binary64 input contentType).map (adjust binary64 (normalForm input))

theorem suggest_eq (r : Ranker) (input : String) (contentType : Option ContentType)
    (full : Text.isAllBlank input = false) :
    r.suggest input contentType = Suggestion.best binary64 r.settings.maxSuggestions (r.offers input contentType) := by
  rw [suggest, suggestIn]
  simp only [normal_form_is_empty, full, Bool.false_eq_true, if_false]
  rfl

theorem offered_iff (r : Ranker) (input : String) (contentType : Option ContentType) (s : Suggestion Binary64) :
    r.Offered input contentType s ↔ s ∈ r.offers input contentType := by
  rw [offers, List.mem_map]
  simp only [mem_candidates]
  constructor
  · rintro (⟨rank, p, found⟩ | ⟨rank, p, found⟩ | ⟨text, found⟩ | ⟨c, chosen, rank, term, found⟩)
    · exact ⟨_, .inl ((mem_ranked _ _ _ _).2 ⟨rank, p, found, rfl⟩), rfl⟩
    · exact ⟨_, .inr (.inl ((mem_ranked _ _ _ _).2 ⟨rank, p, found, rfl⟩)), rfl⟩
    · exact ⟨_, .inr (.inr (.inl (List.mem_map_of_mem found))), rfl⟩
    · exact ⟨_, .inr (.inr (.inr ⟨c, chosen, (mem_ranked _ _ _ _).2 ⟨rank, term, found, rfl⟩⟩)), rfl⟩
  · rintro ⟨s, recent | popular | smart | ⟨c, chosen, category⟩, rfl⟩
    · obtain ⟨rank, p, found, rfl⟩ := (mem_ranked _ _ _ _).1 recent
      exact .recent rank p found
    · obtain ⟨rank, p, found, rfl⟩ := (mem_ranked _ _ _ _).1 popular
      exact .popular rank p found
    · obtain ⟨text, found, rfl⟩ := List.mem_map.1 smart
      exact .smart text found
    · obtain ⟨rank, term, found, rfl⟩ := (mem_ranked _ _ _ _).1 category
      exact .category c chosen rank term found

theorem adjust_relevance (needle : String) (s : Suggestion Binary64) : (adjust binary64 needle s).relevance =
    Score.adjusted binary64 s.relevance s.lowered.toList needle.toList := by
  rw [adjust]

theorem adjust_below (needle : String) (s : Suggestion Binary64) (base : s.relevance.Within (15 / 16)) :
    (adjust binary64 needle s).relevance.Within (45 / 32) := by
  rw [adjust_relevance]
  exact Score.adjusted_below base _ _

theorem offered_below (r : Ranker) (input : String) (contentType : Option ContentType) (s : Suggestion Binary64)
    (offered : r.Offered input contentType s) :
    (∃ p, (r.recentMatches (normalForm input))[0]? = some p ∧ s = adjust binary64 (normalForm input)
      (recentSuggestion p (Score.decayed binary64 Score.recentBase 0))) ∨ s.relevance.Within (45 / 32) := by
  have bound : Binary64.Denoted (15 / 16) := Score.bounds_denoted (15 / 16) (by simp [Score.bounds])
  have based : ∀ base rank, 0 ≤ base → base ≤ 15 / 16 → (Score.decayed binary64 base rank).Within (15 / 16) :=
    fun base rank nonneg below => Score.decayed_base base (15 / 16) rank bound nonneg below
  cases offered with
  | recent rank p found =>
      cases rank with
      | zero => exact .inl ⟨p, found, rfl⟩
      | succ rank => exact .inr (adjust_below _ _ (Score.decayed_later rank))
  | popular rank p found =>
      have base := based Score.popularBase rank (by norm_num [Score.popularBase]) (by norm_num [Score.popularBase])
      exact .inr (adjust_below _ _ base)
  | smart text found =>
      have base : (binary64.number Score.templateBase).Within (15 / 16) :=
        Score.number_within bound (by norm_num [Score.templateBase]) (by norm_num [Score.templateBase])
      exact .inr (adjust_below _ _ base)
  | category c chosen rank term found =>
      have base :=
        based Score.vocabularyBase rank (by norm_num [Score.vocabularyBase]) (by norm_num [Score.vocabularyBase])
      exact .inr (adjust_below _ _ base)

theorem offered_within (r : Ranker) (input : String) (contentType : Option ContentType) (s : Suggestion Binary64)
    (offered : r.Offered input contentType s) : s.relevance.Within (3 / 2) := by
  rcases r.offered_below input contentType s offered with ⟨p, -, rfl⟩ | below
  · have base : (Score.decayed binary64 Score.recentBase 0).Within 1 :=
      Score.decayed_base Score.recentBase 1 0 Score.one_denoted (by norm_num [Score.recentBase])
        (by norm_num [Score.recentBase])
    rw [adjust_relevance]
    exact Score.adjusted_within base (le_refl _) (Score.bounds_denoted (3 / 2) (by simp [Score.bounds])) (by norm_num)
      (by norm_num) _ _
  · exact below.weaken (by norm_num)

theorem best_of_all_offered (r : Ranker) (input : String) (contentType : Option ContentType)
    (full : Text.isAllBlank input = false) (some_ : 1 ≤ r.settings.maxSuggestions) :
    Suggestion.BestOf r.settings.maxSuggestions (r.Offered input contentType) (r.suggest input contentType) := by
  -- No score is negative, so the order in which the program sorts is the order of what the scores denote.
  have leads : ∀ s ∈ r.offers input contentType, ∀ t ∈ r.offers input contentType,
      Suggestion.mayPrecede binary64 s t = true → s.Leads t := by
    intro s mem t mem'
    have within := r.offered_within input contentType s ((r.offered_iff input contentType s).2 mem)
    have within' := r.offered_within input contentType t ((r.offered_iff input contentType t).2 mem')
    exact (s.may_precede_iff_leads t within.sign within'.sign).1
  rw [suggest_eq r input contentType full, show r.Offered input contentType = (· ∈ r.offers input contentType) from
    funext fun s => propext (r.offered_iff input contentType s)]
  generalize r.offers input contentType = cs at leads ⊢
  generalize r.settings.maxSuggestions = most at some_ ⊢
  have part : (Suggestion.best binary64 most cs).Sublist (Suggestion.leaders cs) := List.take_sublist _ _
  have offered : ∀ s ∈ Suggestion.best binary64 most cs, s ∈ cs := fun s kept =>
    Suggestion.leaders_mem cs s (part.subset kept)
  have texts := (Suggestion.distinct_nodup [] _).sublist (part.map Suggestion.lowered)
  refine ⟨List.length_take_le _ _, ?ordered, texts, Suggestion.ids_nodup _ texts, ?chosen,
    Suggestion.best_cover most cs, ?cut⟩
  case ordered =>
    exact ((Suggestion.leaders_pairwise cs).sublist part).imp_of_mem fun mem mem' =>
      leads _ (offered _ mem) _ (offered _ mem')
  case chosen =>
    intro s kept
    refine ⟨offered s kept, fun t mem same => leads s (offered s kept) t mem ?_⟩
    exact Suggestion.leaders_lead cs s t (part.subset kept) mem same
  case cut =>
    intro full
    obtain ⟨last, at_, after⟩ := Suggestion.best_last most cs some_ full
    exact ⟨last, at_, fun t mem out => leads last (offered last (List.mem_of_getLast? at_)) t mem (after t mem out)⟩

def lawful : Ranker where
  settings := { maxSuggestions := 2 }
  history := [{ query := "Law", time := Instant.ofClock 0, resultCount := 4, filter := none }]
  counts := [("law", { query := "LAW", count := 3 })]

theorem best_of_law :
    Text.isAllBlank " law" = false ∧ 1 ≤ lawful.settings.maxSuggestions ∧
      Suggestion.BestOf 2 (lawful.Offered " law" (some .publications)) (lawful.suggest " law" (some .publications)) :=
  ⟨by decide, by decide, best_of_all_offered lawful " law" (some .publications) (by decide) (by decide)⟩

end Ranker

end ArchiveSearch
