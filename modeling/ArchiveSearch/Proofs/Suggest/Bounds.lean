import ArchiveSearch.Proofs.Suggest.Ranking
import ArchiveSearch.Proofs.Suggest.Tiers
import ArchiveSearch.Proofs.Suggest.Weights
import ArchiveSearch.Proofs.Text.Editing

/- How high and how low scores are. Bases are at most one and fall no further than to zero; likeness is a share of the
   longer text, so that what is offered for an input scores from nothing to three halves. -/
namespace ArchiveSearch

set_option autoImplicit false

open Arithmetic (exact)
open Suggest (normalForm)

namespace Score

def bases : List Rat :=
  [recentBase, popularBase, vocabularyBase, templateBase]

theorem bases_unit : ∀ base ∈ bases, 0 ≤ base ∧ base ≤ 1 := by
  decide +kernel

theorem exact_decayed_unit (base : Rat) (unit : base ≤ 1) (rank : Nat) :
    0 ≤ decayed exact base rank ∧ decayed exact base rank ≤ 1 := by
  have fallen : (0 : Rat) ≤ 1 / 10 * rank := mul_nonneg (by norm_num) (Nat.cast_nonneg rank)
  rw [exact_decayed]
  exact ⟨le_max_right _ _, max_le (by linarith) zero_le_one⟩

theorem exact_similarity (s t : List Char) (some_ : max s.length t.length ≠ 0) :
    similarity exact s t = 1 - (Text.editDistance s t : Rat) / (max s.length t.length : Nat) :=
  if_neg some_

theorem similarity_of_nothing (s t : List Char) (nothing : max s.length t.length = 0) :
    s = t ∧ similarity exact s t = 1 := by
  have none : s = [] := List.eq_nil_of_length_eq_zero (by omega)
  have none' : t = [] := List.eq_nil_of_length_eq_zero (by omega)
  exact ⟨none.trans none'.symm, if_pos nothing⟩

theorem similarity_nonneg (s t : List Char) : 0 ≤ similarity exact s t := by
  by_cases nothing : max s.length t.length = 0
  · rw [(similarity_of_nothing s t nothing).2]
    exact zero_le_one
  · have distance : (Text.editDistance s t : Rat) ≤ (max s.length t.length : Nat) := Nat.cast_le.2 (Text.edit_distance_le s t)
    rw [exact_similarity s t nothing]
    exact sub_nonneg.2 (div_le_one_of_le₀ distance (Nat.cast_nonneg _))

theorem similarity_comm {R : Type} (a : Arithmetic R) (s t : List Char) : similarity a s t = similarity a t s := by
  rw [similarity, similarity, Nat.max_comm, Text.edit_distance_comm]

theorem similarity_eq_one_iff (s t : List Char) : similarity exact s t = 1 ↔ s = t := by
  by_cases nothing : max s.length t.length = 0
  · obtain ⟨same, one⟩ := similarity_of_nothing s t nothing
    exact iff_of_true one same
  · have longer : ((max s.length t.length : Nat) : Rat) ≠ 0 := Nat.cast_ne_zero.2 nothing
    rw [exact_similarity s t nothing, sub_eq_self, div_eq_zero_iff, or_iff_left longer, Nat.cast_eq_zero,
      Text.edit_distance_eq_zero_iff]

theorem exact_adjusted_bounds (base : Rat) (nonneg : 0 ≤ base) (unit : base ≤ 1) (text needle : List Char) :
    0 ≤ adjusted exact base text needle ∧ adjusted exact base text needle ≤ 3 / 2 := by
  by_cases occurs : needle <:+: text
  · have least := inside_least base needle nonneg text occurs
    refine ⟨by linarith, ?_⟩
    by_cases starts : needle <+: text
    · have highest := start_le_equal base needle nonneg text starts
      rw [exact_equal] at highest
      linarith
    · rw [exact_inside base needle text occurs starts]
      linarith
  · have alike := similarity_le_one text needle
    have apart := similarity_nonneg text needle
    rw [exact_outside base needle text occurs]
    constructor <;> linarith

end Score

theorem Suggestion.best_mem {R : Type} (a : Arithmetic R) (most : Nat) (cs : List (Suggestion R)) (s : Suggestion R)
    (listed : s ∈ best a most cs) : s ∈ cs :=
  List.mem_mergeSort.1 ((distinct_sublist [] _).subset (List.mem_of_mem_take listed))

namespace Ranker

theorem candidates_unit (r : Ranker) (input : String) (contentType : Option ContentType) (s : Suggestion Rat)
    (found : s ∈ r.candidates exact input contentType) : 0 ≤ s.relevance ∧ s.relevance ≤ 1 := by
  have decayed : ∀ base ∈ Score.bases, ∀ rank,
      0 ≤ Score.decayed exact base rank ∧ Score.decayed exact base rank ≤ 1 := fun base mem rank =>
    Score.exact_decayed_unit base (Score.bases_unit base mem).2 rank
  rcases (mem_candidates r input contentType s).1 found with recent | popular | smart | ⟨c, -, category⟩
  · obtain ⟨rank, p, -, rfl⟩ := (mem_ranked _ _ _ _).1 recent
    exact decayed Score.recentBase (by simp [Score.bases]) rank
  · obtain ⟨rank, p, -, rfl⟩ := (mem_ranked _ _ _ _).1 popular
    exact decayed Score.popularBase (by simp [Score.bases]) rank
  · obtain ⟨text, -, rfl⟩ := List.mem_map.1 smart
    exact Score.bases_unit Score.templateBase (by simp [Score.bases])
  · obtain ⟨rank, term, -, rfl⟩ := (mem_ranked _ _ _ _).1 category
    exact decayed Score.vocabularyBase (by simp [Score.bases]) rank

theorem suggest_in_bounds (r : Ranker) (input : String) (contentType : Option ContentType)
    (full : Text.isAllBlank input = false) (s : Suggestion Rat) (listed : s ∈ r.suggestIn exact input contentType) :
    0 ≤ s.relevance ∧ s.relevance ≤ 3 / 2 := by
  rw [suggestIn] at listed
  simp only [normal_form_is_empty, full, Bool.false_eq_true, if_false] at listed
  obtain ⟨c, found, rfl⟩ := List.mem_map.1 (Suggestion.best_mem exact _ _ s listed)
  obtain ⟨nonneg, unit⟩ := r.candidates_unit input contentType c found
  exact Score.exact_adjusted_bounds c.relevance nonneg unit _ _

theorem suggest_within (r : Ranker) (input : String) (contentType : Option ContentType)
    (full : Text.isAllBlank input = false) (s : Suggestion Binary64) (listed : s ∈ r.suggest input contentType) :
    s.relevance.Within (3 / 2) := by
  rw [suggest_eq r input contentType full] at listed
  exact r.offered_within input contentType s ((r.offered_iff input contentType s).2 (Suggestion.best_mem _ _ _ s listed))

theorem relevance_bounded :
    (∀ (r : Ranker) (input : String) (contentType : Option ContentType), Text.isAllBlank input = false →
      (∀ s ∈ r.suggestIn exact input contentType, 0 ≤ s.relevance ∧ s.relevance ≤ 3 / 2) ∧
        ∀ s ∈ r.suggest input contentType, s.relevance.Within (3 / 2)) ∧
    (∀ base ∈ Score.bases, ∀ rank, 0 ≤ Score.decayed exact base rank ∧ Score.decayed exact base rank ≤ 1) ∧
    ∀ s t : List Char, IsLeast {count | Text.Edits count s t} (Text.editDistance s t) ∧
      0 ≤ Score.similarity exact s t ∧ Score.similarity exact s t ≤ 1 ∧
      Score.similarity exact s t = Score.similarity exact t s ∧ (Score.similarity exact s t = 1 ↔ s = t) := by
  refine ⟨fun r input contentType full =>
    ⟨r.suggest_in_bounds input contentType full, r.suggest_within input contentType full⟩,
    fun base mem rank => Score.exact_decayed_unit base (Score.bases_unit base mem).2 rank, fun s t => ?_⟩
  exact ⟨Text.edit_distance_is_least s t, Score.similarity_nonneg s t, Score.similarity_le_one s t,
    Score.similarity_comm exact s t, Score.similarity_eq_one_iff s t⟩

theorem lawful_relevance_bounded :
    Text.isAllBlank " law" = false ∧ Score.popularBase ∈ Score.bases ∧
      (∀ s ∈ lawful.suggestIn exact " law" (some .publications), 0 ≤ s.relevance ∧ s.relevance ≤ 3 / 2) ∧
      (∀ s ∈ lawful.suggest " law" (some .publications), s.relevance.Within (3 / 2)) ∧
      0 ≤ Score.decayed exact Score.popularBase 12 ∧ Score.decayed exact Score.popularBase 12 ≤ 1 := by
  have full : Text.isAllBlank " law" = false := by decide
  have used : Score.popularBase ∈ Score.bases := by simp [Score.bases]
  obtain ⟨scored, fallen, -⟩ := relevance_bounded
  exact ⟨full, used, (scored lawful " law" (some .publications) full).1,
    (scored lawful " law" (some .publications) full).2, fallen Score.popularBase used 12⟩

end Ranker

end ArchiveSearch
