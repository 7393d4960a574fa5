import Mathlib.Data.List.Forall2
import ArchiveSearch.Text.Case

/- Which characters have the case folding of a keyword's letters, digits and signs: the letter in its two cases
   and nothing else, so that a keyword is found in any case and in no other script. -/
namespace ArchiveSearch.Text

set_option autoImplicit false

theorem apply_runs_source (runs : List (Nat × Nat × Nat × Int)) (n image : Nat)
    (applied : applyRuns runs n = image) (positive : 0 < image) : n = image ∨ n ∈ sourcesOf runs image := by
  induction runs with
  | nil => exact .inl applied
  | cons run rest ih =>
      obtain ⟨first, last, step, shift⟩ := run
      rw [applyRuns] at applied
      split at applied
      · exact .inl applied
      · rename_i notBelow
        split at applied
        · rename_i inside
          rw [Int.ofNat_eq_natCast] at applied
          have source : (Int.ofNat image - shift).toNat = n := by
            rw [Int.ofNat_eq_natCast]
            omega
          simp only [Bool.and_eq_true, decide_eq_true_eq, beq_iff_eq] at inside
          rw [sourcesOf, source, if_pos (by simp [Nat.le_of_not_lt notBelow, inside.1, inside.2])]
          exact .inr List.mem_cons_self
        · rcases ih applied with same | member
          · exact .inl same
          · rw [sourcesOf]
            split
            · exact .inr (List.mem_cons_of_mem _ member)
            · exact .inr member

theorem fold_source (c image : Char) (folded : foldChar c = image) (positive : 0 < image.toNat) :
    c.toNat = image.toNat ∨ c.toNat ∈ sourcesOf foldRuns image.toNat := by
  apply apply_runs_source foldRuns c.toNat image.toNat _ positive
  rw [← folded, foldChar] at positive ⊢
  by_cases valid : (applyRuns foldRuns c.toNat).isValidChar
  · rw [Char.ofNat, dif_pos valid]
    rfl
  · rw [Char.ofNat, dif_neg valid] at positive
    exact absurd positive (Nat.lt_irrefl 0)

def keywordChars : List Char :=
  ['A', 'N', 'D', 'O', 'R', '0', '1', '=']

theorem fold_keyword (c d : Char) (known : d ∈ keywordChars) :
    foldChar c = foldChar d ↔ c = d ∨ c = d.toLower := by
  -- Walking through the list is left to `List.all`; the instance for a bounded quantifier over characters may
  -- walk through all of them.
  have image : (keywordChars.all fun d => decide (0 < (foldChar d).toNat ∧ foldChar d.toLower = foldChar d ∧
      ∀ n ∈ (foldChar d).toNat :: sourcesOf foldRuns (foldChar d).toNat,
        n = d.toNat ∨ n = d.toLower.toNat)) = true := by
    decide +kernel
  rw [List.all_eq_true] at image
  obtain ⟨positive, lowered, sources⟩ := of_decide_eq_true (image d known)
  constructor
  · intro folded
    rcases sources c.toNat (List.mem_cons.mpr (fold_source c _ folded positive)) with same | same
    · exact .inl (Char.toNat_inj.mp same)
    · exact .inr (Char.toNat_inj.mp same)
  · rintro (rfl | rfl)
    · rfl
    · exact lowered

structure Keyword where
  letters : List Char
  known : ∀ d ∈ letters, d ∈ keywordChars
  some_ : letters ≠ []

namespace Keyword

def and : Keyword :=
  { letters := ['A', 'N', 'D'], known := by simp [keywordChars], some_ := by simp }

def or : Keyword :=
  { letters := ['O', 'R'], known := by simp [keywordChars], some_ := by simp }

def oneIsOne : Keyword :=
  { letters := ['1', '=', '1'], known := by simp [keywordChars], some_ := by simp }

def zeroIsOne : Keyword :=
  { letters := ['0', '=', '1'], known := by simp [keywordChars], some_ := by simp }

end Keyword

def Spells (word : Keyword) (x : List Char) : Prop :=
  List.Forall₂ (fun c d => c = d ∨ c = d.toLower) x word.letters

theorem spelled_folding (letters x : List Char) (known : ∀ d ∈ letters, d ∈ keywordChars) :
    List.Forall₂ (fun c d => c = d ∨ c = d.toLower) x letters ↔ x.map foldChar = letters.map foldChar := by
  induction letters generalizing x with
  | nil => cases x <;> simp
  | cons d letters ih =>
      cases x with
      | nil => simp
      | cons c x =>
          have rest := ih x fun e member => known e (List.mem_cons_of_mem _ member)
          rw [List.forall₂_cons, List.map_cons, List.map_cons, List.cons.injEq,
            fold_keyword c d (known d List.mem_cons_self), ← rest]

theorem spells_iff (word : Keyword) (x : List Char) :
    Spells word x ↔ x.map foldChar = word.letters.map foldChar :=
  spelled_folding word.letters x word.known

theorem spelled_letters (letters x : List Char)
    (spelled : List.Forall₂ (fun c d => c = d ∨ c = d.toLower) x letters) :
    ∀ c ∈ x, ∃ d ∈ letters, c = d ∨ c = d.toLower := by
  induction spelled with
  | nil => simp
  | cons first _ ih =>
      intro c member
      rcases List.mem_cons.mp member with rfl | later
      · exact ⟨_, List.mem_cons_self, first⟩
      · obtain ⟨d, inside, same⟩ := ih c later
        exact ⟨d, List.mem_cons_of_mem _ inside, same⟩

theorem spells_all (p : Char → Bool) (both : (keywordChars.all fun d => p d && p d.toLower) = true)
    (word : Keyword) (x : List Char) (spelled : Spells word x) : ∀ c ∈ x, p c = true := by
  intro c member
  obtain ⟨d, inside, same⟩ := spelled_letters word.letters x spelled c member
  have holds := List.all_eq_true.mp both d (word.known d inside)
  rw [Bool.and_eq_true] at holds
  rcases same with rfl | rfl
  · exact holds.1
  · exact holds.2

theorem spells_ne_nil (word : Keyword) (x : List Char) (spelled : Spells word x) : x ≠ [] := by
  rintro rfl
  have none_ : word.letters = [] := by
    cases same : word.letters with
    | nil => rfl
    | cons d letters =>
        rw [Spells, same] at spelled
        cases spelled
  exact word.some_ none_

theorem spelled_caseless (letters x : List Char) (caseless : letters.map Char.toLower = letters)
    (spelled : List.Forall₂ (fun c d => c = d ∨ c = d.toLower) x letters) : x = letters := by
  induction spelled with
  | nil => rfl
  | cons first _ ih =>
      rw [List.map_cons, List.cons.injEq] at caseless
      rw [caseless.1, or_self] at first
      rw [first, ih caseless.2]

theorem spells_one (x : List Char) (spelled : Spells .oneIsOne x) : x = ['1', '=', '1'] :=
  spelled_caseless _ x (by decide) spelled

theorem spells_zero (x : List Char) (spelled : Spells .zeroIsOne x) : x = ['0', '=', '1'] :=
  spelled_caseless _ x (by decide) spelled

end ArchiveSearch.Text
