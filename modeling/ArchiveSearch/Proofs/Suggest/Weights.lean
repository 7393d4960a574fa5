import Mathlib.Tactic.Tauto
import ArchiveSearch.Proofs.Suggest.Scores
import ArchiveSearch.Suggest.Suggestion

/- Scores of what is suggested before anything is typed. They fall with the rank in their source and rise with how often
   a text was used, and rounding changes nothing in that. -/
namespace ArchiveSearch

set_option autoImplicit false

open Arithmetic (exact binary64)
open Binary64 (ofRat)

def Score.earned {R : Type} (a : Arithmetic R) (base : Rat) (rank count : Nat) : R :=
  weighed a (decayed a base rank) count

theorem Score.recent_unit : 0 ≤ recentBase ∧ recentBase ≤ 1 := by
  norm_num [recentBase]

theorem Score.popular_unit : 0 ≤ popularBase ∧ popularBase ≤ 1 := by
  norm_num [popularBase]

structure Arithmetic.Orderly {R : Type} (a : Arithmetic R) : Prop where
  total : ∀ x y, a.le x y = true ∨ a.le y x = true
  trans : ∀ x y z, a.le x y = true → a.le y z = true → a.le x z = true
  earned : ∀ base, 0 ≤ base → base ≤ 1 → ∀ rank rank' count count', rank' ≤ rank → count ≤ count' →
    a.le (Score.earned a base rank count) (Score.earned a base rank' count') = true

theorem Suggestion.may_precede_eq_true_iff {R : Type} (a : Arithmetic R) (s t : Suggestion R) :
    s.mayPrecede a t = true ↔
      a.le t.relevance s.relevance = true ∧ (a.le s.relevance t.relevance = true → s.kind.order ≤ t.kind.order) := by
  rw [mayPrecede, Bool.and_eq_true, Bool.or_eq_true, Bool.not_eq_true', decide_eq_true_eq, ← Bool.not_eq_true,
    ← imp_iff_not_or]

namespace Arithmetic.Orderly

open Suggestion (may_precede_eq_true_iff)

variable {R : Type} {a : Arithmetic R} (orderly : a.Orderly)

include orderly

theorem may_precede_trans (s t u : Suggestion R) (first : s.mayPrecede a t = true) (next : t.mayPrecede a u = true) :
    s.mayPrecede a u = true := by
  rw [may_precede_eq_true_iff] at *
  refine ⟨orderly.trans _ _ _ next.1 first.1, fun level => ?_⟩
  exact (first.2 (orderly.trans _ _ _ level next.1)).trans (next.2 (orderly.trans _ _ _ first.1 level))

theorem may_precede_total (s t : Suggestion R) : (s.mayPrecede a t || t.mayPrecede a s) = true := by
  rw [Bool.or_eq_true, may_precede_eq_true_iff, may_precede_eq_true_iff]
  have compared := orderly.total s.relevance t.relevance
  have kinds := Nat.le_total s.kind.order t.kind.order
  tauto

end Arithmetic.Orderly

namespace Score

theorem exact_decayed (base : Rat) (rank : Nat) : decayed exact base rank = max (base - 1 / 10 * rank) 0 := by
  unfold decayed
  simp only [exact, rankDecay, decide_eq_true_eq]
  split
  · next low => exact (max_eq_right low).symm
  · next high => exact (max_eq_left (not_le.1 high).le).symm

theorem exact_weighed (base : Rat) (count : Nat) :
    weighed exact base count = base * (1 + 1 / 10 * ((count - 1 : Nat) : Rat)) :=
  rfl

theorem exact_orderly : exact.Orderly where
  total x y := by
    simp only [exact, decide_eq_true_eq]
    exact le_total x y
  trans x y z first next := by
    simp only [exact, decide_eq_true_eq] at *
    exact first.trans next
  earned base _ _ rank rank' count count' earlier more := by
    have ranks : (rank' : Rat) ≤ rank := Nat.cast_le.2 earlier
    have counts : ((count - 1 : Nat) : Rat) ≤ ((count' - 1 : Nat) : Rat) := Nat.cast_le.2 (Nat.sub_le_sub_right more 1)
    have start : (0 : Rat) ≤ ((count - 1 : Nat) : Rat) := Nat.cast_nonneg _
    rw [Score.earned, Score.earned, exact_weighed, exact_weighed, exact_decayed, exact_decayed]
    refine decide_eq_true (mul_le_mul (max_le_max ?_ (le_refl 0)) ?_ ?_ (le_max_right _ 0)) <;> linarith

theorem of_rat_le (q r : Rat) (nonneg : 0 ≤ q) (below : q ≤ r) : binary64.le (ofRat q) (ofRat r) = true := by
  rw [le_iff, Binary64.rank_le_iff _ _ (Binary64.is_negative_of_rat_nonneg q nonneg)
    (Binary64.is_negative_of_rat_nonneg r (nonneg.trans below))]
  exact Binary64.of_rat_mono q r nonneg below

theorem fall_mono (rank rank' : Nat) (earlier : rank' ≤ rank) : (fall rank').value ≤ (fall rank).value := by
  have decay : 0 ≤ (ofRat rankDecay).value := Binary64.of_rat_nonneg _ (by norm_num [rankDecay])
  have ranks : (ofRat rank').value ≤ (ofRat rank).value :=
    Binary64.of_rat_mono _ _ (Nat.cast_nonneg _) (Nat.cast_le.2 earlier)
  exact Binary64.of_rat_mono _ _ (mul_nonneg decay (Binary64.of_rat_nonneg _ (Nat.cast_nonneg _)))
    (mul_le_mul_of_nonneg_left ranks decay)

theorem rest_le (base : Rat) (rank rank' : Nat) (earlier : rank' ≤ rank)
    (left : ¬ binary64.le (binary64.sub (ofRat base) (fall rank)) (ofRat 0) = true) :
    binary64.le (binary64.sub (ofRat base) (fall rank)) (binary64.sub (ofRat base) (fall rank')) = true := by
  refine of_rat_le _ _ (not_lt.1 fun negative => left ?_) (sub_le_sub_left (fall_mono rank rank' earlier) _)
  have less := Binary64.rank_lt_zero _ ((Binary64.is_negative_of_rat _).trans (decide_eq_true negative))
  exact (le_iff _ _).2 (less.le.trans (by decide))

theorem binary64_total (x y : Binary64) : binary64.le x y = true ∨ binary64.le y x = true := by
  rw [le_iff, le_iff]
  exact Int.le_total _ _

theorem binary64_trans (x y z : Binary64) (first : binary64.le x y = true) (next : binary64.le y z = true) :
    binary64.le x z = true := by
  rw [le_iff] at *
  exact first.trans next

theorem decayed_falls (base : Rat) (rank rank' : Nat) (earlier : rank' ≤ rank) :
    binary64.le (decayed binary64 base rank) (decayed binary64 base rank') = true := by
  have falls := rest_le base rank rank' earlier
  unfold fall at falls
  unfold decayed
  simp only
  split
  · split
    · exact (le_iff _ _).2 (le_refl _)
    · next left => exact (binary64_total _ _).resolve_left left
  · next left =>
    split
    · next none => exact absurd (binary64_trans _ _ _ (falls left) none) left
    · exact falls left

def weight (count : Nat) : Binary64 :=
  binary64.add (binary64.number 1)
    (binary64.mul (binary64.number popularityWeight) (binary64.number ((count - 1 : Nat) : Rat)))

theorem number_nonneg (q : Rat) (nonneg : 0 ≤ q) : 0 ≤ (binary64.number q).value :=
  Binary64.of_rat_nonneg q nonneg

theorem weight_rises (count count' : Nat) (more : count ≤ count') :
    0 ≤ (weight count).value ∧ (weight count).value ≤ (weight count').value := by
  have each := number_nonneg popularityWeight (by norm_num [popularityWeight])
  have counts : (binary64.number ((count - 1 : Nat) : Rat)).value ≤ (binary64.number ((count' - 1 : Nat) : Rat)).value :=
    Binary64.of_rat_mono _ _ (Nat.cast_nonneg _) (Nat.cast_le.2 (Nat.sub_le_sub_right more 1))
  have product := mul_nonneg each (number_nonneg ((count - 1 : Nat) : Rat) (Nat.cast_nonneg _))
  have raised := Binary64.of_rat_mono _ _ product (mul_le_mul_of_nonneg_left counts each)
  have sum := add_nonneg (number_nonneg 1 zero_le_one) (Binary64.of_rat_nonneg _ product)
  exact ⟨Binary64.of_rat_nonneg _ sum, Binary64.of_rat_mono _ _ sum ((add_le_add_iff_left _).2 raised)⟩

theorem weighed_eq (base : Binary64) (count : Nat) :
    weighed binary64 base count = ofRat (base.value * (weight count).value) :=
  rfl

theorem binary64_orderly : binary64.Orderly where
  total := binary64_total
  trans := binary64_trans
  earned base nonneg unit rank rank' count count' earlier more := by
    have later := decayed_base base 1 rank one_denoted nonneg unit
    have sooner := decayed_base base 1 rank' one_denoted nonneg unit
    have bases := (Binary64.rank_le_iff _ _ later.sign sooner.sign).1
      ((le_iff _ _).1 (decayed_falls base rank rank' earlier))
    obtain ⟨least, weights⟩ := weight_rises count count' more
    have positive := Binary64.value_nonneg _ later.sign
    rw [Score.earned, Score.earned, weighed_eq, weighed_eq]
    exact of_rat_le _ _ (mul_nonneg positive least) (mul_le_mul bases weights least (positive.trans bases))

end Score

end ArchiveSearch
