import ArchiveSearch.Proofs.Number.Order
import ArchiveSearch.Suggest.Score

namespace ArchiveSearch

set_option autoImplicit false

namespace Text

variable {α : Type}

-- A row of a text of so many characters: no distance in it is above the length of the longer text.
def RowBounded (count : Nat) : List α → List Nat → Prop
  | [], row => row.headD 0 ≤ count
  | _ :: ys, row => row.headD 0 ≤ max count (ys.length + 1) ∧ RowBounded count ys row.tail

theorem RowBounded.head {count : Nat} {ys : List α} {row : List Nat} (bounded : RowBounded count ys row) :
    row.headD 0 ≤ max count ys.length := by
  cases ys with
  | nil => exact bounded.trans (Nat.le_max_left _ _)
  | cons y ys => exact bounded.1

theorem first_row_bounded (ys : List α) : RowBounded 0 ys (firstRow ys) := by
  induction ys with
  | nil => exact Nat.le_refl 0
  | cons y ys ih => exact ⟨Nat.le_max_right _ _, ih⟩

variable [DecidableEq α]

theorem next_row_bounded (x : α) (count : Nat) (ys : List α) (row : List Nat) (bounded : RowBounded count ys row) :
    RowBounded (count + 1) ys (nextRow x ys row) := by
  induction ys generalizing row with
  | nil => exact Nat.succ_le_succ bounded
  | cons y ys ih =>
      refine ⟨?_, ih row.tail bounded.2⟩
      -- A character may always be replaced.
      have replaced := bounded.2.head
      rw [nextRow, List.headD_cons]
      split <;> omega

theorem distance_row_bounded (xs ys : List α) : RowBounded xs.length ys (distanceRow xs ys) := by
  induction xs with
  | nil => exact first_row_bounded ys
  | cons x xs ih => exact next_row_bounded x xs.length ys _ ih

theorem edit_distance_le (xs ys : List α) : editDistance xs ys ≤ max xs.length ys.length :=
  (distance_row_bounded xs ys).head

end Text

namespace Score

open Binary64 (ofRat Within Denoted)
open Arithmetic (binary64)

theorem le_iff (x y : Binary64) : binary64.le x y = true ↔ x.rank ≤ y.rank :=
  decide_eq_true_iff

theorem number_within {q most : Rat} (denoted : Denoted most) (nonneg : 0 ≤ q) (below : q ≤ most) :
    (binary64.number q).Within most :=
  denoted.within q nonneg below

theorem mul_within {x y : Binary64} {most more bound : Rat} (left : x.Within most) (right : y.Within more)
    (denoted : Denoted bound) (below : most * more ≤ bound) : (binary64.mul x y).Within bound := by
  have left_nonneg := Binary64.value_nonneg x left.sign
  have right_nonneg := Binary64.value_nonneg y right.sign
  refine denoted.within _ (mul_nonneg left_nonneg right_nonneg) (le_trans ?_ below)
  exact mul_le_mul left.most right.most right_nonneg (left_nonneg.trans left.most)

theorem add_within {x y : Binary64} {most more bound : Rat} (left : x.Within most) (right : y.Within more)
    (denoted : Denoted bound) (below : most + more ≤ bound) : (binary64.add x y).Within bound :=
  denoted.within _ (add_nonneg (Binary64.value_nonneg x left.sign) (Binary64.value_nonneg y right.sign))
    ((add_le_add left.most right.most).trans below)

theorem sub_within {x y : Binary64} {most : Rat} (denoted : Denoted most) (nonneg : y.value ≤ x.value)
    (below : x.value - y.value ≤ most) : (binary64.sub x y).Within most :=
  denoted.within _ (sub_nonneg.2 nonneg) below

def bounds : List Rat :=
  [1 / 16, 1 / 2, 15 / 16, 1, 45 / 32, 3 / 2]

theorem bounds_denoted : ∀ bound ∈ bounds, Denoted bound := by
  decide +kernel

theorem one_denoted : Denoted 1 :=
  bounds_denoted 1 (by simp [bounds])

theorem half_denoted : Denoted (1 / 2) :=
  bounds_denoted (1 / 2) (by simp [bounds])

theorem number_value (q : Rat) (denoted : Denoted q) : (binary64.number q).value = q :=
  denoted.2.2

theorem similarity_within (s t : List Char) : (similarity binary64 s t).Within 1 := by
  unfold similarity
  simp only
  split
  · exact number_within one_denoted (by norm_num) (le_refl _)
  · next some_ =>
    generalize counted : max s.length t.length = count at some_ ⊢
    have distance : (Text.editDistance s t : Rat) ≤ count := Nat.cast_le.2 (counted ▸ Text.edit_distance_le s t)
    have longer : 1 ≤ (ofRat count).value :=
      one_denoted.le_of_rat _ (by exact_mod_cast Nat.one_le_iff_ne_zero.2 some_)
    have share : (binary64.div (ofRat (Text.editDistance s t)) (ofRat count)).Within 1 := by
      refine one_denoted.within _ (div_nonneg ?_ (by linarith)) (div_le_one_of_le₀ ?_ (by linarith))
      · exact Binary64.of_rat_nonneg _ (Nat.cast_nonneg _)
      · exact Binary64.of_rat_mono _ _ (Nat.cast_nonneg _) distance
    have nonneg := Binary64.value_nonneg _ share.sign
    refine sub_within one_denoted ?_ ?_
    · exact share.most.trans_eq (number_value 1 one_denoted).symm
    · rw [number_value 1 one_denoted]
      exact sub_le_self 1 nonneg

def fall (rank : Nat) : Binary64 :=
  binary64.mul (binary64.number rankDecay) (binary64.number rank)

theorem decayed_within (base most : Rat) (rank : Nat) (denoted : Denoted most)
    (below : (ofRat base).value - (fall rank).value ≤ most) : (decayed binary64 base rank).Within most := by
  unfold decayed
  simp only
  split
  · exact number_within denoted (le_refl _) denoted.1
  · next above =>
    rw [le_iff] at above
    refine denoted.within _ (not_lt.1 fun negative => above ?_) below
    have less := Binary64.rank_lt_zero _ ((Binary64.is_negative_of_rat _).trans (decide_eq_true negative))
    exact less.le.trans (by decide)

theorem fall_nonneg (rank : Nat) : 0 ≤ (fall rank).value := by
  refine Binary64.of_rat_nonneg _ (mul_nonneg ?_ ?_)
  · exact Binary64.of_rat_nonneg _ (by norm_num [rankDecay])
  · exact Binary64.of_rat_nonneg _ (Nat.cast_nonneg _)

theorem fall_least (rank : Nat) : 1 / 16 ≤ (fall (rank + 1)).value := by
  have sixteenth : Denoted (1 / 16) := bounds_denoted (1 / 16) (by simp [bounds])
  refine sixteenth.le_of_rat _ ?_
  have decay : 1 / 16 ≤ (ofRat rankDecay).value := sixteenth.le_of_rat _ (by norm_num [rankDecay])
  have ranked : 1 ≤ (ofRat ((rank + 1 : Nat) : Rat)).value :=
    one_denoted.le_of_rat _ (by exact_mod_cast Nat.le_add_left 1 rank)
  calc (1 : Rat) / 16 = 1 / 16 * 1 := (mul_one _).symm
    _ ≤ (ofRat rankDecay).value * (ofRat ((rank + 1 : Nat) : Rat)).value :=
      mul_le_mul decay ranked (by norm_num) (by linarith)

theorem decayed_base (base most : Rat) (rank : Nat) (denoted : Denoted most) (nonneg : 0 ≤ base)
    (below : base ≤ most) : (decayed binary64 base rank).Within most := by
  refine decayed_within base most rank denoted ?_
  linarith [(denoted.within base nonneg below).most, fall_nonneg rank]

theorem decayed_later (rank : Nat) : (decayed binary64 recentBase (rank + 1)).Within (15 / 16) := by
  refine decayed_within recentBase (15 / 16) (rank + 1) (bounds_denoted (15 / 16) (by simp [bounds])) ?_
  rw [recentBase, one_denoted.2.2]
  linarith [fall_least rank]

theorem half_within {x : Binary64} (within : x.Within 1) :
    (binary64.mul (binary64.number (1 / 2)) x).Within (1 / 2) :=
  mul_within (number_within half_denoted (by norm_num) (le_refl _)) within half_denoted (by norm_num)

theorem adjusted_within {base : Binary64} {most bound : Rat} (within : base.Within most) (unit : most ≤ 1)
    (denoted : Denoted bound) (raised : most * (3 / 2) ≤ bound) (least : 1 ≤ bound) (text needle : List Char) :
    (adjusted binary64 base text needle).Within bound := by
  have boosted : ∀ boost, 0 ≤ boost → boost ≤ 3 / 2 → (binary64.mul base (binary64.number boost)).Within bound :=
    fun boost nonneg below =>
      mul_within within (number_within (bounds_denoted (3 / 2) (by simp [bounds])) nonneg below) denoted raised
  unfold adjusted
  split
  · exact boosted equalBoost (by norm_num [equalBoost]) (by norm_num [equalBoost])
  · split
    · exact boosted startBoost (by norm_num [startBoost]) (by norm_num [startBoost])
    · split
      · exact boosted insideBoost (by norm_num [insideBoost]) (by norm_num [insideBoost])
      · exact add_within (half_within (within.weaken unit)) (half_within (similarity_within text needle)) denoted
          (by linarith)

theorem adjusted_below {base : Binary64} (within : base.Within (15 / 16)) (text needle : List Char) :
    (adjusted binary64 base text needle).Within (45 / 32) :=
  adjusted_within within (by norm_num) (bounds_denoted (45 / 32) (by simp [bounds])) (by norm_num) (by norm_num)
    text needle

theorem adjusted_newest (text : List Char) :
    adjusted binary64 (decayed binary64 recentBase 0) text text = ofRat (recentBase * equalBoost) := by
  rw [adjusted, if_pos rfl]
  decide +kernel

theorem newest_denoted : Denoted (recentBase * equalBoost) := by
  rw [show recentBase * equalBoost = 3 / 2 by norm_num [recentBase, equalBoost]]
  exact bounds_denoted (3 / 2) (by simp [bounds])

end Score

end ArchiveSearch
