import ArchiveSearch.Proofs.Number.Rounding
import ArchiveSearch.Proofs.Number.Whole

/- Numbers without a sign are ordered as the fractions they denote, and rounding goes past no number: what is not above
   a number is not rounded to one above it, and what is not below it to none below it. -/
namespace ArchiveSearch.Binary64

set_option autoImplicit false

theorem rank_eq (x : Binary64) (sign : x.isNegative = false) : x.rank = x.sizeBits := by
  rw [rank, sign, if_neg Bool.false_ne_true]

theorem rank_lt_zero (x : Binary64) (sign : x.isNegative = true) : x.rank < 0 := by
  rw [rank, if_pos sign]
  omega

theorem size_eq (x : Binary64) : (x.sizeRatio.1 : Rat) / x.sizeRatio.2 = x.interval.middle := by
  have middle : x.interval.middle = x.significand * 2 ^ x.exponent := by
    change ((4 * x.significand : Nat) : Rat) * 2 ^ (x.exponent - 2) = _
    rw [zpow_sub₀ (by norm_num)]
    push_cast
    ring
  rw [middle, sizeRatio]
  by_cases whole : 0 ≤ x.exponent
  · rw [if_pos whole]
    push_cast [twoTo, Nat.pow_eq]
    rw [div_one, ← zpow_natCast, Int.toNat_of_nonneg whole]
  · rw [if_neg whole]
    push_cast [twoTo, Nat.pow_eq]
    rw [div_eq_mul_inv, ← zpow_natCast, ← zpow_neg, Int.toNat_of_nonneg (by omega), neg_neg]

theorem value_signed (x : Binary64) :
    x.value = if x.isNegative = true then -x.interval.middle else x.interval.middle := by
  rw [← size_eq, value, Rat.mkRat_eq_div, Int.cast_natCast]

theorem value_eq (x : Binary64) (sign : x.isNegative = false) : x.value = x.interval.middle := by
  rw [value_signed, sign, if_neg Bool.false_ne_true]

theorem value_nonneg (x : Binary64) (sign : x.isNegative = false) : 0 ≤ x.value := by
  rw [x.value_eq sign, Interval.middle]
  positivity

theorem top_le_bottom (x y : Binary64) (less : x.sizeBits < y.sizeBits) : x.interval.top ≤ y.interval.bottom := by
  obtain ⟨size, next⟩ : ∃ size, y.sizeBits = size + 1 := ⟨y.sizeBits - 1, by omega⟩
  rw [x.top_eq, y.bottom_eq size next]
  rcases Nat.lt_or_eq_of_le (Nat.le_of_lt_succ (next ▸ less)) with before | same
  · exact (ceiling_lt _ _ before (by have := y.size_bits_lt; omega)).le
  · exact (congrArg ceiling same).le

theorem bottom_lt_middle (x y : Binary64) (less : x.sizeBits < y.sizeBits) : y.interval.bottom < y.interval.middle := by
  have nonzero : y.significand ≠ 0 := fun zero => by
    have := y.significand_eq_zero_iff.1 zero
    omega
  have unit : (0 : Rat) < 2 ^ y.interval.scale := by positivity
  linarith [y.bottom_add_unit_le nonzero]

theorem middle_lt_middle (x y : Binary64) (less : x.sizeBits < y.sizeBits) : x.interval.middle < y.interval.middle :=
  calc x.interval.middle < x.interval.top := x.middle_lt_top
    _ ≤ y.interval.bottom := top_le_bottom x y less
    _ < y.interval.middle := bottom_lt_middle x y less

theorem size_bits_le_iff (x y : Binary64) (left : x.isNegative = false) (right : y.isNegative = false) :
    x.sizeBits ≤ y.sizeBits ↔ x.value ≤ y.value := by
  rw [x.value_eq left, y.value_eq right]
  rcases Nat.lt_trichotomy x.sizeBits y.sizeBits with less | same | more
  · exact iff_of_true less.le (middle_lt_middle x y less).le
  · rw [eq_of_parts x y (left.trans right.symm) same]
    exact iff_of_true (le_refl _) (le_refl _)
  · exact iff_of_false (Nat.not_le.2 more) (not_le.2 (middle_lt_middle y x more))

theorem rank_le_iff (x y : Binary64) (left : x.isNegative = false) (right : y.isNegative = false) :
    x.rank ≤ y.rank ↔ x.value ≤ y.value := by
  rw [x.rank_eq left, y.rank_eq right, Int.ofNat_le, size_bits_le_iff x y left right]

theorem is_negative_of_ratio (negative : Bool) (num den : Nat) : (ofRatio negative num den).isNegative = negative := by
  unfold ofRatio
  split
  · exact is_negative_with_sign negative 0 (by decide)
  · simp only
    split
    · exact is_negative_with_sign negative _ (by unfold infiniteSize at *; omega)
    · exact is_negative_with_sign negative _ (by decide)

theorem is_negative_of_rat (q : Rat) : (ofRat q).isNegative = decide (q < 0) := by
  rw [ofRat, is_negative_of_ratio, decide_eq_decide, Rat.num_neg]

theorem of_rat_zero : ofRat 0 = withSign false 0 := by
  decide

theorem of_rat_scaled (q : Rat) (positive : 0 < q) :
    ∃ k m : Nat, Scaled q k m ∧ ofRat q =
      if k * leading + m < infiniteSize then withSign false (k * leading + m) else infinity false := by
  have sign : decide (q.num < 0) = false := decide_eq_false (not_lt.2 (Rat.num_pos.2 positive).le)
  have fraction : (q.num.natAbs : Rat) / q.den = q := by
    rw [← Int.cast_natCast, Int.natAbs_of_nonneg (Rat.num_pos.2 positive).le, Rat.num_div_den]
  obtain ⟨k, m, scaled, rounded⟩ := of_ratio_scaled false q.num.natAbs q.den
    (Int.natAbs_ne_zero.2 (Rat.num_pos.2 positive).ne') q.den_nz
  exact ⟨k, m, fraction ▸ scaled, by rw [ofRat, sign, rounded]⟩

theorem of_rat_size_bits_mono (q r : Rat) (nonneg : 0 ≤ q) (below : q ≤ r) : (ofRat q).sizeBits ≤ (ofRat r).sizeBits := by
  rcases below.eq_or_lt with rfl | less
  · exact le_refl _
  rcases nonneg.eq_or_lt with rfl | positive
  · rw [of_rat_zero, size_bits_with_sign false 0 (by decide)]
    exact Nat.zero_le _
  obtain ⟨k, m, scaled, rounded⟩ := of_rat_scaled q positive
  obtain ⟨k', m', scaled', rounded'⟩ := of_rat_scaled r (positive.trans less)
  rw [rounded, rounded']
  by_cases small : k' * leading + m' < infiniteSize
  · have size' := size_bits_with_sign false (k' * leading + m') (by unfold infiniteSize at small; omega)
    have top := (scaled'.admitted (nonneg.trans below) _ size').2.1
    have size := size_bits_with_sign false (k * leading + m)
      (scaled.bounded _ (with_sign_finite false _ small) (below.trans top))
    have bottom := (scaled.admitted nonneg _ size).1
    have kept : k * leading + m ≤ k' * leading + m' := by
      rw [← size, ← size']
      by_contra above
      linarith [top_le_bottom _ _ (not_le.1 above)]
    rw [if_pos small, if_pos (kept.trans_lt small), size, size']
    exact kept
  · rw [if_neg small, infinity, size_bits_with_sign false infiniteSize (by decide)]
    split
    · next inside => rw [size_bits_with_sign false _ (by unfold infiniteSize at inside; omega)]; exact inside.le
    · rw [size_bits_with_sign false infiniteSize (by decide)]

theorem is_negative_of_rat_nonneg (q : Rat) (nonneg : 0 ≤ q) : (ofRat q).isNegative = false := by
  rw [is_negative_of_rat, decide_eq_false (not_lt.2 nonneg)]

theorem of_rat_mono (q r : Rat) (nonneg : 0 ≤ q) (below : q ≤ r) : (ofRat q).value ≤ (ofRat r).value :=
  (size_bits_le_iff _ _ (is_negative_of_rat_nonneg q nonneg) (is_negative_of_rat_nonneg r (nonneg.trans below))).1
    (of_rat_size_bits_mono q r nonneg below)

theorem of_rat_nonneg (q : Rat) (nonneg : 0 ≤ q) : 0 ≤ (ofRat q).value :=
  value_nonneg _ (is_negative_of_rat_nonneg q nonneg)

theorem is_finite_of_size_bits_le (x y : Binary64) (finite : y.isFinite = true) (below : x.sizeBits ≤ y.sizeBits) :
    x.isFinite = true := by
  have field : x.exponentField < 2047 := Nat.div_lt_of_lt_mul (below.trans_lt (y.size_bits_lt_infinite finite))
  rw [isFinite, bne_iff_ne]
  exact field.ne

structure Within (x : Binary64) (most : Rat) : Prop where
  sign : x.isNegative = false
  finite : x.isFinite = true
  most : x.value ≤ most

theorem Within.weaken {x : Binary64} {most more : Rat} (within : x.Within most) (below : most ≤ more) : x.Within more :=
  ⟨within.sign, within.finite, within.most.trans below⟩

def Denoted (q : Rat) : Prop :=
  0 ≤ q ∧ (ofRat q).isFinite = true ∧ (ofRat q).value = q

instance (q : Rat) : Decidable (Denoted q) :=
  inferInstanceAs (Decidable (_ ∧ _ ∧ _))

theorem Denoted.within {most : Rat} (denoted : Denoted most) (q : Rat) (nonneg : 0 ≤ q) (below : q ≤ most) :
    (ofRat q).Within most where
  sign := is_negative_of_rat_nonneg q nonneg
  finite := is_finite_of_size_bits_le _ _ denoted.2.1 (of_rat_size_bits_mono q most nonneg below)
  most := (of_rat_mono q most nonneg below).trans_eq denoted.2.2

theorem Denoted.le_of_rat {least : Rat} (denoted : Denoted least) (q : Rat) (above : least ≤ q) :
    least ≤ (ofRat q).value :=
  denoted.2.2.symm.trans_le (of_rat_mono least q denoted.1 above)

end ArchiveSearch.Binary64
