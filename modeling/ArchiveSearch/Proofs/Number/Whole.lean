import ArchiveSearch.Proofs.Number.Shortest

namespace ArchiveSearch.Binary64

set_option autoImplicit false

theorem with_sign_finite (negative : Bool) (size : Nat) (small : size < infiniteSize) :
    (withSign negative size).isFinite = true := by
  unfold infiniteSize at small
  have bits : (withSign negative size).sizeBits = size := size_bits_with_sign negative size (by omega)
  rw [isFinite, exponentField, leading, bits, bne_iff_ne]
  omega

theorem round_quotient_le (num den : Nat) : roundQuotient num den ≤ num / den + 1 := by
  unfold roundQuotient
  simp only
  repeat' split
  all_goals omega

theorem scale_of_bounds (n : Nat) : (n.log2 : Int) - 53 ≤ scaleOf n 1 ∧ scaleOf n 1 ≤ n.log2 - 52 := by
  have one : Nat.log2 1 = 0 := by decide
  unfold scaleOf
  simp only [one]
  split <;> omega

theorem scaled_lt (n : Nat) (scale : Int) (fine : (n.log2 : Int) - 53 ≤ scale) :
    (shiftRatio n 1 scale).1 / (shiftRatio n 1 scale).2 < 2 ^ 54 := by
  have top : n < 2 ^ (n.log2 + 1) := Nat.lt_log2_self
  unfold shiftRatio
  by_cases whole : 0 ≤ scale
  · rw [if_pos whole, Nat.one_mul]
    refine Nat.div_lt_of_lt_mul (Nat.lt_of_lt_of_le top ?_)
    rw [twoTo, Nat.pow_eq, ← Nat.pow_add]
    exact Nat.pow_le_pow_right (by decide) (by omega)
  · rw [if_neg whole, Nat.div_one]
    calc n * twoTo (-scale).toNat < 2 ^ (n.log2 + 1) * twoTo (-scale).toNat :=
          Nat.mul_lt_mul_of_pos_right top (Nat.two_pow_pos _)
      _ = 2 ^ (n.log2 + 1 + (-scale).toNat) := (Nat.pow_add 2 _ _).symm
      _ ≤ 2 ^ 54 := Nat.pow_le_pow_right (by decide) (by omega)

theorem of_ratio_finite (negative : Bool) (n : Nat) (small : n.log2 < 100) :
    (ofRatio negative n 1).isFinite = true := by
  unfold ofRatio
  split
  · exact with_sign_finite negative 0 (by decide)
  · obtain ⟨fine, coarse⟩ := scale_of_bounds n
    have scaled := scaled_lt n (scaleOf n 1) fine
    have rounded := round_quotient_le (shiftRatio n 1 (scaleOf n 1)).1 (shiftRatio n 1 (scaleOf n 1)).2
    have bounded : (scaleOf n 1 + 1074).toNat * leading +
        roundQuotient (shiftRatio n 1 (scaleOf n 1)).1 (shiftRatio n 1 (scaleOf n 1)).2 < infiniteSize := by
      unfold leading infiniteSize
      omega
    simp only [if_pos bounded]
    exact with_sign_finite negative _ bounded

theorem of_int_finite (n : Int) (small : n.natAbs < 2 ^ 100) : (ofInt n).isFinite = true := by
  refine of_ratio_finite _ _ ?_
  by_cases none : n.natAbs = 0
  · rw [none]
    decide
  · exact (Nat.log2_lt none).2 small

end ArchiveSearch.Binary64
