import ArchiveSearch.Proofs.Number.Layout
import ArchiveSearch.Proofs.Number.Order

namespace ArchiveSearch.Binary64

set_option autoImplicit false

theorem middle_nonneg (x : Binary64) : 0 ≤ x.interval.middle := by
  unfold Interval.middle
  positivity

theorem middle_congr (x y : Binary64) (same : x.sizeBits = y.sizeBits) : x.interval.middle = y.interval.middle := by
  have field : x.exponentField = y.exponentField := by rw [exponentField, exponentField, same]
  have fraction : x.fractionField = y.fractionField := by rw [fractionField, fractionField, same]
  have significand : x.significand = y.significand := by rw [significand, significand, field, fraction]
  have exponent : x.exponent = y.exponent := by rw [exponent, exponent, field]
  change ((4 * x.significand : Nat) : Rat) * 2 ^ (x.exponent - 2) = _
  rw [significand, exponent]
  rfl

theorem middle_lt_iff (x y : Binary64) : x.interval.middle < y.interval.middle ↔ x.sizeBits < y.sizeBits := by
  rcases Nat.lt_trichotomy x.sizeBits y.sizeBits with less | same | more
  · exact iff_of_true (middle_lt_middle x y less) less
  · exact iff_of_false (middle_congr x y same).not_lt same.not_lt
  · exact iff_of_false (middle_lt_middle y x more).not_gt more.not_gt

theorem middle_zero_iff (x : Binary64) : x.interval.middle = 0 ↔ x.sizeBits = 0 := by
  have unit : (2 : Rat) ^ x.interval.scale ≠ 0 := by positivity
  rw [Interval.middle, mul_eq_zero, or_iff_left unit, Nat.cast_eq_zero, ← significand_eq_zero_iff]
  exact Nat.mul_eq_zero.trans (or_iff_right (by decide))

theorem value_lt_iff (x y : Binary64) : x.value < y.value ↔ x.signedSize < y.signedSize := by
  have sizes := middle_lt_iff x y
  have sizes' := middle_lt_iff y x
  have zero := x.middle_zero_iff
  have zero' := y.middle_zero_iff
  have nonneg := x.middle_nonneg
  have nonneg' := y.middle_nonneg
  rw [value_signed, value_signed, signedSize, signedSize]
  split <;> split
  · rw [neg_lt_neg_iff, sizes']
    omega
  · -- Between the signs only zero stays where it is.
    constructor
    · intro less
      by_contra stays
      rw [zero.2 (by omega), zero'.2 (by omega), neg_zero] at less
      exact lt_irrefl _ less
    · intro less
      by_contra stays
      have none := zero.1 (by linarith)
      have none' := zero'.1 (by linarith)
      omega
  · exact iff_of_false (by linarith) (by omega)
  · rw [sizes]
    omega

theorem lt_iff (x y : Binary64) (finite : x.isFinite = true) (finite' : y.isFinite = true) :
    x.lt y = true ↔ x.value < y.value := by
  rw [value_lt_iff, lt, x.is_nan_of_finite finite, y.is_nan_of_finite finite']
  simp

theorem size_ratio_pos (x : Binary64) : 0 < x.sizeRatio.2 := by
  unfold sizeRatio
  split
  · exact Nat.one_pos
  · exact Nat.two_pow_pos _

theorem is_integral_iff_dvd (x : Binary64) (finite : x.isFinite = true) :
    x.isIntegral = true ↔ x.sizeRatio.2 ∣ x.sizeRatio.1 := by
  rw [isIntegral, finite, Bool.true_and, beq_iff_eq, Nat.dvd_iff_mod_eq_zero]

theorem ratio_integer_iff (num den : Nat) (positive : 0 < den) :
    den ∣ num ↔ ∃ z : Int, (num : Rat) / den = z := by
  have nonzero : (den : Rat) ≠ 0 := Nat.cast_ne_zero.2 positive.ne'
  constructor
  · rintro ⟨k, rfl⟩
    refine ⟨k, ?_⟩
    push_cast
    rw [mul_div_cancel_left₀ _ nonzero]
  · rintro ⟨z, same⟩
    rw [div_eq_iff nonzero] at same
    exact Int.natCast_dvd_natCast.1 ⟨z, by exact_mod_cast same.trans (mul_comm _ _)⟩

theorem is_integral_iff (x : Binary64) (finite : x.isFinite = true) :
    x.isIntegral = true ↔ ∃ z : Int, x.value = z := by
  rw [is_integral_iff_dvd x finite, ratio_integer_iff _ _ x.size_ratio_pos, size_eq, value_signed]
  split
  · constructor
    · rintro ⟨z, same⟩
      exact ⟨-z, by rw [same, Int.cast_neg]⟩
    · rintro ⟨z, same⟩
      exact ⟨-z, by rw [Int.cast_neg, ← same, neg_neg]⟩
  · exact Iff.rfl

theorem to_int_value (x : Binary64) (integral : x.isIntegral = true) : (x.toInt : Rat) = x.value := by
  have finite : x.isFinite = true := (Bool.and_eq_true_iff.1 integral).1
  obtain ⟨k, whole⟩ := (x.is_integral_iff_dvd finite).1 integral
  have positive := x.size_ratio_pos
  have size : (x.sizeRatio.1 : Rat) / x.sizeRatio.2 = k := by
    rw [whole, Nat.cast_mul, mul_div_cancel_left₀ _ (Nat.cast_ne_zero.2 positive.ne')]
  have quotient : (x.sizeRatio.1 : Int) / x.sizeRatio.2 = k := by
    rw [whole, Nat.cast_mul, Int.mul_ediv_cancel_left _ (by omega)]
  rw [value_signed, ← size_eq, size]
  unfold toInt
  simp only [quotient]
  split
  · push_cast
    rfl
  · exact Int.cast_natCast k

end ArchiveSearch.Binary64
