import ArchiveSearch.Proofs.Number.Shortest

/- Rounding finds the number whose interval holds a fraction. A quotient is rounded within half a unit of its scale, the
   scale leaves it as many bits as a significand has, and the unit decides where the interval of the size begins and
   ends. -/
namespace ArchiveSearch.Binary64

set_option autoImplicit false

structure Nearest (w : Rat) (m : Nat) : Prop where
  low : (m : Rat) - 1 / 2 ≤ w
  high : w ≤ m + 1 / 2
  even : m % 2 = 1 → w ≠ m - 1 / 2 ∧ w ≠ m + 1 / 2

theorem Nearest.le_of_lt {w : Rat} {m bound : Nat} (nearest : Nearest w m) (less : w < bound) : m ≤ bound := by
  have : (m : Rat) < ((bound + 1 : Nat) : Rat) := by push_cast; linarith [nearest.low]
  exact Nat.lt_succ_iff.1 (Nat.cast_lt.1 this)

theorem Nearest.ge_of_ge {w : Rat} {m bound : Nat} (nearest : Nearest w m) (most : bound ≤ w) : bound ≤ m := by
  have : (bound : Rat) < ((m + 1 : Nat) : Rat) := by push_cast; linarith [nearest.high]
  exact Nat.lt_succ_iff.1 (Nat.cast_lt.1 this)

theorem nearest_of_bounds (num den m : Nat) (positive : 0 < den) (low : 2 * (m * den) ≤ 2 * num + den)
    (high : 2 * num ≤ 2 * (m * den) + den)
    (even : m % 2 = 1 → 2 * (m * den) ≠ 2 * num + den ∧ 2 * num ≠ 2 * (m * den) + den) :
    Nearest ((num : Rat) / den) m := by
  have nonzero : (0 : Rat) < den := Nat.cast_pos.2 positive
  have below : ((2 * (m * den) : Nat) : Rat) ≤ (2 * num + den : Nat) := Nat.cast_le.2 low
  have above : ((2 * num : Nat) : Rat) ≤ (2 * (m * den) + den : Nat) := Nat.cast_le.2 high
  push_cast at below above
  refine ⟨?_, ?_, fun odd => ⟨fun same => (even odd).1 ?_, fun same => (even odd).2 ?_⟩⟩
  · rw [le_div_iff₀ nonzero]
    linarith
  · rw [div_le_iff₀ nonzero]
    linarith
  · rw [div_eq_iff nonzero.ne'] at same
    have cleared : (2 * (m * den) : Rat) = 2 * num + den := by linarith
    exact_mod_cast cleared
  · rw [div_eq_iff nonzero.ne'] at same
    have cleared : (2 * num : Rat) = 2 * (m * den) + den := by linarith
    exact_mod_cast cleared

theorem round_quotient_nearest (num den : Nat) (positive : 0 < den) :
    Nearest ((num : Rat) / den) (roundQuotient num den) := by
  have split := Nat.div_add_mod num den
  have small := Nat.mod_lt num positive
  have up : (num / den + 1) * den = den * (num / den) + den := by ring
  have same : num / den * den = den * (num / den) := Nat.mul_comm _ _
  unfold roundQuotient
  simp only [beq_iff_eq]
  by_cases less : 2 * (num % den) < den
  · rw [if_pos less]
    exact nearest_of_bounds num den _ positive (by omega) (by omega) (by omega)
  · rw [if_neg less]
    by_cases more : den < 2 * (num % den)
    · rw [if_pos more]
      exact nearest_of_bounds num den _ positive (by omega) (by omega) (by omega)
    · rw [if_neg more]
      by_cases even : num / den % 2 = 0
      · rw [if_pos even]
        exact nearest_of_bounds num den _ positive (by omega) (by omega) (by omega)
      · rw [if_neg even]
        exact nearest_of_bounds num den _ positive (by omega) (by omega) (by omega)

theorem shift_ratio_pos (num den : Nat) (shift : Int) (positive : 0 < den) : 0 < (shiftRatio num den shift).2 := by
  unfold shiftRatio
  split
  · exact Nat.mul_pos positive (Nat.two_pow_pos _)
  · exact positive

theorem shift_ratio_value (num den : Nat) (shift : Int) :
    ((shiftRatio num den shift).1 : Rat) / (shiftRatio num den shift).2 = num / den / 2 ^ shift := by
  unfold shiftRatio
  by_cases up : 0 ≤ shift
  · obtain ⟨n, rfl⟩ := Int.eq_ofNat_of_zero_le up
    rw [if_pos up]
    push_cast [twoTo, Nat.pow_eq, Int.toNat_natCast, zpow_natCast]
    rw [div_div]
  · obtain ⟨n, down⟩ := Int.eq_ofNat_of_zero_le (show 0 ≤ -shift by omega)
    rw [if_neg up, show shift = -(n : Int) by omega]
    push_cast [twoTo, Nat.pow_eq, neg_neg, Int.toNat_natCast, zpow_neg, zpow_natCast]
    rw [div_inv_eq_mul]
    ring

theorem log2_bounds (n : Nat) (nonzero : n ≠ 0) :
    (2 : Rat) ^ (n.log2 : Int) ≤ n ∧ (n : Rat) < 2 ^ ((n.log2 : Int) + 1) := by
  have low : ((2 ^ n.log2 : Nat) : Rat) ≤ n := Nat.cast_le.2 (Nat.log2_self_le nonzero)
  have high : (n : Rat) < (2 ^ (n.log2 + 1) : Nat) := Nat.cast_lt.2 Nat.lt_log2_self
  push_cast at low high
  refine ⟨by rwa [zpow_natCast], ?_⟩
  rwa [show (n.log2 : Int) + 1 = ((n.log2 + 1 : Nat) : Int) by push_cast; ring, zpow_natCast]

theorem guessed_bounds (num den : Nat) (some_ : num ≠ 0) (positive : den ≠ 0) :
    (2 : Rat) ^ (51 : Int) < num / den / 2 ^ ((num.log2 : Int) - den.log2 - 52) ∧
      (num : Rat) / den / 2 ^ ((num.log2 : Int) - den.log2 - 52) < 2 ^ (53 : Int) := by
  obtain ⟨low, high⟩ := log2_bounds num some_
  obtain ⟨low', high'⟩ := log2_bounds den positive
  have nonzero : (0 : Rat) < den := Nat.cast_pos.2 (Nat.pos_of_ne_zero positive)
  have unit : (0 : Rat) < 2 ^ ((num.log2 : Int) - den.log2 - 52) := by positivity
  rw [lt_div_iff₀ unit, div_lt_iff₀ unit, lt_div_iff₀ nonzero, div_lt_iff₀ nonzero]
  constructor
  · calc (2 : Rat) ^ (51 : Int) * 2 ^ ((num.log2 : Int) - den.log2 - 52) * den
        < 2 ^ (51 : Int) * 2 ^ ((num.log2 : Int) - den.log2 - 52) * 2 ^ ((den.log2 : Int) + 1) := by gcongr
      _ = 2 ^ (num.log2 : Int) := by
        rw [← zpow_add₀ (by norm_num), ← zpow_add₀ (by norm_num)]
        congr 1
        ring
      _ ≤ num := low
  · calc (num : Rat) < 2 ^ ((num.log2 : Int) + 1) := high
      _ = 2 ^ (53 : Int) * 2 ^ ((num.log2 : Int) - den.log2 - 52) * 2 ^ (den.log2 : Int) := by
        rw [← zpow_add₀ (by norm_num), ← zpow_add₀ (by norm_num)]
        congr 1
        ring
      _ ≤ 2 ^ (53 : Int) * 2 ^ ((num.log2 : Int) - den.log2 - 52) * den := by gcongr

theorem quotient_lt_iff (num den bound : Nat) (positive : 0 < den) :
    num / den < bound ↔ (num : Rat) / den < bound := by
  rw [Nat.div_lt_iff_lt_mul positive, div_lt_iff₀ (Nat.cast_pos.2 positive), ← Nat.cast_mul, Nat.cast_lt]

theorem scale_of_exact (num den : Nat) (some_ : num ≠ 0) (positive : den ≠ 0) :
    ∃ scale : Int, scaleOf num den = max scale (-1074) ∧
      (num : Rat) / den / 2 ^ scale < 2 * leading ∧ (leading : Rat) ≤ num / den / 2 ^ scale := by
  obtain ⟨low, high⟩ := guessed_bounds num den some_ positive
  have lead : (leading : Rat) = 2 ^ (52 : Int) := by norm_num [leading]
  unfold scaleOf
  simp only
  generalize (num.log2 : Int) - den.log2 - 52 = guess at *
  have below := quotient_lt_iff (shiftRatio num den guess).1 (shiftRatio num den guess).2 leading
    (shift_ratio_pos num den _ (Nat.pos_of_ne_zero positive))
  rw [shift_ratio_value num den guess] at below
  by_cases less : (shiftRatio num den guess).1 / (shiftRatio num den guess).2 < leading
  · refine ⟨_, by rw [if_pos less], ?_⟩
    have small := below.1 less
    have twice : (num : Rat) / den / 2 ^ (guess - 1) = 2 * (num / den / 2 ^ guess) := by
      rw [zpow_sub_one₀ (by norm_num), div_mul_eq_div_div, div_inv_eq_mul, mul_comm]
    rw [twice]
    rw [lead] at small ⊢
    constructor <;> linarith
  · refine ⟨_, by rw [if_neg less], ?_⟩
    have large := not_lt.1 (less ∘ below.2)
    rw [lead] at large ⊢
    exact ⟨by linarith, large⟩

theorem scale_of_fits (num den : Nat) (some_ : num ≠ 0) (positive : den ≠ 0) :
    -1074 ≤ scaleOf num den ∧ (num : Rat) / den / 2 ^ scaleOf num den < 2 * leading ∧
      (scaleOf num den = -1074 ∨ (leading : Rat) ≤ num / den / 2 ^ scaleOf num den) := by
  obtain ⟨exact_, scaled, fits, full⟩ := scale_of_exact num den some_ positive
  rw [scaled]
  refine ⟨le_max_right _ _, ?_, ?_⟩
  · -- A higher scale only makes the quotient less.
    refine lt_of_le_of_lt ?_ fits
    gcongr
    · norm_num
    · exact le_max_left _ _
  · rcases le_total exact_ (-1074) with small | large
    · exact .inl (max_eq_right small)
    · rw [max_eq_left large]
      exact .inr full

theorem quarter_units (m : Nat) (unit : Rat) :
    ((4 * m + 2 : Nat) : Rat) * (unit / 2 ^ (2 : Int)) = (m + 1 / 2) * unit := by
  push_cast
  ring

theorem ceiling_at (k m : Nat) (fits : m < 2 * leading) (normal : k = 0 ∨ leading ≤ m) :
    ceiling (k * leading + m) = (m + 1 / 2) * 2 ^ ((k : Int) - 1074) := by
  unfold ceiling
  by_cases small : m < leading
  · obtain rfl : k = 0 := normal.resolve_right (by omega)
    rw [Nat.zero_mul, Nat.zero_add, Nat.div_eq_of_lt small, if_pos rfl, Nat.mod_eq_of_lt small]
    rw [show (-1076 : Int) = (0 : Nat) - 1074 - 2 by norm_num, zpow_sub₀ (by norm_num), quarter_units]
  · have quotient : (k * leading + m) / leading = k + 1 := by unfold leading at *; omega
    have rest : (k * leading + m) % leading = m - leading := by unfold leading at *; omega
    rw [quotient, rest, if_neg (Nat.succ_ne_zero k), Nat.add_sub_of_le (not_lt.1 small),
      show ((k + 1 : Nat) : Int) - 1077 = k - 1074 - 2 by push_cast; ring, zpow_sub₀ (by norm_num), quarter_units]

theorem nearest_le_top (x : Binary64) (k m : Nat) (w : Rat) (size : x.sizeBits = k * leading + m)
    (nearest : Nearest w m) (small : w < ((2 * leading : Nat) : Rat)) (least : k = 0 ∨ leading ≤ m) :
    w * 2 ^ ((k : Int) - 1074) ≤ x.interval.top ∧ (m % 2 = 1 → w * 2 ^ ((k : Int) - 1074) ≠ x.interval.top) := by
  have unit : (0 : Rat) < 2 ^ ((k : Int) - 1074) := by positivity
  rw [x.top_eq, size]
  rcases Nat.lt_or_eq_of_le (nearest.le_of_lt small) with inside | full
  · rw [ceiling_at k m inside least]
    refine ⟨by gcongr; exact nearest.high, fun odd same => (nearest.even odd).2 ?_⟩
    exact mul_right_cancel₀ unit.ne' same
  · -- It was rounded up to the first size of the next unit.
    refine ⟨?_, fun odd => by unfold leading at full; omega⟩
    rw [full, show k * leading + 2 * leading = (k + 1) * leading + leading by ring,
      ceiling_at (k + 1) leading (by decide) (.inr (le_refl _)), Nat.cast_succ k,
      show (k : Int) + 1 - 1074 = k - 1074 + 1 by ring, zpow_add_one₀ (by norm_num), mul_comm _ (2 : Rat), ← mul_assoc]
    gcongr
    push_cast at small
    linarith

theorem bottom_le_nearest (x : Binary64) (k m : Nat) (w : Rat) (size : x.sizeBits = k * leading + m)
    (nearest : Nearest w m) (positive : 0 ≤ w) (most : m ≤ 2 * leading) (normal : k = 0 ∨ (leading : Rat) ≤ w) :
    x.interval.bottom ≤ w * 2 ^ ((k : Int) - 1074) ∧
      (m % 2 = 1 → w * 2 ^ ((k : Int) - 1074) ≠ x.interval.bottom) := by
  have unit : (0 : Rat) < 2 ^ ((k : Int) - 1074) := by positivity
  have least : k = 0 ∨ leading ≤ m := normal.imp_right nearest.ge_of_ge
  by_cases zero : k * leading + m = 0
  · have none_ : x.interval.bottom = 0 := by
      have blank := x.significand_eq_zero_iff.2 (size.trans zero)
      simp [Interval.bottom, interval, blank, leading]
    refine ⟨by rw [none_]; positivity, fun odd => ?_⟩
    omega
  · rw [x.bottom_eq (k * leading + m - 1) (by omega)]
    by_cases within : k = 0 ∨ leading ≤ m - 1
    · have before : k * leading + m - 1 = k * leading + (m - 1) := by unfold leading at *; omega
      have back : ((m - 1 : Nat) : Rat) = m - 1 := by
        rw [Nat.cast_sub (by unfold leading at *; omega), Nat.cast_one]
      rw [before, ceiling_at k (m - 1) (by unfold leading at *; omega) within, back]
      refine ⟨?_, fun odd same => (nearest.even odd).1 ?_⟩
      · gcongr
        linarith [nearest.low]
      · linarith [mul_right_cancel₀ unit.ne' same]
    · -- The first size of a unit: the one before it is counted in half the unit.
      obtain ⟨first, j, rfl⟩ : m = leading ∧ ∃ j, k = j + 1 := ⟨by omega, k - 1, by omega⟩
      have before : (j + 1) * leading + m - 1 = j * leading + (2 * leading - 1) := by unfold leading at *; omega
      have full := normal.resolve_left (Nat.succ_ne_zero j)
      have less : ceiling ((j + 1) * leading + m - 1) < w * 2 ^ (((j + 1 : Nat) : Int) - 1074) := by
        rw [before, ceiling_at j (2 * leading - 1) (by decide) (.inr (by decide)), Nat.cast_succ j,
          show (j : Int) + 1 - 1074 = j - 1074 + 1 by ring, zpow_add_one₀ (by norm_num), mul_comm _ (2 : Rat),
          ← mul_assoc]
        gcongr
        norm_num [leading] at full ⊢
        linarith
      exact ⟨less.le, fun _ => less.ne'⟩

theorem admits_nearest (x : Binary64) (k m : Nat) (w : Rat) (size : x.sizeBits = k * leading + m)
    (nearest : Nearest w m) (positive : 0 ≤ w) (small : w < ((2 * leading : Nat) : Rat))
    (normal : k = 0 ∨ (leading : Rat) ≤ w) : x.interval.Admits (w * 2 ^ ((k : Int) - 1074)) := by
  have parity : x.interval.closed = false → m % 2 = 1 := by
    intro opened
    have odd : ¬ x.sizeBits % 2 = 0 := fun even => by
      rw [x.closed_iff.2 even] at opened
      cases opened
    rw [size] at odd
    unfold leading at odd
    omega
  have top := nearest_le_top x k m w size nearest small (normal.imp_right nearest.ge_of_ge)
  have bottom := bottom_le_nearest x k m w size nearest positive (nearest.le_of_lt small) normal
  exact ⟨bottom.1, top.1, fun opened => ⟨bottom.2 (parity opened), top.2 (parity opened)⟩⟩

theorem top_lt (x : Binary64) (finite : x.isFinite = true) : x.interval.top < 2 ^ (1024 : Int) := by
  have small := x.significand_lt
  have exponent := (x.exponent_bounds finite).2
  have high : ((4 * x.significand + 2 : Nat) : Rat) < 2 ^ (55 : Int) := by
    rw [show (2 : Rat) ^ (55 : Int) = ((36028797018963968 : Nat) : Rat) by norm_num]
    exact Nat.cast_lt.2 (by omega)
  calc x.interval.top = ((4 * x.significand + 2 : Nat) : Rat) * 2 ^ (x.exponent - 2) := rfl
    _ < 2 ^ (55 : Int) * 2 ^ (969 : Int) :=
      mul_lt_mul high (zpow_le_zpow_right₀ (by norm_num) (by omega)) (by positivity) (by positivity)
    _ = 2 ^ (1024 : Int) := by rw [← zpow_add₀ (by norm_num)]; rfl

theorem scale_le (x : Binary64) (finite : x.isFinite = true) (k : Nat) (w : Rat) (full : (leading : Rat) ≤ w)
    (held : w * 2 ^ ((k : Int) - 1074) ≤ x.interval.top) : k ≤ 2045 := by
  by_contra large
  have : (2 : Rat) ^ (1024 : Int) ≤ w * 2 ^ ((k : Int) - 1074) := by
    calc (2 : Rat) ^ (1024 : Int) = 2 ^ (52 : Int) * 2 ^ (972 : Int) := by rw [← zpow_add₀ (by norm_num)]; rfl
      _ ≤ leading * 2 ^ ((k : Int) - 1074) :=
        mul_le_mul (by norm_num [leading]) (zpow_le_zpow_right₀ (by norm_num) (by omega)) (by positivity)
          (by positivity)
      _ ≤ w * 2 ^ ((k : Int) - 1074) := by gcongr
  linarith [x.top_lt finite]

theorem is_negative_with_sign (negative : Bool) (size : Nat) (bounded : size < 9223372036854775808) :
    (withSign negative size).isNegative = negative := by
  unfold isNegative withSign signBit
  rw [UInt64.toNat_ofNat']
  cases negative <;> simp <;> omega

theorem with_sign_parts (x : Binary64) : withSign x.isNegative x.sizeBits = x :=
  eq_of_parts _ _ (is_negative_with_sign _ _ x.size_bits_lt) (size_bits_with_sign _ _ x.size_bits_lt)

-- A fraction in units of `2 ^ (k - 1074)`: it has the bits of a significand, and a whole number is the nearest to it.
structure Scaled (v : Rat) (k m : Nat) : Prop where
  small : v / 2 ^ ((k : Int) - 1074) < ((2 * leading : Nat) : Rat)
  full : k = 0 ∨ (leading : Rat) ≤ v / 2 ^ ((k : Int) - 1074)
  nearest : Nearest (v / 2 ^ ((k : Int) - 1074)) m

theorem of_ratio_scaled (negative : Bool) (num den : Nat) (some_ : num ≠ 0) (positive : den ≠ 0) :
    ∃ k m : Nat, Scaled ((num : Rat) / den) k m ∧ ofRatio negative num den =
      if k * leading + m < infiniteSize then withSign negative (k * leading + m) else infinity negative := by
  obtain ⟨least, small, full⟩ := scale_of_fits num den some_ positive
  have nearest := round_quotient_nearest (shiftRatio num den (scaleOf num den)).1 (shiftRatio num den (scaleOf num den)).2
    (shift_ratio_pos num den _ (Nat.pos_of_ne_zero positive))
  rw [shift_ratio_value num den (scaleOf num den)] at nearest
  obtain ⟨k, scaled⟩ : ∃ k : Nat, scaleOf num den = (k : Int) - 1074 :=
    ⟨(scaleOf num den + 1074).toNat, by omega⟩
  refine ⟨k, roundQuotient (shiftRatio num den (scaleOf num den)).1 (shiftRatio num den (scaleOf num den)).2,
    ⟨?_, full.imp (by omega) (scaled ▸ ·), scaled ▸ nearest⟩, ?_⟩
  · rw [← scaled]
    push_cast
    exact small
  · unfold ofRatio
    rw [if_neg (by simp [some_, positive])]
    simp only
    rw [show (scaleOf num den + 1074).toNat = k by omega]

theorem Scaled.admitted {v : Rat} {k m : Nat} (scaled : Scaled v k m) (nonnegative : 0 ≤ v) (x : Binary64)
    (size : x.sizeBits = k * leading + m) : x.interval.Admits v := by
  have unit : (0 : Rat) < 2 ^ ((k : Int) - 1074) := by positivity
  have held := admits_nearest x k m _ size scaled.nearest (by positivity) scaled.small scaled.full
  rwa [div_mul_cancel₀ _ unit.ne'] at held

theorem Scaled.bounded {v : Rat} {k m : Nat} (scaled : Scaled v k m) (x : Binary64) (finite : x.isFinite = true)
    (below : v ≤ x.interval.top) : k * leading + m < 9223372036854775808 := by
  have unit : (0 : Rat) < 2 ^ ((k : Int) - 1074) := by positivity
  have scale : k ≤ 2045 := by
    rcases scaled.full with rfl | full
    · exact Nat.zero_le _
    · exact x.scale_le finite k _ full (by rwa [div_mul_cancel₀ _ unit.ne'])
  have most := scaled.nearest.le_of_lt scaled.small
  unfold leading at *
  omega

theorem size_bits_lt_infinite (x : Binary64) (finite : x.isFinite = true) : x.sizeBits < infiniteSize := by
  have field := x.exponent_field_lt finite
  unfold exponentField leading at field
  unfold infiniteSize
  omega

theorem of_ratio_admitted (negative : Bool) (num den : Nat) (x : Binary64) (finite : x.isFinite = true)
    (some_ : num ≠ 0) (positive : den ≠ 0) (held : x.interval.Admits ((num : Rat) / den)) :
    ofRatio negative num den = withSign negative x.sizeBits := by
  obtain ⟨k, m, scaled, rounded⟩ := of_ratio_scaled negative num den some_ positive
  have size := size_bits_with_sign negative (k * leading + m) (scaled.bounded x finite held.2.1)
  have same := admitted_by_one _ _ _ (scaled.admitted (by positivity) _ size) held
  rw [size] at same
  rw [rounded, same, if_pos (x.size_bits_lt_infinite finite)]

theorem digits_bounds (n : Nat) (nonzero : n ≠ 0) :
    (10 : Rat) ^ (((Nat.toDigits 10 n).length : Int) - 1) ≤ n ∧
      (n : Rat) < 10 ^ ((Nat.toDigits 10 n).length : Int) := by
  have some_ : (Nat.toDigits 10 n).length ≠ 0 := fun none_ => Nat.toDigits_ne_nil (List.length_eq_zero_iff.1 none_)
  obtain ⟨count, length⟩ := Nat.exists_eq_succ_of_ne_zero some_
  rw [length]
  have high := (Nat.length_toDigits_le_iff (b := 10) (n := n) (by decide) (Nat.succ_pos count)).1 length.le
  have low : 10 ^ count ≤ n := by
    cases count with
    | zero => rw [Nat.pow_zero]; omega
    | succ count =>
      refine Nat.le_of_not_lt fun less => ?_
      have := (Nat.length_toDigits_le_iff (b := 10) (n := n) (by decide) (Nat.succ_pos count)).2 less
      omega
  constructor
  · rw [Nat.cast_succ, add_sub_cancel_right, zpow_natCast]
    exact_mod_cast low
  · rw [zpow_natCast]
    exact_mod_cast high

theorem two_pow_le_ten_pow (n : Nat) (small : n < 1101) :
    (2 : Rat) ^ (n : Int) ≤ 10 ^ ((n * 30103 / 100000 + 1 : Nat) : Int) := by
  have checked : ((2 ^ n : Nat) : Rat) ≤ ((10 ^ (n * 30103 / 100000 + 1) : Nat) : Rat) :=
    Nat.cast_le.2 (Interval.two_pow_below n small)
  rw [Nat.cast_pow, Nat.cast_pow] at checked
  rw [zpow_natCast, zpow_natCast]
  exact checked

theorem bottom_ge (x : Binary64) (nonzero : x.significand ≠ 0) : (2 : Rat) ^ (-1075 : Int) ≤ x.interval.bottom := by
  obtain ⟨size, next⟩ : ∃ size, x.sizeBits = size + 1 :=
    ⟨x.sizeBits - 1, by have := x.significand_eq_zero_iff.not.1 nonzero; omega⟩
  have first : ceiling 0 = (2 : Rat) ^ (-1075 : Int) := by
    have at_ := ceiling_at 0 0 (by decide) (.inl rfl)
    rw [Nat.zero_mul] at at_
    rw [at_, show (-1075 : Int) = ((0 : Nat) : Int) - 1074 - 1 by norm_num, zpow_sub_one₀ (by norm_num)]
    generalize (2 : Rat) ^ (((0 : Nat) : Int) - 1074) = unit
    norm_num
    ring
  rw [x.bottom_eq size next, ← first]
  rcases Nat.eq_zero_or_pos size with rfl | more
  · exact le_refl _
  · exact (ceiling_lt 0 size more (by have := x.size_bits_lt; omega)).le

theorem first_digit_bounds (digits : Nat) (power : Int) (some_ : digits ≠ 0)
    (low : (2 : Rat) ^ (-1075 : Int) ≤ digits * 10 ^ power) (high : (digits : Rat) * 10 ^ power < 2 ^ (1024 : Int)) :
    -330 ≤ ((Nat.toDigits 10 digits).length : Int) + power ∧ ((Nat.toDigits 10 digits).length : Int) + power ≤ 310 := by
  obtain ⟨least, most⟩ := digits_bounds digits some_
  have tens : (0 : Rat) < 10 ^ power := by positivity
  constructor
  · by_contra small
    have : (digits : Rat) * 10 ^ power < 2 ^ (-1075 : Int) := by
      calc (digits : Rat) * 10 ^ power < 10 ^ ((Nat.toDigits 10 digits).length : Int) * 10 ^ power := by gcongr
        _ = 10 ^ (((Nat.toDigits 10 digits).length : Int) + power) := (zpow_add₀ (by norm_num) _ _).symm
        _ ≤ 10 ^ (-(324 : Int)) := zpow_le_zpow_right₀ (by norm_num) (by omega)
        _ ≤ 2 ^ (-(1075 : Int)) := by
          rw [zpow_neg, zpow_neg]
          exact inv_anti₀ (by positivity) (two_pow_le_ten_pow 1075 (by decide))
    linarith
  · by_contra large
    have : (2 : Rat) ^ (1024 : Int) ≤ digits * 10 ^ power := by
      calc (2 : Rat) ^ (1024 : Int) ≤ 10 ^ (309 : Int) := two_pow_le_ten_pow 1024 (by decide)
        _ ≤ 10 ^ (((Nat.toDigits 10 digits).length : Int) - 1 + power) :=
          zpow_le_zpow_right₀ (by norm_num) (by omega)
        _ = 10 ^ (((Nat.toDigits 10 digits).length : Int) - 1) * 10 ^ power := zpow_add₀ (by norm_num) _ _
        _ ≤ digits * 10 ^ power := by gcongr
    linarith

theorem of_decimal_admitted (negative : Bool) (digits : Nat) (power : Int) (x : Binary64) (finite : x.isFinite = true)
    (nonzero : x.significand ≠ 0) (held : x.interval.Admits (digits * 10 ^ power)) :
    ofDecimal negative digits power = withSign negative x.sizeBits := by
  have low := (x.bottom_ge nonzero).trans held.1
  have high := held.2.1.trans_lt (x.top_lt finite)
  have some_ : digits ≠ 0 := by
    rintro rfl
    have : (0 : Rat) < 2 ^ (-1075 : Int) := by positivity
    rw [Nat.cast_zero, zero_mul] at low
    linarith
  obtain ⟨above, inside⟩ := first_digit_bounds digits power some_ low high
  unfold ofDecimal
  rw [if_neg some_]
  simp only
  rw [if_neg (by omega), if_neg (by omega)]
  by_cases whole : 0 ≤ power
  · obtain ⟨n, rfl⟩ := Int.eq_ofNat_of_zero_le whole
    rw [if_pos whole]
    refine of_ratio_admitted negative _ 1 x finite ?_ (by decide) ?_
    · exact Nat.mul_ne_zero some_ (Nat.pos_iff_ne_zero.1 (Nat.pow_pos (by decide)))
    · rwa [Nat.cast_one, div_one, tenTo, Nat.pow_eq, Int.toNat_natCast, Nat.cast_mul, Nat.cast_pow, Nat.cast_ofNat,
        ← zpow_natCast]
  · obtain ⟨n, down⟩ := Int.eq_ofNat_of_zero_le (show 0 ≤ -power by omega)
    rw [if_neg whole]
    refine of_ratio_admitted negative _ _ x finite some_ (Nat.pos_iff_ne_zero.1 (Nat.pow_pos (by decide))) ?_
    rwa [down, tenTo, Nat.pow_eq, Int.toNat_natCast, Nat.cast_pow, Nat.cast_ofNat, div_eq_mul_inv, ← zpow_natCast,
      ← zpow_neg, ← down, neg_neg]

end ArchiveSearch.Binary64
