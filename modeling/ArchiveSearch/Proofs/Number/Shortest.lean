import Mathlib.Algebra.Order.Field.Power
import Mathlib.Data.Rat.Cast.Order
import Mathlib.Tactic.FieldSimp
import Mathlib.Tactic.GCongr
import Mathlib.Tactic.Linarith
import Mathlib.Tactic.NormNum
import Mathlib.Tactic.Positivity
import Mathlib.Tactic.Ring
import ArchiveSearch.Number.Decimal

/- The decimal found for a number lies among those that round to it, and no decimal rounds to two
   numbers.

   The decimals that round to a size form an interval. Where one interval ends the next begins, and of
   two neighbours only the one with the even significand has its ends. -/
namespace ArchiveSearch.Binary64

set_option autoImplicit false

theorem cleared_power (base : Rat) (nonzero : base ≠ 0) (power : Int) :
    base ^ power * base ^ (-power).toNat = base ^ power.toNat := by
  rw [← zpow_natCast base (-power).toNat, ← zpow_natCast base power.toNat, ← zpow_add₀ nonzero]
  congr 1
  omega

def clearing (power scale : Int) : Rat :=
  10 ^ (-power).toNat * 2 ^ (-scale).toNat

theorem clearing_pos (power scale : Int) : 0 < clearing power scale := by
  unfold clearing
  positivity

theorem decimal_cleared (digits : Nat) (power scale : Int) :
    (digits : Rat) * 10 ^ power * clearing power scale
      = ((digits * tenTo power.toNat * twoTo (-scale).toNat : Nat) : Rat) := by
  have tens := cleared_power 10 (by norm_num) power
  calc (digits : Rat) * 10 ^ power * clearing power scale
      = digits * (10 ^ power * 10 ^ (-power).toNat) * 2 ^ (-scale).toNat := by
        unfold clearing; ring
    _ = _ := by rw [tens]; push_cast [tenTo, twoTo, Nat.pow_eq]; rfl

theorem binary_cleared (num : Nat) (power scale : Int) :
    (num : Rat) * 2 ^ scale * clearing power scale
      = ((num * twoTo scale.toNat * tenTo (-power).toNat : Nat) : Rat) := by
  have twos := cleared_power 2 (by norm_num) scale
  calc (num : Rat) * 2 ^ scale * clearing power scale
      = num * (2 ^ scale * 2 ^ (-scale).toNat) * 10 ^ (-power).toNat := by
        unfold clearing; ring
    _ = _ := by rw [twos]; push_cast [tenTo, twoTo, Nat.pow_eq]; rfl

theorem decimal_le_iff (digits : Nat) (power : Int) (num : Nat) (scale : Int) :
    decimalLe digits power num scale = true ↔ (digits : Rat) * 10 ^ power ≤ num * 2 ^ scale := by
  rw [← mul_le_mul_iff_of_pos_right (clearing_pos power scale), decimal_cleared, binary_cleared,
    Nat.cast_le]
  exact decide_eq_true_iff

theorem binary_le_iff (num : Nat) (scale : Int) (digits : Nat) (power : Int) :
    binaryLe num scale digits power = true ↔ (num : Rat) * 2 ^ scale ≤ digits * 10 ^ power := by
  rw [← mul_le_mul_iff_of_pos_right (clearing_pos power scale), decimal_cleared, binary_cleared,
    Nat.cast_le]
  exact decide_eq_true_iff

namespace Interval

def bottom (i : Interval) : Rat :=
  i.low * 2 ^ i.scale

def middle (i : Interval) : Rat :=
  i.mid * 2 ^ i.scale

def top (i : Interval) : Rat :=
  i.high * 2 ^ i.scale

def Admits (i : Interval) (v : Rat) : Prop :=
  i.bottom ≤ v ∧ v ≤ i.top ∧ (i.closed = false → v ≠ i.bottom ∧ v ≠ i.top)

theorem holds_iff (i : Interval) (digits : Nat) (power : Int) :
    i.holds digits power = true ↔ i.Admits (digits * 10 ^ power) := by
  unfold holds Admits bottom top
  cases i.closed with
  | true =>
    simp only [if_true, Bool.and_eq_true, binary_le_iff, decimal_le_iff]
    simp
  | false =>
    simp only [Bool.false_eq_true, if_false, Bool.and_eq_true, Bool.not_eq_true',
      ← Bool.not_eq_true, binary_le_iff, decimal_le_iff, not_le, true_implies]
    constructor
    · rintro ⟨above, below⟩
      exact ⟨above.le, below.le, above.ne', below.ne⟩
    · rintro ⟨above, below, off, off'⟩
      exact ⟨lt_of_le_of_ne above off.symm, lt_of_le_of_ne below off'⟩

theorem floor_at_le (i : Interval) (power : Int) :
    (i.floorAt power : Rat) * 10 ^ power ≤ i.middle := by
  refine (decimal_le_iff (i.floorAt power) power i.mid i.scale).1 (decide_eq_true ?_)
  rw [Nat.mul_assoc]
  exact Nat.div_mul_le_self _ _

theorem lt_floor_at_succ (i : Interval) (power : Int) :
    i.middle < ((i.floorAt power + 1 : Nat) : Rat) * 10 ^ power := by
  refine lt_of_not_ge fun reached => ?_
  have cleared := of_decide_eq_true
    ((decimal_le_iff (i.floorAt power + 1) power i.mid i.scale).2 reached)
  rw [Nat.mul_assoc] at cleared
  have positive : 0 < tenTo power.toNat * twoTo (-i.scale).toNat :=
    Nat.mul_pos (Nat.pow_pos (by decide)) (Nat.pow_pos (by decide))
  exact absurd ((Nat.le_div_iff_mul_le positive).2 cleared) (by unfold floorAt; omega)

theorem on_grid_holds (i : Interval) (power : Int) (digits : Nat)
    (found : i.onGrid power = some digits) : i.holds digits power = true := by
  unfold onGrid at found
  generalize i.floorAt power = below at found
  simp only at found
  split at found
  case isTrue both =>
    simp only [Bool.and_eq_true] at both
    obtain rfl := Option.some.inj found
    split
    · exact both.1.2
    · exact both.2
  case isFalse =>
    split at found
    case isTrue lower =>
      obtain rfl := Option.some.inj found
      simp only [Bool.and_eq_true] at lower
      exact lower.2
    case isFalse =>
      split at found
      case isTrue upper =>
        obtain rfl := Option.some.inj found
        exact upper
      case isFalse => exact absurd found (by simp)

theorem search_found (i : Interval) (count : Nat) (power : Int) :
    i.holds (i.search power count).1 (i.search power count).2 = true ∨
      i.search power count = (i.floorAt (power - count), power - count) := by
  induction count generalizing power with
  | zero => exact .inr (by simp [search])
  | succ count ih =>
    unfold search
    cases hit : i.onGrid power with
    | some digits => exact .inl (i.on_grid_holds power digits hit)
    | none =>
      rcases ih (power - 1) with held | ended
      · exact .inl held
      · refine .inr (ended.trans ?_)
        push_cast
        rw [show power - 1 - (count : Int) = power - (count + 1) by ring]

theorem ten_pow_below : ∀ n < 1100, 10 ^ (n * 30103 / 100000 - 1) ≤ 2 ^ n := by
  have checked : ((List.range 1100).all fun n => (10 ^ (n * 30103 / 100000 - 1)).ble (2 ^ n)) = true := by
    decide +kernel
  exact fun n small => Nat.le_of_ble_eq_true (List.all_eq_true.1 checked n (List.mem_range.2 small))

theorem two_pow_below : ∀ n < 1101, 2 ^ n ≤ 10 ^ (n * 30103 / 100000 + 1) := by
  have checked : ((List.range 1101).all fun n => (2 ^ n).ble (10 ^ (n * 30103 / 100000 + 1))) = true := by
    decide +kernel
  exact fun n small => Nat.le_of_ble_eq_true (List.all_eq_true.1 checked n (List.mem_range.2 small))

theorem ten_pow_guess_le (position : Int) (low : -1100 ≤ position) (high : position < 1100) :
    (10 : Rat) ^ ((position * 30103).fdiv 100000 - 1) ≤ 2 ^ position := by
  have floored : (position * 30103).fdiv 100000 = position * 30103 / 100000 :=
    Int.fdiv_eq_ediv_of_nonneg _ (by norm_num)
  rw [floored]
  rcases Int.eq_nat_or_neg position with ⟨n, rfl | rfl⟩
  · have checked : ((10 ^ (n * 30103 / 100000 - 1) : Nat) : Rat) ≤ ((2 ^ n : Nat) : Rat) :=
      Nat.cast_le.2 (ten_pow_below n (by omega))
    push_cast at checked
    calc (10 : Rat) ^ ((n : Int) * 30103 / 100000 - 1)
        ≤ 10 ^ ((n * 30103 / 100000 - 1 : Nat) : Int) := zpow_le_zpow_right₀ (by norm_num) (by omega)
      _ ≤ 2 ^ (n : Int) := by rwa [zpow_natCast, zpow_natCast]
  · have checked : ((2 ^ n : Nat) : Rat) ≤ ((10 ^ (n * 30103 / 100000 + 1) : Nat) : Rat) :=
      Nat.cast_le.2 (two_pow_below n (by omega))
    push_cast at checked
    calc (10 : Rat) ^ (-(n : Int) * 30103 / 100000 - 1)
        ≤ 10 ^ (-((n * 30103 / 100000 + 1 : Nat) : Int)) := zpow_le_zpow_right₀ (by norm_num) (by omega)
      _ ≤ 2 ^ (-(n : Int)) := by
        rw [zpow_neg, zpow_neg, zpow_natCast, zpow_natCast]
        exact inv_anti₀ (by positivity) checked

theorem ten_pow_places (i : Interval) (nonzero : i.mid ≠ 0) (low : -1100 ≤ (i.mid.log2 : Int) + i.scale)
    (high : (i.mid.log2 : Int) + i.scale < 1100) : (10 : Rat) ^ (i.places - 1) ≤ i.middle := by
  have counted : ∀ power, decimalLe 1 power i.mid i.scale = true → (10 : Rat) ^ power ≤ i.middle := by
    intro power holds
    have := (decimal_le_iff 1 power i.mid i.scale).1 holds
    rwa [Nat.cast_one, one_mul] at this
  unfold places
  generalize guessed : (((i.mid.log2 : Int) + i.scale) * 30103).fdiv 100000 = guess
  simp only
  split
  case isTrue above => exact counted _ (by rwa [show guess + 2 - 1 = guess + 1 by ring])
  case isFalse =>
    split
    case isTrue at_ => exact counted _ (by rwa [show guess + 1 - 1 = guess by ring])
    case isFalse =>
      have guess_le := ten_pow_guess_le ((i.mid.log2 : Int) + i.scale) low high
      rw [guessed] at guess_le
      have leading : ((2 ^ i.mid.log2 : Nat) : Rat) ≤ i.mid :=
        Nat.cast_le.2 (Nat.log2_self_le nonzero)
      calc (10 : Rat) ^ (guess - 1) ≤ 2 ^ ((i.mid.log2 : Int) + i.scale) := guess_le
        _ = ((2 ^ i.mid.log2 : Nat) : Rat) * 2 ^ i.scale := by
          rw [zpow_add₀ (by norm_num), zpow_natCast]; push_cast; rfl
        _ ≤ i.middle := by unfold middle; gcongr

end Interval

theorem fraction_field_lt (x : Binary64) : x.fractionField < 4503599627370496 :=
  Nat.mod_lt _ (by decide)

theorem exponent_field_lt (x : Binary64) (finite : x.isFinite = true) : x.exponentField < 2047 := by
  have bounded : x.sizeBits < 9223372036854775808 := Nat.mod_lt _ (by decide)
  have field : x.exponentField < 2048 := Nat.div_lt_of_lt_mul bounded
  have ordinary : x.exponentField ≠ 2047 := by simpa [isFinite] using finite
  omega

theorem significand_lt (x : Binary64) : x.significand < 9007199254740992 := by
  have bounded := x.fraction_field_lt
  unfold significand leading
  split <;> omega

theorem exponent_bounds (x : Binary64) (finite : x.isFinite = true) :
    -1074 ≤ x.exponent ∧ x.exponent < 972 := by
  have := x.exponent_field_lt finite
  unfold exponent
  split <;> omega

theorem significand_eq_zero_iff (x : Binary64) : x.significand = 0 ↔ x.sizeBits = 0 := by
  unfold significand fractionField exponentField leading
  split <;> omega

theorem middle_lt_top (x : Binary64) : x.interval.middle < x.interval.top := by
  unfold Interval.middle Interval.top interval
  push_cast
  gcongr
  exact lt_add_of_pos_right _ (by norm_num)

theorem bottom_add_unit_le (x : Binary64) (nonzero : x.significand ≠ 0) :
    x.interval.bottom + 2 ^ x.interval.scale ≤ x.interval.middle := by
  have apart : x.interval.low + 1 ≤ x.interval.mid := by
    change (if x.significand = leading ∧ x.exponent ≠ -1074 then 4 * x.significand - 1
      else 4 * x.significand - 2) + 1 ≤ 4 * x.significand
    split <;> omega
  calc x.interval.bottom + 2 ^ x.interval.scale
      = ((x.interval.low + 1 : Nat) : Rat) * 2 ^ x.interval.scale := by
        unfold Interval.bottom; push_cast; ring
    _ ≤ x.interval.middle := by unfold Interval.middle; gcongr

theorem ten_pow_finest_lt (x : Binary64) (finite : x.isFinite = true) (nonzero : x.significand ≠ 0) :
    (10 : Rat) ^ (x.interval.places - 1 - 17) < 2 ^ x.interval.scale := by
  have small := x.significand_lt
  have exponents := x.exponent_bounds finite
  have middle : x.interval.mid = 4 * x.significand := rfl
  have scaled : x.interval.scale = x.exponent - 2 := rfl
  have log : x.interval.mid.log2 < 55 := (Nat.log2_lt (by omega)).2 (by omega)
  have first := x.interval.ten_pow_places (by omega) (by omega) (by omega)
  have bounded : x.interval.middle < 2 ^ 55 * 2 ^ x.interval.scale := by
    unfold Interval.middle
    gcongr
    exact_mod_cast (by omega : x.interval.mid < 2 ^ 55)
  have seventeen : (10 : Rat) ^ (x.interval.places - 1 - 17) * 10 ^ 17
      = 10 ^ (x.interval.places - 1) := by
    rw [← zpow_natCast, ← zpow_add₀ (by norm_num)]
    congr 1
    push_cast
    ring
  have unit : (0 : Rat) < 2 ^ x.interval.scale := by positivity
  nlinarith

theorem shortest_admitted (x : Binary64) (finite : x.isFinite = true) (nonzero : x.significand ≠ 0) :
    x.interval.Admits (x.shortest.1 * 10 ^ x.shortest.2) := by
  unfold shortest
  rcases x.interval.search_found 17 (x.interval.places - 1) with held | ended
  · exact (x.interval.holds_iff _ _).1 held
  · rw [ended]
    have below := x.interval.floor_at_le (x.interval.places - 1 - 17)
    have above := x.interval.lt_floor_at_succ (x.interval.places - 1 - 17)
    have fine := x.ten_pow_finest_lt finite nonzero
    have lower := x.bottom_add_unit_le nonzero
    have upper := x.middle_lt_top
    push_cast at above ⊢
    have inside : x.interval.bottom
        < x.interval.floorAt (x.interval.places - 1 - 17) * 10 ^ (x.interval.places - 1 - 17) := by
      linarith
    exact ⟨inside.le, by linarith, fun _ => ⟨inside.ne', by linarith [below]⟩⟩

def ceiling (size : Nat) : Rat :=
  if size / leading = 0 then ((4 * (size % leading) + 2 : Nat) : Rat) * 2 ^ (-1076 : Int)
  else ((4 * (leading + size % leading) + 2 : Nat) : Rat) * 2 ^ ((size / leading : Nat) - 1077 : Int)

theorem top_eq (x : Binary64) : x.interval.top = ceiling x.sizeBits := by
  change ((4 * x.significand + 2 : Nat) : Rat) * 2 ^ (x.exponent - 2) = _
  unfold ceiling significand exponent fractionField exponentField
  split
  · rfl
  · rw [show ((x.sizeBits / leading : Nat) : Int) - 1075 - 2
      = ((x.sizeBits / leading : Nat) : Int) - 1077 by ring]

theorem bottom_eq (x : Binary64) (size : Nat) (next : x.sizeBits = size + 1) :
    x.interval.bottom = ceiling size := by
  change ((if x.significand = leading ∧ x.exponent ≠ -1074 then 4 * x.significand - 1
      else 4 * x.significand - 2 : Nat) : Rat) * 2 ^ (x.exponent - 2) = _
  unfold ceiling significand exponent fractionField exponentField leading
  rw [next]
  by_cases ends : (size + 1) % 4503599627370496 = 0
  · have full : size % 4503599627370496 = 4503599627370495 := by omega
    have up : (size + 1) / 4503599627370496 = size / 4503599627370496 + 1 := by omega
    rw [ends, full, up, if_neg (Nat.succ_ne_zero _), if_neg (Nat.succ_ne_zero _)]
    by_cases small : size / 4503599627370496 = 0
    · rw [if_pos small, small, if_neg (by simp)]
      rfl
    · rw [if_neg small, if_pos ⟨rfl, by omega⟩]
      rw [show ((size / 4503599627370496 + 1 : Nat) : Int) - 1075 - 2
        = ((size / 4503599627370496 : Nat) : Int) - 1077 + 1 by push_cast; ring,
        zpow_add₀ (by norm_num)]
      norm_num
      ring
  · have up : (size + 1) / 4503599627370496 = size / 4503599627370496 := by omega
    have on : (size + 1) % 4503599627370496 = size % 4503599627370496 + 1 := by omega
    rw [on, up]
    by_cases small : size / 4503599627370496 = 0
    · rw [if_pos small, if_pos small, if_pos small, if_neg (by simp)]
      congr 2
    · rw [if_neg small, if_neg small, if_neg small, if_neg (by omega)]
      rw [show ((size / 4503599627370496 : Nat) : Int) - 1075 - 2
        = ((size / 4503599627370496 : Nat) : Int) - 1077 by ring]
      congr 2

theorem size_bits_lt (x : Binary64) : x.sizeBits < 9223372036854775808 :=
  Nat.mod_lt _ (by decide)

theorem size_bits_with_sign (negative : Bool) (size : Nat) (bounded : size < 9223372036854775808) :
    (withSign negative size).sizeBits = size := by
  unfold sizeBits withSign signBit
  rw [UInt64.toNat_ofNat']
  cases negative <;> simp <;> omega

theorem ceiling_lt (lower upper : Nat) (less : lower < upper)
    (bounded : upper < 9223372036854775808) : ceiling lower < ceiling upper := by
  induction upper with
  | zero => omega
  | succ upper ih =>
    obtain ⟨x, size⟩ : ∃ x : Binary64, x.sizeBits = upper + 1 :=
      ⟨withSign false (upper + 1), size_bits_with_sign false (upper + 1) bounded⟩
    have nonzero : x.significand ≠ 0 := by
      rw [Ne, significand_eq_zero_iff, size]
      omega
    have step : ceiling upper < ceiling (upper + 1) := by
      have unit : (0 : Rat) < 2 ^ x.interval.scale := by positivity
      rw [← bottom_eq x upper size, ← size, ← top_eq]
      linarith [bottom_add_unit_le x nonzero, middle_lt_top x]
    rcases Nat.lt_or_eq_of_le (Nat.le_of_lt_succ less) with before | rfl
    · exact (ih before (by omega)).trans step
    · exact step

theorem closed_iff (x : Binary64) : x.interval.closed = true ↔ x.sizeBits % 2 = 0 := by
  change (x.significand % 2 == 0) = true ↔ _
  unfold significand fractionField exponentField leading
  rw [beq_iff_eq]
  split <;> omega

theorem sizes_apart (x y : Binary64) (v : Rat) (held : x.interval.Admits v)
    (held' : y.interval.Admits v) : ¬ x.sizeBits < y.sizeBits := by
  intro less
  obtain ⟨size, next⟩ : ∃ size, y.sizeBits = size + 1 := ⟨y.sizeBits - 1, by omega⟩
  have below : v ≤ ceiling x.sizeBits := x.top_eq ▸ held.2.1
  have above : ceiling size ≤ v := y.bottom_eq size next ▸ held'.1
  have met : x.sizeBits = size := by
    refine Nat.le_antisymm (by omega) (Nat.le_of_not_lt fun gap => ?_)
    have := ceiling_lt x.sizeBits size gap (by have := y.size_bits_lt; omega)
    linarith
  -- The two intervals share one end, and only one of the numbers is even.
  have shared : v = ceiling size := le_antisymm (met ▸ below) above
  have even := x.closed_iff
  have even' := y.closed_iff
  cases closed : x.interval.closed with
  | false => exact (held.2.2 closed).2 (by rw [top_eq, met, shared])
  | true =>
    cases closed' : y.interval.closed with
    | false => exact (held'.2.2 closed').1 (by rw [bottom_eq _ _ next, shared])
    | true =>
      rw [closed] at even
      rw [closed'] at even'
      have := even.1 rfl
      have := even'.1 rfl
      omega

theorem admitted_by_one (x y : Binary64) (v : Rat) (held : x.interval.Admits v)
    (held' : y.interval.Admits v) : x.sizeBits = y.sizeBits := by
  have := sizes_apart x y v held held'
  have := sizes_apart y x v held' held
  omega

def decimal (x : Binary64) : Rat :=
  if x.significand = 0 then 0 else x.shortest.1 * 10 ^ x.shortest.2

theorem decimal_pos (x : Binary64) (finite : x.isFinite = true) (nonzero : x.significand ≠ 0) :
    0 < x.decimal := by
  have lower : (0 : Rat) < x.interval.bottom := by
    have positive : 0 < x.interval.low := by
      change 0 < if x.significand = leading ∧ x.exponent ≠ -1074 then 4 * x.significand - 1
        else 4 * x.significand - 2
      split <;> omega
    unfold Interval.bottom
    have : (0 : Rat) < x.interval.low := by exact_mod_cast positive
    positivity
  rw [decimal, if_neg nonzero]
  exact lower.trans_le (x.shortest_admitted finite nonzero).1

theorem decimal_injective (x y : Binary64) (finite : x.isFinite = true) (finite' : y.isFinite = true)
    (same : x.decimal = y.decimal) : x.sizeBits = y.sizeBits := by
  by_cases zero : x.significand = 0
  · by_cases zero' : y.significand = 0
    · rw [x.significand_eq_zero_iff.1 zero, y.significand_eq_zero_iff.1 zero']
    · have := y.decimal_pos finite' zero'
      rw [← same, decimal, if_pos zero] at this
      exact absurd this (lt_irrefl _)
  · by_cases zero' : y.significand = 0
    · have := x.decimal_pos finite zero
      rw [same, decimal, if_pos zero'] at this
      exact absurd this (lt_irrefl _)
    · refine admitted_by_one x y x.decimal ?_ ?_
      · rw [decimal, if_neg zero]
        exact x.shortest_admitted finite zero
      · rw [same, decimal, if_neg zero']
        exact y.shortest_admitted finite' zero'

theorem eq_of_parts (x y : Binary64) (sign : x.isNegative = y.isNegative)
    (size : x.sizeBits = y.sizeBits) : x = y := by
  have bits : x.bits.toNat = y.bits.toNat := by
    have bounded := x.bits.toNat_lt
    have bounded' := y.bits.toNat_lt
    simp only [isNegative, sizeBits, signBit, decide_eq_decide] at sign size
    omega
  cases x
  cases y
  exact congrArg Binary64.mk (UInt64.toNat_inj.1 bits)

end ArchiveSearch.Binary64
