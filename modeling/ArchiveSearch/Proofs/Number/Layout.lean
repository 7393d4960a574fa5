import Mathlib.Data.List.TakeWhile
import ArchiveSearch.Proofs.Number.Shortest

/- The text of a finite number denotes the decimal that was found for it, however it is laid out, so
   the text decides the number. -/
namespace ArchiveSearch

set_option autoImplicit false

theorem run_cut {α : Type} (kind : α → Bool) (run rest : List α) (each : ∀ c ∈ run, kind c = true)
    (stops : ∀ c more, rest = c :: more → kind c = false) :
    (run ++ rest).takeWhile kind = run ∧ (run ++ rest).dropWhile kind = rest := by
  rw [List.takeWhile_append_of_pos each, List.dropWhile_append_of_pos each]
  cases rest with
  | nil => rw [List.takeWhile_nil, List.dropWhile_nil, List.append_nil]; exact ⟨rfl, rfl⟩
  | cons c more =>
      have other := stops c more rfl
      rw [List.takeWhile_cons_of_neg (by simp [other]), List.dropWhile_cons_of_neg (by simp [other]), List.append_nil]
      exact ⟨rfl, rfl⟩

namespace Binary64

def readPower : List Char → Int
  | '-' :: digits => -(Nat.ofDigitChars 10 digits 0 : Int)
  | _ :: digits => Nat.ofDigitChars 10 digits 0
  | [] => 0

def readDecimal (text : List Char) : Rat :=
  let mantissa := text.takeWhile (· != 'e')
  let fraction := (mantissa.dropWhile (· != '.')).drop 1
  Nat.ofDigitChars 10 (mantissa.takeWhile (· != '.') ++ fraction) 0 *
    10 ^ (readPower ((text.dropWhile (· != 'e')).drop 1) - fraction.length)

def Digits (text : List Char) : Prop :=
  ∀ c ∈ text, c.isDigit = true

theorem digit_ne (c other : Char) (digit : c.isDigit = true) (mark : other.isDigit = false) :
    c ≠ other := by
  rintro rfl
  rw [digit] at mark
  exact absurd mark (by decide)

theorem Digits.append {a b : List Char} (left : Digits a) (right : Digits b) : Digits (a ++ b) := by
  intro c mem
  rcases List.mem_append.1 mem with l | r
  · exact left c l
  · exact right c r

theorem digits_to_digits (n : Nat) : Digits (Nat.toDigits 10 n) :=
  fun _ mem => Nat.isDigit_of_mem_toDigits (by decide) (by decide) mem

theorem digits_zeros (count : Nat) : Digits (List.replicate count '0') := by
  intro c mem
  rw [List.eq_of_mem_replicate mem]
  rfl

theorem read_pointed (whole fraction tail : List Char) (left : Digits whole) (right : Digits fraction)
    (stops : tail = [] ∨ ∃ rest, tail = 'e' :: rest) :
    readDecimal (whole ++ '.' :: fraction ++ tail)
      = Nat.ofDigitChars 10 (whole ++ fraction) 0 *
        10 ^ (readPower (tail.drop 1) - fraction.length) := by
  have mantissa : ∀ c ∈ whole ++ '.' :: fraction, (c != 'e') = true := by
    intro c mem
    simp only [List.mem_append, List.mem_cons] at mem
    rw [bne_iff_ne]
    rcases mem with l | rfl | r
    · exact digit_ne c 'e' (left c l) rfl
    · decide
    · exact digit_ne c 'e' (right c r) rfl
  have before : ∀ c ∈ whole, (c != '.') = true := fun c mem =>
    bne_iff_ne.2 (digit_ne c '.' (left c mem) rfl)
  have power : ∀ c more, tail = c :: more → (c != 'e') = false := by
    rcases stops with rfl | ⟨rest, rfl⟩ <;> rintro c more ⟨⟩
    rfl
  have point : ∀ c more, '.' :: fraction = c :: more → (c != '.') = false := by
    rintro c more ⟨⟩
    rfl
  obtain ⟨front, back⟩ := run_cut (· != 'e') (whole ++ '.' :: fraction) tail mantissa power
  obtain ⟨left_, right_⟩ := run_cut (· != '.') whole ('.' :: fraction) before point
  unfold readDecimal
  simp only [front, back, left_, right_, List.drop_one, List.tail_cons]

theorem read_unpointed (whole rest : List Char) (left : Digits whole) :
    readDecimal (whole ++ 'e' :: rest) = Nat.ofDigitChars 10 whole 0 * 10 ^ readPower rest := by
  have before : ∀ c ∈ whole, (c != 'e') = true := fun c mem =>
    bne_iff_ne.2 (digit_ne c 'e' (left c mem) rfl)
  have unbroken : ∀ c ∈ whole, (c != '.') = true := fun c mem =>
    bne_iff_ne.2 (digit_ne c '.' (left c mem) rfl)
  have power : ∀ c more, 'e' :: rest = c :: more → (c != 'e') = false := by
    rintro c more ⟨⟩
    rfl
  have all : whole.takeWhile (· != '.') = whole := List.takeWhile_eq_self_iff.2 unbroken
  have none_ : whole.dropWhile (· != '.') = [] := List.dropWhile_eq_nil_iff.2 unbroken
  obtain ⟨front, back⟩ := run_cut (· != 'e') whole ('e' :: rest) before power
  unfold readDecimal
  simp [front, back, all, none_]

theorem of_digit_chars_zeros_behind (digits : List Char) (count : Nat) :
    Nat.ofDigitChars 10 (digits ++ List.replicate count '0') 0
      = Nat.ofDigitChars 10 digits 0 * 10 ^ count := by
  rw [Nat.ofDigitChars_append, Nat.ofDigitChars_replicate_zero, Nat.mul_comm]

theorem of_digit_chars_zeros_before (digits : List Char) (count : Nat) :
    Nat.ofDigitChars 10 (List.replicate count '0' ++ digits) 0 = Nat.ofDigitChars 10 digits 0 := by
  rw [Nat.ofDigitChars_append, Nat.ofDigitChars_replicate_zero, Nat.mul_zero]

theorem trimmed (digits : List Char) (power : Int) :
    ∃ count, digits = (trimZeros digits power).1 ++ List.replicate count '0' ∧
      (trimZeros digits power).2 = power + count := by
  have split := congrArg List.reverse
    (List.takeWhile_append_dropWhile (p := (· == '0')) (l := digits.reverse))
  rw [List.reverse_append, List.reverse_reverse] at split
  have zeros : (digits.reverse.takeWhile (· == '0')).reverse
      = List.replicate (digits.reverse.takeWhile (· == '0')).length '0' := by
    rw [List.eq_replicate_iff]
    refine ⟨List.length_reverse, fun c mem => ?_⟩
    have zero := List.mem_takeWhile_imp (List.mem_reverse.1 mem)
    exact beq_iff_eq.1 zero
  have count := congrArg List.length split
  rw [List.length_append, List.length_reverse, List.length_reverse] at count
  rw [zeros] at split
  refine ⟨_, split.symm, ?_⟩
  unfold trimZeros
  simp only [List.length_reverse]
  omega

theorem read_positional (style : Style) (keeps : style.keepsPoint = true) (digits : List Char)
    (power : Int) (left : Digits digits) :
    readDecimal (positionalText style digits (digits.length + power))
      = Nat.ofDigitChars 10 digits 0 * 10 ^ power := by
  have plain := fun whole fraction left right =>
    read_pointed whole fraction [] left right (.inl rfl)
  simp only [List.append_nil] at plain
  unfold positionalText
  split
  · next small =>
    have shown := plain ['0'] (List.replicate (-((digits.length : Int) + power)).toNat '0' ++ digits)
      (digits_zeros 1) ((digits_zeros _).append left)
    rw [List.append_assoc, List.cons_append, List.cons_append, List.nil_append]
    refine shown.trans ?_
    rw [show ['0'] ++ (List.replicate (-((digits.length : Int) + power)).toNat '0' ++ digits)
      = List.replicate ((-((digits.length : Int) + power)).toNat + 1) '0' ++ digits from rfl,
      of_digit_chars_zeros_before]
    congr 2
    simp only [readPower, List.drop_nil, List.length_append, List.length_replicate]
    omega
  · split
    · next large =>
      have shown := plain (digits ++ List.replicate ((digits.length : Int) + power - digits.length).toNat '0')
        ['0'] (left.append (digits_zeros _)) (digits_zeros 1)
      refine shown.trans ?_
      rw [List.append_assoc, show List.replicate ((digits.length : Int) + power - digits.length).toNat '0'
        ++ ['0'] = List.replicate (((digits.length : Int) + power - digits.length).toNat + 1) '0' from
          List.replicate_succ'.symm, of_digit_chars_zeros_behind]
      push_cast
      rw [mul_assoc, ← zpow_natCast (10 : Rat), ← zpow_add₀ (by norm_num)]
      congr 2
      simp only [readPower, List.drop_nil, List.length_singleton]
      omega
    · next small =>
      have shown := plain (digits.take ((digits.length : Int) + power).toNat)
        (digits.drop ((digits.length : Int) + power).toNat)
        (fun c mem => left c (List.mem_of_mem_take mem))
        (fun c mem => left c (List.mem_of_mem_drop mem))
      rw [List.append_assoc, List.singleton_append]
      refine shown.trans ?_
      rw [List.take_append_drop]
      congr 2
      simp only [readPower, List.drop_nil, List.length_drop]
      omega

theorem read_power_text (power : Int) :
    readPower ((if power < 0 then '-' else '+') :: Nat.toDigits 10 power.natAbs) = power := by
  split
  · rw [readPower, Nat.ofDigitChars_ten_toDigits]
    omega
  · rw [readPower, Nat.ofDigitChars_ten_toDigits]
    · omega
    · simp

theorem read_exponent (digits : List Char) (power : Int) (left : Digits digits) :
    readDecimal (exponentText digits (digits.length + power))
      = Nat.ofDigitChars 10 digits 0 * 10 ^ power := by
  unfold exponentText
  have one : Digits (digits.take 1) := fun c mem => left c (List.mem_of_mem_take mem)
  have rest : Digits (digits.drop 1) := fun c mem => left c (List.mem_of_mem_drop mem)
  simp only
  split
  · next single =>
    rw [List.append_nil, List.append_assoc, List.cons_append, List.cons_append, List.nil_append,
      read_unpointed _ _ one, read_power_text, List.take_of_length_le (by omega)]
    congr 2
    omega
  · next several =>
    rw [List.append_assoc, List.cons_append, List.cons_append, List.nil_append,
      read_pointed _ _ _ one rest (.inr ⟨_, rfl⟩), List.take_append_drop, List.drop_one, List.tail_cons,
      read_power_text]
    cases digits with
    | nil => simp [Nat.ofDigitChars]
    | cons c rest =>
      congr 2
      simp only [List.length_cons, List.drop_one, List.tail_cons]
      omega

theorem to_digits_head (n : Nat) (nonzero : n ≠ 0) : (Nat.toDigits 10 n).head? ≠ some '0' := by
  induction n using Nat.strongRecOn with
  | ind n ih =>
    by_cases small : n < 10
    · have digits : ∀ d < 10, d ≠ 0 → some d.digitChar ≠ some '0' := by decide
      rw [Nat.toDigits_of_lt_base small, List.head?_cons]
      exact digits n small nonzero
    · rw [Nat.toDigits_of_base_le (by decide) (by omega), List.head?_append_of_ne_nil _ Nat.toDigits_ne_nil]
      exact ih (n / 10) (by omega) (by omega)

theorem is_nan_of_finite (x : Binary64) (finite : x.isFinite = true) : x.isNaN = false := by
  simp only [isFinite, bne_iff_ne, ne_eq] at finite
  simp [isNaN, finite]

-- The text of a finite number as data: zero, or digits that denote the decimal, laid out one way or
-- the other.
theorem size_text_cases (x : Binary64) (finite : x.isFinite = true) :
    (x.significand = 0 ∧ x.sizeText dataStyle = ['0', '.', '0']) ∨
      x.significand ≠ 0 ∧ ∃ digits power, Digits digits ∧ (digits ≠ [] ∧ digits.head? ≠ some '0') ∧
        (Nat.ofDigitChars 10 digits 0 : Rat) * 10 ^ power = x.decimal ∧
        (x.sizeText dataStyle = positionalText dataStyle digits (digits.length + power) ∨
          x.sizeText dataStyle = exponentText digits (digits.length + power)) := by
  unfold sizeText
  rw [x.is_nan_of_finite finite, finite]
  simp only [Bool.false_eq_true, Bool.not_true, if_false]
  by_cases zero : x.significand = 0
  · rw [if_pos zero]
    exact .inl ⟨zero, rfl⟩
  · rw [if_neg zero]
    obtain ⟨count, split, power⟩ := trimmed (Nat.toDigits 10 x.shortest.1) x.shortest.2
    have digits : Digits (trimZeros (Nat.toDigits 10 x.shortest.1) x.shortest.2).1 := fun c mem =>
      digits_to_digits x.shortest.1 c (split ▸ List.mem_append_left _ mem)
    have value := congrArg (Nat.ofDigitChars 10 · 0) split
    simp only [Nat.ofDigitChars_ten_toDigits, of_digit_chars_zeros_behind] at value
    generalize trimZeros (Nat.toDigits 10 x.shortest.1) x.shortest.2 = kept at *
    have denoted : (Nat.ofDigitChars 10 kept.1 0 : Rat) * 10 ^ kept.2 = x.decimal := by
      rw [decimal, if_neg zero, power, value]
      push_cast
      rw [zpow_add₀ (by norm_num), zpow_natCast]
      ring
    have nonempty : kept.1 ≠ [] := by
      intro empty
      have := x.decimal_pos finite zero
      rw [← denoted, empty, Nat.ofDigitChars_nil, Nat.cast_zero, zero_mul] at this
      exact lt_irrefl _ this
    have some_ : x.shortest.1 ≠ 0 := by
      intro none_
      have := x.decimal_pos finite zero
      rw [decimal, if_neg zero, none_, Nat.cast_zero, zero_mul] at this
      exact lt_irrefl _ this
    refine .inr ⟨zero, kept.1, kept.2, digits, ⟨nonempty, ?_⟩, denoted, ?_⟩
    · rw [← List.head?_append_of_ne_nil _ nonempty, ← split]
      exact to_digits_head x.shortest.1 some_
    · simp only [dataStyle]
      split
      · exact .inl rfl
      · exact .inr rfl

theorem read_size_text (x : Binary64) (finite : x.isFinite = true) :
    readDecimal (x.sizeText dataStyle) = x.decimal := by
  rcases x.size_text_cases finite with ⟨zero, shown⟩ | ⟨-, digits, power, isDigits, -, value, shown⟩
  · rw [shown, decimal, if_pos zero]
    simp [readDecimal, Nat.ofDigitChars]
  · rw [← value]
    rcases shown with shown | shown
    · rw [shown, read_positional _ rfl digits power isDigits]
    · rw [shown, read_exponent digits power isDigits]

def isNumberChar (c : Char) : Bool :=
  c.isDigit || c == '.' || c == 'e' || c == '-' || c == '+'

structure Fractional (text : List Char) : Prop where
  starts : ∃ c rest, text = c :: rest ∧ c.isDigit = true
  chars : ∀ c ∈ text, isNumberChar c = true
  marked : '.' ∈ text ∨ 'e' ∈ text

theorem Digits.chars {text : List Char} (digits : Digits text) : ∀ c ∈ text, isNumberChar c = true := by
  intro c mem
  simp [isNumberChar, digits c mem]

theorem fractional_pointed (whole rest : List Char) (left : Digits whole) (nonempty : whole ≠ [])
    (right : ∀ c ∈ rest, isNumberChar c = true) : Fractional (whole ++ '.' :: rest) := by
  refine ⟨?_, ?_, .inl (by simp)⟩
  · obtain ⟨c, more, rfl⟩ := List.exists_cons_of_ne_nil nonempty
    exact ⟨c, more ++ '.' :: rest, rfl, left c (by simp)⟩
  · intro c mem
    rcases List.mem_append.1 mem with l | r
    · exact left.chars c l
    · rcases List.mem_cons.1 r with rfl | r
      · rfl
      · exact right c r

theorem fractional_positional (digits : List Char) (places : Int) (left : Digits digits)
    (nonempty : digits ≠ []) : Fractional (positionalText dataStyle digits places) := by
  unfold positionalText
  split
  · rw [List.append_assoc]
    exact fractional_pointed ['0'] _ (digits_zeros 1) (by simp) ((digits_zeros _).append left).chars
  · split
    · exact fractional_pointed _ ['0'] (left.append (digits_zeros _)) (by simp [nonempty])
        (digits_zeros 1).chars
    · rw [List.append_assoc]
      refine fractional_pointed _ _ (fun c mem => left c (List.mem_of_mem_take mem)) ?_
        fun c mem => left.chars c (List.mem_of_mem_drop mem)
      rw [Ne, List.take_eq_nil_iff, not_or]
      exact ⟨by omega, nonempty⟩

theorem fractional_exponent (digits : List Char) (places : Int) (left : Digits digits)
    (nonempty : digits ≠ []) : Fractional (exponentText digits places) := by
  obtain ⟨c, rest, rfl⟩ := List.exists_cons_of_ne_nil nonempty
  unfold exponentText
  refine ⟨⟨c, _, rfl, left c (by simp)⟩, ?_, .inr (by simp)⟩
  have first : isNumberChar c = true := left.chars c (by simp)
  have others : ∀ d ∈ rest, isNumberChar d = true := fun d mem =>
    left.chars d (List.mem_cons_of_mem _ mem)
  have power := (digits_to_digits (places - 1).natAbs).chars
  have sign : isNumberChar (if places - 1 < 0 then '-' else '+') = true := by split <;> rfl
  intro d mem
  simp only [List.take_succ_cons, List.take_zero, List.drop_succ_cons, List.drop_zero,
    List.mem_append, List.mem_cons, List.not_mem_nil, or_false] at mem
  rcases mem with ((rfl | point) | (rfl | rfl)) | digit
  · exact first
  · split at point
    · exact absurd point (by simp)
    · rcases List.mem_cons.1 point with rfl | mem
      · rfl
      · exact others d mem
  · rfl
  · exact sign
  · exact power d digit

theorem fractional_size_text (x : Binary64) (finite : x.isFinite = true) :
    Fractional (x.sizeText dataStyle) := by
  rcases x.size_text_cases finite with ⟨-, shown⟩ | ⟨-, digits, power, isDigits, ⟨nonempty, -⟩, -, shown⟩
  · rw [shown]
    exact fractional_pointed ['0'] ['0'] (digits_zeros 1) (by simp) (digits_zeros 1).chars
  · rcases shown with shown | shown
    · rw [shown]
      exact fractional_positional digits _ isDigits nonempty
    · rw [shown]
      exact fractional_exponent digits _ isDigits nonempty

theorem render_to_list (x : Binary64) (finite : x.isFinite = true) :
    (x.render dataStyle).toList = (if x.isNegative then ['-'] else []) ++ x.sizeText dataStyle := by
  unfold render
  rw [x.is_nan_of_finite finite, String.toList_ofList]
  simp

theorem render_injective (x y : Binary64) (finite : x.isFinite = true) (finite' : y.isFinite = true)
    (same : (x.render dataStyle).toList = (y.render dataStyle).toList) : x = y := by
  rw [x.render_to_list finite, y.render_to_list finite'] at same
  have unsigned : ∀ z : Binary64, z.isFinite = true → ∀ rest, z.sizeText dataStyle ≠ '-' :: rest := by
    intro z finite rest starts
    obtain ⟨c, more, shown, digit⟩ := (z.fractional_size_text finite).starts
    rw [shown] at starts
    obtain ⟨rfl, -⟩ := List.cons.inj starts
    exact absurd digit (by decide)
  have parts : x.isNegative = y.isNegative ∧ x.sizeText dataStyle = y.sizeText dataStyle := by
    cases sign : x.isNegative <;> cases sign' : y.isNegative <;> rw [sign, sign'] at same
    · exact ⟨rfl, same⟩
    · exact absurd same (unsigned x finite _)
    · exact absurd same.symm (unsigned y finite' _)
    · exact ⟨rfl, (List.cons.inj same).2⟩
  refine eq_of_parts x y parts.1 (decimal_injective x y finite finite' ?_)
  rw [← x.read_size_text finite, ← y.read_size_text finite', parts.2]

end Binary64

end ArchiveSearch
