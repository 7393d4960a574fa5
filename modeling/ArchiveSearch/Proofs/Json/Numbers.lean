import ArchiveSearch.Json.Token
import ArchiveSearch.Proofs.Json.Compact
import ArchiveSearch.Proofs.Json.Data
import ArchiveSearch.Proofs.Number.Rounding

namespace ArchiveSearch.Json

set_option autoImplicit false

open Binary64 (Digits digits_to_digits digits_zeros dataStyle positionalText exponentText readDecimal)

def Ends (rest : List Char) : Prop :=
  ∀ c more, rest = c :: more → Binary64.isNumberChar c = false ∧ c ≠ 'E'

theorem ends_nil : Ends [] :=
  fun _ _ none_ => absurd none_ (by simp)

theorem ends_cons (c : Char) (rest : List Char) (stop : Binary64.isNumberChar c = false) (letter : c ≠ 'E') :
    Ends (c :: rest) := by
  rintro d more same
  obtain ⟨rfl, -⟩ := List.cons.inj same
  exact ⟨stop, letter⟩

def pointText : Option (List Char) → List Char
  | none => []
  | some digits => '.' :: digits

def powerText : Option Int → List Char
  | none => []
  | some power => 'e' :: (if power < 0 then '-' else '+') :: Nat.toDigits 10 power.natAbs

structure Whole (text : List Char) : Prop where
  digits : Digits text
  nonempty : text ≠ []
  alone : text.head? ≠ some '0' ∨ text.length = 1

structure Laid (whole : List Char) (fraction : Option (List Char)) : Prop where
  whole : Whole whole
  fraction : ∀ digits ∈ fraction, Digits digits ∧ digits ≠ []

theorem span_digits_read (digits rest : List Char) (isDigits : Digits digits)
    (stops : ∀ c more, rest = c :: more → c.isDigit = false) : spanDigits (digits ++ rest) = (digits, rest) := by
  obtain ⟨front, back⟩ := run_cut isDecimalDigit digits rest isDigits stops
  rw [spanDigits, front, back]

theorem power_text_stops (power : Option Int) (rest : List Char) (ends : Ends rest) (c : Char) (more : List Char)
    (same : powerText power ++ rest = c :: more) : c.isDigit = false ∧ c ≠ '.' := by
  cases power with
  | none =>
    have stop := (ends c more same).1
    simp only [Binary64.isNumberChar, Bool.or_eq_false_iff, beq_eq_false_iff_ne] at stop
    exact ⟨stop.1.1.1.1, stop.1.1.1.2⟩
  | some power =>
    obtain ⟨rfl, -⟩ := List.cons.inj same
    decide

theorem exponent_part_read (power : Option Int) (rest : List Char) (ends : Ends rest) :
    exponentPart (powerText power ++ rest) = some (power, rest) := by
  cases power with
  | none =>
    cases rest with
    | nil => rfl
    | cons c more =>
      obtain ⟨stop, letter⟩ := ends c more rfl
      have small : c ≠ 'e' := by
        rintro rfl
        exact absurd stop (by decide)
      simp [powerText, exponentPart, small, letter]
  | some power =>
    have digits := digits_to_digits power.natAbs
    have span := span_digits_read _ rest digits fun c more same => (power_text_stops none rest ends c more same).1
    have some_ : (Nat.toDigits 10 power.natAbs).isEmpty = false := by
      rw [List.isEmpty_eq_false_iff]
      exact Nat.toDigits_ne_nil
    have value : digitsValue (Nat.toDigits 10 power.natAbs) = power.natAbs := Nat.ofDigitChars_ten_toDigits
    by_cases negative : power < 0
    · simp only [powerText, if_pos negative, List.cons_append, exponentPart, beq_self_eq_true, Bool.true_or, if_true,
        span, some_, Bool.false_eq_true, if_false, value]
      rw [show -((power.natAbs : Nat) : Int) = power by omega]
    · simp only [powerText, if_neg negative, List.cons_append, exponentPart, beq_self_eq_true, Bool.true_or, if_true,
        span, some_, Bool.false_eq_true, if_false, value]
      rw [show ((power.natAbs : Nat) : Int) = power by omega]

theorem fraction_part_read (fraction : Option (List Char)) (rest : List Char)
    (laid : ∀ digits ∈ fraction, Digits digits ∧ digits ≠ [])
    (stops : ∀ c more, rest = c :: more → c.isDigit = false ∧ c ≠ '.') :
    fractionPart (pointText fraction ++ rest) = some (fraction, rest) := by
  cases fraction with
  | none =>
    cases rest with
    | nil => rfl
    | cons c more =>
      have unpointed := (stops c more rfl).2
      rw [pointText, List.nil_append, fractionPart]
      rintro after same
      exact unpointed (List.cons.inj same).1
  | some digits =>
    obtain ⟨isDigits, nonempty⟩ := laid digits rfl
    have span := span_digits_read digits rest isDigits fun c more same => (stops c more same).1
    simp [pointText, fractionPart, span, nonempty]

theorem unsigned_number_read (negative : Bool) (whole : List Char) (fraction : Option (List Char)) (power : Option Int)
    (rest : List Char) (laid : Laid whole fraction) (ends : Ends rest) :
    unsignedNumber negative (whole ++ (pointText fraction ++ (powerText power ++ rest))) =
      some (numberValue negative whole fraction power, rest) := by
  have stops := power_text_stops power rest ends
  have span := span_digits_read whole (pointText fraction ++ (powerText power ++ rest)) laid.whole.digits (by
    intro c more same
    cases fraction with
    | none => exact (stops c more same).1
    | some digits =>
      obtain ⟨rfl, -⟩ := List.cons.inj same
      decide)
  have alone : (whole.isEmpty || (whole.head? == some '0' && whole.length != 1)) = false := by
    rw [Bool.or_eq_false_iff, List.isEmpty_eq_false_iff, Bool.and_eq_false_iff, beq_eq_false_iff_ne,
      bne_eq_false_iff_eq]
    exact ⟨laid.whole.nonempty, laid.whole.alone⟩
  unfold unsignedNumber
  simp only [span, alone, Bool.false_eq_true, if_false, fraction_part_read fraction _ laid.fraction stops,
    exponent_part_read power rest ends]

theorem number_laid (negative : Bool) (whole : List Char) (fraction : Option (List Char)) (power : Option Int)
    (rest : List Char) (laid : Laid whole fraction) (ends : Ends rest) :
    number ((if negative then ['-'] else []) ++ (whole ++ (pointText fraction ++ (powerText power ++ rest)))) =
      some (numberValue negative whole fraction power, rest) := by
  have read := unsigned_number_read negative whole fraction power rest laid ends
  cases negative with
  | true => exact read
  | false =>
    obtain ⟨c, more, shown⟩ := List.exists_cons_of_ne_nil laid.whole.nonempty
    have digit := laid.whole.digits c (by simp [shown])
    rw [if_neg Bool.false_ne_true, List.nil_append]
    rw [shown, List.cons_append] at read ⊢
    rw [number]
    · exact read
    · rintro after same
      rw [(List.cons.inj same).1] at digit
      exact absurd digit (by decide)

theorem whole_to_digits (n : Nat) : Whole (Nat.toDigits 10 n) where
  digits := digits_to_digits n
  nonempty := Nat.toDigits_ne_nil
  alone := by
    by_cases zero : n = 0
    · exact .inr (by rw [zero]; rfl)
    · exact .inl (Binary64.to_digits_head n zero)

theorem integer_restored (n : Int) (data : (Json.integer n).isData = true) (rest : List Char) (ends : Ends rest) :
    number (n.repr.toList ++ rest) = some (some (.integer n), rest) := by
  have laid : Laid (Nat.toDigits 10 n.natAbs) none := ⟨whole_to_digits _, by simp⟩
  have value : digitsValue (Nat.toDigits 10 n.natAbs) = n.natAbs := Nat.ofDigitChars_ten_toDigits
  simp only [isData, Bound.int64, Bound.word64, Bool.and_eq_true, decide_eq_true_eq] at data
  rcases integer_chars n with ⟨natural, shown⟩ | ⟨negative, shown⟩
  · have read := number_laid false _ none none rest laid ends
    simp only [Bool.false_eq_true, if_false, pointText, powerText, List.nil_append] at read
    rw [shown, read]
    have fits : n.natAbs < Bound.word64 := by unfold Bound.word64; omega
    simp only [numberValue, value, wholeNumber, Bool.false_eq_true, if_false, if_pos fits]
    rw [show ((n.natAbs : Nat) : Int) = n by omega]
  · have read := number_laid true _ none none rest laid ends
    simp only [if_true, pointText, powerText, List.nil_append, List.cons_append] at read
    rw [shown, List.cons_append, read]
    have some_ : ¬ n.natAbs = 0 := by omega
    have fits : n.natAbs ≤ Bound.int64 := by unfold Bound.int64; omega
    simp only [numberValue, value, wholeNumber, if_true, if_neg some_, if_pos fits]
    rw [show -((n.natAbs : Nat) : Int) = n by omega]

theorem laid_positional (digits : List Char) (places : Int) (isDigits : Digits digits) (nonempty : digits ≠ [])
    (leads : digits.head? ≠ some '0') : ∃ whole fraction,
      positionalText dataStyle digits places = whole ++ pointText (some fraction) ∧ Laid whole (some fraction) := by
  unfold positionalText
  by_cases small : places ≤ 0
  · refine ⟨['0'], List.replicate (-places).toNat '0' ++ digits, by rw [if_pos small]; rfl,
      ⟨digits_zeros 1, by simp, .inr rfl⟩, ?_⟩
    rintro _ ⟨⟩
    exact ⟨(digits_zeros _).append isDigits, by simp [nonempty]⟩
  · rw [if_neg small]
    by_cases large : (digits.length : Int) ≤ places
    · refine ⟨digits ++ List.replicate (places - digits.length).toNat '0', ['0'], by rw [if_pos large]; rfl,
        ⟨isDigits.append (digits_zeros _), by simp [nonempty], .inl ?_⟩, ?_⟩
      · rwa [List.head?_append_of_ne_nil _ nonempty]
      · rintro _ ⟨⟩
        exact ⟨digits_zeros 1, by simp⟩
    · refine ⟨digits.take places.toNat, digits.drop places.toNat, by rw [if_neg large, List.append_assoc]; rfl,
        ⟨fun c mem => isDigits c (List.mem_of_mem_take mem), ?_, .inl ?_⟩, ?_⟩
      · rw [Ne, List.take_eq_nil_iff, not_or]
        exact ⟨by omega, nonempty⟩
      · rwa [List.head?_take, if_neg (by omega)]
      · rintro _ ⟨⟩
        refine ⟨fun c mem => isDigits c (List.mem_of_mem_drop mem), ?_⟩
        rw [Ne, List.drop_eq_nil_iff]
        omega

theorem laid_exponent (digits : List Char) (places : Int) (isDigits : Digits digits) (nonempty : digits ≠ []) :
    ∃ whole fraction, exponentText digits places = whole ++ (pointText fraction ++ powerText (some (places - 1))) ∧
      Laid whole fraction := by
  obtain ⟨c, more, rfl⟩ := List.exists_cons_of_ne_nil nonempty
  have first : Whole [c] := ⟨fun d mem => isDigits d (by simp_all), by simp, .inr rfl⟩
  have others : Digits more := fun d mem => isDigits d (List.mem_cons_of_mem _ mem)
  unfold exponentText
  by_cases single : more = []
  · subst single
    exact ⟨[c], none, rfl, first, by simp⟩
  · refine ⟨[c], some more, ?_, first, ?_⟩
    · rw [if_neg (by simpa using single)]
      simp [pointText, powerText]
    · rintro _ ⟨⟩
      exact ⟨others, single⟩

theorem size_text_laid (x : Binary64) (finite : x.isFinite = true) : ∃ whole fraction power,
    x.sizeText dataStyle = whole ++ (pointText fraction ++ powerText power) ∧ Laid whole fraction ∧
      (fraction ≠ none ∨ power ≠ none) := by
  rcases x.size_text_cases finite with ⟨-, shown⟩ | ⟨-, digits, power, isDigits, ⟨nonempty, leads⟩, -, shown | shown⟩
  · refine ⟨['0'], some ['0'], none, shown, ⟨⟨digits_zeros 1, by simp, .inr rfl⟩, ?_⟩, .inl (by simp)⟩
    rintro _ ⟨⟩
    exact ⟨digits_zeros 1, by simp⟩
  · obtain ⟨whole, fraction, text, laid⟩ := laid_positional digits (digits.length + power) isDigits nonempty leads
    exact ⟨whole, some fraction, none, by rw [shown, text]; simp [powerText], laid, .inl (by simp)⟩
  · obtain ⟨whole, fraction, text, laid⟩ := laid_exponent digits (digits.length + power) isDigits nonempty
    exact ⟨whole, fraction, _, shown.trans text, laid, .inr (by simp)⟩

theorem read_power_power_text (power : Option Int) : Binary64.readPower ((powerText power).drop 1) = power.getD 0 := by
  cases power with
  | none => rfl
  | some power => exact Binary64.read_power_text power

theorem read_decimal_laid (whole : List Char) (fraction : Option (List Char)) (power : Option Int)
    (laid : Laid whole fraction) (marked : fraction ≠ none ∨ power ≠ none) :
    readDecimal (whole ++ (pointText fraction ++ powerText power)) =
      digitsValue (whole ++ fraction.getD []) * 10 ^ (power.getD 0 - (fraction.getD []).length) := by
  have value : ∀ digits, Nat.ofDigitChars 10 digits 0 = digitsValue digits := fun _ => rfl
  cases fraction with
  | none =>
    cases power with
    | none => simp at marked
    | some power =>
      refine (Binary64.read_unpointed whole _ laid.whole.digits).trans ?_
      rw [Binary64.read_power_text, value, Option.getD_none, List.append_nil, Option.getD_some, List.length_nil,
        Nat.cast_zero, sub_zero]
  | some digits =>
    have stops : powerText power = [] ∨ ∃ rest, powerText power = 'e' :: rest := by
      cases power with
      | none => exact .inl rfl
      | some power => exact .inr ⟨_, rfl⟩
    have read := Binary64.read_pointed whole digits (powerText power) laid.whole.digits (laid.fraction digits rfl).1 stops
    rwa [List.append_assoc, read_power_power_text, value] at read

theorem of_decimal_restored (x : Binary64) (finite : x.isFinite = true) (digits : Nat) (power : Int)
    (denoted : (digits : Rat) * 10 ^ power = x.decimal) : Binary64.ofDecimal x.isNegative digits power = x := by
  by_cases zero : x.significand = 0
  · rw [Binary64.decimal, if_pos zero, mul_eq_zero, or_iff_left (by positivity)] at denoted
    have none_ : digits = 0 := by exact_mod_cast denoted
    have size := x.significand_eq_zero_iff.1 zero
    rw [Binary64.ofDecimal, if_pos none_, ← size, x.with_sign_parts]
  · have admitted := x.shortest_admitted finite zero
    rw [Binary64.decimal, if_neg zero] at denoted
    rw [← denoted] at admitted
    rw [Binary64.of_decimal_admitted x.isNegative digits power x finite zero admitted, x.with_sign_parts]

theorem real_restored (x : Binary64) (finite : x.isFinite = true) (rest : List Char) (ends : Ends rest) :
    number ((x.render dataStyle).toList ++ rest) = some (some (.real x), rest) := by
  obtain ⟨whole, fraction, power, shown, laid, marked⟩ := size_text_laid x finite
  have denoted := read_decimal_laid whole fraction power laid marked
  rw [← shown, x.read_size_text finite] at denoted
  have restored := of_decimal_restored x finite _ _ denoted.symm
  rw [x.render_to_list finite, shown, List.append_assoc, List.append_assoc, List.append_assoc,
    number_laid x.isNegative whole fraction power rest laid ends]
  have value : numberValue x.isNegative whole fraction power = some (.real x) := by
    cases fraction with
    | none =>
      cases power with
      | none => simp at marked
      | some power => simp only [numberValue, restored, finite, if_true]
    | some digits => simp only [numberValue, restored, finite, if_true]
  rw [value]

end ArchiveSearch.Json
