import ArchiveSearch.Calendar.DateReader
import ArchiveSearch.Proofs.Calendar.Days
import ArchiveSearch.Proofs.Number.Layout

namespace ArchiveSearch.DateReader

set_option autoImplicit false

theorem step_bind_ok_iff {α β : Type} (first : Step α) (next : α → Step β) (cs out : List Char) (b : β) :
    (first >>= next) cs = .ok (b, out) ↔
      ∃ a rest, first cs = .ok (a, rest) ∧ next a rest = .ok (b, out) := by
  change (first cs >>= fun found => next found.1 found.2) = _ ↔ _
  cases first cs with
  | error fault => simp [bind, Except.bind]
  | ok found =>
      constructor
      · exact fun done => ⟨found.1, found.2, rfl, done⟩
      · rintro ⟨a, rest, ⟨⟩, done⟩
        exact done

theorem step_pure {α : Type} (a : α) (cs : List Char) : (pure a : Step α) cs = .ok (a, cs) :=
  rfl

theorem literal_ok_iff (c : Char) (cs out : List Char) (u : Unit) :
    literal c cs = .ok (u, out) ↔ cs = c :: out := by
  cases cs with
  | nil => simp [literal]
  | cons first rest => by_cases same : first = c <;> simp [literal, same]

theorem finish_ok_iff (cs out : List Char) (u : Unit) : finish cs = .ok (u, out) ↔ cs = [] ∧ out = [] := by
  cases cs with
  | nil => simp [finish, eq_comm]
  | cons first rest => simp [finish]

theorem date_ok_iff (found : Int × Nat × Nat) (cs out : List Char) (d : Date) :
    date found cs = .ok (d, out) ↔ Date.of? found.1 found.2.1 found.2.2 = some d ∧ cs = out := by
  unfold date
  cases Date.of? found.1 found.2.1 found.2.2 with
  | none => simp [fail]
  | some real => simp [step_pure]

theorem run_ok_iff {α : Type} (step : Step α) (text : String) (a : α) :
    run step text = .ok a ↔ ∃ out, step text.toList = .ok (a, out) := by
  unfold run
  cases step text.toList with
  | error fault => simp [Except.map]
  | ok found => simp [Except.map, Prod.ext_iff, eq_comm]

theorem trim_start_solid (c : Char) (rest : List Char) (solid : Text.isBlank c = false) :
    Text.trimStart (c :: rest) = c :: rest := by
  rw [Text.trimStart, List.dropWhile_cons, solid]
  rfl

def Spelled (gap : Step Unit) (cs out : List Char) (found : Int × Nat × Nat) : Prop :=
  ∃ afterYear beforeMonth afterMonth beforeDay, year cs = .ok (found.1, afterYear) ∧
    gap afterYear = .ok ((), '-' :: beforeMonth) ∧ field 2 1 12 beforeMonth = .ok (found.2.1, afterMonth) ∧
    gap afterMonth = .ok ((), '-' :: beforeDay) ∧ field 2 1 31 beforeDay = .ok (found.2.2, out)

theorem parts_ok_iff (gap : Step Unit) (cs out : List Char) (found : Int × Nat × Nat) :
    parts gap cs = .ok (found, out) ↔ Spelled gap cs out found := by
  unfold parts
  simp only [step_bind_ok_iff, literal_ok_iff, step_pure]
  constructor
  · rintro ⟨y, afterYear, isYear, _, _, open_, _, beforeMonth, rfl, m, afterMonth, isMonth, _, _, between, _,
      beforeDay, rfl, d, _, isDay, ⟨⟩⟩
    exact ⟨afterYear, beforeMonth, afterMonth, beforeDay, isYear, open_, isMonth, between, isDay⟩
  · rintro ⟨afterYear, beforeMonth, afterMonth, beforeDay, isYear, open_, isMonth, between, isDay⟩
    exact ⟨_, afterYear, isYear, _, _, open_, (), beforeMonth, rfl, _, afterMonth, isMonth, _, _, between, (),
      beforeDay, rfl, _, out, isDay, rfl⟩

theorem Spelled.loosened {cs out : List Char} {found : Int × Nat × Nat}
    (spelled : Spelled (pure ()) cs out found) : Spelled skipBlanks cs out found := by
  obtain ⟨afterYear, beforeMonth, afterMonth, beforeDay, isYear, open_, isMonth, between, isDay⟩ := spelled
  cases open_
  cases between
  exact ⟨_, _, _, _, isYear, rfl, isMonth, rfl, isDay⟩

theorem strict_ok_iff (text : String) (d : Date) :
    strict text = .ok d ↔
      ∃ found, Spelled (pure ()) text.toList [] found ∧ Date.of? found.1 found.2.1 found.2.2 = some d := by
  unfold strict
  simp only [run_ok_iff, step_bind_ok_iff, parts_ok_iff, finish_ok_iff, date_ok_iff]
  constructor
  · rintro ⟨_, found, _, spelled, _, _, ⟨rfl, rfl⟩, real, _⟩
    exact ⟨found, spelled, real⟩
  · rintro ⟨found, spelled, real⟩
    exact ⟨[], found, [], spelled, (), [], ⟨rfl, rfl⟩, real, rfl⟩

theorem loose_of_spelled (text : String) (d : Date) (found : Int × Nat × Nat)
    (spelled : Spelled skipBlanks text.toList [] found)
    (real : Date.of? found.1 found.2.1 found.2.2 = some d) : loose text = .ok d := by
  unfold loose
  simp only [run_ok_iff, step_bind_ok_iff, parts_ok_iff, finish_ok_iff, date_ok_iff]
  exact ⟨[], found, [], spelled, (), [], rfl, (), [], ⟨rfl, rfl⟩, real, rfl⟩

theorem loose_of_strict (text : String) (d : Date) (read : strict text = .ok d) : loose text = .ok d := by
  obtain ⟨found, spelled, real⟩ := (strict_ok_iff text d).1 read
  exact loose_of_spelled text d found spelled.loosened real

theorem is_digit_eq (c : Char) : isDigit c = c.isDigit := by
  simp [isDigit, Char.isDigit, Char.le_def]

theorem digit_bounds (c : Char) (digit : c.isDigit = true) : 48 ≤ c.toNat ∧ c.toNat ≤ 57 := by
  simpa [Char.isDigit, UInt32.le_iff_toNat_le] using digit

theorem digit_solid (c : Char) (digit : c.isDigit = true) : Text.isBlank c = false := by
  have bounds := digit_bounds c digit
  simp [Text.isBlank]
  omega

def within (most : Option Nat) (cs : List Char) : List Char :=
  match most with
  | some n => cs.take n
  | none => cs

theorem number_eq (most : Option Nat) (first : Char) (others : List Char) (digit : isDigit first = true) :
    number most (first :: others) =
      let digits := (within most (first :: others)).takeWhile isDigit
      if largest < digitsValue digits then .error .outOfRange
      else .ok (digitsValue digits, (first :: others).drop digits.length) := by
  cases most <;> (simp only [number, within, digit]; rfl)

def Ends (most : Option Nat) (digits rest : List Char) : Prop :=
  match most with
  | some n => digits.length = n
  | none => ∀ c more, rest = c :: more → c.isDigit = false

theorem number_taken (most : Option Nat) (digits rest : List Char) (all : ∀ c ∈ digits, isDigit c = true)
    (nonempty : digits ≠ []) (taken : (within most (digits ++ rest)).takeWhile isDigit = digits)
    (small : digitsValue digits ≤ largest) : number most (digits ++ rest) = .ok (digitsValue digits, rest) := by
  cases digits with
  | nil => exact absurd rfl nonempty
  | cons first others =>
    rw [List.cons_append, number_eq most first _ (all first List.mem_cons_self), ← List.cons_append, taken]
    dsimp only
    rw [if_neg (Nat.not_lt.2 small), List.drop_left]

theorem number_reads (most : Option Nat) (digits rest : List Char) (isDigits : Binary64.Digits digits)
    (nonempty : digits ≠ []) (ends : Ends most digits rest) (small : digitsValue digits ≤ largest) :
    number most (digits ++ rest) = .ok (digitsValue digits, rest) := by
  have all : ∀ c ∈ digits, isDigit c = true := fun c mem => (is_digit_eq c).trans (isDigits c mem)
  refine number_taken most digits rest all nonempty ?_ small
  cases most with
  | some n => rw [within, ← show digits.length = n from ends, List.take_left, List.takeWhile_eq_self_iff.2 all]
  | none => exact (run_cut isDigit digits rest all fun c more same => (is_digit_eq c).trans (ends c more same)).1

theorem digits_value_padded (width n : Nat) : digitsValue (Date.padded width n) = n :=
  (Binary64.of_digit_chars_zeros_before _ _).trans Nat.ofDigitChars_ten_toDigits

theorem digits_padded (width n : Nat) : Binary64.Digits (Date.padded width n) :=
  (Binary64.digits_zeros _).append (Binary64.digits_to_digits n)

theorem padded_ne_nil (width n : Nat) : Date.padded width n ≠ [] :=
  List.append_ne_nil_of_right_ne_nil _ (Nat.toDigits_ne_nil)

theorem padded_length (width n : Nat) (positive : 0 < width) (fits : n < 10 ^ width) :
    (Date.padded width n).length = width := by
  have short := (Nat.length_toDigits_le_iff (by decide) positive).2 fits
  simp only [Date.padded, List.length_append, List.length_replicate]
  omega

theorem padded_trimmed (width n : Nat) (rest : List Char) :
    Text.trimStart (Date.padded width n ++ rest) = Date.padded width n ++ rest := by
  cases shown : Date.padded width n with
  | nil => exact absurd shown (padded_ne_nil width n)
  | cons c more =>
    exact trim_start_solid c _ (digit_solid c (digits_padded width n c (shown ▸ List.mem_cons_self)))

theorem field_reads (digits least most n : Nat) (rest : List Char) (positive : 0 < digits)
    (fits : n < 10 ^ digits) (small : n ≤ largest) (low : least ≤ n) (high : n ≤ most) :
    field digits least most (Date.padded digits n ++ rest) = .ok (n, rest) := by
  unfold field
  simp only [step_bind_ok_iff]
  refine ⟨(), _, rfl, n, rest, ?_, ?_⟩
  · rw [padded_trimmed]
    have read := number_reads (some digits) (Date.padded digits n) rest (digits_padded digits n)
      (padded_ne_nil digits n) (padded_length digits n positive fits) (by rwa [digits_value_padded])
    rwa [digits_value_padded] at read
  · simp [low, high, step_pure]

theorem padded_unsigned (width n : Nat) (sign : Char) (rest more : List Char) (mark : sign.isDigit = false) :
    Date.padded width n ++ rest ≠ sign :: more := by
  intro same
  cases shown : Date.padded width n with
  | nil => exact padded_ne_nil _ _ shown
  | cons first others =>
    rw [shown, List.cons_append] at same
    have digit := digits_padded width n first (shown ▸ List.mem_cons_self)
    exact Binary64.digit_ne first sign digit mark (List.cons.inj same).1

theorem year_digits (y : Int) (rest : List Char) (most : Option Nat) (size : y.natAbs ≤ largest)
    (ends : Ends most (Date.padded 4 y.natAbs) ('-' :: rest)) :
    number most (Date.padded 4 y.natAbs ++ '-' :: rest) = .ok (y.natAbs, '-' :: rest) := by
  have read := number_reads most _ ('-' :: rest) (digits_padded 4 y.natAbs) (padded_ne_nil _ _) ends
    (by rwa [digits_value_padded])
  rwa [digits_value_padded] at read

theorem year_kept (y value : Int) (cs : List Char) (same : value = y) (low : Calendar.firstYear ≤ y)
    (high : y ≤ Calendar.lastYear) :
    ∃ a out, (pure value : Step Int) cs = .ok (a, out) ∧
      (if (-(Bound.int32 : Int) ≤ a && a < Bound.int32) = true then pure a else fail .outOfRange : Step Int) out
        = .ok (y, cs) := by
  subst same
  refine ⟨value, cs, rfl, ?_⟩
  have bounds : -262143 ≤ value ∧ value ≤ 262142 := ⟨low, high⟩
  rw [if_pos, step_pure]
  rw [Bool.and_eq_true, decide_eq_true_eq, decide_eq_true_eq]
  change -2147483648 ≤ value ∧ value < 2147483648
  omega

theorem year_reads (y : Int) (rest : List Char) (low : Calendar.firstYear ≤ y) (high : y ≤ Calendar.lastYear) :
    year (Date.yearChars y ++ '-' :: rest) = .ok (y, '-' :: rest) := by
  have bounds : -262143 ≤ y ∧ y ≤ 262142 := ⟨low, high⟩
  have size : y.natAbs ≤ largest := by
    change y.natAbs ≤ 9223372036854775807
    omega
  have unlimited := year_digits y rest none size (by rintro c more ⟨⟩; rfl)
  unfold year Date.yearChars
  simp only [step_bind_ok_iff]
  by_cases negative : y < 0
  · rw [if_pos negative]
    refine ⟨(), _, rfl, _, _, rfl, ?_⟩
    rw [List.cons_append, trim_start_solid '-' _ rfl]
    simp only [step_bind_ok_iff]
    exact ⟨(), _, rfl, _, _, unlimited, year_kept y _ _ (by omega) low high⟩
  · rw [if_neg negative]
    by_cases long : 9999 < y
    · rw [if_pos long]
      refine ⟨(), _, rfl, _, _, rfl, ?_⟩
      rw [List.cons_append, trim_start_solid '+' _ rfl]
      simp only [step_bind_ok_iff]
      exact ⟨(), _, rfl, _, _, unlimited, year_kept y _ _ (by omega) low high⟩
    · rw [if_neg long]
      have limited := year_digits y rest (some 4) size (padded_length 4 _ (by decide) (by omega))
      refine ⟨(), _, rfl, _, _, rfl, ?_⟩
      rw [padded_trimmed]
      -- A digit stands in front, so neither sign is read.
      have notMinus : ∀ more, Date.padded 4 y.natAbs ++ '-' :: rest = '-' :: more → False :=
        fun more => padded_unsigned 4 _ '-' _ more rfl
      have notPlus : ∀ more, Date.padded 4 y.natAbs ++ '-' :: rest = '+' :: more → False :=
        fun more => padded_unsigned 4 _ '+' _ more rfl
      simp only [step_bind_ok_iff]
      exact ⟨_, _, limited, year_kept y _ _ (by omega) low high⟩

theorem chars_spelled (d : Date) (rest : List Char) :
    Spelled (pure ()) (d.chars ++ rest) rest (d.year, d.month, d.day) := by
  obtain ⟨⟨low, high⟩, ⟨januaryOn, decemberOff⟩, firstOn, lastOff⟩ := (Calendar.is_date_iff _ _ _).1 d.isReal
  have short := Nat.le_trans lastOff (Calendar.days_in_month_le d.year d.month)
  rw [Date.chars]
  simp only [List.append_assoc, List.cons_append]
  refine ⟨_, Date.padded 2 d.month ++ '-' :: (Date.padded 2 d.day ++ rest), '-' :: (Date.padded 2 d.day ++ rest),
    Date.padded 2 d.day ++ rest, year_reads d.year _ low high, rfl, ?_, rfl, ?_⟩
  · exact field_reads 2 1 12 d.month _ (by decide) (by omega) (by change d.month ≤ 9223372036854775807; omega)
      januaryOn decemberOff
  · exact field_reads 2 1 31 d.day rest (by decide) (by omega) (by change d.day ≤ 9223372036854775807; omega) firstOn
      short

theorem text_spelled (d : Date) :
    Spelled (pure ()) d.text.toList [] (d.year, d.month, d.day) := by
  have spelled := chars_spelled d []
  rwa [List.append_nil, ← String.toList_ofList (l := d.chars)] at spelled

theorem of_parts (d : Date) : Date.of? d.year d.month d.day = some d :=
  dif_pos d.isReal

theorem strict_text (d : Date) : strict d.text = .ok d :=
  (strict_ok_iff d.text d).2 ⟨_, text_spelled d, of_parts d⟩

theorem loose_text (d : Date) : loose d.text = .ok d :=
  loose_of_strict d.text d (strict_text d)

end ArchiveSearch.DateReader
