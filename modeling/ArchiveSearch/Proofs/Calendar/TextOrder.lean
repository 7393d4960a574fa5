import ArchiveSearch.Proofs.Calendar.Reading

/- The order of dates as texts. Texts are compared character by character, and the texts of dates are ASCII, so this is the
   order of their bytes as well. Within a year it is the order of the calendar. Two years compare by their signs, a plus
   before a minus and both before digits, then by their digits from the left, and a number comes before those that begin
   with it. -/
namespace ArchiveSearch

set_option autoImplicit false

open Binary64 (Digits)
open DateReader (digit_bounds digitsValue)

theorem append_lt_iff (xs ys as bs : List Char) (even : xs.length = ys.length) :
    xs ++ as < ys ++ bs ↔ xs < ys ∨ xs = ys ∧ as < bs := by
  induction xs generalizing ys with
  | nil =>
      cases ys with
      | nil => simp
      | cons y ys => cases even
  | cons x xs ih =>
      cases ys with
      | nil => cases even
      | cons y ys =>
          have tails : xs ++ as < ys ++ bs ↔ xs < ys ∨ xs = ys ∧ as < bs := ih ys (Nat.succ.inj even)
          rw [List.cons_append, List.cons_append, List.cons_lt_cons_iff, List.cons_lt_cons_iff, List.cons.injEq, tails]
          tauto

theorem char_lt_iff (c d : Char) : c < d ↔ c.toNat < d.toNat :=
  Iff.rfl

theorem ended_lt_iff (xs ys as bs : List Char) (left : Digits xs) (right : Digits ys) (apart : xs ≠ ys) :
    xs ++ '-' :: as < ys ++ '-' :: bs ↔ xs < ys := by
  have hyphen : '-'.toNat = 45 := rfl
  induction xs generalizing ys with
  | nil =>
      cases ys with
      | nil => exact absurd rfl apart
      | cons y ys =>
          have bounds := digit_bounds y (right y List.mem_cons_self)
          have before : '-' < y := (char_lt_iff _ _).2 (by omega)
          simp [List.cons_lt_cons_iff, before]
  | cons x xs ih =>
      cases ys with
      | nil =>
          have bounds := digit_bounds x (left x List.mem_cons_self)
          have behind : ¬ x < '-' := fun less => by
            have below := (char_lt_iff _ _).1 less
            omega
          have other : x ≠ '-' := Binary64.digit_ne x '-' (left x List.mem_cons_self) rfl
          simp [List.cons_lt_cons_iff, behind, other]
      | cons y ys =>
          rw [List.cons_append, List.cons_append, List.cons_lt_cons_iff, List.cons_lt_cons_iff]
          by_cases same : x = y
          · subst same
            have tails : xs ++ '-' :: as < ys ++ '-' :: bs ↔ xs < ys :=
              ih ys (fun c mem => left c (List.mem_cons_of_mem _ mem))
                (fun c mem => right c (List.mem_cons_of_mem _ mem)) fun equal => apart (congrArg _ equal)
            rw [tails]
          · simp [same]

theorem digits_value_cons (c : Char) (digits : List Char) :
    digitsValue (c :: digits) = (c.toNat - 48) * 10 ^ digits.length + digitsValue digits := by
  show Nat.ofDigitChars 10 (c :: digits) 0 = _ + Nat.ofDigitChars 10 digits 0
  rw [Nat.ofDigitChars_cons, Nat.ofDigitChars_eq_ofDigitChars_zero, Nat.mul_zero, Nat.zero_add, Nat.mul_comm]
  rfl

theorem digits_value_lt (digits : List Char) (all : Digits digits) : digitsValue digits < 10 ^ digits.length := by
  induction digits with
  | nil => decide
  | cons c digits ih =>
      have bounds := digit_bounds c (all c List.mem_cons_self)
      have rest := ih fun d mem => all d (List.mem_cons_of_mem _ mem)
      have top : (c.toNat - 48) * 10 ^ digits.length ≤ 9 * 10 ^ digits.length :=
        Nat.mul_le_mul_right _ (by omega)
      rw [digits_value_cons, List.length_cons, Nat.pow_succ]
      omega

theorem digits_lt_iff (xs ys : List Char) (left : Digits xs) (right : Digits ys) (i j : Nat)
    (even : xs.length + i = ys.length + j) :
    xs < ys ↔ digitsValue xs * 10 ^ i < digitsValue ys * 10 ^ j ∨
      digitsValue xs * 10 ^ i = digitsValue ys * 10 ^ j ∧ xs.length < ys.length := by
  have none_ : digitsValue [] = 0 := rfl
  induction xs generalizing ys with
  | nil =>
      cases ys with
      | nil => simp [none_]
      | cons y ys =>
          simp only [none_, Nat.zero_mul, List.nil_lt_cons, List.length_nil, List.length_cons, Nat.zero_lt_succ,
            and_true, true_iff]
          omega
  | cons x xs ih =>
      cases ys with
      | nil => simp [none_]
      | cons y ys =>
          have xDigit := digit_bounds x (left x List.mem_cons_self)
          have yDigit := digit_bounds y (right y List.mem_cons_self)
          have left' : Digits xs := fun c mem => left c (List.mem_cons_of_mem _ mem)
          have right' : Digits ys := fun c mem => right c (List.mem_cons_of_mem _ mem)
          have even' : xs.length + i = ys.length + j := by
            simp only [List.length_cons] at even
            omega
          have tails : xs < ys ↔ digitsValue xs * 10 ^ i < digitsValue ys * 10 ^ j ∨
              digitsValue xs * 10 ^ i = digitsValue ys * 10 ^ j ∧ xs.length < ys.length := ih ys left' right' even'
          -- The first digits weigh more than all that follows them.
          have filled : ∀ (digits : List Char) (zeros : Nat), Digits digits →
              digitsValue digits * 10 ^ zeros < 10 ^ (digits.length + zeros) := by
            intro digits zeros all
            rw [Nat.pow_add]
            exact Nat.mul_lt_mul_of_pos_right (digits_value_lt digits all) (Nat.pow_pos (by decide))
          have xRest := filled xs i left'
          have yRest := filled ys j right'
          have xValue : digitsValue (x :: xs) * 10 ^ i =
              (x.toNat - 48) * 10 ^ (ys.length + j) + digitsValue xs * 10 ^ i := by
            rw [digits_value_cons, Nat.add_mul, Nat.mul_assoc, ← Nat.pow_add, even']
          have yValue : digitsValue (y :: ys) * 10 ^ j =
              (y.toNat - 48) * 10 ^ (ys.length + j) + digitsValue ys * 10 ^ j := by
            rw [digits_value_cons, Nat.add_mul, Nat.mul_assoc, ← Nat.pow_add]
          rw [even'] at xRest
          rw [List.cons_lt_cons_iff, tails, xValue, yValue, List.length_cons, List.length_cons, char_lt_iff,
            ← Char.toNat_inj]
          generalize digitsValue xs * 10 ^ i = a at *
          generalize digitsValue ys * 10 ^ j = b at *
          generalize 10 ^ (ys.length + j) = unit at *
          rcases Nat.lt_trichotomy x.toNat y.toNat with less | same | more
          · have gap : (x.toNat - 48 + 1) * unit ≤ (y.toNat - 48) * unit := Nat.mul_le_mul_right _ (by omega)
            rw [Nat.add_mul, Nat.one_mul] at gap
            exact iff_of_true (.inl less) (.inl (by omega))
          · rw [same]
            simp
          · have gap : (y.toNat - 48 + 1) * unit ≤ (x.toNat - 48) * unit := Nat.mul_le_mul_right _ (by omega)
            rw [Nat.add_mul, Nat.one_mul] at gap
            exact iff_of_false (by omega) (by omega)

theorem padded_injective (width m n : Nat) (same : Date.padded width m = Date.padded width n) : m = n := by
  rw [← DateReader.digits_value_padded width m, same, DateReader.digits_value_padded]

theorem padded_even_lt_iff (width m n : Nat) (positive : 0 < width) (left : m < 10 ^ width) (right : n < 10 ^ width) :
    Date.padded width m < Date.padded width n ↔ m < n := by
  have leftLength := DateReader.padded_length width m positive left
  have rightLength := DateReader.padded_length width n positive right
  rw [digits_lt_iff _ _ (DateReader.digits_padded width m) (DateReader.digits_padded width n) 0 0 (by omega),
    DateReader.digits_value_padded, DateReader.digits_value_padded]
  omega

def digitsRank (n : Nat) : Nat :=
  if n < 10000 then 1000 * n + 4 else if n < 100000 then 100 * n + 5 else 10 * n + 6

theorem digits_rank_spelled (n : Nat) (fits : n < 1000000) :
    ∃ zeros, (Date.padded 4 n).length + zeros = 6 ∧
      digitsRank n = 10 * (n * 10 ^ zeros) + (Date.padded 4 n).length := by
  have longest : ∀ k, 0 < k → ((Nat.toDigits 10 n).length ≤ k ↔ n < 10 ^ k) := fun k positive =>
    Nat.length_toDigits_le_iff (by decide) positive
  have size : (Date.padded 4 n).length = max 4 (Nat.toDigits 10 n).length := by
    simp only [Date.padded, List.length_append, List.length_replicate]
    omega
  unfold digitsRank
  split_ifs with short middle
  · have four := (longest 4 (by decide)).2 short
    exact ⟨2, by omega, by omega⟩
  · have most := (longest 5 (by decide)).2 middle
    have least := mt (longest 4 (by decide)).1 short
    exact ⟨1, by omega, by omega⟩
  · have most := (longest 6 (by decide)).2 fits
    have least := mt (longest 5 (by decide)).1 middle
    exact ⟨0, by omega, by omega⟩

theorem digits_rank_lt (n : Nat) (fits : n < 1000000) : digitsRank n < 10000000 := by
  unfold digitsRank
  split_ifs <;> omega

theorem padded_lt_iff (m n : Nat) (left : m < 1000000) (right : n < 1000000) :
    Date.padded 4 m < Date.padded 4 n ↔ digitsRank m < digitsRank n := by
  obtain ⟨i, leftLength, leftRank⟩ := digits_rank_spelled m left
  obtain ⟨j, rightLength, rightRank⟩ := digits_rank_spelled n right
  rw [digits_lt_iff _ _ (DateReader.digits_padded 4 m) (DateReader.digits_padded 4 n) i j (by omega),
    DateReader.digits_value_padded, DateReader.digits_value_padded, leftRank, rightRank]
  generalize m * 10 ^ i = a at *
  generalize n * 10 ^ j = b at *
  omega

def yearRank (y : Int) : Nat :=
  (if 9999 < y then 0 else if y < 0 then 10000000 else 20000000) + digitsRank y.natAbs

theorem year_rank_cases (y : Int) :
    0 ≤ y ∧ y ≤ 9999 ∧ (yearRank y : Int) = 20000004 + 1000 * y ∨
      10000 ≤ y ∧ y ≤ 99999 ∧ (yearRank y : Int) = 5 + 100 * y ∨ 100000 ≤ y ∧ (yearRank y : Int) = 6 + 10 * y ∨
      -9999 ≤ y ∧ y < 0 ∧ (yearRank y : Int) = 10000004 - 1000 * y ∨
      -99999 ≤ y ∧ y < -9999 ∧ (yearRank y : Int) = 10000005 - 100 * y ∨
      y < -99999 ∧ (yearRank y : Int) = 10000006 - 10 * y := by
  unfold yearRank digitsRank
  -- The size of a year goes with its sign, so three of the nine branches are none.
  split_ifs
  · exfalso
    omega
  · exact .inr (.inl (by omega))
  · exact .inr (.inr (.inl (by omega)))
  · exact .inr (.inr (.inr (.inl (by omega))))
  · exact .inr (.inr (.inr (.inr (.inl (by omega)))))
  · exact .inr (.inr (.inr (.inr (.inr (by omega)))))
  · exact .inl (by omega)
  · exfalso
    omega
  · exfalso
    omega

theorem signed_before (sign : Char) (n : Nat) (rest tail : List Char) (low : sign.toNat < 48) :
    sign :: rest < Date.padded 4 n ++ tail ∧ ¬ Date.padded 4 n ++ tail < sign :: rest := by
  cases shown : Date.padded 4 n with
  | nil => exact absurd shown (DateReader.padded_ne_nil 4 n)
  | cons c digits =>
      have bounds := digit_bounds c (DateReader.digits_padded 4 n c (shown ▸ List.mem_cons_self))
      have before : sign < c := (char_lt_iff _ _).2 (by omega)
      have ahead : ¬ c < sign := fun less => by
        have below := (char_lt_iff _ _).1 less
        omega
      have other : c ≠ sign := fun same => by
        subst same
        omega
      simp [List.cons_lt_cons_iff, before, ahead, other]

theorem year_signs (y : Int) :
    9999 < y ∧ Date.yearChars y = '+' :: Date.padded 4 y.natAbs ∧ yearRank y = digitsRank y.natAbs ∨
      y < 0 ∧ Date.yearChars y = '-' :: Date.padded 4 y.natAbs ∧ yearRank y = 10000000 + digitsRank y.natAbs ∨
      0 ≤ y ∧ Date.yearChars y = Date.padded 4 y.natAbs ∧ yearRank y = 20000000 + digitsRank y.natAbs := by
  unfold Date.yearChars yearRank
  dsimp only
  by_cases long : 9999 < y
  · have positive : ¬ y < 0 := by omega
    rw [if_neg positive, if_pos long, if_pos long, Nat.zero_add]
    exact .inl ⟨long, rfl, rfl⟩
  · rw [if_neg long, if_neg long]
    by_cases negative : y < 0
    · rw [if_pos negative, if_pos negative]
      exact .inr (.inl ⟨negative, rfl, rfl⟩)
    · rw [if_neg negative, if_neg negative]
      exact .inr (.inr ⟨Int.not_lt.1 negative, rfl, rfl⟩)

theorem years_lt_iff (y z : Int) (as bs : List Char) (left : y.natAbs < 1000000) (right : z.natAbs < 1000000)
    (apart : y ≠ z) : Date.yearChars y ++ '-' :: as < Date.yearChars z ++ '-' :: bs ↔ yearRank y < yearRank z := by
  have yBound := digits_rank_lt y.natAbs left
  have zBound := digits_rank_lt z.natAbs right
  -- Under one sign the digits decide.
  have alike : y.natAbs ≠ z.natAbs → (Date.padded 4 y.natAbs ++ '-' :: as < Date.padded 4 z.natAbs ++ '-' :: bs ↔
      digitsRank y.natAbs < digitsRank z.natAbs) := fun sizes => by
    rw [ended_lt_iff _ _ _ _ (DateReader.digits_padded 4 _) (DateReader.digits_padded 4 _)
      fun same => sizes (padded_injective 4 _ _ same), padded_lt_iff _ _ left right]
  have signs : '+' < '-' ∧ ¬ '-' < '+' ∧ '+' ≠ '-' := by decide
  rcases year_signs y with ⟨yLarge, yText, yRank⟩ | ⟨yNegative, yText, yRank⟩ | ⟨yLow, yText, yRank⟩ <;>
    rcases year_signs z with ⟨zLarge, zText, zRank⟩ | ⟨zNegative, zText, zRank⟩ | ⟨zLow, zText, zRank⟩ <;>
    rw [yText, yRank, zText, zRank]
  case inl.inl =>
    rw [List.cons_append, List.cons_append, List.cons_lt_cons_iff, alike (by omega)]
    simp
  case inl.inr.inl =>
    rw [List.cons_append, List.cons_append, List.cons_lt_cons_iff]
    simp only [signs, true_or, true_iff]
    omega
  case inl.inr.inr =>
    have first := (signed_before '+' z.natAbs (Date.padded 4 y.natAbs ++ '-' :: as) ('-' :: bs) (by decide)).1
    simp only [List.cons_append, first, true_iff]
    omega
  case inr.inl.inl =>
    rw [List.cons_append, List.cons_append, List.cons_lt_cons_iff]
    simp only [signs, signs.2.2.symm, false_and, or_false, false_iff]
    omega
  case inr.inl.inr.inl =>
    rw [List.cons_append, List.cons_append, List.cons_lt_cons_iff, alike (by omega)]
    simp
  case inr.inl.inr.inr =>
    have first := (signed_before '-' z.natAbs (Date.padded 4 y.natAbs ++ '-' :: as) ('-' :: bs) (by decide)).1
    simp only [List.cons_append, first, true_iff]
    omega
  case inr.inr.inl =>
    have last := (signed_before '+' y.natAbs (Date.padded 4 z.natAbs ++ '-' :: bs) ('-' :: as) (by decide)).2
    simp only [List.cons_append, last, false_iff]
    omega
  case inr.inr.inr.inl =>
    have last := (signed_before '-' y.natAbs (Date.padded 4 z.natAbs ++ '-' :: bs) ('-' :: as) (by decide)).2
    simp only [List.cons_append, last, false_iff]
    omega
  case inr.inr.inr.inr =>
    rw [alike (by omega)]
    omega

theorem Date.text_lt_iff (a b : Date) :
    a.text < b.text ↔ yearRank a.year < yearRank b.year ∨
      a.year = b.year ∧ (a.month < b.month ∨ a.month = b.month ∧ a.day < b.day) := by
  obtain ⟨⟨aLow, aHigh⟩, ⟨-, aMonth⟩, -, aDay⟩ := (Calendar.is_date_iff _ _ _).1 a.isReal
  obtain ⟨⟨bLow, bHigh⟩, ⟨-, bMonth⟩, -, bDay⟩ := (Calendar.is_date_iff _ _ _).1 b.isReal
  have aShort := Nat.le_trans aDay (Calendar.days_in_month_le a.year a.month)
  have bShort := Nat.le_trans bDay (Calendar.days_in_month_le b.year b.month)
  simp only [Calendar.firstYear, Calendar.lastYear] at aLow aHigh bLow bHigh
  rw [String.lt_iff, Date.text, Date.text, String.toList_ofList, String.toList_ofList, Date.chars, Date.chars]
  by_cases sameYear : a.year = b.year
  · have months := padded_even_lt_iff 2 a.month b.month (by decide) (by omega) (by omega)
    have days := padded_even_lt_iff 2 a.day b.day (by decide) (by omega) (by omega)
    have sameMonth : Date.padded 2 a.month = Date.padded 2 b.month ↔ a.month = b.month :=
      ⟨padded_injective 2 _ _, congrArg _⟩
    have even : (Date.padded 2 a.month).length = (Date.padded 2 b.month).length := by
      rw [DateReader.padded_length 2 _ (by decide) (by omega), DateReader.padded_length 2 _ (by decide) (by omega)]
    simp only [List.append_assoc, List.cons_append]
    rw [sameYear, append_lt_iff _ _ _ _ rfl, List.cons_lt_cons_iff, append_lt_iff _ _ _ _ even, List.cons_lt_cons_iff,
      months, days, sameMonth]
    simp
  · simp only [List.append_assoc, List.cons_append]
    rw [years_lt_iff _ _ _ _ (by omega) (by omega) sameYear]
    simp [sameYear]

theorem Date.before_iff (a b : Date) :
    a.before b = true ↔
      a.year < b.year ∨ a.year = b.year ∧ (a.month < b.month ∨ a.month = b.month ∧ a.day < b.day) := by
  simp [Date.before]

theorem Date.text_le_iff (a b : Date) :
    a.text ≤ b.text ↔ ¬ (yearRank b.year < yearRank a.year ∨
      b.year = a.year ∧ (b.month < a.month ∨ b.month = a.month ∧ b.day < a.day)) := by
  rw [← String.not_lt, Date.text_lt_iff]

-- Two years between which the texts of years keep their order: the same, or both without a sign, or both of so many
-- digits that no longer or shorter number comes in between.
def KeepsOrder (y z : Int) : Prop :=
  y = z ∨ 0 ≤ y ∧ z ≤ 9999 ∨ 26215 ≤ y ∧ z ≤ 99999 ∨ 100000 ≤ y ∧ y / 10 = z / 10

def OutsideAlike (y z w : Int) : Prop :=
  yearRank w < yearRank y ∨ yearRank z < yearRank w ↔ w < y ∨ z < w

theorem outside_alike (y z w : Int) (ordered : y ≤ z) (keeps : KeepsOrder y z) (low : Calendar.firstYear ≤ w)
    (high : w ≤ Calendar.lastYear) (last : z ≤ Calendar.lastYear) : OutsideAlike y z w := by
  simp only [Calendar.firstYear, Calendar.lastYear] at low high last
  have yRank := year_rank_cases y
  have zRank := year_rank_cases z
  have wRank := year_rank_cases w
  unfold OutsideAlike
  rcases keeps with rfl | plain | five | six
  · omega
  · omega
  · omega
  · omega

theorem misplaced_year (y z : Int) (low : Calendar.firstYear ≤ y) (high : z ≤ Calendar.lastYear) (ordered : y ≤ z)
    (shuffled : ¬ KeepsOrder y z) :
    ∃ w, Calendar.firstYear ≤ w ∧ w ≤ Calendar.lastYear ∧ ¬ OutsideAlike y z w := by
  simp only [Calendar.firstYear, Calendar.lastYear] at low high ⊢
  have yRank := year_rank_cases y
  have zRank := year_rank_cases z
  unfold KeepsOrder at shuffled
  unfold OutsideAlike
  by_cases reversed : yearRank z < yearRank y
  · exact ⟨y, by omega, by omega, by omega⟩
  -- Negative years run backwards as texts, and of several lengths those with fewer digits may stand among the longer.
  by_cases negative : y < 0
  · by_cases positive : 0 ≤ z
    · by_cases last : y = -1
      · have rank := year_rank_cases (-2)
        exact ⟨-2, by omega⟩
      · have rank := year_rank_cases (-1)
        exact ⟨-1, by omega⟩
    · by_cases six : y ≤ -100000
      · by_cases edge : z = -99999
        · have rank := year_rank_cases (-5000)
          exact ⟨-5000, by omega⟩
        · have rank := year_rank_cases (-99999)
          exact ⟨-99999, by omega⟩
      · by_cases edge : z = -9999
        · by_cases edge' : y = -10000
          · have rank := year_rank_cases (-5000)
            exact ⟨-5000, by omega⟩
          · have rank := year_rank_cases (-10000)
            exact ⟨-10000, by omega⟩
        · have rank := year_rank_cases (-9999)
          exact ⟨-9999, by omega⟩
  · -- Ten times a year begins with the digits of the year, and with one digit less so does a tenth of it.
    by_cases five : z ≤ 99999
    · have rank := year_rank_cases (10 * y)
      exact ⟨10 * y, by omega⟩
    · by_cases six : 100000 ≤ y
      · have rank := year_rank_cases (z / 10)
        exact ⟨z / 10, by omega⟩
      · have rank := year_rank_cases 99999
        exact ⟨99999, by omega⟩

def Date.Within (first last d : Date) : Prop :=
  d.before first = false ∧ last.before d = false

theorem Date.within_iff (first last d : Date) :
    Date.Within first last d ↔
      ¬ (d.year < first.year ∨ d.year = first.year ∧
        (d.month < first.month ∨ d.month = first.month ∧ d.day < first.day)) ∧
      ¬ (last.year < d.year ∨ last.year = d.year ∧
        (last.month < d.month ∨ last.month = d.month ∧ last.day < d.day)) := by
  rw [Date.Within, ← Bool.not_eq_true, ← Bool.not_eq_true, before_iff, before_iff]

theorem Date.window_kept_iff (first last : Date) (ordered : last.before first = false) :
    (∀ d : Date, first.text ≤ d.text ∧ d.text ≤ last.text ↔ Date.Within first last d) ↔
      KeepsOrder first.year last.year := by
  obtain ⟨⟨firstLow, firstHigh⟩, -⟩ := (Calendar.is_date_iff _ _ _).1 first.isReal
  obtain ⟨⟨lastLow, lastHigh⟩, -⟩ := (Calendar.is_date_iff _ _ _).1 last.isReal
  have behind : ¬ last.before first = true := by simp [ordered]
  rw [before_iff] at behind
  constructor
  · intro kept
    by_contra shuffled
    obtain ⟨w, low, high, other⟩ := misplaced_year first.year last.year firstLow lastHigh (by omega) shuffled
    refine other ?_
    unfold OutsideAlike
    have inOrder : ¬ yearRank last.year < yearRank first.year := by
      have opening : first.before first = false := by simp [Date.before]
      have shown := ((kept first).2 ⟨opening, ordered⟩).2
      rw [text_le_iff] at shown
      omega
    by_cases opens : w = first.year
    · subst opens
      omega
    by_cases closes : w = last.year
    · subst closes
      omega
    have real : Calendar.isDate w 1 1 = true :=
      (Calendar.is_date_iff w 1 1).2 ⟨⟨low, high⟩, by decide, by decide, Calendar.days_in_month_pos w 1⟩
    have newYear := kept ⟨w, 1, 1, real⟩
    rw [text_le_iff, text_le_iff, within_iff] at newYear
    dsimp only at newYear
    omega
  · intro keeps d
    obtain ⟨⟨low, high⟩, -⟩ := (Calendar.is_date_iff _ _ _).1 d.isReal
    have alike := outside_alike first.year last.year d.year (by omega) keeps low high lastHigh
    have opening : d.year = first.year → yearRank d.year = yearRank first.year := congrArg yearRank
    have closing : last.year = d.year → yearRank last.year = yearRank d.year := congrArg yearRank
    unfold OutsideAlike at alike
    rw [text_le_iff, text_le_iff, within_iff]
    omega

end ArchiveSearch
