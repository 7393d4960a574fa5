import ArchiveSearch.Calendar.Instant
import ArchiveSearch.Proofs.Calendar.Reading

namespace ArchiveSearch.Instant

set_option autoImplicit false

open DateReader

theorem number_limited (limit : Nat) (digits rest : List Char) (isDigits : Binary64.Digits digits)
    (nonempty : digits ≠ []) (short : digits.length ≤ limit)
    (stops : ∀ c more, rest = c :: more → DateReader.isDigit c = false) (small : digitsValue digits ≤ largest) :
    number (some limit) (digits ++ rest) = .ok (digitsValue digits, rest) := by
  have all : ∀ c ∈ digits, DateReader.isDigit c = true := fun c mem => (is_digit_eq c).trans (isDigits c mem)
  refine number_taken (some limit) digits rest all nonempty ?_ small
  rw [within, List.take_append, List.take_of_length_le short]
  refine (run_cut DateReader.isDigit digits _ all fun c more same => ?_).1
  exact stops c (more ++ rest.drop _) (by rw [← List.cons_append, ← same, List.take_append_drop])

theorem fraction_point (width n : Nat) (positive : 0 < width) (narrow : width ≤ 9) (fits : n < 10 ^ width)
    (small : n ≤ largest) (rest : List Char)
    (stops : ∀ c more, rest = c :: more → DateReader.isDigit c = false) :
    fraction ('.' :: (Date.padded width n ++ rest)) = .ok (n * tenTo (9 - width), rest) := by
  have length := padded_length width n positive fits
  have all : ∀ c ∈ Date.padded width n, DateReader.isDigit c = true := fun c mem =>
    (is_digit_eq c).trans (digits_padded width n c mem)
  have read := number_limited 9 (Date.padded width n) rest (digits_padded width n) (padded_ne_nil width n)
    (by omega) stops (by rwa [digits_value_padded])
  obtain ⟨front, back⟩ := run_cut DateReader.isDigit (Date.padded width n) rest all stops
  unfold fraction
  simp only [step_bind_ok_iff]
  refine ⟨_, _, rfl, ?_⟩
  simp only [step_bind_ok_iff]
  refine ⟨(), _, rfl, _, _, read, (), _, rfl, ?_⟩
  rw [front, back, List.take_of_length_le (by omega), digits_value_padded, length]
  rfl

theorem fraction_read (nano : Nat) (fits : nano < Bound.billion) :
    fraction (fractionChars nano ++ ['Z']) = .ok (nano, ['Z']) := by
  have stops : ∀ c more, ['Z'] = c :: more → DateReader.isDigit c = false := by
    rintro c more ⟨⟩
    rfl
  have bound : nano < 1000000000 := fits
  have large : largest = 9223372036854775807 := rfl
  unfold fractionChars
  by_cases none_ : nano = 0
  · rw [if_pos none_, none_]
    rfl
  · rw [if_neg none_]
    by_cases millis : nano % 1000000 = 0
    · rw [if_pos millis, List.cons_append, fraction_point 3 _ (by decide) (by decide) (by omega) (by omega) _ stops]
      have back : nano / 1000000 * 1000000 = nano := by omega
      exact congrArg (fun n => Except.ok (n, ['Z'])) back
    · rw [if_neg millis]
      by_cases micros : nano % 1000 = 0
      · rw [if_pos micros, List.cons_append, fraction_point 6 _ (by decide) (by decide) (by omega) (by omega) _ stops]
        have back : nano / 1000 * 1000 = nano := by omega
        exact congrArg (fun n => Except.ok (n, ['Z'])) back
      · rw [if_neg micros, List.cons_append, fraction_point 9 _ (by decide) (by decide) (by omega) (by omega) _ stops]
        exact congrArg (fun n => Except.ok (n, ['Z'])) (Nat.mul_one nano)

theorem of_local_kept (i : Instant) (cs : List Char) :
    ofLocal i.date i.hour i.minute i.second i.nano 0 cs = .ok (i, cs) := by
  obtain ⟨hour, minute, -, -⟩ := i.onClock
  have inside : ¬ (60 * (i.hour : Int) + i.minute - 0 < 0) := by omega
  have today : 60 * (i.hour : Int) + i.minute - 0 < 1440 := by omega
  have inDay : ((60 * (i.hour : Int) + i.minute - 0) % 1440).toNat = 60 * i.hour + i.minute := by omega
  have hours : (60 * i.hour + i.minute) / 60 = i.hour := by omega
  have minutes : (60 * i.hour + i.minute) % 60 = i.minute := by omega
  unfold ofLocal
  simp only [if_neg inside, if_pos today, inDay, hours, minutes, Option.bind_some]
  rw [of?, dif_pos i.onClock]
  rfl

theorem text_read (i : Instant) : Instant.read i.text = .ok i := by
  obtain ⟨hour, minute, second, nano⟩ := i.onClock
  have large : largest = 9223372036854775807 := rfl
  rw [Instant.read, run_ok_iff]
  refine ⟨[], ?_⟩
  unfold instant
  rw [text, String.toList_ofList]
  simp only [step_bind_ok_iff, parts_ok_iff, literal_ok_iff, finish_ok_iff, date_ok_iff, List.append_assoc,
    List.cons_append]
  refine ⟨_, _, (chars_spelled i.date _).loosened, (), _, rfl,
    i.hour, _, field_reads 2 0 23 i.hour _ (by decide) (by omega) (by omega) (Nat.zero_le _) (by omega),
    (), _, rfl, (), _, rfl,
    i.minute, _, field_reads 2 0 59 i.minute _ (by decide) (by omega) (by omega) (Nat.zero_le _) (by omega),
    (), _, rfl, (), _, rfl,
    i.second, _, field_reads 2 0 60 i.second _ (by decide) (by omega) (by omega) (Nat.zero_le _) (by omega),
    i.nano, _, fraction_read i.nano nano, (), _, rfl, 0, [], rfl, (), _, rfl, (), [], ⟨rfl, rfl⟩,
    i.date, [], ⟨of_parts i.date, rfl⟩, of_local_kept i []⟩

end ArchiveSearch.Instant
