import ArchiveSearch.Calendar.Date

namespace ArchiveSearch

set_option autoImplicit false

namespace Calendar

def daysBeforeYear (year : Int) : Int :=
  365 * (year - 1) + (year - 1) / 4 - (year - 1) / 100 + (year - 1) / 400

def daysBeforeMonth (year : Int) : Nat → Nat
  | 0 => 0
  | 1 => 0
  | month + 2 => daysBeforeMonth year (month + 1) + daysInMonth year (month + 1)

def daysInYear (year : Int) : Nat :=
  if isLeapYear year then 366 else 365

theorem days_before_year_next (year : Int) :
    daysBeforeYear (year + 1) = daysBeforeYear year + daysInYear year := by
  simp only [daysBeforeYear, daysInYear, isLeapYear, Bool.and_eq_true, Bool.or_eq_true, beq_iff_eq, bne_iff_ne]
  split <;> omega

theorem days_before_month_december (year : Int) : daysBeforeMonth year 12 + 31 = daysInYear year := by
  cases leap : isLeapYear year <;> simp [daysBeforeMonth, daysInMonth, daysInYear, leap]

theorem days_in_month_pos (year : Int) (month : Nat) : 1 ≤ daysInMonth year month := by
  unfold daysInMonth
  split
  · split <;> decide
  · split <;> decide

theorem days_in_month_le (year : Int) (month : Nat) : daysInMonth year month ≤ 31 := by
  unfold daysInMonth
  split
  · split <;> decide
  · split <;> decide

theorem is_date_iff (year : Int) (month day : Nat) :
    isDate year month day = true ↔ (firstYear ≤ year ∧ year ≤ lastYear) ∧ (1 ≤ month ∧ month ≤ 12) ∧
      1 ≤ day ∧ day ≤ daysInMonth year month := by
  simp only [isDate, Bool.and_eq_true, decide_eq_true_eq, and_assoc]

end Calendar

namespace Date

open Calendar

def first : Date :=
  ⟨firstYear, 1, 1, rfl⟩

def ordinal (d : Date) : Int :=
  daysBeforeYear d.year + daysBeforeMonth d.year d.month + d.day

theorem of_ok_iff (year : Int) (month day : Nat) (d : Date) :
    of? year month day = some d ↔ isDate year month day = true ∧ d.year = year ∧ d.month = month ∧ d.day = day := by
  unfold of?
  by_cases valid : isDate year month day = true
  · rw [dif_pos valid, Option.some.injEq]
    constructor
    · rintro rfl
      exact ⟨valid, rfl, rfl, rfl⟩
    · rintro ⟨-, rfl, rfl, rfl⟩
      rfl
  · rw [dif_neg valid]
    exact ⟨fun absent => (by cases absent), fun real => absurd real.1 valid⟩

theorem yesterday_ordinal (d e : Date) (before : d.yesterday? = some e) : e.ordinal + 1 = d.ordinal := by
  unfold yesterday? at before
  split at before
  · rename_i later
    obtain ⟨-, year, month, day⟩ := (of_ok_iff _ _ _ _).1 before
    rw [ordinal, ordinal, year, month, day]
    omega
  · obtain ⟨-, months, dayLow, -⟩ := (is_date_iff _ _ _).1 d.isReal
    have firstOfMonth : d.day = 1 := by omega
    split at before
    · rename_i later
      obtain ⟨-, year, month, day⟩ := (of_ok_iff _ _ _ _).1 before
      obtain ⟨m, here⟩ : ∃ m, d.month = m + 2 := ⟨d.month - 2, by omega⟩
      rw [ordinal, ordinal, year, month, day, firstOfMonth, here, daysBeforeMonth]
      simp
      omega
    · obtain ⟨-, year, month, day⟩ := (of_ok_iff _ _ _ _).1 before
      have firstOfYear : d.month = 1 := by omega
      have december := days_before_month_december (d.year - 1)
      have next := days_before_year_next (d.year - 1)
      rw [ordinal, ordinal, year, month, day, firstOfMonth, firstOfYear, daysBeforeMonth]
      rw [Int.sub_add_cancel] at next
      omega

theorem yesterday_exists (d : Date) (later : first.ordinal < d.ordinal) : ∃ e, d.yesterday? = some e := by
  obtain ⟨years, months, days⟩ := (is_date_iff _ _ _).1 d.isReal
  have made : ∀ year month day, isDate year month day = true → ∃ e, of? year month day = some e :=
    fun year month day real => ⟨⟨year, month, day, real⟩, dif_pos real⟩
  unfold yesterday?
  split
  · exact made _ _ _ ((is_date_iff _ _ _).2 ⟨years, months, by omega, by omega⟩)
  · split
    · exact made _ _ _ ((is_date_iff _ _ _).2
        ⟨years, by omega, days_in_month_pos _ _, Nat.le_refl _⟩)
    · have month : d.month = 1 := by omega
      have day : d.day = 1 := by omega
      rw [ordinal, ordinal, month, day] at later
      -- The first of January of the first year is the first day, so the year is a later one.
      have year : firstYear < d.year := by
        rcases Int.lt_or_eq_of_le years.1 with after | same
        · exact after
        · rw [← same] at later
          exact absurd later (Int.lt_irrefl _)
      exact made _ _ _ ((is_date_iff _ _ _).2 ⟨⟨by omega, by omega⟩, by decide, by decide, Nat.le_refl 31⟩)

theorem days_before_exists (d : Date) (count : Nat) (far : first.ordinal + count ≤ d.ordinal) :
    ∃ e, d.daysBefore? count = some e ∧ e.ordinal + count = d.ordinal := by
  induction count with
  | zero => exact ⟨d, rfl, by omega⟩
  | succ count ih =>
      obtain ⟨e, reached, days⟩ := ih (by omega)
      obtain ⟨earlier, back⟩ := e.yesterday_exists (by omega)
      have one := yesterday_ordinal e earlier back
      refine ⟨earlier, ?_, by omega⟩
      rw [daysBefore?, reached]
      exact back

end Date

end ArchiveSearch
