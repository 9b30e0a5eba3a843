import ForeignLayer.Calendar.Date
import Mathlib

/-!
# Days of the calendar

Years that start in March have their leap day at the end, so that a day of an era falls into a
century, four years, a year and a day of it, each counted from the start of the one before. Only the
last year of four has a day more, and the last century has one more such year. From these parts one
sees that the date of a number has that number, and that it is a date of the calendar.
-/

namespace ForeignLayer.Calendar

/-! ## The parts of an era -/

/-- A day of an era: the century, the four years within it, the year within those, and the day of
the year, which starts in March. -/
structure EraDay where
  century : Int
  fourYears : Int
  year : Int
  day : Int

namespace EraDay

/-- The number of a day within its era. -/
def number (p : EraDay) : Int := 36524 * p.century + 1461 * p.fourYears + 365 * p.year + p.day

/-- The year of the era. -/
def yearOfEra (p : EraDay) : Int := 100 * p.century + 4 * p.fourYears + p.year

/-- Whether the parts are those of a day: only a leap year has the day with the number 365. -/
structure IsDay (p : EraDay) : Prop where
  century : 0 ≤ p.century ∧ p.century ≤ 3
  fourYears : 0 ≤ p.fourYears ∧ p.fourYears ≤ 24
  year : 0 ≤ p.year ∧ p.year ≤ 3
  day : 0 ≤ p.day ∧ p.day ≤ 365
  leap : p.day = 365 → p.year = 3 ∧ (p.fourYears = 24 → p.century = 3)

theorem exists_number {d : Int} (hlow : 0 ≤ d) (hhigh : d < 146097) :
    ∃ p : EraDay, p.IsDay ∧ p.number = d := by
  -- the last day of an era is one beyond four centuries of equal length
  obtain ⟨c, hc⟩ : ∃ c, c = min (d / 36524) 3 := ⟨_, rfl⟩
  obtain ⟨r, hr⟩ : ∃ r, r = d - 36524 * c := ⟨_, rfl⟩
  obtain ⟨q, hq⟩ : ∃ q, q = r / 1461 := ⟨_, rfl⟩
  obtain ⟨s, hs⟩ : ∃ s, s = r - 1461 * q := ⟨_, rfl⟩
  obtain ⟨t, ht⟩ : ∃ t, t = min (s / 365) 3 := ⟨_, rfl⟩
  refine ⟨⟨c, q, t, s - 365 * t⟩, ⟨?_, ?_, ?_, ?_, ?_⟩, ?_⟩ <;> simp only [number] <;> omega

variable {p : EraDay}

/-- The year is found from the number of the day alone. -/
theorem IsDay.yearOfEra_eq (h : p.IsDay) :
    (p.number - p.number / 1460 + p.number / 36524 - p.number / 146096) / 365 = p.yearOfEra := by
  obtain ⟨⟨hc, hc'⟩, ⟨hq, hq'⟩, ⟨ht, ht'⟩, ⟨hd, hd'⟩, hleap⟩ := h
  obtain ⟨c, q, t, d⟩ := p
  simp only [number, yearOfEra] at *
  -- four years of 365 days are counted too early by the end of every fourth year, where the last
  -- day that is left to the year is at least the 287th
  have hfour : (36524 * c + 1461 * q + 365 * t + d) / 1460 = 25 * c + q ∧ d ≤ 364 ∨
      (36524 * c + 1461 * q + 365 * t + d) / 1460 = 25 * c + q + 1 ∧ 1 ≤ d := by
    omega
  have hcentury : (36524 * c + 1461 * q + 365 * t + d) / 36524 -
      (36524 * c + 1461 * q + 365 * t + d) / 146096 = c := by
    by_cases hlast : c = 3 ∧ q = 24 ∧ t = 3 ∧ d = 365
    · obtain ⟨rfl, rfl, rfl, rfl⟩ := hlast
      rfl
    · have hrest : 1461 * q + 365 * t + d ≤ 36523 := by omega
      have hera : (36524 * c + 1461 * q + 365 * t + d) / 146096 = 0 := by omega
      omega
  omega

theorem IsDay.day_eq (h : p.IsDay) :
    p.number - (365 * p.yearOfEra + p.yearOfEra / 4 - p.yearOfEra / 100) = p.day := by
  obtain ⟨⟨hc, hc'⟩, ⟨hq, hq'⟩, ⟨ht, ht'⟩, ⟨hd, hd'⟩, hleap⟩ := h
  obtain ⟨c, q, t, d⟩ := p
  simp only [number, yearOfEra] at *
  omega

/-- A year of an era that has the day with the number 365 is followed by a leap year. -/
theorem IsDay.isLeapYear (h : p.IsDay) (hday : p.day = 365) (era : Int) :
    isLeapYear (p.yearOfEra + era * 400 + 1) = true := by
  obtain ⟨⟨hc, hc'⟩, ⟨hq, hq'⟩, ⟨ht, ht'⟩, -, hleap⟩ := h
  obtain ⟨hyear, hlast⟩ := hleap hday
  obtain ⟨c, q, t, d⟩ := p
  simp only [Calendar.isLeapYear, yearOfEra, Bool.and_eq_true, Bool.or_eq_true, beq_iff_eq,
    bne_iff_ne] at *
  omega

end EraDay

/-! ## Months -/

/-- A month, counted from March, and its day, both from the day of a year that starts in March. -/
structure IsMonthDay (d : Int) (month day : Nat) : Prop where
  month_eq : (5 * d + 2) / 153 = month
  month_le : month ≤ 11
  day_eq : d - (153 * (month : Int) + 2) / 5 + 1 = day
  day_pos : 1 ≤ day
  day_le : day ≤ 31
  /-- The months of thirty days. -/
  short : month = 1 ∨ month = 3 ∨ month = 6 ∨ month = 8 → day ≤ 30
  /-- The last month, with a day more in leap years. -/
  last : month = 11 → day ≤ 28 ∨ day = 29 ∧ d = 365

theorem exists_isMonthDay {d : Int} (hlow : 0 ≤ d) (hhigh : d ≤ 365) :
    ∃ month day, IsMonthDay d month day := by
  obtain ⟨month, hmonth⟩ := Int.eq_ofNat_of_zero_le (show 0 ≤ (5 * d + 2) / 153 by omega)
  have hle : month ≤ 11 := by omega
  obtain ⟨day, hday⟩ := Int.eq_ofNat_of_zero_le
    (show 0 ≤ d - (153 * (month : Int) + 2) / 5 + 1 by omega)
  refine ⟨month, day, hmonth, hle, hday, ?_, ?_, ?_, ?_⟩ <;> interval_cases month <;> omega

namespace Date

theorem ofDays_eq (n : Int) : ∃ (era : Int) (p : EraDay) (month day : Nat), p.IsDay ∧
    IsMonthDay p.day month day ∧ n + 719468 = era * 146097 + p.number ∧
    ofDays n = ⟨p.yearOfEra + era * 400 + (if month < 10 then 0 else 1),
      if month < 10 then month + 3 else month - 9, day⟩ := by
  have hera : (n + 719468).fdiv 146097 = (n + 719468) / 146097 :=
    Int.fdiv_eq_ediv_of_nonneg _ (by decide)
  obtain ⟨p, hp, hnumber⟩ := EraDay.exists_number
    (d := n + 719468 - (n + 719468) / 146097 * 146097) (by omega) (by omega)
  obtain ⟨month, day, hmonth⟩ := exists_isMonthDay hp.day.1 hp.day.2
  have hyear := hp.yearOfEra_eq
  have hday := hp.day_eq
  have hmonths := hmonth.month_le
  refine ⟨(n + 719468) / 146097, p, month, day, hp, hmonth, by omega, ?_⟩
  unfold ofDays
  dsimp only
  rw [hera, ← hnumber, hyear, hday, hmonth.month_eq, hmonth.day_eq, Int.toNat_natCast]
  by_cases hfirst : month < 10
  · have hcast : (month : Int) < 10 := by omega
    have hlater : ¬(month : Int) + 3 ≤ 2 := by omega
    have hnat : ((month : Int) + 3).toNat = month + 3 := by omega
    simp only [if_pos hfirst, if_pos hcast, if_neg hlater, hnat]
  · have hcast : ¬(month : Int) < 10 := by omega
    have hearly : (month : Int) - 9 ≤ 2 := by omega
    have hnat : ((month : Int) - 9).toNat = month - 9 := by omega
    simp only [if_neg hfirst, if_neg hcast, if_pos hearly, hnat]

/-- **The date of a number has that number.** -/
theorem toDays_ofDays (n : Int) : (ofDays n).toDays = n := by
  obtain ⟨era, p, month, day, hp, hmonth, hn, heq⟩ := ofDays_eq n
  have hday := hp.day_eq
  have hyear : 0 ≤ p.yearOfEra ∧ p.yearOfEra < 400 := by
    have hcentury := hp.century
    have hfour := hp.fourYears
    have hrest := hp.year
    rw [EraDay.yearOfEra]
    omega
  have hmonths := hmonth.month_le
  have hdays := hmonth.day_eq
  have hpos := hmonth.day_pos
  have hera : (p.yearOfEra + era * 400).fdiv 400 = era := by
    rw [Int.fdiv_eq_ediv_of_nonneg _ (by decide)]
    omega
  have hwithin : p.yearOfEra + era * 400 - era * 400 = p.yearOfEra := Int.add_sub_cancel _ _
  rw [heq]
  unfold toDays
  dsimp only
  by_cases hfirst : month < 10
  · have hlater : ¬month + 3 ≤ 2 := by omega
    have hmarch : (month + 3 + 9) % 12 = month := by omega
    simp only [if_pos hfirst, if_neg hlater, hmarch, Int.add_zero, hera, hwithin]
    omega
  · have hearly : month - 9 ≤ 2 := by omega
    have hmarch : (month - 9 + 9) % 12 = month := by omega
    simp only [if_neg hfirst, if_pos hearly, hmarch, Int.add_sub_cancel, hera, hwithin]
    omega

/-- Years of no more than four digits are within four million days. -/
theorem ofDays_bounds {n : Int} (hlow : 0 ≤ (ofDays n).year) (hhigh : (ofDays n).year ≤ 9999) :
    -4000000 ≤ n ∧ n ≤ 4000000 := by
  obtain ⟨era, p, month, day, hp, -, hn, heq⟩ := ofDays_eq n
  obtain ⟨hc, hq, hy, hd, -⟩ := hp
  rw [heq] at hlow hhigh
  rw [EraDay.number] at hn
  dsimp only [EraDay.yearOfEra] at hlow hhigh
  split at hlow <;> omega

theorem day_le_daysInMonth {era : Int} {p : EraDay} (hp : p.IsDay) {month day : Nat}
    (h : IsMonthDay p.day month day) :
    day ≤ daysInMonth (p.yearOfEra + era * 400 + (if month < 10 then 0 else 1))
      (if month < 10 then month + 3 else month - 9) := by
  have hle := h.day_le
  have hshort := h.short
  by_cases hlast : month = 11
  · subst hlast
    show day ≤ if isLeapYear (p.yearOfEra + era * 400 + 1) then 29 else 28
    rcases h.last rfl with hday | ⟨hday, hleap⟩
    · split <;> omega
    · rw [if_pos (hp.isLeapYear hleap era)]
      exact hday.le
  · have hmonth := h.month_le
    interval_cases month <;> first | exact hle | exact hshort (by decide) | exact absurd rfl hlast

/-- **The date of a number is a date of the calendar.** -/
theorem of?_ofDays {n : Int} (h : minYear ≤ (ofDays n).year ∧ (ofDays n).year ≤ maxYear) :
    of? (ofDays n).year (ofDays n).month (ofDays n).day = some (ofDays n) := by
  obtain ⟨era, p, month, day, hp, hmonth, -, heq⟩ := ofDays_eq n
  have hday : (ofDays n).day ≤ daysInMonth (ofDays n).year (ofDays n).month := by
    rw [heq]
    exact day_le_daysInMonth hp hmonth
  have hrange : 1 ≤ (ofDays n).month ∧ (ofDays n).month ≤ 12 ∧ 1 ≤ (ofDays n).day := by
    have hle := hmonth.month_le
    rw [heq]
    refine ⟨?_, ?_, hmonth.day_pos⟩ <;> dsimp only <;> split <;> omega
  rw [of?, if_pos ⟨h.1, h.2, hrange.1, hrange.2.1, hrange.2.2, hday⟩]

end Date

end ForeignLayer.Calendar
