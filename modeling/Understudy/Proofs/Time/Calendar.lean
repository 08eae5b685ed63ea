import Mathlib.Tactic.IntervalCases
import Understudy.Time.Calendar

/-!
# Days and dates correspond

The date of a day is a date of the calendar, and its days are counted back to that day. The count goes by eras of four
hundred years that begin in March; a day of an era is cut into centuries, groups of four years, years and days, where
the last year of a group may have one day more.
-/

namespace Understudy

namespace Date

/-- A day of an era: so many centuries, groups of four years, years and days have passed. -/
structure EraCut (d century group year day : Int) : Prop where
  eq : d = 36524 * century + 1461 * group + 365 * year + day
  centuries : 0 ≤ century ∧ century ≤ 3
  groups : 0 ≤ group ∧ group ≤ 24
  years : 0 ≤ year ∧ year ≤ 3
  days : 0 ≤ day ∧ day ≤ 365
  /-- the leap day ends a group, but only the last century of an era ends with one -/
  leap : day = 365 → year = 3 ∧ (group = 24 → century = 3)

theorem exists_eraCut {d : Int} (hlow : 0 ≤ d) (hhigh : d < 146097) :
    ∃ century group year day, EraCut d century group year day := by
  obtain ⟨century, rest, hd, hcentury, hrest⟩ : ∃ century rest : Int, d = 36524 * century + rest ∧
      (0 ≤ century ∧ century ≤ 3) ∧ 0 ≤ rest ∧ (rest < 36524 ∨ century = 3 ∧ rest = 36524) := by
    by_cases hlast : d = 146096
    · exact ⟨3, 36524, by omega, by omega, by omega⟩
    · exact ⟨d / 36524, d % 36524, by omega, by omega, by omega⟩
  obtain ⟨group, left, hleft, hgroup⟩ : ∃ group left : Int, rest = 1461 * group + left ∧
      (0 ≤ group ∧ group ≤ 24) ∧ 0 ≤ left ∧ left < 1461 ∧ (group = 24 → left = 1460 → century = 3) :=
    ⟨rest / 1461, rest % 1461, by omega, by omega, by omega, by omega, by omega⟩
  by_cases hleap : left = 1460
  · exact ⟨century, group, 3, 365, by omega, by omega, by omega, by omega, by omega, by omega⟩
  · exact ⟨century, group, left / 365, left % 365, by omega, by omega, by omega, by omega, by omega,
      by omega⟩

variable {d century group year day : Int}

/-- Three quotients correct the count of days to 365 a year, and what is left over stays below a year. -/
theorem EraCut.yearOfEra_eq (h : EraCut d century group year day) :
    (d - d / 1460 + d / 36524 - d / 146096) / 365 = 100 * century + 4 * group + year := by
  obtain ⟨hd, hcentury, hgroup, hyear, hday, hleap⟩ := h
  have hcenturies : d / 36524 = century + d / 146096 := by
    by_cases hlast : d < 146096
    · have hzero : d / 146096 = 0 := by omega
      have hbelow : d < 36524 * century + 36524 := by omega
      omega
    · have hone : d / 146096 = 1 := by omega
      have hfour : d / 36524 = 4 := by omega
      omega
  by_cases hlate : 1460 ≤ 24 * century + group + 365 * year + day
  · have hgroups : d / 1460 = 25 * century + group + 1 := by omega
    rw [hgroups, hcenturies]
    omega
  · have hgroups : d / 1460 = 25 * century + group := by omega
    rw [hgroups, hcenturies]
    omega

theorem EraCut.dayOfYear_eq (h : EraCut d century group year day) :
    d - (365 * (100 * century + 4 * group + year) + (100 * century + 4 * group + year) / 4 -
      (100 * century + 4 * group + year) / 100) = day := by
  obtain ⟨hd, hcentury, hgroup, hyear, -, -⟩ := h
  omega

/-- The date of a month that is counted from March, where January and February belong to the year before. -/
def ofMarch (year month day : Int) : Date :=
  let month' := if month < 10 then month + 3 else month - 9
  { year := year + (if month' ≤ 2 then 1 else 0), month := month'.toNat, day := day.toNat }

theorem exists_ofDays (days : Int) :
    ∃ era d century group year day, days + 719468 = era * 146097 + d ∧
      EraCut d century group year day ∧
      ofDays days = ofMarch (100 * century + 4 * group + year + era * 400) ((5 * day + 2) / 153)
        (day - (153 * ((5 * day + 2) / 153) + 2) / 5 + 1) := by
  obtain ⟨century, group, year, day, hcut⟩ :=
    exists_eraCut (d := days + 719468 - (days + 719468) / 146097 * 146097) (by omega) (by omega)
  refine ⟨(days + 719468) / 146097, _, century, group, year, day, by omega, hcut, ?_⟩
  unfold ofDays ofMarch
  simp only [hcut.yearOfEra_eq, hcut.dayOfYear_eq]

theorem isValid_ofDays (days : Int) : (ofDays days).isValid = true := by
  obtain ⟨era, d, century, group, year, day, hd, hcut, hdate⟩ := exists_ofDays days
  obtain ⟨-, hcentury, hgroup, hyear, hday, hleap⟩ := hcut
  rw [hdate]
  generalize hmonth : (5 * day + 2) / 153 = month
  have hrange : 0 ≤ month ∧ month ≤ 11 := by omega
  obtain ⟨hlow, hhigh⟩ := hrange
  unfold isValid ofMarch daysInMonth isLeapYear
  interval_cases month <;> simp <;> omega

theorem toDays_ofDays (days : Int) : (ofDays days).toDays = days := by
  obtain ⟨era, d, century, group, year, day, hd, hcut, hdate⟩ := exists_ofDays days
  obtain ⟨hday, hcentury, hgroup, hyear, hrest, -⟩ := hcut
  rw [hdate]
  generalize hmonth : (5 * day + 2) / 153 = month
  have hrange : 0 ≤ month ∧ month ≤ 11 := by omega
  obtain ⟨hlow, hhigh⟩ := hrange
  have hera : (100 * century + 4 * group + year + era * 400) / 400 = era := by omega
  unfold toDays ofMarch
  interval_cases month <;> simp [hera] <;> omega

/-- A later day lies in the same year or a later one. -/
theorem year_ofDays_mono {a b : Int} (h : a ≤ b) : (ofDays a).year ≤ (ofDays b).year := by
  obtain ⟨era, d, century, group, year, day, hd, hcut, hdate⟩ := exists_ofDays a
  obtain ⟨era', d', century', group', year', day', hd', hcut', hdate'⟩ := exists_ofDays b
  obtain ⟨hday, hcentury, hgroup, hyear, hrest, -⟩ := hcut
  obtain ⟨hday', hcentury', hgroup', hyear', hrest', -⟩ := hcut'
  have hera : era ≤ era' := by omega
  rw [hdate, hdate']
  unfold ofMarch
  simp only
  split <;> split <;> omega

theorem two_digits {date : Date} (h : date.isValid = true) :
    date.month < 10 ^ 2 ∧ date.day < 10 ^ 2 := by
  have hdays : daysInMonth date.year date.month ≤ 31 := by
    unfold daysInMonth
    split
    · split <;> decide
    · decide
    · decide
    · decide
    · decide
    · decide
  simp only [isValid, Bool.and_eq_true, decide_eq_true_eq] at h
  omega

end Date

end Understudy
