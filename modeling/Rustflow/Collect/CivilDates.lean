import Rustflow.Collect.Gregorian
import Mathlib.Order.Monotone.Basic
import Mathlib.Tactic.IntervalCases

/-!
# Days and dates

A day number and its date are each read off the other, and months are runs of days one after the
other. Years begin in March where an era of 400 years is taken apart.
-/

namespace Rustflow.Collect.Gregorian

structure Civil.Valid (date : Civil) : Prop where
  month_pos : 1 ≤ date.month
  month_le : date.month ≤ 12
  day_pos : 1 ≤ date.day
  day_le : date.day ≤ daysInMonth date.year date.month

/-! ### Eras -/

/-- A day of an era by centuries, cycles of four years, years and days. Only the last year of a
cycle has a day 365, and not that of a century unless the era ends with it. -/
theorem era_parts {day : Nat} (inside : day < 146097) :
    ∃ century cycle year rest, day = 36524 * century + 1461 * cycle + 365 * year + rest ∧
      century ≤ 3 ∧ cycle ≤ 24 ∧
      year ≤ 3 ∧ rest ≤ 365 ∧ (rest = 365 → year = 3 ∧ (cycle = 24 → century = 3)) := by
  obtain ⟨century, last, low, high, full⟩ :
      ∃ century, century ≤ 3 ∧ 36524 * century ≤ day ∧ day ≤ 36524 * century + 36524 ∧
        (day = 36524 * century + 36524 → century = 3) :=
    ⟨min (day / 36524) 3, by omega⟩
  obtain ⟨ofCentury, rfl⟩ := Nat.exists_eq_add_of_le low
  refine ⟨century, ofCentury / 1461, min (ofCentury % 1461 / 365) 3,
    ofCentury % 1461 - 365 * min (ofCentury % 1461 / 365) 3, ?_⟩
  generalize ofYear : min (ofCentury % 1461 / 365) 3 = year
  omega

theorem yearOfEra_parts {century cycle year rest : Nat} (centuries : century ≤ 3)
    (cycles : cycle ≤ 24) (years : year ≤ 3) (days : rest ≤ 365)
    (leap : rest = 365 → year = 3 ∧ (cycle = 24 → century = 3)) {day : Nat}
    (made : day = 36524 * century + 1461 * cycle + 365 * year + rest) :
    (day - day / 1460 + day / 36524 - day / 146096) / 365 = 100 * century + 4 * cycle + year := by
  have shortCycles : day / 1460 = 25 * century + cycle +
      (24 * century + cycle + 365 * year + rest) / 1460 := by omega
  by_cases last : day = 146096
  · omega
  · have ofCentury : day / 36524 = century := by omega
    have notLast : day / 146096 = 0 := by omega
    rw [shortCycles, ofCentury, notLast]
    omega

theorem yearStart_parts (century : Nat) {cycle year : Nat} (cycles : cycle ≤ 24)
    (years : year ≤ 3) :
    365 * (100 * century + 4 * cycle + year) + (100 * century + 4 * cycle + year) / 4 -
      (100 * century + 4 * cycle + year) / 100 = 36524 * century + 1461 * cycle + 365 * year := by
  omega

/-- A date as it is taken apart: the year since March, the months since then and the day among the
others of the month. -/
structure EraDay where
  era : Int
  century : Nat
  cycle : Nat
  year : Nat
  rest : Nat
  centuries : century ≤ 3
  cycles : cycle ≤ 24
  years : year ≤ 3
  days : rest ≤ 365
  leap : rest = 365 → year = 3 ∧ (cycle = 24 → century = 3)

namespace EraDay
variable (self : EraDay)

def yearOfEra : Nat := 100 * self.century + 4 * self.cycle + self.year

def monthIndex : Nat := (5 * self.rest + 2) / 153

def number : Int :=
  self.era * 146097 + (36524 * self.century + 1461 * self.cycle + 365 * self.year +
    self.rest : Nat) - 719468

def date : Civil :=
  let month := if self.monthIndex < 10 then self.monthIndex + 3 else self.monthIndex - 9
  { year := self.yearOfEra + self.era * 400 + if month ≤ 2 then 1 else 0, month
    day := self.rest - (153 * self.monthIndex + 2) / 5 + 1 }

theorem monthIndex_le : self.monthIndex ≤ 11 := by
  have days := self.days
  unfold monthIndex
  omega

theorem monthIndex_start : (153 * self.monthIndex + 2) / 5 ≤ self.rest := by
  unfold monthIndex
  omega

theorem civilFromDays_number : civilFromDays self.number = self.date := by
  obtain ⟨era, century, cycle, year, rest, centuries, cycles, years, days, leap⟩ := self
  have started := yearStart_parts century cycles years
  have yearOfEra := yearOfEra_parts centuries cycles years days leap rfl
  have ofYear : 36524 * century + 1461 * cycle + 365 * year +
      rest - (36524 * century + 1461 * cycle + 365 * year) = rest :=
    Nat.add_sub_cancel_left _ _
  generalize made : 36524 * century + 1461 * cycle + 365 * year + rest = day at *
  have ofEra : (era * 146097 + (day : Int) - 719468 + 719468) / 146097 = era := by omega
  have ofDay : (era * 146097 + (day : Int) - 719468 + 719468 - era * 146097).toNat = day := by omega
  simp only [civilFromDays, number, made, ofEra, ofDay, yearOfEra, started, ofYear, date,
    EraDay.yearOfEra, monthIndex]
  rfl

theorem yearOfEra_lt : self.yearOfEra < 400 := by
  obtain ⟨_, century, cycle, year, rest, centuries, cycles, years, days, leap⟩ := self
  unfold yearOfEra
  dsimp only
  omega

/-- The month, counted from March, is read back. -/
theorem date_month :
    1 ≤ self.date.month ∧ self.date.month ≤ 12 ∧ (self.date.month + 9) % 12 = self.monthIndex := by
  have months := self.monthIndex_le
  unfold date
  dsimp only
  split <;> omega

theorem date_year : (if self.date.month ≤ 2 then self.date.year - 1 else self.date.year) =
    self.yearOfEra + self.era * 400 := by
  unfold date
  dsimp only
  split <;> split <;> omega

theorem daysFromCivil_date : daysFromCivil self.date = self.number := by
  have start := self.monthIndex_start
  have years := self.yearOfEra_lt
  have ofEra : (self.yearOfEra + self.era * 400 : Int) / 400 = self.era := by omega
  have ofYear : (self.yearOfEra + self.era * 400 : Int) - self.era * 400 = self.yearOfEra := by
    omega
  have started := yearStart_parts self.century self.cycles self.years
  have day : self.date.day = self.rest - (153 * self.monthIndex + 2) / 5 + 1 := rfl
  simp only [daysFromCivil, date_year, date_month, ofEra, ofYear, day]
  unfold number
  unfold yearOfEra at *
  omega

theorem date_valid : self.date.Valid := by
  obtain ⟨month_pos, month_le, index⟩ := self.date_month
  refine ⟨month_pos, month_le, Nat.succ_pos _, ?_⟩
  have ofRest : self.monthIndex = (5 * self.rest + 2) / 153 := rfl
  have day : self.date.day = self.rest - (153 * self.monthIndex + 2) / 5 + 1 := rfl
  have months := self.monthIndex_le
  have days := self.days
  have february : self.monthIndex = 11 → self.date.year = self.yearOfEra + self.era * 400 + 1 := by
    intro last
    have year := self.date_year
    rw [if_pos (by omega)] at year
    omega
  by_cases last : self.monthIndex = 11
  · have month : self.date.month = 2 := by omega
    rw [daysInMonth, if_pos month, february last, day, last]
    split
    · omega
    · -- Day 365 of a year is there only where the next year is a leap year.
      rename_i common
      have short : self.rest ≠ 365 := by
        intro full
        obtain ⟨year, century⟩ := self.leap full
        have cycles := self.cycles
        have centuries := self.centuries
        apply common
        have number : self.yearOfEra = 100 * self.century + 4 * self.cycle + self.year := rfl
        simp only [isLeap, Bool.and_eq_true, Bool.or_eq_true, decide_eq_true_eq]
        omega
      omega
  · have month : self.date.month = if self.monthIndex < 10 then self.monthIndex + 3
        else self.monthIndex - 9 := rfl
    rw [day, daysInMonth, month]
    repeat' split
    all_goals omega

end EraDay

theorem exists_eraDay (days : Int) : ∃ parts : EraDay, parts.number = days := by
  obtain ⟨century, cycle, year, rest, made, centuries, cycles, years, restDays, leap⟩ :=
    era_parts (show ((days + 719468) % 146097).toNat < 146097 by omega)
  refine ⟨⟨(days + 719468) / 146097, century, cycle, year, rest, centuries, cycles, years,
    restDays, leap⟩, ?_⟩
  unfold EraDay.number
  dsimp only
  omega

theorem daysFromCivil_civilFromDays (days : Int) : daysFromCivil (civilFromDays days) = days := by
  obtain ⟨parts, rfl⟩ := exists_eraDay days
  rw [parts.civilFromDays_number, parts.daysFromCivil_date]

theorem civilFromDays_valid (days : Int) : (civilFromDays days).Valid := by
  obtain ⟨parts, rfl⟩ := exists_eraDay days
  rw [parts.civilFromDays_number]
  exact parts.date_valid

/-! ### Months one after the other -/

def Civil.monthNumber (date : Civil) : Int := date.year * 12 + date.month - 1

def monthStart (month : Int) : Int := daysFromCivil ⟨month / 12, (month % 12).toNat + 1, 1⟩

theorem daysFromCivil_day (year : Int) (month : Nat) {day : Nat} (positive : 1 ≤ day) :
    daysFromCivil ⟨year, month, day⟩ = daysFromCivil ⟨year, month, 1⟩ + day - 1 := by
  unfold daysFromCivil
  dsimp only
  omega

theorem monthNumber_ofYear {date : Civil} (valid : date.Valid) :
    date.monthNumber / 12 = date.year ∧ (date.monthNumber % 12).toNat + 1 = date.month := by
  have low := valid.month_pos
  have high := valid.month_le
  unfold Civil.monthNumber
  omega

theorem monthStart_monthNumber {date : Civil} (valid : date.Valid) :
    monthStart date.monthNumber = daysFromCivil ⟨date.year, date.month, 1⟩ := by
  obtain ⟨ofYear, ofMonth⟩ := monthNumber_ofYear valid
  rw [monthStart, ofYear, ofMonth]

theorem daysFromCivil_eq {date : Civil} (valid : date.Valid) :
    daysFromCivil date = monthStart date.monthNumber + date.day - 1 := by
  rw [monthStart_monthNumber valid]
  exact daysFromCivil_day date.year date.month valid.day_pos

theorem nextMonth (year : Int) {month : Nat} (positive : 1 ≤ month) (before : month < 12) :
    daysFromCivil ⟨year, month + 1, 1⟩ = daysFromCivil ⟨year, month, 1⟩ +
      daysInMonth year month := by
  by_cases february : month = 2
  · subst february
    -- March begins the year that an era counts.
    have leap : (daysInMonth year 2 : Int) = if year % 4 = 0 ∧
        (year % 100 ≠ 0 ∨ year % 400 = 0) then 29 else 28 := by
      simp [daysInMonth, isLeap]
    rw [leap]
    simp only [daysFromCivil]
    norm_num
    split <;> omega
  · simp only [daysFromCivil, daysInMonth, if_neg february]
    interval_cases month <;> norm_num <;> omega

theorem nextYear (year : Int) :
    daysFromCivil ⟨year + 1, 1, 1⟩ = daysFromCivil ⟨year, 12, 1⟩ + daysInMonth year 12 := by
  simp only [daysFromCivil, daysInMonth]
  norm_num
  omega

theorem monthStart_succ (month : Int) :
    monthStart (month + 1) = monthStart month +
      daysInMonth (month / 12) ((month % 12).toNat + 1) := by
  unfold monthStart
  by_cases last : month % 12 = 11
  · rw [show (month + 1) / 12 = month / 12 + 1 by omega, show ((month + 1) % 12).toNat = 0 by omega,
      show (month % 12).toNat = 11 by omega]
    exact nextYear (month / 12)
  · rw [show (month + 1) / 12 = month /
      12 by omega, show ((month + 1) % 12).toNat = (month % 12).toNat + 1 by omega]
    exact nextMonth (month / 12) (by omega) (by omega)

theorem daysInMonth_pos (year : Int) (month : Nat) : 0 < daysInMonth year month := by
  unfold daysInMonth
  repeat' split
  all_goals omega

theorem monthStart_lt_iff {month other : Int} : monthStart month < monthStart other ↔
    month < other := by
  apply StrictMono.lt_iff_lt
  apply strictMono_int_of_lt_succ
  intro month
  have positive := daysInMonth_pos (month / 12) ((month % 12).toNat + 1)
  rw [monthStart_succ]
  omega

theorem monthStart_mono {month other : Int} (before : month ≤ other) :
    monthStart month ≤ monthStart other := by
  rw [← not_lt, monthStart_lt_iff]
  exact not_lt.mpr before

theorem monthStart_le_daysFromCivil {date : Civil} (valid : date.Valid) :
    monthStart date.monthNumber ≤ daysFromCivil date ∧
      daysFromCivil date < monthStart (date.monthNumber + 1) := by
  have first := valid.day_pos
  have last := valid.day_le
  obtain ⟨year, month⟩ := monthNumber_ofYear valid
  rw [monthStart_succ, year, month, daysFromCivil_eq valid]
  omega

theorem monthStart_le_iff {date : Civil} (valid : date.Valid) (month : Int) :
    monthStart month ≤ daysFromCivil date ↔ month ≤ date.monthNumber := by
  obtain ⟨low, high⟩ := monthStart_le_daysFromCivil valid
  constructor
  · intro before
    have strict : monthStart month < monthStart (date.monthNumber + 1) := by omega
    have months := monthStart_lt_iff.mp strict
    omega
  · intro before
    have started := monthStart_mono before
    omega

theorem daysFromCivil_inj {date other : Civil} (valid : date.Valid) (valid' : other.Valid)
    (same : daysFromCivil date = daysFromCivil other) : date = other := by
  have months : date.monthNumber = other.monthNumber := by
    apply le_antisymm
    · exact (monthStart_le_iff valid' _).mp (same ▸ (monthStart_le_daysFromCivil valid).1)
    · exact (monthStart_le_iff valid _).mp (same ▸ (monthStart_le_daysFromCivil valid').1)
  have days : date.day = other.day := by
    rw [daysFromCivil_eq valid, daysFromCivil_eq valid', months] at same
    omega
  obtain ⟨year, month⟩ := monthNumber_ofYear valid
  obtain ⟨year', month'⟩ := monthNumber_ofYear valid'
  rw [months] at year month
  have sameYear : date.year = other.year := year.symm.trans year'
  have sameMonth : date.month = other.month := month.symm.trans month'
  cases date
  cases other
  cases sameYear
  cases sameMonth
  cases days
  rfl

theorem civilFromDays_daysFromCivil {date : Civil} (valid : date.Valid) :
    civilFromDays (daysFromCivil date) = date :=
  daysFromCivil_inj (civilFromDays_valid _) valid (daysFromCivil_civilFromDays _)

end Rustflow.Collect.Gregorian
