import Rustflow.Collect.CalendarLaws

/-!
# Periods of the calendar

The period of a partition holds the instants whose fields begin with its numbers, and no others.
So one period lies in another, or apart from it, as their numbers do.
-/

namespace Rustflow.Collect
open Gregorian

instance : Membership Int Period where
  mem period t := period.start ≤ t ∧ t < period.stop

theorem Period.mem_def {period : Period} {t : Int} :
    t ∈ period ↔ period.start ≤ t ∧ t < period.stop := Iff.rfl

/-- A timestamp by year, month, day, hour and steps of five minutes. -/
def fieldsOf (t : Int) : List Int :=
  let date := civilFromDays (t / 86400)
  [date.year, date.month, date.day, t % 86400 / 3600, t % 86400 / 60 % 60 / 5 * 5]

structure Period.Spans (period : Period) (numbers : List Int) : Prop where
  nonempty : period.start < period.stop
  mem_iff : ∀ t, t ∈ period ↔ numbers <+: fieldsOf t

namespace Period.Spans
variable {period period' : Period} {numbers numbers' : List Int}

theorem within (spans : period.Spans numbers) (spans' : period'.Spans numbers')
    (fewer : numbers <+: numbers') :
    period.start ≤ period'.start ∧ period'.stop ≤ period.stop := by
  have inside : ∀ t, t ∈ period' → t ∈ period :=
    fun t mem => (spans.mem_iff t).mpr (fewer.trans ((spans'.mem_iff t).mp mem))
  have nonempty := spans'.nonempty
  have first := inside period'.start ⟨le_rfl, nonempty⟩
  have last := inside (period'.stop - 1) ⟨by omega, by omega⟩
  rw [mem_def] at first last
  omega

theorem apart (spans : period.Spans numbers) (spans' : period'.Spans numbers')
    (same : numbers.length = numbers'.length) (different : numbers ≠ numbers') :
    period.stop ≤ period'.start ∨ period'.stop ≤ period.start := by
  have nonempty := spans.nonempty
  have nonempty' := spans'.nonempty
  by_contra overlap
  have both : max period.start period'.start ∈ period ∧ max period.start period'.start ∈
      period' := by
    simp only [mem_def]
    omega
  have fields := (spans.mem_iff _).mp both.1
  have fields' := (spans'.mem_iff _).mp both.2
  exact different ((List.prefix_of_prefix_length_le fields fields' same.le).eq_of_length same)

end Period.Spans

/-! ### The spans of the calendar -/

def Span.numbers (year month day hour minute : Nat) : Span → List Nat
  | .year => [year]
  | .month => [year, month]
  | .day => [year, month, day]
  | .hour => [year, month, day, hour]
  | .bucket => [year, month, day, hour, minute]

/-- The fields below the span are the first there are. -/
def Span.Begins (month day hour minute : Nat) : Span → Prop
  | .year => month = 1 ∧ day = 1 ∧ hour = 0 ∧ minute = 0
  | .month => day = 1 ∧ hour = 0 ∧ minute = 0
  | .day => hour = 0 ∧ minute = 0
  | .hour => minute = 0
  | .bucket => minute % LEVEL_3_MINUTES = 0

namespace Gregorian

theorem timestamp_seconds (seconds : Int) :
    (DateTime.mk (seconds * 1000000000)).timestamp = seconds :=
  Int.mul_ediv_cancel seconds (by decide)

def firstOf (month : Int) : DateTime := ⟨monthStart month * 86400 * 1000000000⟩

theorem valid_firstOf (month : Int) : (Civil.mk (month / 12) ((month % 12).toNat + 1) 1).Valid where
  month_pos := Nat.succ_pos _
  month_le := by
    dsimp only
    omega
  day_pos := le_rfl
  day_le := daysInMonth_pos _ _

theorem civil_firstOf (month : Int) :
    civil (firstOf month) = ⟨month / 12, (month % 12).toNat + 1, 1⟩ := by
  rw [civil, firstOf, timestamp_seconds, Int.mul_ediv_cancel _ (by decide), monthStart,
    civilFromDays_daysFromCivil (valid_firstOf month)]

theorem fourDigits_firstOf {month : Int} (low : 0 ≤ month) (high : month < 120000) :
    FourDigits (firstOf month) := by
  rw [FourDigits, civil_firstOf]
  dsimp only
  omega

theorem withDate_firstOf (month other : Int) :
    withDate (firstOf month) ⟨other / 12, (other % 12).toNat + 1, 1⟩ = some (firstOf other) := by
  have valid := valid_firstOf other
  rw [withDate, if_pos ⟨valid.month_pos, valid.month_le, valid.day_le⟩, firstOf, timestamp_seconds,
    Int.mul_ediv_cancel _ (by decide), firstOf]
  congr 2
  unfold monthStart
  dsimp only
  omega

theorem mem_months {days first last : Int} :
    monthStart first ≤ days ∧ days < monthStart last ↔
      first ≤ (civilFromDays days).monthNumber ∧ (civilFromDays days).monthNumber < last := by
  have valid := civilFromDays_valid days
  have read := daysFromCivil_civilFromDays days
  have low := monthStart_le_iff valid first
  have high := monthStart_le_iff valid last
  rw [read] at low high
  omega

theorem civilFromDays_eq_iff {days : Int} {date : Civil} (valid : date.Valid) :
    civilFromDays days = date ↔ days = daysFromCivil date := by
  constructor
  · rintro rfl
    exact (daysFromCivil_civilFromDays days).symm
  · rintro rfl
    exact civilFromDays_daysFromCivil valid

end Gregorian

section
variable {calendar : Calendar} {start : DateTime} {year month day hour minute : Nat}

theorem withYear_firstOf (counts : calendar.CountsGregorian) {month other : Int} (low : 0 ≤ month)
    (high : month < 120000) (low' : 0 ≤ other) (high' : other ≤ 10000) :
    calendar.withYear (firstOf month) other = some (firstOf (other * 12 + month % 12)) := by
  have made := withDate_firstOf month (other * 12 + month % 12)
  rw [show (other * 12 + month % 12) / 12 =
    other by omega, show (other * 12 + month % 12) % 12 = month % 12 by omega] at made
  rw [counts.withYear _ _ (fourDigits_firstOf low high) low' high']
  dsimp only [Gregorian.calendar]
  rw [civil_firstOf]
  exact made

theorem withMonth_firstOf (counts : calendar.CountsGregorian) {of : Int} {other : Nat}
    (low : 0 ≤ of) (high : of < 120012) (positive : 1 ≤ other) (small : other ≤ 12) :
    calendar.withMonth (firstOf of) other = some (firstOf (of / 12 * 12 + other - 1)) := by
  have made := withDate_firstOf of (of / 12 * 12 + other - 1)
  rw [show (of / 12 * 12 + other - 1) / 12 = of / 12 by omega,
    show ((of / 12 * 12 + other - 1) % 12).toNat + 1 = other by omega] at made
  have digits : 0 ≤ (civil (firstOf of)).year ∧ (civil (firstOf of)).year ≤ 10000 := by
    rw [civil_firstOf]
    dsimp only
    omega
  rw [counts.withMonth _ _ digits.1 digits.2]
  dsimp only [Gregorian.calendar]
  rw [civil_firstOf]
  exact made

theorem spanEnd_year (counts : calendar.CountsGregorian) {of : Int} (low : 0 ≤ of)
    (high : of < 120000) :
    spanEnd calendar (firstOf of) .year = some (firstOf (of + 12)) := by
  have digits := fourDigits_firstOf low high
  have isYear : calendar.year (firstOf of) = of / 12 := by
    rw [counts.year _ digits]
    exact congrArg Civil.year (civil_firstOf of)
  rw [spanEnd, isYear, withYear_firstOf counts low high (by omega) (by omega)]
  congr 2
  omega

theorem spanEnd_month (counts : calendar.CountsGregorian) {of : Int} (low : 0 ≤ of)
    (high : of < 120000) :
    spanEnd calendar (firstOf of) .month = some (firstOf (of + 1)) := by
  have digits := fourDigits_firstOf low high
  have isMonth : calendar.month (firstOf of) = (of % 12).toNat + 1 := by
    rw [counts.month _ digits]
    exact congrArg Civil.month (civil_firstOf of)
  by_cases last : calendar.month (firstOf of) = 12
  · have next := spanEnd_year counts low high
    rw [spanEnd] at next
    rw [spanEnd, if_pos last, next, Option.bind_eq_bind, Option.bind_some,
      withMonth_firstOf counts (by omega) (by omega) le_rfl (by decide)]
    congr 2
    omega
  · rw [spanEnd, if_neg last, isMonth,
      withMonth_firstOf counts low (by omega) (by omega) (by omega)]
    congr 2
    omega

theorem timestamp_firstOf (of : Int) : (firstOf of).timestamp = monthStart of * 86400 :=
  timestamp_seconds _

theorem spans_months {numbers : List Int} {first last : Int} (later : first < last)
    (fields : ∀ t, numbers <+: fieldsOf t ↔
      first ≤ (civilFromDays (t / 86400)).monthNumber ∧
        (civilFromDays (t / 86400)).monthNumber < last) :
    Period.Spans ⟨(firstOf first).timestamp, (firstOf last).timestamp⟩ numbers where
  nonempty := by
    have months := monthStart_lt_iff.mpr later
    rw [timestamp_firstOf, timestamp_firstOf]
    dsimp only
    omega
  mem_iff t := by
    rw [fields, ← mem_months, Period.mem_def, timestamp_firstOf, timestamp_firstOf]
    dsimp only
    omega

theorem day_fieldsOf {date : Civil} (valid : date.Valid) (below : List Int) (t : Int) :
    date.year :: (date.month : Int) :: (date.day : Int) :: below <+: fieldsOf t ↔
      t / 86400 = daysFromCivil date ∧ below <+: [t % 86400 / 3600,
        t % 86400 / 60 % 60 / 5 * 5] := by
  rw [← civilFromDays_eq_iff valid]
  unfold fieldsOf
  dsimp only
  simp only [List.cons_prefix_cons, Int.natCast_inj]
  constructor
  · rintro ⟨ofYear, ofMonth, ofDay, rest⟩
    refine ⟨?_, rest⟩
    cases date
    cases read : civilFromDays (t / 86400)
    rw [read] at ofYear ofMonth ofDay
    cases ofYear
    cases ofMonth
    cases ofDay
    rfl
  · rintro ⟨same, rest⟩
    rw [same]
    exact ⟨rfl, rfl, rfl, rest⟩

/-- A span that begins where its numbers say ends before any instant with others. -/
theorem spanEnd_spans (counts : calendar.CountsGregorian) (short : year ≤ 9999)
    (made : calendar.withYmdAndHms year month day hour minute 0 = some start) {span : Span}
    (begins : span.Begins month day hour minute) :
    ∃ stop, spanEnd calendar start span = some stop ∧
      Period.Spans ⟨start.timestamp, stop.timestamp⟩
        ((span.numbers year month day hour minute).map (↑)) := by
  rw [counts.withYmdAndHms year month day hour minute 0 (by omega) (by omega)] at made
  obtain ⟨valid, hours, minutes, -, rfl⟩ := (withYmdAndHms_eq_some (by omega) (by omega)).mp made
  have months := valid.month_le
  have positive := valid.month_pos
  dsimp only at months positive
  have fields : ∀ t, (civilFromDays (t / 86400)).monthNumber = (civilFromDays (t / 86400)).year *
      12 + (civilFromDays (t / 86400)).month - 1 :=
    fun t => rfl
  have inYear : ∀ t, 1 ≤ (civilFromDays (t / 86400)).month ∧
      (civilFromDays (t / 86400)).month ≤ 12 :=
    fun t => ⟨(civilFromDays_valid _).month_pos, (civilFromDays_valid _).month_le⟩
  have first : day = 1 → hour = 0 → minute = 0 →
      DateTime.mk ((daysFromCivil ⟨year, month, day⟩ * 86400 +
        (hour * 3600 + minute * 60 + 0 : Nat)) * 1000000000) =
        firstOf (year * 12 + month - 1) := by
    rintro rfl rfl rfl
    have month := monthStart_monthNumber valid
    unfold Civil.monthNumber at month
    rw [firstOf, month]
    simp
  cases span with
  | year =>
    obtain ⟨rfl, atDay, atHour, atMinute⟩ := begins
    rw [first atDay atHour atMinute]
    refine ⟨_, spanEnd_year counts (by omega) (by omega), spans_months (by omega) fun t => ?_⟩
    have known := inYear t
    simp only [Span.numbers, List.map_cons, List.map_nil, fieldsOf, List.cons_prefix_cons,
      List.nil_prefix, and_true, fields t]
    omega
  | month =>
    obtain ⟨atDay, atHour, atMinute⟩ := begins
    rw [first atDay atHour atMinute]
    refine ⟨_, spanEnd_month counts (by omega) (by omega), spans_months (by omega) fun t => ?_⟩
    have known := inYear t
    simp only [Span.numbers, List.map_cons, List.map_nil, fieldsOf, List.cons_prefix_cons,
      List.nil_prefix, and_true, fields t]
    omega
  | day =>
    obtain ⟨rfl, rfl⟩ := begins
    refine ⟨_, rfl, ?_, fun t => ?_⟩
    · simp only [DateTime.timestamp]
      omega
    · refine Iff.trans ?_ (day_fieldsOf valid [] t).symm
      simp only [Period.mem_def, DateTime.timestamp, List.nil_prefix, and_true]
      omega
  | hour =>
    obtain rfl := begins
    refine ⟨_, rfl, ?_, fun t => ?_⟩
    · simp only [DateTime.timestamp]
      omega
    · refine Iff.trans ?_ (day_fieldsOf valid [(hour : Int)] t).symm
      simp only [Period.mem_def, DateTime.timestamp, List.cons_prefix_cons,
        List.nil_prefix, and_true]
      omega
  | bucket =>
    have steps : minute % 5 = 0 := begins
    refine ⟨_, rfl, ?_, fun t => ?_⟩
    · simp only [DateTime.timestamp, LEVEL_3_MINUTES]
      omega
    · refine Iff.trans ?_ (day_fieldsOf valid [(hour : Int), (minute : Int)] t).symm
      simp only [Period.mem_def, DateTime.timestamp, LEVEL_3_MINUTES, List.cons_prefix_cons,
        List.nil_prefix, and_true]
      omega

end

end Rustflow.Collect
