import Rustflow.Collect.CivilDates

/-!
# What the layout relies on of the date library

It counts by the Gregorian calendar, formats the numbers of a date with leading zeros, and reads a
stamp back that it wrote. The calendar of `Gregorian` is one that does.
-/

namespace Rustflow.Collect
open Text

namespace Gregorian

def FourDigits (t : DateTime) : Prop := 0 ≤ (civil t).year ∧ (civil t).year ≤ 9999

def layoutPatterns : List String :=
  ["%Y", "%m", "%d", "%H", "date=%Y-%m-%d", "hour=%H", STAMP_FORMAT]

end Gregorian

open Gregorian in
/-- The calls of the layout, on dates around those that have four-digit years. Of what is read as a
stamp besides it is only said that it ends like one. -/
structure Calendar.CountsGregorian (library : Calendar) : Prop where
  format : ∀ t, FourDigits t → ∀ pattern ∈ layoutPatterns, library.format pattern t =
    calendar.format pattern t
  minute : ∀ t, FourDigits t → library.minute t = calendar.minute t
  month : ∀ t, FourDigits t → library.month t = calendar.month t
  year : ∀ t, FourDigits t → library.year t = calendar.year t
  withYmdAndHms : ∀ year month day hour minute second, 0 ≤ year → year ≤ 9999 →
    library.withYmdAndHms year month day hour minute second =
      calendar.withYmdAndHms year month day hour minute second
  withYear : ∀ t year, FourDigits t → 0 ≤ year → year ≤ 10000 →
    library.withYear t year = calendar.withYear t year
  withMonth : ∀ t month, 0 ≤ (civil t).year → (civil t).year ≤ 10000 →
    library.withMonth t month = calendar.withMonth t month
  readsBack : ∀ t, FourDigits t →
    library.parseFromStr (calendar.format STAMP_FORMAT t) STAMP_FORMAT =
      some ⟨t.timestamp * 1000000000⟩
  readsStamps : ∀ text t, library.parseFromStr text STAMP_FORMAT = some t →
    ∃ front, text.toList = front ++ ['Z']

namespace Gregorian

/-! ### Numbers with leading zeros -/

section
variable {width n : Nat}

theorem length_padded (positive : 0 < width) (short : n < 10 ^ width) :
    (padded width n).length = width := by
  have digits : (Nat.toDigits 10 n).length ≤ width :=
    (Nat.length_toDigits_le_iff (by decide) positive).mpr short
  simp only [padded, Nat.toString_eq_repr, Nat.toList_repr, List.length_append,
    List.length_replicate]
  omega

theorem isDigit_of_mem_padded {c : Char} (inside : c ∈ padded width n) : c.isDigit = true := by
  simp only [padded, Nat.toString_eq_repr, Nat.toList_repr] at inside
  rcases List.mem_append.mp inside with zero | digit
  · rw [List.eq_of_mem_replicate zero]
    rfl
  · exact isDigit_of_mem_toDigits digit

theorem parseNumber_padded (width n : Nat) : parseNumber (padded width n) = n := by
  simp only [padded, Nat.toString_eq_repr, Nat.toList_repr]
  rw [parseNumber_zeros, parseNumber_toDigits]

theorem partitionNumber_eq_some {name : List Char} (positive : 0 < width) :
    partitionNumber name width = some n ↔ n < 10 ^ width ∧ name = padded width n := by
  unfold partitionNumber
  constructor
  · intro read
    split at read
    · rename_i spelled
      cases read
      obtain ⟨length, number⟩ := spelled
      have digits : ∀ c ∈ name, c.isDigit = true := by
        simp only [isNumber, Bool.and_eq_true, List.all_eq_true] at number
        exact number.2
      have short : parseNumber name < 10 ^ width := length ▸ parseNumber_lt digits
      refine ⟨short,
        parseNumber_inj ?_ digits (fun c => isDigit_of_mem_padded) (parseNumber_padded _ _).symm⟩
      rw [length, length_padded positive short]
    · cases read
  · rintro ⟨short, rfl⟩
    have length := length_padded positive short
    have number : isNumber (padded width n) = true := by
      simp only [isNumber, Bool.and_eq_true, List.all_eq_true, Bool.not_eq_true',
        List.isEmpty_eq_false_iff]
      refine ⟨fun empty => ?_, fun c => isDigit_of_mem_padded⟩
      rw [empty, List.length_nil] at length
      omega
    rw [if_pos ⟨length, number⟩, parseNumber_padded]

theorem partitionNumber_padded (positive : 0 < width) (short : n < 10 ^ width) :
    partitionNumber (padded width n) width = some n :=
  (partitionNumber_eq_some positive).mpr ⟨short, rfl⟩

end

/-! ### Stamps -/

def stampText (t : DateTime) : List Char := (calendar.format STAMP_FORMAT t).toList

theorem stampText_eq (t : DateTime) :
    stampText t = padded 4 (civil t).year.toNat ++ padded 2 (civil t).month ++
      padded 2 (civil t).day ++ ['T'] ++
      padded 2 (secondOfDay t / 3600) ++ padded 2 (secondOfDay t / 60 % 60) ++
      padded 2 (secondOfDay t % 60) ++ ['Z'] := by
  have pattern : STAMP_FORMAT.toList = ['%', 'Y', '%', 'm', '%', 'd', 'T', '%', 'H', '%', 'M', '%',
      'S', 'Z'] := rfl
  rw [stampText, calendar, String.toList_ofList, pattern]
  simp [formatChars]

theorem secondOfDay_lt (t : DateTime) : secondOfDay t < 86400 := by
  unfold secondOfDay
  omega

theorem civil_valid (t : DateTime) : (civil t).Valid := civilFromDays_valid _

theorem Civil.Valid.day_lt {date : Civil} (valid : date.Valid) : date.day < 32 := by
  have last := valid.day_le
  unfold daysInMonth at last
  repeat' split at last
  all_goals omega

theorem days_fourDigits {date : Civil} (valid : date.Valid) (low : 0 ≤ date.year)
    (high : date.year ≤ 9999) :
    -719528 ≤ daysFromCivil date ∧ daysFromCivil date < 2932897 := by
  obtain ⟨started, ended⟩ := monthStart_le_daysFromCivil valid
  have first : monthStart 0 = -719528 := by decide
  have last : monthStart 120000 = 2932897 := by decide
  have months := valid.month_le
  have month := valid.month_pos
  have after : monthStart 0 ≤ monthStart date.monthNumber :=
    monthStart_mono (by unfold Civil.monthNumber; omega)
  have before : monthStart (date.monthNumber + 1) ≤ monthStart 120000 :=
    monthStart_mono (by unfold Civil.monthNumber; omega)
  omega

theorem withYmdAndHms_eq_some {year : Int} {month day hour minute second : Nat} (low : 0 ≤ year)
    (high : year ≤ 9999) {t : DateTime} :
    withYmdAndHms year month day hour minute second = some t ↔
      (Civil.mk year month day).Valid ∧ hour < 24 ∧ minute < 60 ∧ second < 60 ∧
        t =
          ⟨(daysFromCivil ⟨year, month, day⟩ * 86400 + (hour * 3600 + minute * 60 + second : Nat)) *
            1000000000⟩ := by
  unfold withYmdAndHms
  constructor
  · intro made
    split at made
    · rename_i fields
      obtain ⟨month_pos, month_le, day_pos, day_le, hours, minutes, seconds⟩ := fields
      refine ⟨⟨month_pos, month_le, day_pos, day_le⟩, hours, minutes, seconds, ?_⟩
      unfold DateTime.fromTimestamp at made
      split at made
      · cases made
        rw [Nat.cast_zero, Int.add_zero]
      · cases made
    · cases made
  · rintro ⟨valid, hours, minutes, seconds, rfl⟩
    obtain ⟨first, last⟩ := days_fourDigits valid low high
    rw [if_pos ⟨valid.month_pos, valid.month_le, valid.day_pos, valid.day_le, hours,
      minutes, seconds⟩,
      DateTime.fromTimestamp_eq_some (by unfold DateTime.MIN_SECS; omega)
        (by unfold DateTime.MAX_SECS; omega) (by decide),
      Nat.cast_zero, Int.add_zero]

theorem withYmdAndHms_civil {t : DateTime} (digits : FourDigits t) :
    withYmdAndHms (civil t).year (civil t).month (civil t).day (secondOfDay t / 3600)
      (secondOfDay t / 60 % 60) (secondOfDay t % 60) =
      some ⟨t.timestamp * 1000000000⟩ := by
  have day := secondOfDay_lt t
  have seconds : (secondOfDay t : Int) = t.timestamp % 86400 := by
    unfold secondOfDay
    omega
  have days : daysFromCivil (civil t) = t.timestamp / 86400 := daysFromCivil_civilFromDays _
  refine (withYmdAndHms_eq_some digits.1 digits.2).mpr
    ⟨civil_valid t, by omega, by omega, by omega, ?_⟩
  congr 1
  rw [days]
  omega

theorem padded_two {n : Nat} (short : n < 100) : ∃ a b, padded 2 n = [a, b] :=
  List.length_eq_two.mp (length_padded (by decide) short)

theorem padded_four {n : Nat} (short : n < 10000) : ∃ a b c d, padded 4 n = [a, b, c, d] := by
  have length := @length_padded 4 n (by decide) short
  match padded 4 n, length with
  | [a, b, c, d], _ => exact ⟨a, b, c, d, rfl⟩

theorem parseStamp_stampText {t : DateTime} (digits : FourDigits t) :
    parseStamp (stampText t) = some ⟨t.timestamp * 1000000000⟩ := by
  have months := (civil_valid t).month_le
  have days := (civil_valid t).day_lt
  have day := secondOfDay_lt t
  have fields := withYmdAndHms_civil digits
  obtain ⟨low, high⟩ := digits
  have year := @partitionNumber_padded 4 (civil t).year.toNat (by decide) (by omega)
  have two : ∀ n < 100, partitionNumber (padded 2 n) 2 = some n :=
    fun n short => partitionNumber_padded (by decide) short
  have month := two (civil t).month (by omega)
  have dayOfMonth := two (civil t).day (by omega)
  have hour := two (secondOfDay t / 3600) (by omega)
  have minute := two (secondOfDay t / 60 % 60) (by omega)
  have second := two (secondOfDay t % 60) (by omega)
  have whole : ((civil t).year.toNat : Int) = (civil t).year := by omega
  rw [stampText_eq]
  -- With its digits written out, every part of the stamp is where it is read.
  obtain ⟨y₁, y₂, y₃, y₄, years⟩ := padded_four (n := (civil t).year.toNat) (by omega)
  obtain ⟨m₁, m₂, ofMonth⟩ := padded_two (n := (civil t).month) (by omega)
  obtain ⟨d₁, d₂, ofDay⟩ := padded_two (n := (civil t).day) (by omega)
  obtain ⟨h₁, h₂, ofHour⟩ := padded_two (n := secondOfDay t / 3600) (by omega)
  obtain ⟨n₁, n₂, ofMinute⟩ := padded_two (n := secondOfDay t / 60 % 60) (by omega)
  obtain ⟨s₁, s₂, ofSecond⟩ := padded_two (n := secondOfDay t % 60) (by omega)
  rw [years] at year ⊢
  rw [ofMonth] at month ⊢
  rw [ofDay] at dayOfMonth ⊢
  rw [ofHour] at hour ⊢
  rw [ofMinute] at minute ⊢
  rw [ofSecond] at second ⊢
  simp only [parseStamp, List.cons_append, List.nil_append, List.take, List.drop, year, month,
    dayOfMonth, hour, minute, second, Option.bind_eq_bind, Option.bind_some]
  rw [whole, fields]
  rfl

/-- This calendar does what is relied on. -/
theorem countsGregorian : calendar.CountsGregorian where
  format _ _ _ _ := rfl
  minute _ _ := rfl
  month _ _ := rfl
  year _ _ := rfl
  withYmdAndHms _ _ _ _ _ _ _ _ := rfl
  withYear _ _ _ _ _ := rfl
  withMonth _ _ _ _ := rfl
  readsBack t digits := parseStamp_stampText digits
  readsStamps text t read := by
    obtain ⟨year, -, read⟩ := Option.bind_eq_some_iff.mp read
    obtain ⟨month, -, read⟩ := Option.bind_eq_some_iff.mp read
    obtain ⟨day, -, read⟩ := Option.bind_eq_some_iff.mp read
    obtain ⟨hour, -, read⟩ := Option.bind_eq_some_iff.mp read
    obtain ⟨minute, -, read⟩ := Option.bind_eq_some_iff.mp read
    obtain ⟨second, -, read⟩ := Option.bind_eq_some_iff.mp read
    split at read
    · rename_i marks
      refine ⟨text.toList.take 15, ?_⟩
      rw [← marks.2, List.take_append_drop]
    · cases read

end Gregorian

end Rustflow.Collect
