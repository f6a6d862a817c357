import Rustflow.Collect.Layout

/-!
# The Gregorian calendar

A calendar to run the layout with: the fields of a date counted in days from the epoch, and the
patterns the layout formats and parses with.
-/

namespace Rustflow.Collect.Gregorian

structure Civil where
  year : Int
  month : Nat
  day : Nat

/-- Days from the epoch, with years that begin in March so that the leap day comes last. -/
def daysFromCivil (date : Civil) : Int :=
  let year := if date.month ≤ 2 then date.year - 1 else date.year
  let era := year / 400
  let yearOfEra := year - era * 400
  let dayOfYear := (153 * ((date.month + 9) % 12) + 2) / 5 + date.day - 1
  era * 146097 + yearOfEra * 365 + yearOfEra / 4 - yearOfEra / 100 + dayOfYear - 719468

def civilFromDays (days : Int) : Civil :=
  let shifted := days + 719468
  let era := shifted / 146097
  let dayOfEra := (shifted - era * 146097).toNat
  let yearOfEra := (dayOfEra - dayOfEra / 1460 + dayOfEra / 36524 - dayOfEra / 146096) / 365
  let dayOfYear := dayOfEra - (365 * yearOfEra + yearOfEra / 4 - yearOfEra / 100)
  let monthIndex := (5 * dayOfYear + 2) / 153
  let month := if monthIndex < 10 then monthIndex + 3 else monthIndex - 9
  { year := yearOfEra + era * 400 + if month ≤ 2 then 1 else 0, month
    day := dayOfYear - (153 * monthIndex + 2) / 5 + 1 }

def isLeap (year : Int) : Bool := year % 4 = 0 && (year % 100 ≠ 0 || year % 400 = 0)

def daysInMonth (year : Int) (month : Nat) : Nat :=
  if month = 2 then if isLeap year then 29 else 28
  else if month = 4 ∨ month = 6 ∨ month = 9 ∨ month = 11 then 30
  else 31

def civil (t : DateTime) : Civil := civilFromDays (t.timestamp / 86400)

def secondOfDay (t : DateTime) : Nat := (t.timestamp % 86400).toNat

def withYmdAndHms (year : Int) (month day hour minute second : Nat) : Option DateTime :=
  if 1 ≤ month ∧ month ≤ 12 ∧ 1 ≤ day ∧ day ≤ daysInMonth year month ∧ hour < 24 ∧ minute < 60 ∧
    second < 60 then
    DateTime.fromTimestamp
      (daysFromCivil { year, month, day } * 86400 + (hour * 3600 + minute * 60 + second : Nat)) 0
  else none

def withDate (t : DateTime) (date : Civil) : Option DateTime :=
  if 1 ≤ date.month ∧ date.month ≤ 12 ∧ date.day ≤ daysInMonth date.year date.month then
    some ⟨t.nanos + (daysFromCivil date - t.timestamp / 86400) * (86400 * 1000000000)⟩
  else none

def padded (width n : Nat) : List Char :=
  let digits := (toString n).toList
  List.replicate (width - digits.length) '0' ++ digits

def formatChars (t : DateTime) : List Char → List Char
  | '%' :: 'Y' :: rest => padded 4 (civil t).year.toNat ++ formatChars t rest
  | '%' :: 'm' :: rest => padded 2 (civil t).month ++ formatChars t rest
  | '%' :: 'd' :: rest => padded 2 (civil t).day ++ formatChars t rest
  | '%' :: 'H' :: rest => padded 2 (secondOfDay t / 3600) ++ formatChars t rest
  | '%' :: 'M' :: rest => padded 2 (secondOfDay t / 60 % 60) ++ formatChars t rest
  | '%' :: 'S' :: rest => padded 2 (secondOfDay t % 60) ++ formatChars t rest
  | c :: rest => c :: formatChars t rest
  | [] => []

/-- A stamp of four digits for the year and two for each other field. -/
def parseStamp (text : List Char) : Option DateTime := do
  let year ← partitionNumber (text.take 4) 4
  let month ← partitionNumber ((text.drop 4).take 2) 2
  let day ← partitionNumber ((text.drop 6).take 2) 2
  let hour ← partitionNumber ((text.drop 9).take 2) 2
  let minute ← partitionNumber ((text.drop 11).take 2) 2
  let second ← partitionNumber ((text.drop 13).take 2) 2
  if text[8]? = some 'T' ∧ text.drop 15 = ['Z'] then
    withYmdAndHms year month day hour minute second else none

def calendar : Calendar where
  format pattern t := String.ofList (formatChars t pattern.toList)
  parseFromStr text _ := parseStamp text.toList
  minute t := secondOfDay t / 60 % 60
  month t := (civil t).month
  year t := (civil t).year
  withMonth t month := withDate t { civil t with month }
  withYear t year := withDate t { civil t with year }
  withYmdAndHms := withYmdAndHms

def outTree (level : UInt8) (partitioning : Partitioning) : Layout :=
  { root := [.utf8 "out"], namePrefix := "flows", extension := "parquet", level, partitioning }

example : (outTree 3 .plain).pathFor calendar ⟨1787832180 * 1000000000⟩ =
    ["out", "2026", "08", "27", "12", "00", "flows-20260827T120300Z.parquet"].map .utf8 := by
  decide +kernel

example : (outTree 3 .plain).name calendar ".flows-20260820T120000Z-1.parquet.4242.tmp".toList =
    some (⟨1787227200 * 1000000000⟩, true) := by decide +kernel

example :
    (outTree 3 .plain).period calendar (["out", "2026", "08", "20", "12"].map .utf8) "35".toList =
      some ⟨1787229300, 1787229600⟩ := by decide +kernel

example :
    (outTree 3 .hive).period calendar (["out", "date=2026-12-31"].map .utf8) "hour=23".toList =
      some ⟨1798758000, 1798761600⟩ := by decide +kernel

end Rustflow.Collect.Gregorian
