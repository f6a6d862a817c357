import Rustflow.Collect.Periods

/-!
# Names of partition directories

Either scheme spells the numbers of a span in the names of the directories from the root on, and
reads them back.
-/

namespace Rustflow.Collect
open Text Gregorian

def numberWidth (depth : Nat) : Nat := if depth = 0 then 4 else 2

def plainNames : Nat → List Nat → List (List Char)
  | _, [] => []
  | depth, n :: ns => padded (numberWidth depth) n :: plainNames (depth + 1) ns

/-- The numbers have no more digits than are written. -/
def Short : Nat → List Nat → Prop
  | _, [] => True
  | depth, n :: ns => n < 10 ^ numberWidth depth ∧ Short (depth + 1) ns

/-- The date in one name, then the hour and the minute. -/
def hiveNames : List Nat → List (List Char)
  | year :: month :: day :: below =>
    ("date=".toList ++ (padded 4 year ++ '-' :: (padded 2 month ++ '-' :: padded 2 day))) ::
      List.zipWith (fun key n => key.toList ++ padded 2 n) ["hour=", "minute="] below
  | _ => []

def Partitioning.spell : Partitioning → List Nat → List (List Char)
  | .plain => plainNames 0
  | .hive => hiveNames

section
variable {calendar : Calendar} {start : DateTime} {span : Span} {names : List (List Char)}

/-! ### Plain names -/

theorem plainNumbers_eq_some {depth : Nat} {parts : List Nat} :
    plainNumbers depth names = some parts ↔ names = plainNames depth parts ∧ Short depth parts := by
  have positive : ∀ depth, 0 < numberWidth depth := by
    intro depth
    unfold numberWidth
    split <;> decide
  induction names generalizing depth parts with
  | nil =>
    cases parts with
    | nil => exact ⟨fun _ => ⟨rfl, trivial⟩, fun _ => rfl⟩
    | cons part parts => exact ⟨fun run => (by cases run), fun ⟨same, _⟩ => (by cases same)⟩
  | cons name names ih =>
    constructor
    · intro run
      obtain ⟨part, read, run⟩ := Option.bind_eq_some_iff.mp run
      obtain ⟨parts, reads, same⟩ := Option.bind_eq_some_iff.mp run
      cases same
      obtain ⟨short, rfl⟩ := (partitionNumber_eq_some (positive depth)).mp read
      obtain ⟨rfl, shorts⟩ := ih.mp reads
      exact ⟨rfl, short, shorts⟩
    · rintro ⟨same, shorts⟩
      cases parts with
      | nil => cases same
      | cons part parts =>
        obtain ⟨rfl, rest⟩ := List.cons.inj same
        have reads := ih.mpr ⟨rest, shorts.2⟩
        have read := partitionNumber_padded (positive depth) shorts.1
        unfold numberWidth at read ⊢
        rw [plainNumbers, read, Option.bind_eq_bind, Option.bind_some, reads]
        rfl

theorem length_plainNames (depth : Nat) (parts : List Nat) :
    (plainNames depth parts).length = parts.length := by
  induction parts generalizing depth with
  | nil => rfl
  | cons part parts ih => exact congrArg Nat.succ (ih (depth + 1))

theorem year_lt {year month day hour minute : Nat}
    (short : Short 0 (span.numbers year month day hour minute)) :
    year < 10 ^ 4 := by
  cases span
  all_goals exact short.1

theorem plainPeriod_numbers {year month day hour minute : Nat}
    (short : Short 0 (span.numbers year month day hour minute))
    (begins : span.Begins month day hour minute) :
    plainPeriod calendar (plainNames 0 (span.numbers year month day hour minute)) =
      (calendar.withYmdAndHms year month day hour minute 0).map fun start => (start, span) := by
  rw [plainPeriod, plainNumbers_eq_some.mpr ⟨rfl, short⟩, Option.bind_eq_bind, Option.bind_some,
    Option.map_eq_bind]
  cases span with
  | year =>
    obtain ⟨rfl, rfl, rfl, rfl⟩ := begins
    rfl
  | month =>
    obtain ⟨rfl, rfl, rfl⟩ := begins
    rfl
  | day =>
    obtain ⟨rfl, rfl⟩ := begins
    rfl
  | hour =>
    obtain rfl := begins
    rfl
  | bucket => exact if_neg fun off => off.2 begins

theorem exists_numbers {parts : List Nat} (named : parts ≠ []) (shallow : parts.length ≤ 5)
    (steps : ∀ minute, parts[4]? = some minute → minute % LEVEL_3_MINUTES = 0) :
    ∃ (span : Span) (year month day hour minute : Nat), parts =
      span.numbers year month day hour minute ∧
      span.Begins month day hour minute := by
  match parts with
  | [] => exact absurd rfl named
  | [year] => exact ⟨.year, year, 1, 1, 0, 0, rfl, rfl, rfl, rfl, rfl⟩
  | [year, month] => exact ⟨.month, year, month, 1, 0, 0, rfl, rfl, rfl, rfl⟩
  | [year, month, day] => exact ⟨.day, year, month, day, 0, 0, rfl, rfl, rfl⟩
  | [year, month, day, hour] => exact ⟨.hour, year, month, day, hour, 0, rfl, rfl⟩
  | [year, month, day, hour, minute] =>
    exact ⟨.bucket, year, month, day, hour, minute, rfl, steps minute rfl⟩
  | _ :: _ :: _ :: _ :: _ :: _ :: _ =>
    simp only [List.length_cons] at shallow
    omega

theorem plainPeriod_eq_some (named : names ≠ []) (shallow : names.length ≤ 5)
    (read : plainPeriod calendar names = some (start, span)) :
    ∃ year month day hour minute, names = plainNames 0 (span.numbers year month day hour minute) ∧
      Short 0 (span.numbers year month day hour minute) ∧ span.Begins month day hour minute ∧
      calendar.withYmdAndHms year month day hour minute 0 = some start := by
  have whole := read
  obtain ⟨parts, reads, run⟩ := Option.bind_eq_some_iff.mp read
  obtain ⟨rfl, short⟩ := plainNumbers_eq_some.mp reads
  have filled : parts ≠ [] := by
    rintro rfl
    exact named rfl
  rw [length_plainNames] at shallow
  have steps : ∀ minute, parts[4]? = some minute → minute % LEVEL_3_MINUTES = 0 := by
    intro minute last
    by_contra off
    have five : 5 ≤ parts.length := (List.getElem?_eq_some_iff.mp last).1
    dsimp only at run
    rw [if_pos ⟨five, by rw [last]; exact off⟩] at run
    cases run
  obtain ⟨span', year, month, day, hour, minute, rfl, begins⟩ := exists_numbers filled shallow steps
  rw [plainPeriod_numbers short begins] at whole
  obtain ⟨_, made, same⟩ := Option.map_eq_some_iff.mp whole
  cases same
  exact ⟨year, month, day, hour, minute, rfl, short, begins, made⟩

/-! ### Hive names -/

theorem dash_notMem_padded (width n : Nat) : '-' ∉ padded width n := by
  intro inside
  exact absurd (isDigit_of_mem_padded inside) (by decide)

theorem hivePeriod_numbers {year month day hour minute : Nat}
    (short : Short 0 (span.numbers year month day hour minute))
    (begins : span.Begins month day hour minute)
    (named : hiveNames (span.numbers year month day hour minute) ≠ []) :
    hivePeriod calendar (hiveNames (span.numbers year month day hour minute)) =
      (calendar.withYmdAndHms year month day hour minute 0).map fun start => (start, span) := by
  have four : ∀ n < 10 ^ 4, partitionNumber (padded 4 n) 4 = some n :=
    fun n small => partitionNumber_padded (by decide) small
  have two : ∀ n < 10 ^ 2, partitionNumber (padded 2 n) 2 = some n :=
    fun n small => partitionNumber_padded (by decide) small
  have date :
      stripPrefix "date=".toList ("date=".toList ++
        (padded 4 year ++ '-' :: (padded 2 month ++ '-' :: padded 2 day))) =
      some (padded 4 year ++ '-' :: (padded 2 month ++ '-' :: padded 2 day)) :=
    stripPrefix_append _ _
  have first := splitOnce_append (dash_notMem_padded 4 year) (padded 2 month ++ '-' :: padded 2 day)
  have second := splitOnce_append (dash_notMem_padded 2 month) (padded 2 day)
  have atHour : stripPrefix "hour=".toList ("hour=".toList ++ padded 2 hour) =
      some (padded 2 hour) := stripPrefix_append _ _
  have atMinute : stripPrefix "minute=".toList ("minute=".toList ++ padded 2 minute) =
      some (padded 2 minute) := stripPrefix_append _ _
  rw [Option.map_eq_bind]
  cases span with
  | year => exact absurd rfl named
  | month => exact absurd rfl named
  | day =>
    obtain ⟨rfl, rfl⟩ := begins
    obtain ⟨years, months, days, -⟩ := short
    simp only [Span.numbers, hiveNames, hivePeriod, List.head?_cons, Option.bind_eq_bind,
      Option.bind_some, date, first, second, four year years, two month months, two day days,
      List.zipWith, List.getElem?_cons_succ, List.getElem?_nil]
    rfl
  | hour =>
    obtain rfl := begins
    obtain ⟨years, months, days, hours, -⟩ := short
    simp only [Span.numbers, hiveNames, hivePeriod, List.head?_cons, Option.bind_eq_bind,
      Option.bind_some, date, first, second, four year years, two month months, two day days,
      List.zipWith, List.getElem?_cons_succ, List.getElem?_cons_zero, List.getElem?_nil, atHour,
      two hour hours]
    rfl
  | bucket =>
    obtain ⟨years, months, days, hours, minutes, -⟩ := short
    simp only [Span.numbers, hiveNames, hivePeriod, List.head?_cons, Option.bind_eq_bind,
      Option.bind_some, date, first, second, four year years, two month months, two day days,
      List.zipWith, List.getElem?_cons_succ, List.getElem?_cons_zero, atHour, two hour hours,
      atMinute, two minute minutes]
    rw [if_neg (fun off => off begins)]
    rfl

theorem keyed_eq_some {key : String} {name digits : List Char} {n : Nat}
    (keyed : stripPrefix key.toList name = some digits)
    (number : partitionNumber digits 2 = some n) :
    n < 10 ^ 2 ∧ name = key.toList ++ padded 2 n := by
  obtain ⟨small, rfl⟩ := (partitionNumber_eq_some (by decide)).mp number
  exact ⟨small, stripPrefix_eq_some.mp keyed⟩

theorem hivePeriod_eq_some (shallow : names.length ≤ 3)
    (read : hivePeriod calendar names = some (start, span)) :
    ∃ year month day hour minute, names = hiveNames (span.numbers year month day hour minute) ∧
      Short 0 (span.numbers year month day hour minute) ∧ span.Begins month day hour minute ∧
      calendar.withYmdAndHms year month day hour minute 0 = some start := by
  obtain ⟨name, first, run₁⟩ := Option.bind_eq_some_iff.mp read
  obtain ⟨date, dated, run₂⟩ := Option.bind_eq_some_iff.mp run₁
  obtain ⟨⟨yearName, rest⟩, split, run₃⟩ := Option.bind_eq_some_iff.mp run₂
  obtain ⟨⟨monthName, dayName⟩, split', run₄⟩ := Option.bind_eq_some_iff.mp run₃
  obtain ⟨year, ofYear, run₅⟩ := Option.bind_eq_some_iff.mp run₄
  obtain ⟨month, ofMonth, run₆⟩ := Option.bind_eq_some_iff.mp run₅
  obtain ⟨day, ofDay, below⟩ := Option.bind_eq_some_iff.mp run₆
  clear run₁ run₂ run₃ run₄ run₅ run₆ read
  obtain ⟨years, rfl⟩ := (partitionNumber_eq_some (by decide)).mp ofYear
  obtain ⟨months, rfl⟩ := (partitionNumber_eq_some (by decide)).mp ofMonth
  obtain ⟨days, rfl⟩ := (partitionNumber_eq_some (by decide)).mp ofDay
  have spelled :
      name = "date=".toList ++ (padded 4 year ++ '-' ::
        (padded 2 month ++ '-' :: padded 2 day)) := by
    rw [stripPrefix_eq_some.mp dated, (splitOnce_eq_some split).1, (splitOnce_eq_some split').1]
  rcases names with _ | ⟨_, _ | ⟨hourName, _ | ⟨minuteName, _ | ⟨_, _⟩⟩⟩⟩
  · cases first
  · cases first
    obtain ⟨_, ⟨⟩, below⟩ := Option.bind_eq_some_iff.mp below
    obtain ⟨_, ⟨⟩, below⟩ := Option.bind_eq_some_iff.mp below
    obtain ⟨_, made, same⟩ := Option.bind_eq_some_iff.mp below
    cases same
    exact ⟨year, month, day, 0, 0, congrArg (fun name => [name]) spelled,
      ⟨years, months, days, trivial⟩, ⟨rfl, rfl⟩, made⟩
  · cases first
    obtain ⟨digits, keyed, below⟩ := Option.bind_eq_some_iff.mp below
    obtain ⟨hour, number, below⟩ := Option.bind_eq_some_iff.mp below
    obtain ⟨_, ⟨⟩, below⟩ := Option.bind_eq_some_iff.mp below
    obtain ⟨_, made, same⟩ := Option.bind_eq_some_iff.mp below
    obtain ⟨hours, spelled'⟩ := keyed_eq_some keyed number
    cases same
    refine ⟨year, month, day, hour, 0, ?_, ⟨years, months, days, hours, trivial⟩, rfl, made⟩
    rw [spelled, spelled']
    rfl
  · cases first
    obtain ⟨digits, keyed, below⟩ := Option.bind_eq_some_iff.mp below
    obtain ⟨hour, number, below⟩ := Option.bind_eq_some_iff.mp below
    obtain ⟨digits', keyed', below⟩ := Option.bind_eq_some_iff.mp below
    obtain ⟨minute, number', below⟩ := Option.bind_eq_some_iff.mp below
    obtain ⟨hours, spelled'⟩ := keyed_eq_some keyed number
    obtain ⟨minutes, spelled''⟩ := keyed_eq_some keyed' number'
    split at below
    · cases below
    · rename_i steps
      obtain ⟨_, ⟨⟩, below⟩ := Option.bind_eq_some_iff.mp below
      obtain ⟨_, made, same⟩ := Option.bind_eq_some_iff.mp below
      cases same
      refine ⟨year, month, day, hour, minute, ?_, ⟨years, months, days, hours, minutes, trivial⟩,
        not_not.mp steps, made⟩
      rw [spelled, spelled', spelled'']
      rfl
  · simp only [List.length_cons] at shallow
    omega

/-! ### Either scheme -/

/-- The numbers of the first name after its first. -/
def Partitioning.inFirst : Partitioning → Nat
  | .plain => 0
  | .hive => 2

theorem length_spell (scheme : Partitioning) {year month day hour minute : Nat}
    (named : scheme.spell (span.numbers year month day hour minute) ≠ []) :
    (scheme.spell (span.numbers year month day hour minute)).length + scheme.inFirst =
      (span.numbers year month day hour minute).length := by
  cases scheme with
  | plain => exact length_plainNames 0 _
  | hive =>
    cases span with
    | year => exact absurd rfl named
    | month => exact absurd rfl named
    | _ => rfl

theorem length_numbers_le (span : Span) (year month day hour minute : Nat) :
    (span.numbers year month day hour minute).length ≤ 5 := by
  cases span
  all_goals
    simp only [Span.numbers, List.length_cons, List.length_nil]
    omega

variable {layout : Layout} {relative dir : PathBuf} {name : List Char} {period : Period}

theorem period_eq_some (counts : calendar.CountsGregorian)
    (read : layout.period calendar dir name = some period) :
    ∃ (relative : PathBuf) (span : Span) (year month day hour minute : Nat),
      dir = layout.root ++ relative ∧
      relative.map OsStr.text ++ [name] =
        layout.partitioning.spell (span.numbers year month day hour minute) ∧
      period.Spans ((span.numbers year month day hour minute).map (↑)) := by
  obtain ⟨relative, inside, rest⟩ := Option.bind_eq_some_iff.mp read
  obtain rfl := stripPrefix_eq_some.mp inside
  dsimp only at rest
  split at rest
  · cases rest
  rename_i shallow
  have parts : ∃ (start stop : DateTime) (span : Span) (year month day hour minute : Nat),
      relative.map OsStr.text ++ [name] =
        layout.partitioning.spell (span.numbers year month day hour minute) ∧
      Short 0 (span.numbers year month day hour minute) ∧ span.Begins month day hour minute ∧
      calendar.withYmdAndHms year month day hour minute 0 = some start ∧
      spanEnd calendar start span = some stop ∧
      period = ⟨start.timestamp, stop.timestamp⟩ := by
    rcases scheme : layout.partitioning
    all_goals
      rw [scheme] at rest shallow
      obtain ⟨⟨start, span⟩, numbered, rest⟩ := Option.bind_eq_some_iff.mp rest
      obtain ⟨stop, ended, same⟩ := Option.bind_eq_some_iff.mp rest
      cases same
    · obtain ⟨year, month, day, hour, minute, spelled, short, begins, made⟩ :=
        plainPeriod_eq_some (by simp) (Nat.le_of_not_lt shallow) numbered
      exact ⟨start, stop, span, year, month, day, hour, minute, spelled, short, begins, made,
        ended, rfl⟩
    · obtain ⟨year, month, day, hour, minute, spelled, short, begins, made⟩ :=
        hivePeriod_eq_some (Nat.le_of_not_lt shallow) numbered
      exact ⟨start, stop, span, year, month, day, hour, minute, spelled, short, begins, made,
        ended, rfl⟩
  obtain ⟨start, stop, span, year, month, day, hour, minute, spelled, short, begins, made,
    ended, rfl⟩ := parts
  have fourDigits := year_lt short
  obtain ⟨stop', ended', spans⟩ := spanEnd_spans counts (by omega) made begins
  rw [ended] at ended'
  cases ended'
  exact ⟨relative, span, year, month, day, hour, minute, rfl, spelled, spans⟩

theorem period_of_numbers (counts : calendar.CountsGregorian) {year month day hour minute : Nat}
    (short : Short 0 (span.numbers year month day hour minute))
    (begins : span.Begins month day hour minute)
    (made : calendar.withYmdAndHms year month day hour minute 0 = some start)
    (spelled : relative.map OsStr.text ++ [name] =
      layout.partitioning.spell (span.numbers year month day hour minute)) :
    ∃ period, layout.period calendar (layout.root ++ relative) name = some period ∧
      period.Spans ((span.numbers year month day hour minute).map (↑)) := by
  have fourDigits := year_lt short
  obtain ⟨stop, ended, spans⟩ := spanEnd_spans counts (by omega) made begins
  refine ⟨_, ?_, spans⟩
  have named : layout.partitioning.spell (span.numbers year month day hour minute) ≠ [] := by
    rw [← spelled]
    simp
  have lengths := length_spell layout.partitioning named
  have numbers := length_numbers_le span year month day hour minute
  rw [Layout.period, stripPrefix_append, Option.bind_eq_bind, Option.bind_some, spelled]
  rcases scheme : layout.partitioning
  all_goals rw [scheme] at lengths named
  · have shallow : ¬ (Partitioning.plain.spell (span.numbers year month day hour minute)).length >
        Partitioning.plain.maxDepth := by
      simp only [Partitioning.inFirst, Partitioning.maxDepth] at lengths ⊢
      omega
    dsimp only
    rw [if_neg shallow, Partitioning.spell, plainPeriod_numbers short begins, made, Option.map_some,
      Option.bind_eq_bind, Option.bind_some, ended]
    rfl
  · have shallow : ¬ (Partitioning.hive.spell (span.numbers year month day hour minute)).length >
        Partitioning.hive.maxDepth := by
      simp only [Partitioning.inFirst, Partitioning.maxDepth] at lengths ⊢
      omega
    dsimp only
    rw [if_neg shallow, Partitioning.spell, hivePeriod_numbers short begins named, made,
      Option.map_some, Option.bind_eq_bind, Option.bind_some, ended]
    rfl

/-! ### The directories of a stamp -/

def Span.numbersOf (stamp : DateTime) (span : Span) : List Nat :=
  span.numbers (civil stamp).year.toNat (civil stamp).month (civil stamp).day
    (secondOfDay stamp / 3600)
    (secondOfDay stamp / 60 % 60 / LEVEL_3_MINUTES * LEVEL_3_MINUTES)

variable {stamp : DateTime}

theorem numbersOf_fieldsOf (digits : FourDigits stamp) (span : Span) :
    (span.numbersOf stamp).map (↑) <+: fieldsOf stamp.timestamp := by
  have low := digits.1
  have whole : ((civil stamp).year.toNat : Int) = (civil stamp).year := Int.toNat_of_nonneg low
  have seconds : (secondOfDay stamp : Int) = stamp.timestamp % 86400 := by
    unfold secondOfDay
    omega
  have hour : stamp.timestamp % 86400 / 3600 = (secondOfDay stamp / 3600 : Nat) := by omega
  have bucket : stamp.timestamp % 86400 / 60 % 60 / 5 * 5 =
      (secondOfDay stamp / 60 % 60 / 5 * 5 : Nat) := by omega
  have all : fieldsOf stamp.timestamp = (Span.bucket.numbersOf stamp).map (↑) := by
    simp only [fieldsOf, Span.numbersOf, Span.numbers, List.map_cons, List.map_nil, whole,
      hour, bucket]
    rfl
  rw [all]
  cases span
  all_goals simp [Span.numbersOf, Span.numbers]

theorem exists_begins (digits : FourDigits stamp) (span : Span) :
    ∃ (year month day hour minute : Nat) (start : DateTime), span.numbersOf stamp =
      span.numbers year month day hour minute ∧
      Short 0 (span.numbers year month day hour minute) ∧ span.Begins month day hour minute ∧
      withYmdAndHms year month day hour minute 0 = some start := by
  have valid := civil_valid stamp
  have months := valid.month_le
  have days := valid.day_lt
  have seconds := secondOfDay_lt stamp
  obtain ⟨low, high⟩ := digits
  have whole : ((civil stamp).year.toNat : Int) = (civil stamp).year := Int.toNat_of_nonneg low
  have years : (civil stamp).year.toNat < 10 ^ 4 := by omega
  have hours : secondOfDay stamp / 3600 < 24 := by omega
  have minutes : secondOfDay stamp / 60 % 60 / 5 * 5 < 60 := by omega
  have made : ∀ {month day hour minute : Nat}, (Civil.mk (civil stamp).year month day).Valid →
      hour < 24 → minute < 60 →
      ∃ start, withYmdAndHms (civil stamp).year.toNat month day hour minute 0 = some start := by
    intro month day hour minute valid hours minutes
    rw [whole]
    exact ⟨_, (withYmdAndHms_eq_some low high).mpr ⟨valid, hours, minutes, by decide, rfl⟩⟩
  have two : ∀ {n}, n < 60 → n < 10 ^ numberWidth 1 := fun small => small.trans (by decide)
  cases span with
  | year =>
    obtain ⟨start, started⟩ := @made 1 1 0 0 ⟨le_rfl, Nat.le_add_left 1 11, le_rfl,
      daysInMonth_pos _ _⟩ (by decide) (by decide)
    exact ⟨(civil stamp).year.toNat, 1, 1, 0, 0, start, rfl, ⟨years, trivial⟩,
      ⟨rfl, rfl, rfl, rfl⟩, started⟩
  | month =>
    obtain ⟨start, started⟩ :=
      @made (civil stamp).month 1 0 0 ⟨valid.month_pos, months, le_rfl, daysInMonth_pos _ _⟩
      (by decide) (by decide)
    exact ⟨(civil stamp).year.toNat, (civil stamp).month, 1, 0, 0, start, rfl,
      ⟨years, two (by omega), trivial⟩, ⟨rfl, rfl, rfl⟩, started⟩
  | day =>
    obtain ⟨start, started⟩ :=
      @made (civil stamp).month (civil stamp).day 0 0 valid (by decide) (by decide)
    exact ⟨(civil stamp).year.toNat, (civil stamp).month, (civil stamp).day, 0, 0, start, rfl,
      ⟨years, two (by omega), two (by omega), trivial⟩, ⟨rfl, rfl⟩, started⟩
  | hour =>
    obtain ⟨start, started⟩ :=
      @made (civil stamp).month (civil stamp).day _ 0 valid hours (by decide)
    exact ⟨(civil stamp).year.toNat, (civil stamp).month, (civil stamp).day, _, 0, start, rfl,
      ⟨years, two (by omega), two (by omega), two (by omega), trivial⟩, rfl, started⟩
  | bucket =>
    obtain ⟨start, started⟩ := @made (civil stamp).month (civil stamp).day _ _ valid hours minutes
    exact ⟨(civil stamp).year.toNat, (civil stamp).month, (civil stamp).day, _, _, start, rfl,
      ⟨years, two (by omega), two (by omega), two (by omega), two minutes, trivial⟩,
      Nat.mul_mod_left _ _, started⟩

theorem period_of_stamp (counts : calendar.CountsGregorian) (digits : FourDigits stamp)
    (spelled : relative.map OsStr.text ++ [name] =
      layout.partitioning.spell (span.numbersOf stamp)) :
    ∃ period, layout.period calendar (layout.root ++ relative) name = some period ∧
      period.Spans ((span.numbersOf stamp).map (↑)) := by
  obtain ⟨year, month, day, hour, minute, start, same, short, begins, made⟩ :=
    exists_begins digits span
  rw [same] at spelled ⊢
  have fourDigits := year_lt short
  have started := counts.withYmdAndHms year month day hour minute 0 (by omega) (by omega)
  exact period_of_numbers counts short begins (started.trans made) spelled

theorem twoDigits_toList {n : Nat} (small : n < 100) :
    (Layout.twoDigits n).toList = padded 2 n := by
  revert n
  decide +kernel

theorem levels_isPrefix {A : Type} {p q r : Prop} [Decidable p] [Decidable q] [Decidable r]
    (below : q → p) (below' : r → q) (a b c : List A) :
    (if p then a else []) ++ (if q then b else []) ++ (if r then c else []) <+: a ++ b ++ c := by
  by_cases deep : r
  · rw [if_pos deep, if_pos (below' deep), if_pos (below (below' deep))]
  · rw [if_neg deep, List.append_nil]
    by_cases middle : q
    · rw [if_pos middle, if_pos (below middle)]
      exact List.prefix_append _ _
    · rw [if_neg middle, List.append_nil]
      split
      · rw [List.append_assoc]
        exact List.prefix_append _ _
      · exact List.nil_prefix

/-- The directories of a stamp are called by the numbers of its spans, as many as the level has. -/
theorem partitions_isPrefix (counts : calendar.CountsGregorian) (digits : FourDigits stamp) :
    (layout.partitions calendar stamp).map String.toList <+:
      layout.partitioning.spell (Span.bucket.numbersOf stamp) := by
  have minute : calendar.minute stamp = secondOfDay stamp / 60 % 60 := counts.minute stamp digits
  have bucket : secondOfDay stamp / 60 % 60 / LEVEL_3_MINUTES * LEVEL_3_MINUTES < 100 := by
    unfold LEVEL_3_MINUTES
    omega
  have format : ∀ pattern ∈ layoutPatterns, (calendar.format pattern stamp).toList =
      formatChars stamp pattern.toList := by
    intro pattern known
    rw [counts.format stamp digits pattern known]
    exact String.toList_ofList
  have one : layout.level ≥ 2 → layout.level ≥ 1 := UInt8.le_trans (by decide)
  have two : layout.level ≥ 3 → layout.level ≥ 2 := UInt8.le_trans (by decide)
  unfold Layout.partitions
  rw [minute]
  cases layout.partitioning with
  | plain =>
    have spelled :
        ([calendar.format "%Y" stamp, calendar.format "%m" stamp, calendar.format "%d" stamp] ++
        [calendar.format "%H" stamp] ++
        [Layout.twoDigits (secondOfDay stamp / 60 % 60 / LEVEL_3_MINUTES * LEVEL_3_MINUTES)]).map
          String.toList = plainNames 0 (Span.bucket.numbersOf stamp) := by
      have year : "%Y".toList = ['%', 'Y'] := rfl
      have month : "%m".toList = ['%', 'm'] := rfl
      have day : "%d".toList = ['%', 'd'] := rfl
      have hour : "%H".toList = ['%', 'H'] := rfl
      simp only [List.cons_append, List.nil_append, List.map_cons, List.map_nil,
        twoDigits_toList bucket, format "%Y" (by simp [layoutPatterns]),
        format "%m" (by simp [layoutPatterns]), format "%d" (by simp [layoutPatterns]),
        format "%H" (by simp [layoutPatterns]), year, month, day, hour, formatChars,
        List.append_nil]
      rfl
    rw [Partitioning.spell, ← spelled]
    exact (levels_isPrefix one two _ _ _).map _
  | hive =>
    have spelled : ([calendar.format "date=%Y-%m-%d" stamp] ++ [calendar.format "hour=%H" stamp] ++
        ["minute=" ++ Layout.twoDigits (secondOfDay stamp / 60 % 60 / LEVEL_3_MINUTES *
          LEVEL_3_MINUTES)]).map
          String.toList = hiveNames (Span.bucket.numbersOf stamp) := by
      have date :
          "date=%Y-%m-%d".toList = "date=".toList ++ ['%', 'Y', '-', '%', 'm', '-', '%', 'd'] := rfl
      have hour : "hour=%H".toList = "hour=".toList ++ ['%', 'H'] := rfl
      have dateKey : "date=".toList = ['d', 'a', 't', 'e', '='] := rfl
      have hourKey : "hour=".toList = ['h', 'o', 'u', 'r', '='] := rfl
      simp only [List.cons_append, List.nil_append, List.map_cons, List.map_nil,
        twoDigits_toList bucket, String.toList_append,
        format "date=%Y-%m-%d" (by simp [layoutPatterns]),
        format "hour=%H" (by simp [layoutPatterns]), date, hour, Span.numbersOf, Span.numbers,
        hiveNames, List.zipWith, dateKey, hourKey]
      simp [formatChars]
    rw [Partitioning.spell, ← spelled]
    exact (levels_isPrefix one two _ _ _).map _

/-- Some of the names from the root on are those of a larger span. -/
theorem exists_span (scheme : Partitioning) {names : List (List Char)} (named : names ≠ [])
    (front : names <+: scheme.spell (Span.bucket.numbersOf stamp)) :
    ∃ span : Span, names = scheme.spell (span.numbersOf stamp) := by
  rw [List.prefix_iff_eq_take] at front
  have positive := List.length_pos_of_ne_nil named
  generalize names.length = depth at front positive
  rw [front]
  cases scheme with
  | plain =>
    match depth with
    | 1 => exact ⟨.year, rfl⟩
    | 2 => exact ⟨.month, rfl⟩
    | 3 => exact ⟨.day, rfl⟩
    | 4 => exact ⟨.hour, rfl⟩
    | n + 5 => exact ⟨.bucket, List.take_of_length_le (Nat.le_add_left 5 n)⟩
  | hive =>
    match depth with
    | 1 => exact ⟨.day, rfl⟩
    | 2 => exact ⟨.hour, rfl⟩
    | n + 3 => exact ⟨.bucket, List.take_of_length_le (Nat.le_add_left 3 n)⟩

end

end Rustflow.Collect
