import Rustflow.Lib.Combinator

/-!
# UTC instants

`DateTime<Utc>` of the date library the parsers use: a count of nanoseconds from the Unix
epoch, over the years it can represent. Leap seconds are left out: no constructor used by the
parsers is ever given a subsecond part of a second or more.
-/

namespace Rustflow

structure DateTime where
  nanos : Int
  deriving DecidableEq

namespace DateTime

/-- The first second of the year -262143. -/
def MIN_SECS : Int := -8334601228800

/-- The last second of the year 262142. -/
def MAX_SECS : Int := 8210266876799

/-- `None` outside the years that can be represented. -/
def fromTimestamp (secs : Int) (nsecs : Nat) : Option DateTime :=
  if MIN_SECS ≤ secs ∧ secs ≤ MAX_SECS ∧ nsecs < 1000000000 then
    some ⟨secs * 1000000000 + nsecs⟩ else none

def fromTimestampSecs (secs : Int) : Option DateTime := fromTimestamp secs 0

def fromTimestampMillis (millis : Int) : Option DateTime :=
  fromTimestamp (millis / 1000) ((millis % 1000).toNat * 1000000)

/-- Whole seconds, rounded down. -/
def timestamp (t : DateTime) : Int := t.nanos / 1000000000

def timestampSubsecNanos (t : DateTime) : Nat := (t.nanos % 1000000000).toNat

/-- Whole milliseconds, rounded down. -/
def timestampMillis (t : DateTime) : Int := t.nanos / 1000000

end DateTime

/-- Difference between NTP epoch (1900-01-01) and UNIX epoch (1970-01-01) in seconds. -/
def NTP_UNIX_EPOCH_DIFF : Nat := 2208988800

def ntpToDatetime (ntpSecs fraction : UInt32) : Option DateTime :=
  let unixSecs := (ntpSecs.toNat : Int) - NTP_UNIX_EPOCH_DIFF
  let nanos := fraction.toNat * 1000000000 / 2 ^ 32
  DateTime.fromTimestamp unixSecs nanos

/-- `as u32` and `as u64` of a signed count: the low bits of its two's complement. -/
def asU32 (x : Int) : UInt32 := UInt32.ofNat (x % 2 ^ 32).toNat
def asU64 (x : Int) : UInt64 := UInt64.ofNat (x % 2 ^ 64).toNat

/-- NTP format: seconds since 1900 and fractional seconds. The sum is that of a release build,
where it wraps for dates before 1970. -/
def datetimeToNtp (t : DateTime) : UInt32 × UInt32 :=
  let ntpSecs := t.timestamp + NTP_UNIX_EPOCH_DIFF
  let fraction := t.timestampSubsecNanos * 2 ^ 32 / 1000000000
  (asU32 ntpSecs, UInt32.ofNat fraction)

theorem asU32_toNat (v : UInt32) : asU32 v.toNat = v := by
  have bound := v.toNat_lt
  rw [asU32, Int.emod_eq_of_lt (by omega) (by omega), Int.toNat_natCast, UInt32.ofNat_toNat]

theorem toNat_asU32 {x : Int} (nonneg : 0 ≤ x) (small : x < 2 ^ 32) :
    ((asU32 x).toNat : Int) = x := by
  rw [asU32, Int.emod_eq_of_lt nonneg small,
    UInt32.toNat_ofNat_of_lt' (by unfold UInt32.size; omega)]
  exact Int.toNat_of_nonneg nonneg

theorem toNat_asU64 {x : Int} (nonneg : 0 ≤ x) (small : x < 2 ^ 64) :
    ((asU64 x).toNat : Int) = x := by
  rw [asU64, Int.emod_eq_of_lt nonneg small,
    UInt64.toNat_ofNat_of_lt' (by unfold UInt64.size; omega)]
  exact Int.toNat_of_nonneg nonneg

namespace DateTime

theorem fromTimestamp_eq_some {secs : Int} {nsecs : Nat} (low : MIN_SECS ≤ secs)
    (high : secs ≤ MAX_SECS) (sub : nsecs < 1000000000) :
    fromTimestamp secs nsecs = some ⟨secs * 1000000000 + nsecs⟩ :=
  if_pos ⟨low, high, sub⟩

@[simp] theorem timestamp_whole (secs : Int) : timestamp ⟨secs * 1000000000⟩ = secs :=
  Int.mul_ediv_cancel secs (by decide)

theorem timestamp_fromTimestamp {secs : Int} {nsecs : Nat} {t : DateTime}
    (date : fromTimestamp secs nsecs = some t) :
    t.timestamp = secs := by
  unfold fromTimestamp at date
  split at date
  next range =>
    cases date
    unfold timestamp
    dsimp only
    omega
  next => cases date

theorem fromTimestampSecs_u32 (v : UInt32) :
    fromTimestampSecs v.toNat = some ⟨v.toNat * 1000000000⟩ := by
  have bound := v.toNat_lt
  rw [fromTimestampSecs,
    fromTimestamp_eq_some (by unfold MIN_SECS; omega) (by unfold MAX_SECS; omega) (by omega),
    Nat.cast_zero, Int.add_zero]

/-- Milliseconds drop what is finer than they are. -/
theorem fromTimestampMillis_timestampMillis {t : DateTime} (low : MIN_SECS ≤ t.timestamp)
    (high : t.timestamp ≤ MAX_SECS) :
    fromTimestampMillis t.timestampMillis = some ⟨t.nanos / 1000000 * 1000000⟩ := by
  have secs : t.timestampMillis / 1000 = t.timestamp := by
    rw [timestampMillis, timestamp]
    omega
  have sub : (t.timestampMillis % 1000).toNat * 1000000 < 1000000000 := by omega
  rw [fromTimestampMillis, fromTimestamp_eq_some (secs ▸ low) (secs ▸ high) sub, timestampMillis]
  congr 2
  omega

theorem ntpToDatetime_isSome (ntpSecs fraction : UInt32) :
    (ntpToDatetime ntpSecs fraction).isSome := by
  have secs := ntpSecs.toNat_lt
  have frac := fraction.toNat_lt
  have sub : fraction.toNat * 1000000000 / 2 ^ 32 < 1000000000 := by omega
  rw [ntpToDatetime, fromTimestamp_eq_some (by unfold MIN_SECS NTP_UNIX_EPOCH_DIFF; omega)
    (by unfold MAX_SECS NTP_UNIX_EPOCH_DIFF; omega) sub]
  rfl

end DateTime

end Rustflow
