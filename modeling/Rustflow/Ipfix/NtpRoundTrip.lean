import Rustflow.Ipfix.Values

/-!
# NTP timestamps there and back

The encoder scales a second's nanoseconds up to 2³² parts and the parser scales the parts back
down to 10⁹. Both round down, so what comes back is the same instant or an earlier one.
-/

namespace Rustflow
open Combinator BigEndian

/-- The last second that 32 bits of NTP seconds reach. -/
def NTP_ERA_END : Int := 2085978495

/-- Scaling by `a / b` and back, rounding down both times, loses nothing exactly when the first
scaling is exact. -/
theorem scale_back_eq_iff {a b : Nat} (positive : 0 < a) (n : Nat) : n * a / b * b / a = n ↔
    b ∣ n * a := by
  constructor
  · intro same
    have low : n * a / b * b ≤ n * a := Nat.div_mul_le_self ..
    have high : n * a / b * b / a * a ≤ n * a / b * b := Nat.div_mul_le_self ..
    rw [same] at high
    exact ⟨n * a / b, by rw [Nat.mul_comm b]; exact Nat.le_antisymm high low⟩
  · intro divides
    rw [Nat.div_mul_cancel divides, Nat.mul_div_cancel n positive]

theorem scale_back_le (a b n : Nat) : n * a / b * b / a ≤ n :=
  Nat.div_le_of_le_mul ((Nat.div_mul_le_self (n * a) b).trans_eq (Nat.mul_comm n a))

/-- What a second's nanoseconds come back as. -/
def scaledBack (nanos : Nat) : Nat := nanos * 2 ^ 32 / 1000000000 * 1000000000 / 2 ^ 32

theorem scaledBack_le (nanos : Nat) : scaledBack nanos ≤ nanos := scale_back_le ..

/-- 10⁹ is 5⁹ times a power of two, which 2³² takes care of. -/
theorem scaledBack_eq_iff (nanos : Nat) : scaledBack nanos = nanos ↔ nanos % 1953125 = 0 := by
  rw [scaledBack, scale_back_eq_iff (by decide), ← Nat.dvd_iff_mod_eq_zero]
  constructor
  · intro divides
    have odd : 1953125 ∣ nanos * 2 ^ 32 := Nat.dvd_trans (by decide) divides
    exact Nat.Coprime.dvd_of_dvd_mul_right (by decide) odd
  · rintro ⟨m, rfl⟩
    exact ⟨m * 2 ^ 23, by omega⟩

theorem ntpToDatetime_datetimeToNtp {t : DateTime} (epoch : 0 ≤ t.timestamp)
    (era : t.timestamp ≤ NTP_ERA_END) :
    ntpToDatetime (datetimeToNtp t).1 (datetimeToNtp t).2 =
      some ⟨t.timestamp * 1000000000 + scaledBack t.timestampSubsecNanos⟩ := by
  have seconds : ((datetimeToNtp t).1.toNat : Int) = t.timestamp + NTP_UNIX_EPOCH_DIFF := by
    unfold NTP_ERA_END at era
    unfold datetimeToNtp NTP_UNIX_EPOCH_DIFF
    exact toNat_asU32 (by omega) (by omega)
  have second : t.timestampSubsecNanos < 1000000000 := by
    unfold DateTime.timestampSubsecNanos
    omega
  have parts : (datetimeToNtp t).2.toNat = t.timestampSubsecNanos * 2 ^ 32 / 1000000000 := by
    unfold datetimeToNtp
    exact UInt32.toNat_ofNat_of_lt' (by unfold UInt32.size; omega)
  have back := scaledBack_le t.timestampSubsecNanos
  unfold NTP_ERA_END at era
  rw [ntpToDatetime, seconds, parts, Int.add_sub_cancel]
  exact DateTime.fromTimestamp_eq_some (by unfold DateTime.MIN_SECS; omega)
    (by unfold DateTime.MAX_SECS; omega) (by unfold scaledBack at back; omega)

theorem DateTime.nanos_eq (t : DateTime) :
    t.nanos = t.timestamp * 1000000000 + t.timestampSubsecNanos := by
  unfold DateTime.timestamp DateTime.timestampSubsecNanos
  omega

theorem nanos_mod_eq (t : DateTime) :
    t.nanos % 1953125 = 0 ↔ t.timestampSubsecNanos % 1953125 = 0 := by
  unfold DateTime.timestampSubsecNanos
  omega

namespace Ipfix

/-- What the eight bytes of an instant read as, whichever of the two types it has. -/
theorem timestampMicros_datetimeToNtp {t : DateTime} (epoch : 0 ≤ t.timestamp)
    (era : t.timestamp ≤ NTP_ERA_END) :
    timestampMicros (putU32 (datetimeToNtp t).1 ++ putU32 (datetimeToNtp t).2) =
      some ([], ⟨t.timestamp * 1000000000 + scaledBack t.timestampSubsecNanos⟩) := by
  have read := reads_ntp (ntpToDatetime_datetimeToNtp epoch era) []
  rwa [List.append_nil] at read

/-- An instant of the first NTP era survives as nanoseconds, and a whole microsecond as
microseconds, exactly when it is a whole number of 512ths of a second. -/
theorem ntp_round_trip_iff (t : DateTime) (epoch : 0 ≤ t.timestamp)
    (era : t.timestamp ≤ NTP_ERA_END) :
    (timestampNanos (FieldValue.dateTimeNanoseconds t).encode = some ([], t) ↔
      t.nanos % 1953125 = 0) ∧
      (t.nanos % 1000 = 0 →
        ((∃ back, timestampMicros (FieldValue.dateTimeMicroseconds t).encode = some ([], back) ∧
            back.nanos / 1000 = t.nanos / 1000) ↔ t.nanos % 1953125 = 0)) := by
  have read := timestampMicros_datetimeToNtp epoch era
  have whole := t.nanos_eq
  have earlier := scaledBack_le t.timestampSubsecNanos
  rw [nanos_mod_eq, ← scaledBack_eq_iff]
  constructor
  · rw [FieldValue.encode, show timestampNanos = timestampMicros from rfl, read]
    constructor
    · intro same
      have nanos := congrArg DateTime.nanos (Prod.mk.inj (Option.some.inj same)).2
      dsimp only at nanos
      omega
    · intro same
      rw [same, ← whole]
  · intro micros
    rw [FieldValue.encode, read]
    constructor
    · rintro ⟨back, value, same⟩
      obtain ⟨-, rfl⟩ := Prod.mk.inj (Option.some.inj value)
      dsimp only at same
      omega
    · intro same
      exact ⟨_, rfl, by rw [same, ← whole]⟩

/-- One microsecond after the epoch is a nanosecond less when it comes back. -/
theorem microsecond_lost :
    timestampNanos (FieldValue.dateTimeNanoseconds ⟨1000⟩).encode = some ([], ⟨999⟩) ∧
      timestampMicros (FieldValue.dateTimeMicroseconds ⟨1000⟩).encode = some ([], ⟨999⟩) := by
  decide +kernel

theorem half_second_kept :
    timestampNanos (FieldValue.dateTimeNanoseconds ⟨500000000⟩).encode = some ([], ⟨500000000⟩) :=
  (ntp_round_trip_iff ⟨500000000⟩ (by decide) (by decide)).1.mpr (by decide)

end Ipfix

end Rustflow
