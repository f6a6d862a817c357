import Rustflow.Common.DateTime
import Rustflow.Lib.TwosComplement
import Rustflow.Lib.Utf8

/-!
# Field parsers

`common/parser.rs`: the value parsers that IPFIX and NetFlow v9 share.
-/

namespace Rustflow

abbrev MacAddr6 : Type := BitVec 48
abbrev Ipv4Addr : Type := UInt32
abbrev Ipv6Addr : Type := BitVec 128

inductive IpAddr where
  | v4 (addr : Ipv4Addr)
  | v6 (addr : Ipv6Addr)
  deriving DecidableEq

open Combinator

def ipv4Addr : Parser Ipv4Addr := beU32

def ipv6Addr : Parser Ipv6Addr := do return BitVec.ofNat 128 (← Combinator.beUint 16)

def timestampSecs : Parser DateTime := mapOpt beU32 fun v => DateTime.fromTimestampSecs v.toNat

/-- `none` for a value no date can represent; the field is still consumed, so the rest of the
record parses. -/
def timestampMillis : Parser (Option DateTime) := do
  let v ← beU64
  return if v.toNat < 2 ^ 63 then DateTime.fromTimestampMillis v.toNat else none

def timestampMicros : Parser DateTime :=
  mapOpt (do return (← beU32, ← beU32)) fun (secs, fraction) => ntpToDatetime secs fraction

def timestampNanos : Parser DateTime :=
  mapOpt (do return (← beU32, ← beU32)) fun (secs, fraction) => ntpToDatetime secs fraction

def macaddr6 : Parser MacAddr6 := do return BitVec.ofNat 48 (← Combinator.beUint 6)

/-- A UTF-8 string without its trailing NULs, or `none` for ill-formed UTF-8. -/
def string (length : Nat) : Parser (Option String) := do
  return (Utf8.read (← take length)).map Utf8.trimEndNul

/-- 1 is true and 2 is false; anything else is ignored. -/
def boolean : Parser (Option Bool) := do
  match ← beU8 with
  | 1 => return some true
  | 2 => return some false
  | _ => return none

/-- Shifts each byte into 64 bits. -/
def beUint (length : Nat) : Parser UInt64 := do return UInt64.ofNat (← Combinator.beUint length)

/-- Sign-extends by shifting the value up and back down. -/
def beInt (length : Nat) : Parser Int64 := do
  let v ← beUint length
  let shift := Int64.ofNat (64 - 8 * length)
  return (v.toInt64 <<< shift) >>> shift

def vector (length : Nat) : Parser (List UInt8) := take length

def verifyVersion (expected : UInt16) : Parser UInt16 := verify beU16 (· = expected)

/-! ### How much each takes -/

theorem takes_boolean : Takes boolean 1 := by
  refine takes_beU8.bind (n := 0) fun b => ?_
  split <;> exact takes_pure _

theorem takes_ipv6Addr : Takes ipv6Addr 16 := (takes_beUint 16).map _

theorem takes_macaddr6 : Takes macaddr6 6 := (takes_beUint 6).map _

theorem takes_string (length : Nat) : Takes (string length) length := (takes_take length).map _

theorem takes_beUint64 (length : Nat) : Takes (beUint length) length :=
  (Combinator.takes_beUint length).map _

theorem takes_beInt (length : Nat) : Takes (beInt length) length := (takes_beUint64 length).map _

theorem takes_timestampSecs : Takes timestampSecs 4 :=
  takes_mapOpt takes_beU32 fun v => by rw [DateTime.fromTimestampSecs_u32]; rfl

theorem takes_timestampMillis : Takes timestampMillis 8 := takes_beU64.map _

theorem takes_timestampMicros : Takes timestampMicros 8 :=
  takes_mapOpt (takes_beU32.bind fun secs => takes_beU32.map fun fraction => (secs, fraction))
    fun pair => DateTime.ntpToDatetime_isSome pair.1 pair.2

theorem takes_timestampNanos : Takes timestampNanos 8 := takes_timestampMicros

/-! ### Reading back -/

open BigEndian

theorem reads_timestampSecs (v : UInt32) :
    Reads timestampSecs (bytes 4 v.toNat) ⟨v.toNat * 1000000000⟩ :=
  (reads_beU32 v).mapOpt (DateTime.fromTimestampSecs_u32 v)

theorem reads_verifyVersion (version : UInt16) :
    Reads (verifyVersion version) (bytes 2 version.toNat) version :=
  (reads_beU16 version).verify (decide_eq_true rfl)

theorem verifyVersion_spelled (expected : UInt16) :
    Spelled (verifyVersion expected) fun version => bytes 2 version.toNat := by
  intro input rest version run
  obtain ⟨mid, v, rfl, tested⟩ := beU16_spelled.bind run
  split at tested <;> cases tested
  rfl

theorem reads_beUint {n : Nat} {v : UInt64} (small : v.toNat < 256 ^ n) :
    Reads (beUint n) (bytes n v.toNat) v := by
  have read := (reads_beUint_of_lt small).map UInt64.ofNat
  rwa [UInt64.ofNat_toNat] at read

/-- The amount is taken modulo the width, which changes nothing below it. -/
theorem toInt_shift_up_down (x : UInt64) {s : Nat} (lt : s < 64) :
    ((x.toInt64 <<< Int64.ofNat s) >>> Int64.ofNat s).toInt = Int.bmod x.toNat (2 ^ (64 - s)) := by
  have amount : ∀ s : Fin 64, (Int64.ofNat s).toBitVec.smod 64 = BitVec.ofNat 64 s := by decide
  have same : (BitVec.ofNat 64 s).toNat = s := Nat.mod_eq_of_lt (by omega)
  have shifted : ((x.toInt64 <<< Int64.ofNat s) >>> Int64.ofNat s).toBitVec =
      (x.toBitVec <<< s).sshiftRight s := by
    show BitVec.sshiftRight' (x.toBitVec <<< (Int64.ofNat s).toBitVec.smod 64)
      ((Int64.ofNat s).toBitVec.smod 64) = _
    rw [amount ⟨s, lt⟩, BitVec.sshiftRight', BitVec.shiftLeft_eq', same]
  rw [Int64.toInt, shifted, toInt_shift_back _ lt]
  rfl

theorem reads_beInt {n : Nat} (positive : 0 < n) (le : n ≤ 8) {v : Int64}
    (fits : SignedFits n v.toInt) :
    Reads (beInt n) (signedBytes n v.toInt) v := by
  have read := (reads_signed n v.toInt UInt64.ofNat rfl).map fun w : UInt64 =>
    (w.toInt64 <<< Int64.ofNat (64 - 8 * n)) >>> Int64.ofNat (64 - 8 * n)
  have small : 256 ^ n ≤ 2 ^ 64 := Nat.pow_le_pow_right (n := 256) (by omega) le
  have residue : (UInt64.ofNat (v.toInt % 256 ^ n).toNat).toNat = (v.toInt % 256 ^ n).toNat :=
    UInt64.toNat_ofNat_of_lt' (Nat.lt_of_lt_of_le (residue_lt n v.toInt) small)
  have width : 2 ^ (64 - (64 - 8 * n)) = 256 ^ n := by
    rw [show (256 : Nat) = 2 ^ 8 from rfl, ← pow_mul]
    congr 1
    omega
  have extended :=
    toInt_shift_up_down (UInt64.ofNat (v.toInt % 256 ^ n).toNat) (s := 64 - 8 * n) (by omega)
  rw [residue, width, bmod_residue fits] at extended
  rwa [Int64.toInt_inj.mp extended] at read

theorem reads_macaddr6 (v : MacAddr6) : Reads macaddr6 (bytes 6 v.toNat) v := by
  have read := (reads_beUint_of_lt (n := 6) v.isLt).map (BitVec.ofNat 48)
  rwa [BitVec.ofNat_toNat, BitVec.setWidth_eq] at read

theorem reads_ipv6Addr (v : Ipv6Addr) : Reads ipv6Addr (bytes 16 v.toNat) v := by
  have read := (reads_beUint_of_lt (n := 16) v.isLt).map (BitVec.ofNat 128)
  rwa [BitVec.ofNat_toNat, BitVec.setWidth_eq] at read

theorem reads_boolean (v : Bool) : Reads boolean [if v then 1 else 2] (some v) := by
  cases v <;> exact fun rest => rfl

theorem reads_string {v : String} (clean : v.toList.getLast? ≠ some '\x00') (pad : Nat) :
    Reads (string ((Utf8.bytes v).length + pad)) (Utf8.bytes v ++ List.replicate pad 0)
      (some v) := by
  have length : (Utf8.bytes v ++ List.replicate pad 0).length = (Utf8.bytes v).length + pad := by
    simp
  have read := (reads_take length).map fun bs => (Utf8.read bs).map Utf8.trimEndNul
  rwa [Utf8.read_padded, Option.map_some, Utf8.trimEndNul_padded clean] at read

end Rustflow
