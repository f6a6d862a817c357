import Mathlib.Data.Nat.Bitwise
import Rustflow.Lib.Combinator

/-!
# Two's complement

Signed integers as a fixed number of big-endian bytes. A reader that takes the balanced
remainder of the unsigned value gets the number back, and so does one that fills the upper bits
or shifts the value up and back down.
-/

namespace BigEndian

/-- The two's complement of `x` in `width` bytes. -/
def signedBytes (width : Nat) (x : Int) : List UInt8 := bytes width (x % 256 ^ width).toNat

/-- `x` is in the range of `width` bytes. -/
def SignedFits (width : Nat) (x : Int) : Prop := -256 ^ width ≤ 2 * x ∧ 2 * x < 256 ^ width

@[simp] theorem length_signedBytes (width : Nat) (x : Int) : (signedBytes width x).length = width :=
  length_bytes width _

theorem residue_lt (width : Nat) (x : Int) : (x % 256 ^ width).toNat < 256 ^ width := by
  have bound : x % 256 ^ width < 256 ^ width := Int.emod_lt_of_pos x (by positivity)
  have low : 0 ≤ x % 256 ^ width := Int.emod_nonneg x (by positivity)
  zify
  rwa [Int.toNat_of_nonneg low]

theorem bmod_residue {width : Nat} {x : Int} (fits : SignedFits width x) :
    Int.bmod (x % 256 ^ width).toNat (256 ^ width) = x := by
  have whole : ((256 ^ width : Nat) : Int) = 256 ^ width := by norm_cast
  obtain ⟨low, high⟩ := fits
  rw [Int.toNat_of_nonneg (Int.emod_nonneg x (by positivity)), ← whole, Int.emod_bmod]
  exact Int.bmod_eq_of_le_mul_two (by rw [whole]; omega) (by rw [whole]; omega)

/-- The unsigned reading of a bit vector is the residue of its signed one. -/
theorem toNat_eq_residue {w : Nat} (x : BitVec w) : x.toNat = (x.toInt % 2 ^ w).toNat := by
  have back := congrArg BitVec.toNat (BitVec.ofInt_toInt (x := x))
  rw [BitVec.toNat_ofInt] at back
  exact_mod_cast back.symm

/-- Only the low bytes of a wider two's complement matter. -/
theorem bytes_residue {width wider : Nat} (le : width ≤ wider) (x : Int) :
    bytes width (x % 256 ^ wider).toNat = signedBytes width x := by
  refine bytes_congr ?_
  zify
  rw [Int.toNat_of_nonneg (Int.emod_nonneg x (by positivity)),
    Int.toNat_of_nonneg (Int.emod_nonneg x (by positivity)),
    Int.emod_emod_of_dvd x (pow_dvd_pow 256 le), Int.emod_emod_of_dvd x (dvd_refl _)]

/-- Shifting a value up and back down extends its sign. -/
theorem toInt_shift_back {w s : Nat} (x : BitVec w) (lt : s < w) :
    ((x <<< s).sshiftRight s).toInt = Int.bmod x.toNat (2 ^ (w - s)) := by
  have width : (2 : Nat) ^ w = 2 ^ s * 2 ^ (w - s) := by rw [← pow_add, Nat.add_sub_cancel' lt.le]
  have even : 2 ∣ 2 ^ (w - s) := dvd_pow_self 2 (by omega)
  have scaled :
      Int.bmod (x.toNat <<< s : Nat) (2 ^ w) = 2 ^ s * Int.bmod x.toNat (2 ^ (w - s)) := by
    have pulled := Int.mod_bmod_mul_of_pos (a := 2 ^ s) x.toNat (2 ^ (w - s)) (by positivity) even
    rw [Nat.shiftLeft_eq, Nat.mul_comm, width]
    exact_mod_cast pulled
  rw [BitVec.toInt_sshiftRight, BitVec.toInt_shiftLeft, scaled, Int.shiftRight_eq_div_pow]
  exact_mod_cast Int.mul_ediv_cancel_left _ (by positivity)

end BigEndian

namespace Combinator
open BigEndian

theorem reads_signed {α : Type} (width : Nat) (x : Int) (make : Nat → α) {a : α}
    (made : make (x % 256 ^ width).toNat = a) :
    Reads (do return make (← beUint width)) (signedBytes width x) a := by
  rw [← made]
  exact (reads_beUint_of_lt (residue_lt width x)).map make

theorem reads_beI8 (v : Int8) : Reads beI8 (signedBytes 1 v.toInt) v := by
  refine reads_signed 1 v.toInt Int8.ofNat (Int8.toInt_inj.mp ?_)
  rw [Int8.toInt_ofNat']
  exact bmod_residue ⟨by have := v.le_toInt; omega, by have := v.toInt_lt; omega⟩

theorem reads_beI16 (v : Int16) : Reads beI16 (signedBytes 2 v.toInt) v := by
  refine reads_signed 2 v.toInt Int16.ofNat (Int16.toInt_inj.mp ?_)
  rw [Int16.toInt_ofNat']
  exact bmod_residue ⟨by have := v.le_toInt; omega, by have := v.toInt_lt; omega⟩

theorem reads_beI32 (v : Int32) : Reads beI32 (signedBytes 4 v.toInt) v := by
  refine reads_signed 4 v.toInt Int32.ofNat (Int32.toInt_inj.mp ?_)
  rw [Int32.toInt_ofNat']
  exact bmod_residue ⟨by have := v.le_toInt; omega, by have := v.toInt_lt; omega⟩

theorem reads_beI64 (v : Int64) : Reads beI64 (signedBytes 8 v.toInt) v := by
  refine reads_signed 8 v.toInt Int64.ofNat (Int64.toInt_inj.mp ?_)
  rw [Int64.toInt_ofNat']
  exact bmod_residue ⟨by have := v.le_toInt; omega, by have := v.toInt_lt; omega⟩

/-- Filling the upper byte of twenty-four bits extends their sign. -/
theorem toInt_fill {n : Nat} (small : n < 2 ^ 24) :
    (if UInt32.ofNat n &&& 0x800000 != 0 then (UInt32.ofNat n ||| 0xff000000).toInt32
      else (UInt32.ofNat n).toInt32).toInt = Int.bmod n (2 ^ 24) := by
  have self : (UInt32.ofNat n).toNat = n := UInt32.toNat_ofNat_of_lt' (by unfold UInt32.size; omega)
  have top : (UInt32.ofNat n &&& 0x800000 != 0) = decide (2 ^ 23 ≤ n) := by
    have masked : (UInt32.ofNat n &&& 0x800000).toNat = (n.testBit 23).toNat * 2 ^ 23 := by
      rw [UInt32.toNat_and, self]
      exact Nat.and_two_pow n 23
    have bit : n.testBit 23 = decide (2 ^ 23 ≤ n) := by
      rw [Nat.testBit_eq_decide_div_mod_eq, decide_eq_decide]
      omega
    rw [bit] at masked
    rw [Bool.eq_iff_iff, bne_iff_ne, ne_eq, ← UInt32.toNat_inj, masked]
    cases decide (2 ^ 23 ≤ n) <;> simp
  have filled : (UInt32.ofNat n ||| 0xff000000) = UInt32.ofNat (0xff000000 + n) := by
    rw [← UInt32.toNat_inj, UInt32.toNat_or, self, Nat.or_comm,
      UInt32.toNat_ofNat_of_lt' (by unfold UInt32.size; omega)]
    exact (Nat.two_pow_add_eq_or_of_lt small 255).symm
  rw [top, filled, UInt32.toInt32_ofNat', UInt32.toInt32_ofNat']
  by_cases high : 2 ^ 23 ≤ n
  · rw [if_pos (decide_eq_true high), Int32.toInt_ofNat', Int.bmod_def, Int.bmod_def]
    unfold Int32.size
    omega
  · rw [if_neg (by simpa using high), Int32.toInt_ofNat', Int.bmod_def, Int.bmod_def]
    unfold Int32.size
    omega

theorem reads_beI24 {v : Int32} (fits : SignedFits 3 v.toInt) :
    Reads beI24 (signedBytes 3 v.toInt) v := by
  have read := (reads_signed 3 v.toInt UInt32.ofNat rfl).map fun x : UInt32 =>
    if x &&& 0x800000 != 0 then (x ||| 0xff000000).toInt32 else x.toInt32
  have extended := (toInt_fill (residue_lt 3 v.toInt)).trans (bmod_residue fits)
  rwa [Int32.toInt_inj.mp extended] at read

end Combinator
