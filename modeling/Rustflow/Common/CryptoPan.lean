import Rustflow.Common.Parser
import Rustflow.Lib.PrefixPreserving

/-!
# Crypto-PAn

`common::cryptopan`: every bit of an address is flipped, or not, by the first bit of the
encrypted prefix before it. The cipher is a parameter, since nothing here rests on what it
computes: the maps keep prefixes, and so permute the addresses of a family, for any function
on blocks.
-/

namespace Rustflow
open BigEndian PrefixPreserving

/-- A cipher block, sixteen bytes. -/
abbrev Block : Type := Vector UInt8 16

/-- `u128::to_be_bytes`. -/
def toBeBytes (n : BitVec 128) : Block :=
  ⟨(bytes 16 n.toNat).toArray, by rw [List.size_toArray, length_bytes]⟩

/-- `u128::from_be_bytes`. -/
def fromBeBytes (block : Block) : BitVec 128 :=
  BitVec.ofNat 128 (value block.toList)

structure CryptoPan where
  cipher : Block → Block
  /-- The encrypted second half of the key. -/
  pad : BitVec 128

namespace CryptoPan

/-- `aes128 key` encrypts one block under the first half of the key. -/
def new (aes128 : Block → Block → Block) (key : Vector UInt8 32) : CryptoPan :=
  let aesKey : Block := (key.take 16).cast (by decide)
  let padSeed : Block := (key.drop 16).cast (by decide)
  let cipher := aes128 aesKey
  { cipher, pad := fromBeBytes (cipher padSeed) }

/-- The shift by `128 - i` is out of range for `i = 0`, which the source treats apart. -/
def prefixMask (i : Nat) : BitVec 128 :=
  if i = 0 then 0 else BitVec.allOnes 128 <<< (128 - i)

/-- The first bit of the encrypted block, as the lowest bit of a `u128`. -/
def flip (pan : CryptoPan) (addr : BitVec 128) (i : Nat) : BitVec 128 :=
  let input := (addr &&& prefixMask i) ||| (pan.pad &&& ~~~prefixMask i)
  let block := pan.cipher (toBeBytes input)
  (block[0] >>> 7).toBitVec.setWidth 128

/-- The loop over `i` in `0..bits`. -/
def flips (pan : CryptoPan) (addr : BitVec 128) (bits : Nat) : BitVec 128 :=
  (List.range bits).foldl (fun flips i => flips ||| (pan.flip addr i <<< (127 - i))) 0

def anonymizeBits (pan : CryptoPan) (addr : BitVec 128) (bits : Nat) : BitVec 128 :=
  addr ^^^ pan.flips addr bits

def anonymizeV4 (pan : CryptoPan) (addr : Ipv4Addr) : Ipv4Addr :=
  let bits := addr.toBitVec.setWidth 128 <<< 96
  let out := pan.anonymizeBits bits 32
  UInt32.ofBitVec ((out >>> 96).setWidth 32)

def anonymizeV6 (pan : CryptoPan) (addr : Ipv6Addr) : Ipv6Addr :=
  pan.anonymizeBits addr 128

def anonymize (pan : CryptoPan) : IpAddr → IpAddr
  | .v4 addr => .v4 (pan.anonymizeV4 addr)
  | .v6 addr => .v6 (pan.anonymizeV6 addr)

variable (pan : CryptoPan) (addr : BitVec 128)

def flipped (addr : BitVec 128) (i : Nat) : Bool :=
  (pan.flip addr i).getLsbD 0

theorem getMsbD_prefixMask {i j : Nat} (inside : i ≤ 128) :
    (prefixMask i).getMsbD j = decide (j < i) := by
  unfold prefixMask
  split
  · rename_i first
    subst first
    simp
  · rw [BitVec.getMsbD_shiftLeft, BitVec.getMsbD_allOnes]
    rw [decide_eq_decide]
    omega

/-- The block that is encrypted holds the first `i` bits of the address and nothing else of it. -/
theorem flipped_congr {a b : BitVec 128} {i : Nat} (inside : i ≤ 128) (share : SharePrefix i a b) :
    pan.flipped a i = pan.flipped b i := by
  have masked : a &&& prefixMask i = b &&& prefixMask i := by
    apply BitVec.eq_of_getMsbD_eq
    intro j _
    rw [BitVec.getMsbD_and, BitVec.getMsbD_and, getMsbD_prefixMask inside]
    by_cases before : j < i
    · rw [share j before]
    · simp [before]
  unfold flipped flip
  rw [masked]

theorem getLsbD_flip (i k : Nat) :
    (pan.flip addr i).getLsbD k = (decide (k = 0) && pan.flipped addr i) := by
  unfold flipped flip
  cases k with
  | zero => simp
  | succ k =>
    have beyond : 8 ≤ 7 + (k + 1) := by omega
    simp [BitVec.getLsbD_of_ge _ _ beyond]

/-- Shifted by `127 - i`, the flip is bit `i` from the top. -/
theorem getMsbD_placed {i j : Nat} (inside : i < 128) (bit : j < 128) :
    (pan.flip addr i <<< (127 - i)).getMsbD j = (decide (j = i) && pan.flipped addr i) := by
  rw [BitVec.getMsbD_eq_getLsbD, BitVec.getLsbD_shiftLeft, getLsbD_flip]
  by_cases here : j = i
  · subst here
    simp [bit]
    omega
  · simp only [here, decide_false, Bool.false_and]
    grind

theorem getMsbD_flips {bits j : Nat} (inside : bits ≤ 128) (bit : j < 128) :
    (pan.flips addr bits).getMsbD j = (decide (j < bits) && pan.flipped addr j) := by
  induction bits with
  | zero => simp [flips]
  | succ bits ih =>
    have step : pan.flips addr (bits + 1) = pan.flips addr bits |||
        (pan.flip addr bits <<< (127 - bits)) := by
      unfold flips
      rw [List.range_succ, List.foldl_append]
      rfl
    rw [step, BitVec.getMsbD_or, ih (by omega), getMsbD_placed pan addr (by omega) bit]
    grind

theorem getMsbD_anonymizeBits {bits j : Nat} (inside : bits ≤ 128) (bit : j < bits) :
    (pan.anonymizeBits addr bits).getMsbD j = (addr.getMsbD j ^^ pan.flipped addr j) := by
  rw [anonymizeBits, BitVec.getMsbD_xor, getMsbD_flips pan addr inside (by omega)]
  simp [bit]

theorem anonymizeV6_flips : FlipsByPrefix pan.anonymizeV6 pan.flipped where
  flipped addr i inside := pan.getMsbD_anonymizeBits addr (Nat.le_refl 128) inside
  causal _ _ _ inside share := pan.flipped_congr (by omega) share

/-- An IPv4 address as the first 32 bits of the block. -/
def embedV4 (addr : BitVec 32) : BitVec 128 :=
  addr.setWidth 128 <<< 96

theorem getMsbD_embedV4 (addr : BitVec 32) (i : Nat) :
    (embedV4 addr).getMsbD i = addr.getMsbD i := by
  rw [embedV4, BitVec.getMsbD_shiftLeft, BitVec.getMsbD_setWidth]
  simp

theorem getMsbD_upper (out : BitVec 128) {i : Nat} (inside : i < 32) :
    ((out >>> 96).setWidth 32).getMsbD i = out.getMsbD i := by
  rw [BitVec.getMsbD_setWidth, BitVec.getMsbD_ushiftRight]
  simp
  omega

def anonymizeV4Bits (addr : BitVec 32) : BitVec 32 :=
  (pan.anonymizeV4 (UInt32.ofBitVec addr)).toBitVec

theorem anonymizeV4_flips :
    FlipsByPrefix pan.anonymizeV4Bits (fun addr => pan.flipped (embedV4 addr)) where
  flipped addr i inside := by
    have upper :
        pan.anonymizeV4Bits addr = (pan.anonymizeBits (embedV4 addr) 32 >>> 96).setWidth 32 := rfl
    rw [upper, getMsbD_upper _ inside, getMsbD_anonymizeBits pan (embedV4 addr) (by omega) inside,
      getMsbD_embedV4]
  causal a b i inside share := by
    apply pan.flipped_congr (by omega)
    intro j before
    rw [getMsbD_embedV4, getMsbD_embedV4, share j before]

theorem anonymizeV4_bijective : Function.Bijective pan.anonymizeV4 := by
  have onBits : Function.Bijective pan.anonymizeV4Bits :=
    pan.anonymizeV4_flips.preservesPrefixes.bijective
  constructor
  · intro a b same
    have bits : pan.anonymizeV4Bits a.toBitVec = pan.anonymizeV4Bits b.toBitVec := by
      unfold anonymizeV4Bits
      exact congrArg UInt32.toBitVec same
    exact UInt32.toBitVec_inj.mp (onBits.injective bits)
  · intro b
    obtain ⟨a, image⟩ := onBits.surjective b.toBitVec
    exact ⟨UInt32.ofBitVec a, UInt32.toBitVec_inj.mp image⟩

/-- For any key and any block function in the place of AES, each family is mapped into itself,
one to one and onto, and two addresses share their first `n` bits exactly when what they
become does, for every `n` up to the width of the family. -/
theorem anonymize_preserves_prefixes (aes128 : Block → Block → Block) (key : Vector UInt8 32) :
    let pan := new aes128 key
    (∃ v4 : Ipv4Addr → Ipv4Addr,
      (∀ addr, pan.anonymize (.v4 addr) = .v4 (v4 addr)) ∧
      (∀ a b n, n ≤ 32 →
        (SharePrefix n a.toBitVec b.toBitVec ↔ SharePrefix n (v4 a).toBitVec (v4 b).toBitVec)) ∧
      Function.Bijective v4) ∧
    (∃ v6 : Ipv6Addr → Ipv6Addr,
      (∀ addr, pan.anonymize (.v6 addr) = .v6 (v6 addr)) ∧
      (∀ a b n, n ≤ 128 → (SharePrefix n a b ↔ SharePrefix n (v6 a) (v6 b))) ∧
      Function.Bijective v6) := by
  intro pan
  constructor
  · refine ⟨pan.anonymizeV4, fun _ => rfl, ?_, pan.anonymizeV4_bijective⟩
    intro a b n inside
    exact pan.anonymizeV4_flips.preservesPrefixes a.toBitVec b.toBitVec n inside
  · have keeps : PreservesPrefixes pan.anonymizeV6 := pan.anonymizeV6_flips.preservesPrefixes
    exact ⟨pan.anonymizeV6, fun _ => rfl, keeps, keeps.bijective⟩

end CryptoPan
end Rustflow
