import Mathlib.Tactic.Ring
import Mathlib.Tactic.Linarith

/-!
# Big-endian integers

A natural number as a fixed number of bytes, most significant first, and back.
`value_bytes` and `bytes_value` say that the two are inverse on `width` bytes.
-/

namespace BigEndian

/-- The `width` low bytes of `n`, most significant first. -/
def bytes : Nat → Nat → List UInt8
  | 0, _ => []
  | width + 1, n => UInt8.ofNat (n / 256 ^ width) :: bytes width n

/-- The number the bytes spell: each byte shifts what came before it by eight bits. -/
def value (bs : List UInt8) : Nat :=
  bs.foldl (fun acc b => acc * 256 + b.toNat) 0

@[simp] theorem length_bytes (width n : Nat) : (bytes width n).length = width := by
  induction width with
  | zero => rfl
  | succ width ih => simp [bytes, ih]

theorem foldl_shift (bs : List UInt8) (acc : Nat) :
    bs.foldl (fun acc b => acc * 256 + b.toNat) acc = acc * 256 ^ bs.length + value bs := by
  induction bs generalizing acc with
  | nil => simp [value]
  | cons b bs ih =>
    have whole : value (b :: bs) = b.toNat * 256 ^ bs.length + value bs := by
      rw [value, List.foldl_cons, ih, Nat.zero_mul, Nat.zero_add]
    rw [List.foldl_cons, ih, whole, List.length_cons, pow_succ]
    ring

@[simp] theorem value_nil : value [] = 0 := rfl

theorem value_cons (b : UInt8) (bs : List UInt8) :
    value (b :: bs) = b.toNat * 256 ^ bs.length + value bs := by
  rw [value, List.foldl_cons, foldl_shift]
  ring

theorem value_lt (bs : List UInt8) : value bs < 256 ^ bs.length := by
  induction bs with
  | nil => simp
  | cons b bs ih =>
    have byte : b.toNat < 256 := b.toNat_lt
    rw [value_cons, List.length_cons, pow_succ]
    nlinarith

theorem value_bytes (width n : Nat) : value (bytes width n) = n % 256 ^ width := by
  induction width with
  | zero => simp [bytes, Nat.mod_one]
  | succ width ih =>
    have split : n % 256 ^ (width + 1) = n % 256 ^ width + 256 ^ width * (n / 256 ^ width % 256) :=
      Nat.mod_pow_succ
    rw [bytes, value_cons, ih, length_bytes, UInt8.toNat_ofNat', split, Nat.mul_comm (256 ^ width),
      Nat.add_comm]

theorem value_bytes_of_lt {width n : Nat} (small : n < 256 ^ width) :
    value (bytes width n) = n := by
  rw [value_bytes, Nat.mod_eq_of_lt small]

theorem bytes_congr {width m n : Nat} (same : m % 256 ^ width = n % 256 ^ width) :
    bytes width m = bytes width n := by
  induction width with
  | zero => rfl
  | succ width ih =>
    have low : m % 256 ^ width = n % 256 ^ width := by
      rw [← Nat.mod_mul_right_mod m (256 ^ width) 256, ← Nat.mod_mul_right_mod n (256 ^ width) 256,
        ← pow_succ, same]
    have high : m / 256 ^ width % 256 = n / 256 ^ width % 256 := by
      rw [← Nat.mod_mul_right_div_self, ← Nat.mod_mul_right_div_self, ← pow_succ, same]
    rw [bytes, bytes, ih low]
    congr 1
    exact UInt8.toNat_inj.mp (by simpa using high)

theorem bytes_value {width : Nat} {bs : List UInt8} (len : bs.length = width) :
    bytes width (value bs) = bs := by
  induction bs generalizing width with
  | nil => subst len; rfl
  | cons b bs ih =>
    subst len
    have tail : value bs < 256 ^ bs.length := value_lt bs
    have head : (b.toNat * 256 ^ bs.length + value bs) / 256 ^ bs.length = b.toNat := by
      rw [Nat.add_comm, Nat.add_mul_div_right _ _ (by positivity), Nat.div_eq_of_lt tail,
        Nat.zero_add]
    have low :
        bytes bs.length (b.toNat * 256 ^ bs.length + value bs) = bytes bs.length (value bs) :=
      bytes_congr (by rw [Nat.add_comm, Nat.add_mul_mod_self_right])
    rw [List.length_cons, value_cons, bytes, head, low, ih rfl]
    simp

/-- The low `width` bytes of a wider encoding are the narrower encoding. -/
theorem drop_bytes (extra width n : Nat) :
    (bytes (extra + width) n).drop extra = bytes width n := by
  induction extra with
  | zero => simp
  | succ extra ih =>
    rw [show extra + 1 + width = (extra + width) + 1 by omega, bytes, List.drop_succ_cons, ih]

end BigEndian
