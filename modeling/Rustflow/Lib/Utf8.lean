import Mathlib.Data.List.DropRight
import Mathlib.Algebra.Group.Nat.Defs

/-!
# UTF-8 as bytes

Strings through the bytes that encode them: reading, padding with null characters, and cutting
at a character boundary.
-/

namespace Utf8

def bytes (s : String) : List UInt8 := s.toByteArray.data.toList

/-- `None` for ill-formed bytes. -/
def read (bs : List UInt8) : Option String := String.fromUTF8? ⟨bs.toArray⟩

/-- What may follow a lead byte: how many continuation bytes, and the range of the first. -/
def lead (b : UInt8) : Option (Nat × UInt8 × UInt8) :=
  if 0xc2 ≤ b ∧ b ≤ 0xdf then some (1, 0x80, 0xbf)
  else if b = 0xe0 then some (2, 0xa0, 0xbf)
  else if b = 0xed then some (2, 0x80, 0x9f)
  else if 0xe1 ≤ b ∧ b ≤ 0xef then some (2, 0x80, 0xbf)
  else if b = 0xf0 then some (3, 0x90, 0xbf)
  else if 0xf1 ≤ b ∧ b ≤ 0xf3 then some (3, 0x80, 0xbf)
  else if b = 0xf4 then some (3, 0x80, 0x8f)
  else none

/-- `n` continuation bytes onto the bits read so far, or `none` at the first byte that is not
one, which is left for what follows. -/
def continuation : Nat → UInt8 → UInt8 → Nat → List UInt8 → Option Nat × List UInt8
  | 0, _, _, bits, bs => (some bits, bs)
  | _ + 1, _, _, _, [] => (none, [])
  | n + 1, low, high, bits, b :: bs =>
    if low ≤ b ∧ b ≤ high then continuation n 0x80 0xbf (bits * 64 + b.toNat % 64) bs
    else (none, b :: bs)

/-- The next character after the byte `b`, a replacement character for an ill-formed sequence
cut as short as it shows itself ill-formed. -/
def nextLossy (b : UInt8) (bs : List UInt8) : Char × List UInt8 :=
  if b < 0x80 then (Char.ofNat b.toNat, bs)
  else
    match lead b with
    | none => ('\uFFFD', bs)
    | some (n, low, high) =>
      match continuation n low high (b.toNat % 2 ^ (6 - n)) bs with
      | (some bits, rest) => (Char.ofNat bits, rest)
      | (none, rest) => ('\uFFFD', rest)

/-- Characters until the bytes run out; each takes at least one, which is the fuel. -/
def lossyLoop : Nat → List UInt8 → List Char
  | 0, _ => []
  | _ + 1, [] => []
  | fuel + 1, b :: bs =>
    let (c, rest) := nextLossy b bs
    c :: lossyLoop fuel rest

/-- `String::from_utf8_lossy`. -/
def readLossy (bs : List UInt8) : String := String.ofList (lossyLoop bs.length bs)

/-- Without the null characters at its end. -/
def trimEndNul (s : String) : String := String.ofList (s.toList.rdropWhile (· == '\x00'))

/-- Not a continuation byte. -/
def isBoundary (b : UInt8) : Bool := b &&& 0xc0 != 0x80

/-- The last index up to `i` that starts a character, or zero. -/
def boundaryFrom (bs : List UInt8) : Nat → Nat
  | 0 => 0
  | i + 1 => if (bs[i + 1]?.map isBoundary).getD false then i + 1 else boundaryFrom bs i

/-- The longest prefix of at most `index` bytes that cuts no character. -/
def floorCharBoundary (bs : List UInt8) (index : Nat) : Nat :=
  if bs.length ≤ index then bs.length else boundaryFrom bs index

theorem floorCharBoundary_of_le {bs : List UInt8} {index : Nat} (short : bs.length ≤ index) :
    floorCharBoundary bs index = bs.length := if_pos short

theorem bytes_append (s t : String) : bytes (s ++ t) = bytes s ++ bytes t := by
  simp [bytes, String.toByteArray_append]

theorem read_bytes (s : String) : read (bytes s) = some s := by
  have valid := s.isValidUTF8
  simp [read, bytes, String.fromUTF8?, valid, String.fromUTF8]

theorem bytes_read {bs : List UInt8} {s : String} (ok : read bs = some s) : bytes s = bs := by
  unfold read String.fromUTF8? at ok
  split at ok
  · cases ok
    rfl
  · cases ok

theorem length_trimEndNul_le (s : String) : (bytes (trimEndNul s)).length ≤ (bytes s).length := by
  have whole : s = trimEndNul s ++ String.ofList (s.toList.rtakeWhile (· == '\x00')) := by
    rw [trimEndNul, ← String.ofList_append, List.rdropWhile_append_rtakeWhile, String.ofList_toList]
  conv_rhs => rw [whole, bytes_append, List.length_append]
  omega

theorem bytes_nuls (n : Nat) :
    bytes (String.ofList (List.replicate n '\x00')) = List.replicate n 0 := by
  induction n with
  | zero => rfl
  | succ n ih =>
    have cons : String.ofList (List.replicate (n + 1) '\x00') =
        String.ofList ['\x00'] ++ String.ofList (List.replicate n '\x00') := by
      rw [← String.ofList_append, List.replicate_succ, List.singleton_append]
    rw [cons, bytes_append, ih, List.replicate_succ]
    rfl

theorem read_padded (s : String) (n : Nat) :
    read (bytes s ++ List.replicate n 0) = some (s ++ String.ofList (List.replicate n '\x00')) := by
  rw [← bytes_nuls, ← bytes_append, read_bytes]

/-- Padding comes off again, where the string does not end in a null character itself. -/
theorem trimEndNul_padded {s : String} (clean : s.toList.getLast? ≠ some '\x00') (n : Nat) :
    trimEndNul (s ++ String.ofList (List.replicate n '\x00')) = s := by
  have kept : s.toList.rdropWhile (· == '\x00') = s.toList := by
    rw [List.rdropWhile_eq_self_iff]
    intro nonempty last
    exact clean (by rw [List.getLast?_eq_some_getLast nonempty, beq_iff_eq.mp last])
  have pad : (s.toList ++ List.replicate n '\x00').rdropWhile (· == '\x00') = s.toList := by
    induction n with
    | zero => simpa using kept
    | succ n ih =>
      rw [List.replicate_succ', ← List.append_assoc, List.rdropWhile_concat_pos _ _ _ (by rfl), ih]
  rw [trimEndNul, String.toList_append, String.toList_ofList, pad, String.ofList_toList]

end Utf8
