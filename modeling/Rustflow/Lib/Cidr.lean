import Rustflow.Lib.PrefixPreserving

/-!
# Networks of addresses

A network is the words that begin with the same bits, and is named by the one whose other bits are
zero. Filling in those bits anyhow gives one of its words.
-/

open PrefixPreserving (SharePrefix)

structure Cidr (w : Nat) where
  network : BitVec w
  prefixLen : Nat
  fits : prefixLen ≤ w
  clear : ∀ i, prefixLen ≤ i → network.getMsbD i = false

namespace Cidr
variable {w : Nat} {net net' : Cidr w} {a : BitVec w}

def Contains (net : Cidr w) (a : BitVec w) : Prop := SharePrefix net.prefixLen net.network a

instance : Decidable (net.Contains a) :=
  inferInstanceAs (Decidable (∀ i, i < net.prefixLen → net.network.getMsbD i = a.getMsbD i))

instance : DecidableEq (Cidr w) := fun net net' =>
  decidable_of_iff (net.network = net'.network ∧ net.prefixLen = net'.prefixLen) <| by
    cases net
    cases net'
    simp

/-- The bits that its words may differ in. -/
def hostmask (net : Cidr w) : BitVec w := BitVec.allOnes w >>> net.prefixLen

theorem getMsbD_hostmask (net : Cidr w) (i : Nat) :
    net.hostmask.getMsbD i = (decide (i < w) && decide (net.prefixLen ≤ i)) := by
  unfold hostmask
  rw [BitVec.getMsbD_ushiftRight, BitVec.getMsbD_allOnes]
  by_cases before : i < net.prefixLen
  · simp [before, Nat.not_le.mpr before]
  · have inside : i < w → i - net.prefixLen < w := Nat.lt_of_le_of_lt (Nat.sub_le ..)
    simpa [before, Nat.not_lt.mp before] using inside

/-- The word with the host bits of another. -/
def fill (net : Cidr w) (random : BitVec w) : BitVec w := net.network ||| (random &&& net.hostmask)

theorem contains_fill (net : Cidr w) (random : BitVec w) : net.Contains (net.fill random) := by
  intro i before
  rw [fill, BitVec.getMsbD_or, BitVec.getMsbD_and, getMsbD_hostmask]
  simp [Nat.not_le.mpr before]

/-- The network of some length that a word is in. -/
def around (a : BitVec w) (prefixLen : Nat) (fits : prefixLen ≤ w) : Cidr w where
  network := a &&& ~~~(BitVec.allOnes w >>> prefixLen)
  prefixLen
  fits
  clear i past := by
    rw [BitVec.getMsbD_and, BitVec.getMsbD_not, BitVec.getMsbD_ushiftRight, BitVec.getMsbD_allOnes]
    by_cases below : i < w
    · simp [below, Nat.not_lt.mpr past, Nat.lt_of_le_of_lt (Nat.sub_le ..) below]
    · simp [below]

end Cidr
