import Mathlib.Data.Fintype.Card
import Mathlib.Data.Fintype.EquivFin

/-!
# Prefix-preserving maps

A map on words of `w` bits that keeps, for every length, which pairs of words begin with the
same bits. Such a map cannot send two words to one, so it permutes the words.
-/

namespace PrefixPreserving
variable {w : Nat} {f : BitVec w → BitVec w} {a b : BitVec w} {n : Nat}

/-- The two words begin with the same `n` bits, most significant first. -/
def SharePrefix (n : Nat) (a b : BitVec w) : Prop :=
  ∀ i, i < n → a.getMsbD i = b.getMsbD i

/-- At every length up to the width, two words agree exactly when their images do. -/
def PreservesPrefixes (f : BitVec w → BitVec w) : Prop :=
  ∀ a b n, n ≤ w → (SharePrefix n a b ↔ SharePrefix n (f a) (f b))

/-- Bit `i` of the image is bit `i` of the word, flipped as the bits before it decide. -/
structure FlipsByPrefix (f : BitVec w → BitVec w) (flip : BitVec w → Nat → Bool) : Prop where
  flipped : ∀ a i, i < w → (f a).getMsbD i = (a.getMsbD i ^^ flip a i)
  causal : ∀ a b i, i < w → SharePrefix i a b → flip a i = flip b i

theorem sharePrefix_zero : SharePrefix 0 a b := by
  intro i below
  exact absurd below (Nat.not_lt_zero i)

theorem sharePrefix_succ :
    SharePrefix (n + 1) a b ↔ SharePrefix n a b ∧ a.getMsbD n = b.getMsbD n := by
  constructor
  · intro share
    exact ⟨fun i below => share i (by omega), share n (by omega)⟩
  · rintro ⟨share, last⟩ i below
    rcases Nat.lt_succ_iff_lt_or_eq.mp below with before | rfl
    · exact share i before
    · exact last

theorem eq_of_sharePrefix (share : SharePrefix w a b) : a = b :=
  BitVec.eq_of_getMsbD_eq share

/-- While the words agree the flips agree, and equal flips neither part nor join two bits. -/
theorem FlipsByPrefix.preservesPrefixes {flip : BitVec w → Nat → Bool}
    (flips : FlipsByPrefix f flip) :
    PreservesPrefixes f := by
  intro a b n
  induction n with
  | zero =>
    intro _
    exact iff_of_true sharePrefix_zero sharePrefix_zero
  | succ n ih =>
    intro inside
    rw [sharePrefix_succ, sharePrefix_succ, ← ih (by omega)]
    apply and_congr_right
    intro share
    rw [flips.flipped a n inside, flips.flipped b n inside, flips.causal a b n inside share]
    exact (Bool.xor_left_inj).symm

theorem PreservesPrefixes.injective (keeps : PreservesPrefixes f) : Function.Injective f := by
  intro a b same
  have share : SharePrefix w (f a) (f b) := by
    intro i _
    rw [same]
  exact eq_of_sharePrefix ((keeps a b w (Nat.le_refl w)).mpr share)

theorem PreservesPrefixes.bijective (keeps : PreservesPrefixes f) : Function.Bijective f := by
  have finite : Finite (BitVec w) :=
    Finite.of_injective BitVec.toFin (fun a b same => BitVec.eq_of_toFin_eq same)
  exact Finite.injective_iff_bijective.mp keeps.injective

end PrefixPreserving
