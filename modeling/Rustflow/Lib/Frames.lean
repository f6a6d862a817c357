import Rustflow.Lib.Combinator

/-!
# Sequences of frames

Repeating a parser over the concatenation of frames it can each take whole, or not take at all,
depending on the world it finds. The repetition returns every frame exactly when the parser can
take each of them in its turn.
-/

namespace Combinator
variable {σ α R τ : Type}

/-- Each item is fit for the state that the items before it lead to. -/
def Proceeds (fit : σ → R → Prop) (after : σ → R → σ) : σ → List R → Prop
  | _, [] => True
  | s, r :: rs => fit s r ∧ Proceeds fit after (after s r) rs

section
variable {p : ParserM σ α} {frame : R → List UInt8} {tag : α → τ} {tagOf : R → τ}
  {fit : σ → R → Prop} {after : σ → R → σ}

/-- The repetition over frames always succeeds, and returns them all exactly when they proceed; it
then leaves nothing. -/
theorem many0_frames (nonempty : ∀ r, frame r ≠ []) (ends : ∀ s, ∃ s', p [] s = (none, s'))
    (taken : ∀ s r rest, fit s r →
      ∃ a, p (frame r ++ rest) s = (some (rest, a), after s r) ∧ tag a = tagOf r)
    (lost : ∀ s r rest, ¬ fit s r → ∃ s', p (frame r ++ rest) s = (none, s'))
    (rs : List R) (s : σ) :
    ∃ rest as s', many0 p (rs.flatMap frame) s = (some (rest, as), s') ∧
      (as.map tag = rs.map tagOf ↔ Proceeds fit after s rs) ∧
      (Proceeds fit after s rs → rest = []) := by
  induction rs generalizing s with
  | nil =>
    obtain ⟨s', stop⟩ := ends s
    exact ⟨[], [], s', many0_stop stop, by simp [Proceeds], fun _ => rfl⟩
  | cons r rs ih =>
    rw [List.flatMap_cons]
    by_cases ok : fit s r
    · obtain ⟨a, step, same⟩ := taken s r (rs.flatMap frame) ok
      obtain ⟨rest, as, s', more, iff, all⟩ := ih (after s r)
      have shorter : (rs.flatMap frame).length < (frame r ++ rs.flatMap frame).length := by
        have := List.length_pos_iff.mpr (nonempty r)
        rw [List.length_append]
        omega
      refine ⟨rest, a :: as, s', many0_step step shorter more, ?_, fun proceeds => all proceeds.2⟩
      simp only [List.map_cons, List.cons.injEq, same, true_and, Proceeds, ok, iff]
    · obtain ⟨s', stop⟩ := lost s r (rs.flatMap frame) ok
      exact ⟨_, [], s',
        many0_stop stop, by simp [Proceeds, ok], fun proceeds => absurd proceeds.1 ok⟩

end

end Combinator
