import Mathlib.Data.List.Basic

/-!
# Times that keep a distance

Each time of the list meets a deadline, and puts the next one at least an interval behind the last
and behind itself. However late the deadlines are met, no more of them fit in a stretch of time than
intervals do, and two at its ends.
-/

/-- `deadline` is the one that the first of the times meets. -/
inductive Spaced (interval : Nat) : Nat → List Nat → Prop where
  | nil (deadline : Nat) : Spaced interval deadline []
  | cons {deadline time next : Nat} {times : List Nat} (met : deadline ≤ time) (later : time < next)
      (apart : deadline + interval ≤ next) (rest : Spaced interval next times) : Spaced interval
      deadline (time :: times)

namespace Spaced
variable {interval deadline : Nat} {times : List Nat}

/-- From the first deadline on there is an interval for each. -/
theorem countP_le (positive : 0 < interval) (spaced : Spaced interval deadline times) (T : Nat) :
    times.countP (· ≤ T) ≤ (T + interval - deadline) / interval := by
  induction spaced with
  | nil => exact Nat.zero_le _
  | @cons deadline time next times met later apart _ ih =>
    rw [List.countP_cons]
    split
    · next within =>
      -- The deadline that was met has an interval of the room.
      have within := of_decide_eq_true within
      have room : T + interval - deadline = T - deadline + interval := by omega
      have fewer : (T + interval - next) / interval ≤ (T - deadline) / interval :=
        Nat.div_le_div_right (by omega)
      rw [room, Nat.add_div_right _ positive]
      omega
    · have fewer : (T + interval - next) / interval ≤ (T + interval - deadline) / interval :=
        Nat.div_le_div_right (by omega)
      omega

theorem countP_span_le (positive : 0 < interval) (spaced : Spaced interval deadline times)
    (a d : Nat) :
    times.countP (fun t => a ≤ t ∧ t ≤ a + d) ≤ d / interval + 2 := by
  induction spaced with
  | nil => exact Nat.zero_le _
  | @cons deadline time next times met later apart rest ih =>
    rw [List.countP_cons]
    split
    · next within =>
      -- After the first in the span the next deadline is in it or behind it.
      have within := of_decide_eq_true within
      have fewer : times.countP (fun t => a ≤ t ∧ t ≤ a + d) ≤ times.countP (· ≤ a + d) :=
        List.countP_mono_left fun t _ inside => decide_eq_true (of_decide_eq_true inside).2
      have counted := rest.countP_le positive (a + d)
      have room : (a + d + interval - next) / interval ≤ (d + interval) / interval :=
        Nat.div_le_div_right (by omega)
      rw [Nat.add_div_right _ positive] at room
      omega
    · exact ih

end Spaced
