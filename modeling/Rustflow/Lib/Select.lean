import Mathlib.Data.List.Sort

/-!
# Selection

The element that would stand at a position if the list were in order, and what it tells of the
others: no fewer than that many are at most as large.
-/

variable {α : Type} [LinearOrder α]

/-- `none` where there is no such position. -/
def selectNth (l : List α) (n : Nat) : Option α := (l.insertionSort (· ≤ ·))[n]?

theorem selectNth_isSome {l : List α} {n : Nat} : (selectNth l n).isSome ↔ n < l.length := by
  unfold selectNth
  simp

theorem length_filter_selectNth {l : List α} {n : Nat} {a : α} (found : selectNth l n = some a) :
    (l.filter fun x => a < x).length + (n + 1) ≤ l.length := by
  have same :
      (l.filter fun x => a < x).length = ((l.insertionSort (· ≤ ·)).filter fun x => a < x).length :=
    (((List.perm_insertionSort (· ≤ ·) l).filter fun x => decide (a < x)).length_eq).symm
  have sorted := List.pairwise_insertionSort (· ≤ ·) l
  have total : (l.insertionSort (· ≤ ·)).length = l.length := List.length_insertionSort _ _
  unfold selectNth at found
  generalize l.insertionSort (· ≤ ·) = s at same sorted total found
  obtain ⟨bound, at_⟩ := List.getElem?_eq_some_iff.mp found
  have small : (s.take (n + 1)).filter (fun x => decide (a < x)) = [] := by
    rw [List.filter_eq_nil_iff]
    intro x mem
    obtain ⟨i, lt, rfl⟩ := List.mem_iff_getElem.mp mem
    rw [List.length_take] at lt
    rw [List.getElem_take, decide_eq_true_eq, not_lt, ← at_]
    rcases Nat.lt_or_eq_of_le (show i ≤ n by omega) with before | same
    · exact List.pairwise_iff_getElem.mp sorted i n _ _ before
    · subst same
      exact le_refl _
  have parts : s.filter (fun x => decide (a < x)) = (s.drop (n + 1)).filter fun x =>
      decide (a < x) := by
    conv_lhs => rw [← List.take_append_drop (n + 1) s, List.filter_append, small, List.nil_append]
  rw [same, parts]
  have := List.length_filter_le (fun x => decide (a < x)) (s.drop (n + 1))
  rw [List.length_drop] at this
  omega
