import Mathlib.Data.List.Basic

/-!
# One in n

The items of a list at every n-th position, and a countdown that finds them.
-/

namespace Thinning
variable {α β : Type} {n : Nat}

/-- The items at multiples of `n`, from the position of the first on. -/
def everyNth (n position : Nat) (items : List α) : List α :=
  ((items.zipIdx position).filter fun item => item.2 % n = 0).map Prod.fst

/-- The list with all but every n-th of the items that `f` is defined on left out. -/
def thin (f : α → Option β) (n : Nat) : Nat → List α → List α
  | _, [] => []
  | position, item :: items =>
    match f item with
    | none => item :: thin f n position items
    | some _ => if position % n = 0 then item :: thin f n (position + 1) items
        else thin f n (position + 1) items

@[simp] theorem everyNth_nil (position : Nat) : everyNth n position ([] : List α) = [] := rfl

theorem everyNth_cons (position : Nat) (item : α) (items : List α) :
    everyNth n position (item :: items) = (if position % n = 0 then [item] else []) ++
      everyNth n (position + 1) items := by
  unfold everyNth
  rw [List.zipIdx_cons]
  by_cases due : position % n = 0 <;> simp [due]

theorem mem_of_mem_everyNth {position : Nat} {item : α} {items : List α}
    (mem : item ∈ everyNth n position items) : item ∈ items := by
  obtain ⟨⟨item, index⟩, inside, rfl⟩ := List.mem_map.mp mem
  exact List.fst_mem_of_mem_zipIdx (List.mem_filter.mp inside).1

theorem filterMap_thin (f : α → Option β) (position : Nat) (items : List α) :
    (thin f n position items).filterMap f = everyNth n position (items.filterMap f) := by
  induction items generalizing position with
  | nil => rfl
  | cons item items ih =>
    rw [thin, List.filterMap_cons]
    cases given : f item with
    | none =>
      dsimp only
      rw [List.filterMap_cons, given]
      exact ih position
    | some b =>
      dsimp only
      rw [everyNth_cons]
      split
      · rw [List.filterMap_cons, given, ih, List.singleton_append]
      · rw [ih, List.nil_append]

/-- How many items there are before the next of them, from a position on. -/
def remaining (n position : Nat) : Nat := if position % n = 0 then 0 else n - position % n

theorem remaining_eq_zero_iff (positive : 0 < n) (position : Nat) : remaining n position = 0 ↔
    position % n = 0 := by
  have small := Nat.mod_lt position positive
  unfold remaining
  split <;> omega

theorem remaining_succ (positive : 0 < n) (position : Nat) :
    remaining n (position + 1) = if position % n = 0 then n - 1 else remaining n position - 1 := by
  have small := Nat.mod_lt position positive
  unfold remaining
  by_cases last : position % n + 1 = n
  · have next : (position + 1) % n = 0 := by rw [← Nat.mod_add_mod, last, Nat.mod_self]
    rw [if_pos next]
    split_ifs <;> omega
  · have next : (position + 1) % n = position % n + 1 := by
      rw [← Nat.mod_add_mod]
      exact Nat.mod_eq_of_lt (by omega)
    rw [next, if_neg (Nat.succ_ne_zero _)]
    split_ifs <;> omega

end Thinning
