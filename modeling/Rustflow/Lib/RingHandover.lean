import Mathlib.Data.List.Basic
import Mathlib.Logic.Function.Basic

/-!
# Rings of slots handed back and forth

A producer fills the slots of a ring in turn, and a consumer frees them in turn. A slot that is with
the consumer holds an item; one that is with the producer holds nothing. Neither side knows how far
the other has got: each looks at its own next slot only.

`Holds` is what is true of the slots whatever the two have done: the items not yet taken are in the
ring, in order.
-/

namespace RingHandover
variable {α : Type} {size : Nat} {slot : Nat → Option α} {items : List α} {taken : Nat}

/-- All items but the first `taken` are in their slots. -/
structure Holds (size : Nat) (slot : Nat → Option α) (items : List α) (taken : Nat) : Prop where
  ahead : taken ≤ items.length
  room : items.length ≤ taken + size
  full : ∀ i item, taken ≤ i → items[i]? = some item → slot (i % size) = some item
  free : ∀ s < size, (∀ i < items.length, taken ≤ i → i % size ≠ s) → slot s = none

theorem Holds.empty (size : Nat) : Holds size (fun _ => none) ([] : List α) 0 where
  ahead := Nat.le_refl 0
  room := Nat.zero_le _
  full _ _ _ there := by cases there
  free _ _ _ := rfl

/-- Slots in use at the same time are different. -/
theorem slots_ne {i j : Nat} (first : i < j) (near : j < i + size) : i % size ≠ j % size := by
  intro same
  have distance : (j - i) % size = 0 := Nat.sub_mod_eq_zero_of_mod_eq same.symm
  rw [Nat.mod_eq_of_lt (by omega)] at distance
  omega

/-- The consumer's next slot holds the next item, if there is one. -/
theorem Holds.front (holds : Holds size slot items taken) (some : 0 < size) :
    slot (taken % size) = items[taken]? := by
  rcases Nat.lt_or_ge taken items.length with more | done
  · rw [holds.full taken _ (Nat.le_refl _) (List.getElem?_eq_getElem more),
      List.getElem?_eq_getElem more]
  · rw [List.getElem?_eq_none done]
    refine holds.free _ (Nat.mod_lt _ some) fun i lt le => ?_
    omega

/-- The producer's next slot is free unless the ring is full. -/
theorem Holds.back (holds : Holds size slot items taken) (some : 0 < size)
    (none : slot (items.length % size) = none) :
    items.length < taken + size := by
  refine Nat.lt_of_le_of_ne holds.room fun full => ?_
  have first : taken < items.length := by omega
  have held := holds.full taken _ (Nat.le_refl _) (List.getElem?_eq_getElem first)
  rw [full, Nat.add_mod_right] at none
  rw [none] at held
  cases held

theorem Holds.put (holds : Holds size slot items taken) (some : 0 < size)
    (none : slot (items.length % size) = none) (item : α) :
    Holds size (Function.update slot (items.length % size) (.some item))
      (items ++ [item]) taken where
  ahead := by
    have := holds.ahead
    rw [List.length_append]
    omega
  room := by
    have := holds.back some none
    rw [List.length_append]
    exact this
  full i other le there := by
    have room := holds.back some none
    rcases Nat.lt_trichotomy i items.length with before | rfl | after
    · rw [List.getElem?_append_left before] at there
      rw [Function.update_of_ne (slots_ne before (by omega))]
      exact holds.full i other le there
    · rw [List.getElem?_concat_length] at there
      rw [Function.update_self, there]
    · rw [List.getElem?_eq_none (by rw [List.length_append]; exact after)] at there
      cases there
  free s lt unused := by
    rw [List.length_append] at unused
    rw [Function.update_of_ne (unused items.length (by simp) holds.ahead).symm]
    exact holds.free s lt fun i before => unused i (Nat.lt_succ_of_lt before)

theorem Holds.take (holds : Holds size slot items taken) (more : taken < items.length) :
    Holds size (Function.update slot (taken % size) none) items (taken + 1) where
  ahead := more
  room := by
    have := holds.room
    omega
  full i item le there := by
    have lt : i < items.length := by
      by_contra past
      rw [List.getElem?_eq_none (Nat.not_lt.mp past)] at there
      cases there
    have := holds.room
    rw [Function.update_of_ne (slots_ne (Nat.lt_of_succ_le le) (by omega)).symm]
    exact holds.full i item (Nat.le_of_succ_le le) there
  free s lt unused := by
    rcases eq_or_ne s (taken % size) with rfl | other
    · exact Function.update_self ..
    · rw [Function.update_of_ne other]
      refine holds.free s lt fun i before le => ?_
      rcases Nat.eq_or_lt_of_le le with rfl | later
      · exact other.symm
      · exact unused i before later

theorem Holds.congr (holds : Holds size slot items taken) {slot' : Nat → Option α} (some : 0 < size)
    (same : ∀ s < size, slot' s = slot s) : Holds size slot' items taken where
  ahead := holds.ahead
  room := holds.room
  full i item le there := (same _ (Nat.mod_lt _ some)).trans (holds.full i item le there)
  free s lt unused := (same s lt).trans (holds.free s lt unused)

end RingHandover
