import Mathlib.Data.List.Chain

/-!
# Greedy packing

Items go into the current bin while they join it, and the first that does not starts the next. The
bins hold the items in order, none is empty, and no bin could have taken the item after it.
-/

variable {α : Type}

/-- `bin` is the bin being filled; `joins` says whether an item joins a bin that is not empty. -/
def greedy (joins : List α → α → Bool) (bin : List α) : List α → List (List α)
  | [] => if bin = [] then [] else [bin]
  | a :: as => if bin ≠ [] ∧ joins bin a = false then bin :: greedy joins [a] as
      else greedy joins (bin ++ [a]) as

variable {joins : List α → α → Bool} {bin : List α}

theorem greedy_flatten (items : List α) : (greedy joins bin items).flatten = bin ++ items := by
  induction items generalizing bin with
  | nil =>
    unfold greedy
    split
    · next empty => rw [empty]; rfl
    · simp
  | cons a as ih =>
    unfold greedy
    split
    · rw [List.flatten_cons, ih, List.singleton_append]
    · rw [ih, List.append_assoc, List.singleton_append]

variable (joins bin) in
/-- What holds of a bin of one item and is kept by joining holds of every bin. -/
theorem greedy_forall {P : List α → Prop} {items : List α} (single : ∀ a ∈ items, P [a])
    (join : ∀ bin, bin ≠ [] → P bin → ∀ a ∈ items, joins bin a = true → P (bin ++ [a]))
    (now : bin ≠ [] → P bin) :
    ∀ full ∈ greedy joins bin items, full ≠ [] ∧ P full := by
  induction items generalizing bin with
  | nil =>
    unfold greedy
    split
    · exact fun _ mem => absurd mem List.not_mem_nil
    · next filled =>
      intro full mem
      cases List.mem_singleton.mp mem
      exact ⟨filled, now filled⟩
  | cons a as ih =>
    have later : ∀ bin, (bin ≠ [] → P bin) → ∀ full ∈ greedy joins bin as, full ≠ [] ∧ P full :=
      fun bin =>
      ih bin (fun b mem => single b (List.mem_cons_of_mem a mem))
        fun bin filled holds b mem => join bin filled holds b (List.mem_cons_of_mem a mem)
    unfold greedy
    split
    · next closed =>
      intro full mem
      rcases List.mem_cons.mp mem with rfl | mem
      · exact ⟨closed.1, now closed.1⟩
      · exact later [a] (fun _ => single a List.mem_cons_self) full mem
    · next opened =>
      refine later (bin ++ [a]) fun _ => ?_
      by_cases filled : bin = []
      · rw [filled]
        exact single a List.mem_cons_self
      · have joined : joins bin a = true := by
          by_contra apart
          exact opened ⟨filled, Bool.eq_false_iff.mpr apart⟩
        exact join bin filled (now filled) a List.mem_cons_self joined

/-- Bins in a row, the second starting with an item that does not join the first. -/
def Apart (joins : List α → α → Bool) (full next : List α) : Prop :=
  ∃ a rest, next = a :: rest ∧ joins full a = false

theorem greedy_isChain (items : List α) : (greedy joins bin items).IsChain (Apart joins) ∧
    (bin ≠ [] → ∃ more bins, greedy joins bin items = (bin ++ more) :: bins) := by
  induction items generalizing bin with
  | nil =>
    unfold greedy
    split
    · next empty => exact ⟨.nil, fun filled => absurd empty filled⟩
    · exact ⟨.singleton _, fun _ => ⟨[], [], by simp⟩⟩
  | cons a as ih =>
    unfold greedy
    split
    · next closed =>
      obtain ⟨chain, starts⟩ := @ih [a]
      obtain ⟨more, bins, eq⟩ := starts (List.cons_ne_nil a [])
      rw [eq] at chain ⊢
      exact ⟨List.isChain_cons_cons.mpr ⟨⟨a, more, rfl, closed.2⟩, chain⟩,
        fun _ => ⟨[], ([a] ++ more) :: bins, by simp⟩⟩
    · obtain ⟨chain, starts⟩ := @ih (bin ++ [a])
      refine ⟨chain, fun _ => ?_⟩
      obtain ⟨more, bins, eq⟩ := starts (by simp)
      exact ⟨[a] ++ more, bins, by rw [eq, List.append_assoc]⟩
