import Mathlib.Data.List.Basic
import Mathlib.Data.List.Nodup
import Mathlib.Data.List.Induction

/-!
# Grouping

Items gathered under their keys, with the keys in the order in which they first occur.
-/

namespace Grouping
variable {κ α : Type} [DecidableEq κ]

/-- Adds an item to the group of its key, or to a new group behind the others. -/
def push : List (κ × List α) → κ × α → List (κ × List α)
  | [], item => [(item.1, [item.2])]
  | group :: groups, item =>
    if group.1 = item.1 then (group.1, group.2 ++ [item.2]) :: groups else group :: push groups item

def keysOf (key : α → κ) (items : List α) : List κ := (items.map key).eraseDups

/-- Which group an item is in. -/
def groupIndex (key : α → κ) (items : List α) (item : α) : Nat :=
  (keysOf key items).idxOf (key item)

/-- The items group by group. -/
def grouped (key : α → κ) (items : List α) : List α :=
  (keysOf key items).flatMap fun k => items.filter fun item => key item = k

theorem eraseDups_snoc (ks : List κ) (k : κ) :
    (ks ++ [k]).eraseDups = if k ∈ ks then ks.eraseDups else ks.eraseDups ++ [k] := by
  rw [List.eraseDups_append]
  by_cases known : k ∈ ks <;> simp [List.removeAll, known, List.eraseDups_cons]

theorem nodup_eraseDups (ks : List κ) : ks.eraseDups.Nodup := by
  induction ks using List.reverseRecOn with
  | nil => exact List.nodup_nil
  | append_singleton ks k ih =>
    rw [eraseDups_snoc]
    split
    · exact ih
    · next fresh =>
      rw [List.nodup_append]
      refine ⟨ih, List.nodup_singleton k, fun known mem new mem' same => fresh ?_⟩
      rw [← List.mem_singleton.mp mem', ← same]
      exact List.mem_eraseDups.mp mem

theorem mem_keysOf {key : α → κ} {items : List α} {k : κ} :
    k ∈ keysOf key items ↔ ∃ item ∈ items, key item = k := by
  rw [keysOf, List.mem_eraseDups, List.mem_map]

theorem push_map {ks : List κ} (nodup : ks.Nodup) (f : κ → List α) (item : κ × α) :
    push (ks.map fun k => (k, f k)) item =
      if item.1 ∈ ks then ks.map fun k => (k, if item.1 = k then f k ++ [item.2] else f k)
      else ks.map (fun k => (k, f k)) ++ [(item.1, [item.2])] := by
  induction ks with
  | nil => rfl
  | cons k ks ih =>
    rw [List.nodup_cons] at nodup
    rw [List.map_cons, push]
    by_cases here : k = item.1
    · subst here
      rw [if_pos rfl, if_pos List.mem_cons_self, List.map_cons, if_pos rfl]
      refine congrArg _ (List.map_congr_left fun other mem => ?_)
      have different : item.1 ≠ other := fun same => nodup.1 (same ▸ mem)
      rw [if_neg different]
    · have mem : item.1 ∈ k :: ks ↔ item.1 ∈ ks := by simp [Ne.symm here]
      rw [if_neg here, ih nodup.2]
      by_cases known : item.1 ∈ ks
      · rw [if_pos known, if_pos (mem.mpr known), List.map_cons, if_neg (Ne.symm here)]
      · rw [if_neg known, if_neg (mt mem.mp known), List.cons_append]

/-- What pushing makes of items: for each key its items, in their order. -/
theorem foldl_push (items : List (κ × α)) :
    items.foldl push [] = (keysOf Prod.fst items).map fun k =>
      (k, (items.filter fun item => item.1 = k).map Prod.snd) := by
  unfold keysOf
  induction items using List.reverseRecOn with
  | nil => rfl
  | append_singleton items item ih =>
    rw [List.foldl_append, ih, List.foldl_cons, List.foldl_nil, push_map (nodup_eraseDups _),
      List.map_append, List.map_cons, List.map_nil, eraseDups_snoc]
    by_cases known : item.1 ∈ items.map Prod.fst
    · rw [if_pos (List.mem_eraseDups.mpr known), if_pos known]
      refine List.map_congr_left fun k _ => ?_
      by_cases same : item.1 = k <;> simp [same, List.filter_append]
    · rw [if_neg fun mem => known (List.mem_eraseDups.mp mem), if_neg known, List.map_append,
        List.map_cons, List.map_nil]
      have none : items.filter (fun other => other.1 = item.1) = [] := by
        refine List.filter_eq_nil_iff.mpr fun other mem => ?_
        rw [decide_eq_true_eq]
        exact fun same => known (same ▸ List.mem_map_of_mem mem)
      congr 1
      · refine List.map_congr_left fun k mem => ?_
        have other : item.1 ≠ k := fun same => known (same ▸ List.mem_eraseDups.mp mem)
        simp [other, List.filter_append]
      · simp [none, List.filter_append]

/-- Items that come in the order of their keys are gathered as they are. -/
theorem gathered_eq {ks : List κ} (nodup : ks.Nodup) {key : α → κ} {items : List α}
    (keyed : ∀ item ∈ items, key item ∈ ks)
    (inOrder : (items.map fun item => ks.idxOf (key item)).Pairwise (· ≤ ·)) :
    (ks.flatMap fun k => items.filter fun item => key item = k) = items := by
  induction items with
  | nil => simp
  | cons item items ih =>
    rw [List.map_cons, List.pairwise_cons] at inOrder
    have rest := ih (fun other mem => keyed other (List.mem_cons_of_mem _ mem)) inOrder.2
    obtain ⟨before, after, rfl⟩ := List.append_of_mem (keyed item List.mem_cons_self)
    have fresh : key item ∉ before :=
      fun mem => (List.nodup_append.mp nodup).2.2 _ mem _ List.mem_cons_self rfl
    have last : key item ∉ after := (List.nodup_cons.mp (List.nodup_append.mp nodup).2.1).1
    have absent : ∀ k ∈ before, ∀ other ∈ item :: items, key other ≠ k := by
      intro k early other mem same
      obtain rfl | mem := List.mem_cons.mp mem
      · exact fresh (same ▸ early)
      · have le := inOrder.1 _ (List.mem_map_of_mem mem)
        rw [same, List.idxOf_append_of_notMem fresh, List.idxOf_append_of_mem early] at le
        have lt := List.idxOf_lt_length_iff.mpr early
        omega
    have empty : ∀ others : List α, (∀ other ∈ others, other ∈ item :: items) →
        (before.flatMap fun k => others.filter fun other => key other = k) = [] := by
      intro others among
      refine List.flatMap_eq_nil_iff.mpr fun k early =>
        List.filter_eq_nil_iff.mpr fun other mem => ?_
      rw [decide_eq_true_eq]
      exact absent k early other (among other mem)
    rw [List.flatMap_append, List.flatMap_cons] at rest ⊢
    rw [empty items fun other mem => List.mem_cons_of_mem _ mem, List.nil_append] at rest
    rw [empty (item :: items) fun other mem => mem, List.nil_append,
      List.filter_cons_of_pos (by simp), List.cons_append]
    congr 1
    refine Eq.trans ?_ rest
    congr 1
    refine List.flatMap_congr fun k mem => ?_
    have different : key item ≠ k := fun same => last (same ▸ mem)
    exact List.filter_cons_of_neg (by simpa using different)

theorem filter_grouped {key : α → κ} {items : List α} {p : α → Bool}
    (inOrder : ((items.filter p).map (groupIndex key items)).Pairwise (· ≤ ·)) :
    (grouped key items).filter p = items.filter p := by
  unfold grouped
  rw [List.filter_flatMap]
  have swap : ∀ k, (items.filter fun item => key item = k).filter p =
      (items.filter p).filter fun item => key item = k := by
    intro k
    rw [List.filter_filter, List.filter_filter]
    exact List.filter_congr fun item _ => Bool.and_comm _ _
  simp only [swap]
  refine gathered_eq (nodup_eraseDups _) (fun item mem => List.mem_eraseDups.mpr ?_) inOrder
  exact List.mem_map_of_mem (List.mem_filter.mp mem).1

end Grouping
