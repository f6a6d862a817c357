import Mathlib.Data.List.Induction

/-!
# Folds that write

What is read of a state after a fold whose steps write to it: the last write where a step
overwrites, the first where a step only fills what is still empty.
-/

namespace Writes
variable {σ ε α κ : Type}

theorem foldl_last {r : σ → κ → α} {w : ε → κ → Option α} {step : σ → ε → σ}
    (writes : ∀ s e k, r (step s e) k = (w e k).getD (r s k)) (es : List ε) (s : σ) (k : κ) :
    r (es.foldl step s) k = (es.filterMap fun e => w e k).getLast?.getD (r s k) := by
  induction es using List.reverseRecOn with
  | nil => rfl
  | append_singleton es e ih =>
    rw [List.foldl_append, List.foldl_cons, List.foldl_nil, writes, ih, List.filterMap_append]
    cases written : w e k <;> simp [written]

theorem foldl_first {r : σ → Option α} {w : ε → Option α} {step : σ → ε → σ}
    (fills : ∀ s e, r (step s e) = (r s).or (w e)) (es : List ε) (s : σ) :
    r (es.foldl step s) = (r s).or (es.findSome? w) := by
  induction es generalizing s with
  | nil => simp
  | cons e es ih =>
    rw [List.foldl_cons, ih, fills, List.findSome?_cons]
    cases w e <;> cases r s <;> rfl

/-- Taking what the first candidate gives is taking the first that gives something, exactly where
the first candidate gives something or none does. -/
theorem find_bind_eq_findSome {p : ε → Bool} {f : ε → Option α} {es : List ε} :
    (es.find? p).bind f = es.findSome? (fun e => if p e then f e else none) ↔
      ∀ first, es.find? p = some first → (∃ e ∈ es, p e ∧ (f e).isSome) → (f first).isSome := by
  induction es with
  | nil => simp
  | cons e es ih =>
    rw [List.find?_cons, List.findSome?_cons]
    cases candidate : p e with
    | false =>
      dsimp only
      rw [if_neg Bool.false_ne_true, ih]
      simp only [List.mem_cons, exists_eq_or_imp, candidate, Bool.false_eq_true,
        false_and, false_or]
    | true =>
      dsimp only
      rw [if_pos rfl, Option.bind_some]
      cases given : f e with
      | some a => simp [given]
      | none =>
        simp only [Option.some.injEq, forall_eq', given, Option.isSome_none, Bool.false_eq_true,
          imp_false, not_exists, not_and, List.mem_cons, forall_eq_or_imp, not_false_eq_true,
          implies_true, true_and]
        rw [eq_comm, List.findSome?_eq_none_iff]
        refine forall₂_congr fun e' _ => ?_
        cases p e' <;> cases f e' <;> simp

/-- The last write where all writes are one. -/
theorem getLast_of_all {w : ε → Option α} {es : List ε} {a : α} (one : ∃ e ∈ es, w e = some a)
    (all : ∀ e ∈ es, ∀ b, w e = some b → b = a) : (es.filterMap w).getLast? = some a := by
  obtain ⟨e, mem, written⟩ := one
  have some : es.filterMap w ≠ [] := List.ne_nil_of_mem (List.mem_filterMap.mpr ⟨e, mem, written⟩)
  rw [List.getLast?_eq_some_getLast some]
  obtain ⟨e', mem', last⟩ := List.mem_filterMap.mp (List.getLast_mem some)
  exact congrArg Option.some (all e' mem' _ last)

theorem findSome_of_all {w : ε → Option α} {es : List ε} {a : α} (one : ∃ e ∈ es, w e = some a)
    (all : ∀ e ∈ es, ∀ b, w e = some b → b = a) : es.findSome? w = some a := by
  obtain ⟨e, mem, written⟩ := one
  cases first : es.findSome? w with
  | none =>
    rw [List.findSome?_eq_none_iff.mp first e mem] at written
    cases written
  | some b =>
    obtain ⟨e', mem', written'⟩ := List.exists_of_findSome?_eq_some first
    rw [all e' mem' b written']

theorem eq_of_perm_of_few {as as' : List α} (perm : as'.Perm as) (few : as.length ≤ 1) :
    as' = as := by
  match as with
  | [] => exact perm.eq_nil
  | [a] => exact List.perm_singleton.mp perm
  | _ :: _ :: _ => exact absurd few (by simp)

/-- At most one write is the same in any order. -/
theorem filterMap_perm_eq {w : ε → Option α} {es es' : List ε} (perm : es'.Perm es)
    (few : (es.filterMap w).length ≤ 1) : es'.filterMap w = es.filterMap w :=
  eq_of_perm_of_few (perm.filterMap w) few

end Writes
