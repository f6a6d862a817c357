import Mathlib.Algebra.GroupWithZero.Nat
import Mathlib.Data.List.AList
import Mathlib.Algebra.Order.BigOperators.Group.Finset

/-!
# Finite tables

Mathlib's association lists with a constant value type, with what a hash table adds to
`lookup`, `insert` and `erase`: changing or dropping every value in one pass, and sums
over the entries. The order of the entries is never observed by the lemmas here.
-/

abbrev Table (K V : Type) : Type := AList fun _ : K => V

/-- An order in which a hash table may visit its values. -/
structure IterationOrder (V : Type) where
  arrange : List V → List V
  perm : ∀ values, (arrange values).Perm values

/-- The order in which the values are listed. -/
def IterationOrder.listed {V : Type} : IterationOrder V := ⟨id, fun _ => .refl _⟩

namespace Table
variable {K V W : Type}

/-- Replaces each value by what `f` makes of it, or drops it. -/
def filterMapValues (f : K → V → Option W) (t : Table K V) : Table K W where
  entries := t.entries.filterMap fun e => (f e.1 e.2).map (Sigma.mk e.1)
  nodupKeys := by
    have distinct := t.nodupKeys
    rw [List.NodupKeys, List.keys, List.nodup_iff_pairwise_ne, List.pairwise_map] at distinct ⊢
    refine distinct.filterMap _ ?_
    intro a b ne x hx y hy
    simp only [Option.map_eq_some_iff] at hx hy
    obtain ⟨_, _, rfl⟩ := hx
    obtain ⟨_, _, rfl⟩ := hy
    exact ne

/-- The values, in no particular order. -/
def values (t : Table K V) : List V := t.entries.map Sigma.snd

def size (t : Table K V) : Nat := t.entries.length

/-- Keeps the values that pass a test. -/
def retain (keep : V → Bool) (t : Table K V) : Table K V :=
  t.filterMapValues fun _ value => if keep value then some value else none

/-- The sum of a measure of the entries. -/
def total (w : K → V → Nat) (t : Table K V) : Nat := (t.entries.map fun e => w e.1 e.2).sum

/-- A table of tables as one table over pairs of keys. -/
def flatten {L : Type} (t : Table K (Table L V)) : Table (K × L) V where
  entries := t.entries.flatMap fun row => row.2.entries.map fun e => ⟨(row.1, e.1), e.2⟩
  nodupKeys := by
    have distinct := t.nodupKeys
    rw [List.NodupKeys, List.keys, List.nodup_iff_pairwise_ne, List.pairwise_map] at distinct
    rw [List.NodupKeys, List.keys, List.map_flatMap, List.nodup_flatMap]
    constructor
    · intro row _
      have inner := row.2.nodupKeys
      rw [List.NodupKeys, List.keys] at inner
      rw [List.map_map]
      simpa only [List.map_map, Function.comp_def] using inner.map (f := fun l => (row.1, l))
        fun _ _ h => (Prod.mk.inj h).2
    · refine distinct.imp ?_
      intro row row' ne
      refine List.disjoint_left.mpr ?_
      intro key mem mem'
      simp only [List.map_map, List.mem_map, Function.comp_apply] at mem mem'
      obtain ⟨_, _, rfl⟩ := mem
      obtain ⟨_, _, same⟩ := mem'
      exact ne (Prod.mk.inj same).1.symm

section
variable {X : Type}

theorem filterMapValues_map (f : V → W) (g : W → X) (t : Table K V) :
    (t.filterMapValues fun _ v => some (f v)).filterMapValues (fun _ w => some (g w)) =
      t.filterMapValues fun _ v => some (g (f v)) := by
  refine AList.ext ?_
  simp only [filterMapValues, List.filterMap_filterMap, Option.map_some, Option.bind_some]

theorem values_map (f : V → W) (t : Table K V) :
    (t.filterMapValues fun _ v => some (f v)).values = t.values.map f := by
  simp [values, filterMapValues]

end

section
variable [DecidableEq K]

theorem lookup_eq_some {t : Table K V} {k : K} {v : V} :
    t.lookup k = some v ↔ ⟨k, v⟩ ∈ t.entries := AList.mem_lookup_iff

theorem lookup_filterMapValues (f : K → V → Option W) (t : Table K V) (k : K) :
    (t.filterMapValues f).lookup k = (t.lookup k).bind (f k) := by
  refine Option.ext fun w => ?_
  rw [lookup_eq_some, filterMapValues, List.mem_filterMap, Option.bind_eq_some_iff]
  constructor
  · rintro ⟨⟨k', v⟩, mem, found⟩
    obtain ⟨w', fw, same⟩ := Option.map_eq_some_iff.mp found
    cases same
    exact ⟨v, lookup_eq_some.mpr mem, fw⟩
  · rintro ⟨v, found, fw⟩
    exact ⟨⟨k, v⟩, lookup_eq_some.mp found, by simp [fw]⟩

theorem mem_values {t : Table K V} {v : V} : v ∈ t.values ↔ ∃ k, t.lookup k = some v := by
  simp only [values, List.mem_map, lookup_eq_some]
  constructor
  · rintro ⟨⟨k, v⟩, mem, rfl⟩
    exact ⟨k, mem⟩
  · rintro ⟨k, mem⟩
    exact ⟨⟨k, v⟩, mem, rfl⟩

theorem entries_eq_nil {t : Table K V} : t.entries = [] ↔ ∀ k, t.lookup k = none := by
  constructor
  · intro empty k
    refine Option.eq_none_iff_forall_ne_some.mpr fun v found => ?_
    rw [lookup_eq_some, empty] at found
    cases found
  · intro absent
    refine List.eq_nil_iff_forall_not_mem.mpr fun ⟨k, v⟩ mem => ?_
    have := lookup_eq_some.mpr mem
    rw [absent k] at this
    cases this

theorem lookup_erase_eq (t : Table K V) (k k' : K) :
    (t.erase k).lookup k' = if k' = k then none else t.lookup k' := by
  split
  · rename_i same
    subst same
    exact AList.lookup_erase _ _
  · rename_i ne
    exact AList.lookup_erase_ne ne

theorem lookup_insert_eq (t : Table K V) (k k' : K) (v : V) :
    (t.insert k v).lookup k' = if k' = k then some v else t.lookup k' := by
  split
  · rename_i same
    subst same
    exact AList.lookup_insert _
  · rename_i ne
    exact AList.lookup_insert_ne ne

/-- What holds of an entry and of every other one holds of all once it is inserted. -/
theorem forall_insert {P : K → V → Prop} {t : Table K V} {k : K} {v : V} (new : P k v)
    (others : ∀ k' v', t.lookup k' = some v' → k' ≠ k → P k' v') (k' : K) (v' : V)
    (found : (t.insert k v).lookup k' = some v') : P k' v' := by
  rw [lookup_insert_eq] at found
  split at found
  · rename_i same
    cases found
    subst same
    exact new
  · rename_i ne
    exact others k' v' found ne

/-- Values that go together stay under one key if an entry is inserted that goes with no other
key's. -/
theorem unique_insert {R : V → V → Prop} (symm : ∀ v v', R v v' → R v' v) {t : Table K V}
    {k : K} {v : V} (unique : ∀ k₁ v₁ k₂ v₂, t.lookup k₁ = some v₁ → t.lookup k₂ = some v₂ →
      R v₁ v₂ → k₁ = k₂)
    (new : ∀ k' v', t.lookup k' = some v' → R v v' → k' = k) (k₁ : K) (v₁ : V) (k₂ : K) (v₂ : V)
    (found₁ : (t.insert k v).lookup k₁ = some v₁) (found₂ : (t.insert k v).lookup k₂ = some v₂)
    (together : R v₁ v₂) :
    k₁ = k₂ := by
  rw [lookup_insert_eq] at found₁ found₂
  split at found₁ <;> split at found₂
  · rename_i first second
    rw [first, second]
  · rename_i first _
    cases found₁
    rw [first, new k₂ v₂ found₂ together]
  · rename_i _ second
    cases found₂
    rw [second, new k₁ v₁ found₁ (symm v₁ v together)]
  · exact unique k₁ v₁ k₂ v₂ found₁ found₂ together

/-- No more entries than keys that cover the table. -/
theorem size_le_card {t : Table K V} {S : Finset K} (cover : ∀ k v, t.lookup k = some v → k ∈ S) :
    t.size ≤ S.card := by
  have within : t.keys.toFinset ⊆ S := by
    intro k mem
    obtain ⟨v, found⟩ :=
      Option.isSome_iff_exists.mp (AList.lookup_isSome.mpr
        (AList.mem_keys.mpr (List.mem_toFinset.mp mem)))
    exact cover k v found
  have counted := Finset.card_le_card within
  rwa [List.toFinset_card_of_nodup t.keys_nodup, AList.keys, List.keys, List.length_map] at counted

/-- A total is the sum over any keys that cover the table. -/
theorem total_eq_sum (w : K → V → Nat) (t : Table K V) (S : Finset K)
    (cover : ∀ k, t.lookup k ≠ none → k ∈ S) :
    t.total w = ∑ k ∈ S, (t.lookup k).elim 0 (w k) := by
  have within : t.keys.toFinset ⊆ S := by
    intro k mem
    refine cover k ?_
    rw [Ne, AList.lookup_eq_none, not_not]
    exact AList.mem_keys.mpr (List.mem_toFinset.mp mem)
  have outside : ∀ k ∈ S, k ∉ t.keys.toFinset → (t.lookup k).elim 0 (w k) = 0 := by
    intro k _ absent
    rw [AList.lookup_eq_none.mpr (fun h => absent (List.mem_toFinset.mpr (AList.mem_keys.mp h)))]
    rfl
  rw [← Finset.sum_subset within outside, List.sum_toFinset _ t.keys_nodup, AList.keys, List.keys,
    List.map_map, total]
  congr 1
  refine List.map_congr_left fun e mem => ?_
  have found : t.lookup e.1 = some e.2 := lookup_eq_some.mpr mem
  simp [found]

theorem total_only {w : K → V → Nat} {t : Table K V} {k : K}
    (only : ∀ k', k' ≠ k → t.lookup k' = none) :
    t.total w = (t.lookup k).elim 0 (w k) := by
  rw [total_eq_sum w t {k}, Finset.sum_singleton]
  intro k' present
  by_contra other
  exact present (only k' fun same => other (Finset.mem_singleton.mpr same))

theorem total_congr {w : K → V → Nat} {w' : K → W → Nat} {t : Table K V} {u : Table K W}
    (same : ∀ k, (t.lookup k).elim 0 (w k) = (u.lookup k).elim 0 (w' k)) :
    t.total w = u.total w' := by
  rw [total_eq_sum w t (t.keys.toFinset ∪ u.keys.toFinset),
    total_eq_sum w' u (t.keys.toFinset ∪ u.keys.toFinset)]
  · exact Finset.sum_congr rfl fun k _ => same k
  · intro k present
    rw [Ne, AList.lookup_eq_none, not_not, AList.mem_keys] at present
    exact Finset.mem_union_right _ (List.mem_toFinset.mpr present)
  · intro k present
    rw [Ne, AList.lookup_eq_none, not_not, AList.mem_keys] at present
    exact Finset.mem_union_left _ (List.mem_toFinset.mpr present)

theorem total_mono {w : K → V → Nat} {w' : K → W → Nat} {t : Table K V} {u : Table K W}
    (le : ∀ k, (t.lookup k).elim 0 (w k) ≤ (u.lookup k).elim 0 (w' k)) :
    t.total w ≤ u.total w' := by
  rw [total_eq_sum w t (t.keys.toFinset ∪ u.keys.toFinset),
    total_eq_sum w' u (t.keys.toFinset ∪ u.keys.toFinset)]
  · exact Finset.sum_le_sum fun k _ => le k
  · intro k present
    rw [Ne, AList.lookup_eq_none, not_not, AList.mem_keys] at present
    exact Finset.mem_union_right _ (List.mem_toFinset.mpr present)
  · intro k present
    rw [Ne, AList.lookup_eq_none, not_not, AList.mem_keys] at present
    exact Finset.mem_union_left _ (List.mem_toFinset.mpr present)

theorem total_erase (w : K → V → Nat) (t : Table K V) (k : K) :
    total w (t.erase k) + (t.lookup k).elim 0 (w k) = total w t := by
  by_cases present : k ∈ t.keys
  · obtain ⟨v, l₁, l₂, _, whole, rest⟩ := List.exists_of_kerase present
    have found : t.lookup k = some v := lookup_eq_some.mpr (by rw [whole]; simp)
    change ((List.kerase k t.entries).map fun e => w e.1 e.2).sum + _ =
      (t.entries.map fun e => w e.1 e.2).sum
    rw [found, rest, whole]
    simp only [List.map_append, List.map_cons, List.sum_append, List.sum_cons, Option.elim_some]
    omega
  · have absent : t.lookup k = none :=
      AList.lookup_eq_none.mpr fun h => present (AList.mem_keys.mp h)
    change ((List.kerase k t.entries).map fun e => w e.1 e.2).sum + _ =
      (t.entries.map fun e => w e.1 e.2).sum
    rw [absent, List.kerase_of_notMem_keys present]
    rfl

theorem total_insert (w : K → V → Nat) (t : Table K V) (k : K) (v : V) :
    total w (t.insert k v) + (t.lookup k).elim 0 (w k) = total w t + w k v := by
  have insert : total w (t.insert k v) = w k v + total w (t.erase k) := by
    rw [total, AList.entries_insert]
    rfl
  rw [insert, ← total_erase w t k]
  omega

theorem lookup_retain (keep : V → Bool) (t : Table K V) (k : K) :
    (t.retain keep).lookup k = (t.lookup k).filter keep := by
  rw [retain, lookup_filterMapValues]
  cases t.lookup k <;> rfl

theorem size_insert (t : Table K V) (k : K) (v : V) :
    size (t.insert k v) = if (t.lookup k).isSome then t.size else t.size + 1 := by
  have counted : ∀ t : Table K V, t.size = t.total fun _ _ => 1 := fun t => (by simp [size, total])
  have := total_insert (fun _ _ => 1) t k v
  rw [counted, counted]
  cases found : t.lookup k with
  | none =>
    rw [found, Option.elim_none] at this
    rw [if_neg (by simp)]
    exact this
  | some w =>
    rw [found, Option.elim_some] at this
    rw [if_pos (by simp)]
    exact Nat.add_right_cancel this

/-- Where every value carries its key, the values with a key are what a lookup finds, whatever the
order of visit. -/
theorem filter_arrange_values (order : IterationOrder V) {keyOf : V → K} {t : Table K V}
    (keyed : ∀ k v, t.lookup k = some v → keyOf v = k) (k : K) :
    (order.arrange t.values).filter (fun v => keyOf v = k) = (t.lookup k).toList := by
  have entries : ∀ entries : List (Sigma fun _ : K => V), entries.NodupKeys →
      (∀ e ∈ entries, keyOf e.2 = e.1) →
      (entries.map Sigma.snd).filter (fun v => keyOf v = k) = (List.dlookup k entries).toList := by
    intro entries
    induction entries with
    | nil => exact fun _ _ => rfl
    | cons e entries ih =>
      intro distinct own
      obtain ⟨k', v⟩ := e
      have here : keyOf v = k' := own _ List.mem_cons_self
      have rest :=
        ih (List.nodupKeys_cons.mp distinct).2 fun e mem => own e (List.mem_cons_of_mem _ mem)
      by_cases same : k' = k
      · subst same
        have absent : List.dlookup k' entries = none :=
          List.dlookup_eq_none.mpr (List.nodupKeys_cons.mp distinct).1
        rw [List.map_cons, List.filter_cons_of_pos (by simpa using here), rest, absent,
          List.dlookup_cons_eq]
        rfl
      · rw [List.map_cons, List.filter_cons_of_neg (by simpa [here] using same), rest,
          List.dlookup_cons_ne _ _ (Ne.symm same)]
  have sorted : t.values.filter (fun v => keyOf v = k) = (t.lookup k).toList :=
    entries t.entries t.nodupKeys fun e mem => keyed _ _ (lookup_eq_some.mpr mem)
  have perm := (order.perm t.values).filter fun v => decide (keyOf v = k)
  rw [sorted] at perm
  cases found : t.lookup k with
  | none =>
    rw [found] at perm
    exact perm.eq_nil
  | some v =>
    rw [found] at perm
    exact List.perm_singleton.mp perm

theorem lookup_flatten {L : Type} [DecidableEq L] (t : Table K (Table L V)) (k : K × L) :
    t.flatten.lookup k = (t.lookup k.1).bind fun row => row.lookup k.2 := by
  refine Option.ext fun v => ?_
  rw [lookup_eq_some, flatten, List.mem_flatMap, Option.bind_eq_some_iff]
  constructor
  · rintro ⟨row, memRow, mem⟩
    obtain ⟨e, memEntry, same⟩ := List.mem_map.mp mem
    cases same
    exact ⟨row.2, lookup_eq_some.mpr memRow, lookup_eq_some.mpr memEntry⟩
  · rintro ⟨row, foundRow, found⟩
    exact ⟨⟨k.1, row⟩, lookup_eq_some.mp foundRow,
      List.mem_map.mpr ⟨⟨k.2, v⟩, lookup_eq_some.mp found, rfl⟩⟩

end

theorem values_retain (keep : V → Bool) (t : Table K V) :
    (t.retain keep).values = t.values.filter keep := by
  have entries : ∀ entries : List (Sigma fun _ : K => V),
      (entries.filterMap fun e => (if keep e.2 then some e.2 else none).map fun v =>
        (⟨e.1, v⟩ : Sigma fun _ : K => V)).map Sigma.snd = (entries.map Sigma.snd).filter keep := by
    intro entries
    induction entries with
    | nil => rfl
    | cons e entries ih =>
      rw [List.filterMap_cons, List.map_cons, List.filter_cons]
      cases keep e.2 <;> simpa using ih
  exact entries t.entries

theorem length_values (t : Table K V) : t.values.length = t.size := List.length_map _

theorem values_flatten {L : Type} (t : Table K (Table L V)) :
    t.flatten.values = t.values.flatMap values := by
  simp only [values, flatten, List.map_flatMap, List.flatMap_map, List.map_map, Function.comp_def]

theorem total_flatten {L : Type} (w : K × L → V → Nat) (t : Table K (Table L V)) :
    total w t.flatten = total (fun k row => total (fun l => w (k, l)) row) t := by
  rw [total, flatten, List.map_flatMap, List.flatMap_def, List.sum_flatten]
  simp only [total, List.map_map, Function.comp_def]

theorem total_values (w : V → Nat) (t : Table K V) :
    total (fun _ => w) t = (t.values.map w).sum := by
  simp only [total, values, List.map_map, Function.comp_def]

end Table
