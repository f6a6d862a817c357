import Rustflow.Lib.Grouping
import Rustflow.Lib.Table

/-!
# Tables with room for so many keys

A key that comes when the table is full is turned away, while the value of a known one is still
replaced. So the table holds the first keys, each with what was last written for it.
-/

namespace CappedTable
variable {K V : Type} [DecidableEq K]

/-- Writes a value, where there is room for its key or the key is known. -/
def put (cap : Nat) (t : Table K V) (k : K) (v : V) : Table K V :=
  if t.size < cap ∨ (t.lookup k).isSome then t.insert k v else t

def firstKeys (cap : Nat) (keys : List K) : List K := keys.eraseDups.take cap

/-- The value last written for a key. -/
def lastWrite (writes : List (K × V)) (k : K) : Option V :=
  (writes.filterMap fun write => if write.1 = k then some write.2 else none).getLast?

theorem size_put_le {cap : Nat} {t : Table K V} (few : t.size ≤ cap) (k : K) (v : V) :
    (put cap t k v).size ≤ cap := by
  unfold put
  split
  · next room =>
    rw [Table.size_insert]
    split
    · exact few
    · next new => exact room.resolve_right new
  · exact few

theorem size_put_ne_zero {cap : Nat} (positive : 0 < cap) (t : Table K V) (k : K) (v : V) :
    (put cap t k v).size ≠ 0 := by
  unfold put
  split
  · next room =>
    rw [Table.size_insert]
    split
    · next known =>
      intro none
      have empty := List.length_eq_zero_iff.mp none
      rw [Table.entries_eq_nil.mp empty k] at known
      cases known
    · exact Nat.succ_ne_zero _
  · next full =>
    have := not_or.mp full
    omega

theorem length_firstKeys_le (cap : Nat) (keys : List K) : (firstKeys cap keys).length ≤ cap := by
  rw [firstKeys, List.length_take]
  exact Nat.min_le_left _ _

theorem firstKeys_snoc (cap : Nat) (keys : List K) (k : K) :
    firstKeys cap (keys ++ [k]) =
      if k ∈ firstKeys cap keys ∨ cap ≤ (firstKeys cap keys).length then firstKeys cap keys
      else firstKeys cap keys ++ [k] := by
  unfold firstKeys
  rw [Grouping.eraseDups_snoc]
  by_cases known : k ∈ keys
  · rw [if_pos known]
    split
    · rfl
    · next fresh =>
      -- With room left all keys are among the first, so a known one is.
      rw [not_or] at fresh
      have whole : keys.eraseDups.take cap = keys.eraseDups := by
        apply List.take_of_length_le
        have := fresh.2
        rw [List.length_take] at this
        omega
      rw [whole] at fresh
      exact absurd (List.mem_eraseDups.mpr known) fresh.1
  · have absent : k ∉ keys.eraseDups.take cap :=
      fun mem => known (List.mem_eraseDups.mp (List.mem_of_mem_take mem))
    rw [if_neg known, List.take_append, List.length_take]
    by_cases full : cap ≤ min cap keys.eraseDups.length
    · rw [if_pos (Or.inr full), show cap - keys.eraseDups.length =
        0 by omega, List.take_zero, List.append_nil]
    · rw [if_neg (not_or.mpr ⟨absent, full⟩)]
      obtain ⟨n, room⟩ : ∃ n, cap - keys.eraseDups.length = n + 1 :=
        ⟨cap - keys.eraseDups.length - 1, by omega⟩
      rw [room, List.take_succ_cons, List.take_nil]

theorem lastWrite_snoc (writes : List (K × V)) (k k' : K) (v : V) :
    lastWrite (writes ++ [(k, v)]) k' = if k = k' then some v else lastWrite writes k' := by
  unfold lastWrite
  rw [List.filterMap_append, List.filterMap_cons, List.filterMap_nil]
  split <;> simp_all

theorem lookup_writes (writes : List (K × V)) (k : K) :
    (writes.foldl (fun t write => t.insert write.1 write.2) (∅ : Table K V)).lookup k =
      lastWrite writes k := by
  induction writes using List.reverseRecOn with
  | nil => rfl
  | append_singleton writes write ih =>
    rw [List.foldl_append, List.foldl_cons, List.foldl_nil, Table.lookup_insert_eq,
      lastWrite_snoc, ih]
    simp only [eq_comm]

/-- The one write of a key is the last. -/
theorem lastWrite_eq_some_of_nodup {writes : List (K × V)} (distinct : (writes.map Prod.fst).Nodup)
    {k : K} {v : V} :
    lastWrite writes k = some v ↔ (k, v) ∈ writes := by
  have mem : v ∈ (writes.filterMap fun write => if write.1 = k then some write.2 else none) ↔
      (k, v) ∈ writes := by
    rw [List.mem_filterMap]
    constructor
    · rintro ⟨⟨_, _⟩, mem, found⟩
      split at found
      · next same =>
        cases found
        exact same ▸ mem
      · cases found
    · intro mem
      exact ⟨_, mem, if_pos rfl⟩
  have one :
      (writes.filterMap fun write => if write.1 = k then some write.2 else none).length ≤ 1 := by
    have counted := List.nodup_iff_count_le_one.mp distinct k
    rw [List.count, List.countP_map] at counted
    rw [List.length_filterMap_eq_countP]
    refine le_trans (List.countP_mono_left fun write _ some => ?_) counted
    by_cases same : write.1 = k <;> simp_all
  rw [← mem]
  unfold lastWrite
  generalize (writes.filterMap fun write => if write.1 = k then some write.2 else none) =
    values at one
  match values with
  | [] => simp
  | [value] => simp [eq_comm]
  | _ :: _ :: _ => simp at one

/-- Writes of the entries of a table in any order make the table. -/
theorem lastWrite_entries {t : Table K V} {writes : List (K × V)}
    (perm : writes.Perm (t.entries.map fun e => (e.1, e.2))) (k : K) :
    lastWrite writes k = t.lookup k := by
  have keys : ((t.entries.map fun e => (e.1, e.2)).map Prod.fst).Nodup := by
    rw [List.map_map]
    exact t.nodupKeys
  refine Option.ext fun v => ?_
  rw [lastWrite_eq_some_of_nodup ((perm.map Prod.fst).nodup_iff.mpr keys), perm.mem_iff,
    Table.lookup_eq_some]
  simp

theorem lastWrite_isSome {writes : List (K × V)} {k : K} (mem : k ∈ writes.map Prod.fst) :
    (lastWrite writes k).isSome := by
  obtain ⟨write, there, rfl⟩ := List.mem_map.mp mem
  unfold lastWrite
  rw [Option.isSome_iff_ne_none, Ne, List.getLast?_eq_none_iff]
  intro none
  have := List.filterMap_eq_nil_iff.mp none write there
  simp at this

/-- What a table holds after writes: the first keys, each with its last value. -/
structure Tracks (cap : Nat) (writes : List (K × V)) (t : Table K V) : Prop where
  size : t.size = (firstKeys cap (writes.map Prod.fst)).length
  lookup : ∀ k, t.lookup k = if k ∈ firstKeys cap (writes.map Prod.fst) then
    lastWrite writes k else none

variable {cap : Nat} {writes : List (K × V)} {t : Table K V}

theorem Tracks.nil : Tracks cap ([] : List (K × V)) ∅ where
  size := by simp [firstKeys, Table.size]
  lookup k := by simp [firstKeys]

theorem Tracks.known (tracks : Tracks cap writes t) {k : K} :
    (t.lookup k).isSome ↔ k ∈ firstKeys cap (writes.map Prod.fst) := by
  rw [tracks.lookup]
  split
  · next mem =>
      exact iff_of_true (lastWrite_isSome (List.mem_eraseDups.mp (List.mem_of_mem_take mem))) mem
  · next absent => exact iff_of_false Bool.false_ne_true absent

theorem Tracks.put (tracks : Tracks cap writes t) (k : K) (v : V) :
    Tracks cap (writes ++ [(k, v)]) (put cap t k v) := by
  have bound := length_firstKeys_le cap (writes.map Prod.fst)
  have keys := firstKeys_snoc cap (writes.map Prod.fst) k
  have mapped : (writes ++ [(k, v)]).map Prod.fst = writes.map Prod.fst ++ [k] := List.map_append
  unfold CappedTable.put
  by_cases known : k ∈ firstKeys cap (writes.map Prod.fst)
  · rw [if_pos (Or.inl known)] at keys
    rw [if_pos (Or.inr (tracks.known.mpr known))]
    constructor
    · rw [mapped, keys, Table.size_insert, if_pos (tracks.known.mpr known)]
      exact tracks.size
    · intro k'
      rw [mapped, keys, Table.lookup_insert_eq, lastWrite_snoc]
      by_cases same : k' = k
      · subst same
        rw [if_pos rfl, if_pos known, if_pos rfl]
      · rw [if_neg same, if_neg (Ne.symm same)]
        exact tracks.lookup k'
  · have unknown : ¬(t.lookup k).isSome := fun some => known (tracks.known.mp some)
    by_cases full : cap ≤ (firstKeys cap (writes.map Prod.fst)).length
    · rw [if_pos (Or.inr full)] at keys
      rw [if_neg (not_or.mpr ⟨by rw [tracks.size]; omega, unknown⟩)]
      constructor
      · rw [mapped, keys]
        exact tracks.size
      · intro k'
        rw [mapped, keys, lastWrite_snoc, tracks.lookup k']
        split
        · next mem =>
          rw [if_neg]
          rintro rfl
          exact known mem
        · rfl
    · rw [if_neg (not_or.mpr ⟨known, full⟩)] at keys
      rw [if_pos (Or.inl (by rw [tracks.size]; omega))]
      constructor
      · rw [mapped, keys, Table.size_insert, if_neg unknown, tracks.size, List.length_append]
        rfl
      · intro k'
        rw [mapped, keys, Table.lookup_insert_eq, lastWrite_snoc]
        by_cases same : k' = k
        · subst same
          rw [if_pos rfl, if_pos rfl, if_pos (List.mem_append_right _ List.mem_cons_self)]
        · rw [if_neg same, if_neg (Ne.symm same), tracks.lookup k']
          simp [List.mem_append, same]

end CappedTable
