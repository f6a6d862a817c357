import Rustflow.Common.TemplateCacheAccounting
import Rustflow.Common.TemplateHistory

/-!
# How many templates a cache holds

The budget is of fields. Where every template has fields there are no more templates than fields,
but a template without any always fits. Those are bounded by the keys that are used.
-/

namespace Rustflow.TemplateCache
variable {F : Type} {cache : TemplateCache F}

/-- The fields are counted exactly and within the budget, whatever the clock reads. -/
structure Within (cache : TemplateCache F) : Prop where
  counted : cache.fields = cache.load
  withinBudget : cache.load ≤ MAX_TEMPLATE_FIELDS

def HasFields (cache : TemplateCache F) : Prop :=
  ∀ key entry, cache.find key = some entry → entry.fields ≠ []

theorem within_new (timeout : Duration) (now : Instant) :
    Within (new timeout now : TemplateCache F) :=
  ⟨rfl, Nat.zero_le _⟩

theorem hasFields_new (timeout : Duration) (now : Instant) :
    HasFields (new timeout now : TemplateCache F) := by
  intro key entry found
  simp [find, new] at found

namespace Within

theorem removeExpired (within : Within cache) (now : Instant) : Within (cache.removeExpired now) :=
  ⟨rfl, (load_removeExpired_le cache now).trans within.withinBudget⟩

theorem remove (within : Within cache) (key : TemplateKey) : Within (cache.remove key) := by
  refine ⟨counted_remove within.counted key, ?_⟩
  have whole := loadOthers_add_loadOf cache key
  have budget := within.withinBudget
  rw [load_remove]
  omega

theorem store (within : Within cache) {key : TemplateKey} {fields : List F}
    (fit : cache.fits key fields = true) (now : Instant) : Within (cache.store now key fields) := by
  refine ⟨counted_store within.counted now key fields, ?_⟩
  rw [load_store]
  exact (fits_iff within.counted key fields).mp fit

theorem removeDomain (within : Within cache) (domain : UInt32) :
    Within (cache.removeDomain domain) := by
  refine ⟨counted_removeDomain within.counted domain, ?_⟩
  have budget := within.withinBudget
  cases found : cache.domains.lookup domain with
  | none =>
    have unchanged : cache.removeDomain domain = cache := by
      simp only [TemplateCache.removeDomain, found]
    rwa [unchanged]
  | some gone =>
    have split := load_removeDomain cache found
    omega

theorem refreshDomain (within : Within cache) (domain : UInt32) {resolve : List F → List F}
    (keeps : ∀ fields, (resolve fields).length = fields.length) :
    Within (cache.refreshDomain domain resolve) := by
  refine ⟨counted_refreshDomain within.counted domain keeps, ?_⟩
  rw [load_refreshDomain cache domain keeps]
  exact within.withinBudget

end Within

/-- An insert stores the template where it fits or refuses it, after at most two sweeps. -/
theorem insert_induction {now : Instant} {key : TemplateKey} {fields : List F}
    {I J : TemplateCache F → Prop} (start : I cache)
    (swept : ∀ cache, I cache → I (cache.removeExpired now))
    (stored : ∀ cache, I cache → cache.fits key fields = true → J (cache.store now key fields))
    (refused : ∀ cache, I cache → J (cache.refuse key)) : J (cache.insert now key fields) := by
  have sweep : ∀ (due : Prop) [Decidable due] (cache : TemplateCache F), I cache →
      I (if due then cache.removeExpired now else cache) := by
    intro due _ cache holds
    split
    · exact swept cache holds
    · exact holds
  have first := sweep (now ≥ cache.nextSweep) cache start
  unfold insert
  dsimp only
  generalize (if now ≥ cache.nextSweep then cache.removeExpired now else cache) = c at first
  split
  · next fit => exact stored c first fit
  · have second := sweep (c.nextExpiry.any (now ≥ ·)) c first
    generalize (if c.nextExpiry.any (now ≥ ·) then c.removeExpired now else c) = c' at second
    split
    · next fit => exact stored c' second fit
    · exact refused c' second

theorem Within.insert (within : Within cache) (now : Instant) (key : TemplateKey)
    (fields : List F) :
    Within (cache.insert now key fields) := by
  refine insert_induction within (fun _ within => within.removeExpired now)
    (fun _ within fit => within.store fit now) ?_
  intro cache within
  have refusing : Within { cache with refusing := true } := ⟨within.counted, within.withinBudget⟩
  exact refusing.remove key

/-- What an insert leaves was there or is the template itself. -/
theorem find_insert {now : Instant} {key key' : TemplateKey} {fields : List F} {entry : Entry F}
    (found : (cache.insert now key fields).find key' = some entry) :
    cache.find key' = some entry ∨ key' = key ∧ entry = ⟨fields, now⟩ := by
  by_cases same : key' = key
  · subst same
    obtain stored | refused := find_insert_self cache now key' fields
    · exact .inr ⟨rfl, Option.some.inj (found.symm.trans stored)⟩
    · rw [refused] at found
      cases found
  · exact .inl (find_insert_other cache now same found)

namespace HasFields

theorem insert (has : HasFields cache) (now : Instant) (key : TemplateKey) {fields : List F}
    (some : fields ≠ []) :
    HasFields (cache.insert now key fields) := by
  intro key' entry found
  obtain before | ⟨_, rfl⟩ := find_insert found
  · exact has key' entry before
  · exact some

theorem remove (has : HasFields cache) (key : TemplateKey) : HasFields (cache.remove key) := by
  intro key' entry found
  rw [find_remove] at found
  split at found
  · cases found
  · exact has key' entry found

theorem removeDomain (has : HasFields cache) (domain : UInt32) :
    HasFields (cache.removeDomain domain) := by
  intro key entry found
  rw [find_removeDomain] at found
  split at found
  · cases found
  · exact has key entry found

theorem refreshDomain (has : HasFields cache) (domain : UInt32) {resolve : List F → List F}
    (keeps : ∀ fields, (resolve fields).length = fields.length) :
    HasFields (cache.refreshDomain domain resolve) := by
  intro key entry found
  rw [find_refreshDomain] at found
  obtain ⟨before, present, rfl⟩ := Option.map_eq_some_iff.mp found
  have nonempty := has key before present
  split
  · rwa [ne_eq, ← List.length_eq_zero_iff, keeps, List.length_eq_zero_iff]
  · exact nonempty

end HasFields

/-- There are no more templates with fields than the budget. -/
theorem length_entries_le (within : Within cache) (has : HasFields cache) :
    cache.entries.length ≤ MAX_TEMPLATE_FIELDS := by
  refine Nat.le_trans ?_ within.withinBudget
  unfold load
  rw [← List.length_map (f := fun entry : Entry F => entry.fields.length)]
  refine List.length_le_sum_of_one_le _ fun length mem => ?_
  obtain ⟨entry, there, rfl⟩ := List.mem_map.mp mem
  rw [entries, ← Table.values_flatten] at there
  obtain ⟨key, found⟩ := Table.mem_values.mp there
  rw [← find_eq] at found
  exact List.length_pos_iff.mpr (has key entry found)

/-- A template that there is room for is stored, at the cost of at most a sweep. -/
theorem find_insert_of_room (within : Within cache) (now : Instant) (key key' : TemplateKey)
    {fields : List F} (room : cache.load + fields.length ≤ MAX_TEMPLATE_FIELDS) :
    (cache.insert now key fields).find key' = if key' = key then some ⟨fields, now⟩
      else if now ≥ cache.nextSweep then (cache.removeExpired now).find key'
      else cache.find key' := by
  have fits : ∀ {c : TemplateCache F}, Within c → c.load ≤ cache.load →
      c.fits key fields = true := by
    intro c within le
    have whole := loadOthers_add_loadOf c key
    exact (fits_iff within.counted key fields).mpr (by omega)
  unfold insert
  dsimp only
  split
  · rw [if_pos (fits (within.removeExpired now) (load_removeExpired_le cache now)), find_store]
  · rw [if_pos (fits within (Nat.le_refl _)), find_store]

end Rustflow.TemplateCache
