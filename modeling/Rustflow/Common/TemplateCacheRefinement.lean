import Rustflow.Common.TemplateCache
import Rustflow.Lib.ExpiringMap

/-!
# The template cache refines a map with expiry

The cache counts expired entries against its budget and sweeps them out lazily, on two
schedules. Seen through `get`, and through which inserts it stores, it is `ExpiringMap`:
`nextExpiry` never lies beyond the expiry of an entry, so the sweep it skips would free nothing.
-/

namespace Rustflow.TemplateCache
variable {F : Type}

/-- A call of a public operation. -/
inductive Call (F : Type) where
  | get (key : TemplateKey)
  | insert (key : TemplateKey) (fields : List F)
  | remove (key : TemplateKey)
  | removeDomain (domain : UInt32)
  | refreshDomain (domain : UInt32) (resolve : List F → List F)

namespace Call

def apply (now : Instant) (cache : TemplateCache F) : Call F → TemplateCache F
  | .get _ => cache
  | .insert key fields => cache.insert now key fields
  | .remove key => cache.remove key
  | .removeDomain domain => cache.removeDomain domain
  | .refreshDomain domain resolve => cache.refreshDomain domain resolve

/-- Refreshing keeps the number of fields of every template. -/
def KeepsLength : Call F → Prop
  | .refreshDomain _ resolve => ∀ fields, (resolve fields).length = fields.length
  | _ => True

/-- The call may take the template of `key` away. -/
def Removes (key : TemplateKey) : Call F → Prop
  | .insert key' _ | .remove key' => key = key'
  | .removeDomain domain => key.1 = domain
  | .get _ | .refreshDomain _ _ => False

/-- What the call means for the map. -/
def spec : Call F → ExpiringMap.Op TemplateKey (List F)
  | .get key => .lookup key
  | .insert key fields => .insert key fields
  | .remove key => .remove key
  | .removeDomain domain => .removeAll fun key => key.1 = domain
  | .refreshDomain domain resolve => .refresh (fun key => key.1 = domain) resolve

end Call

def run (cache : TemplateCache F) (calls : List (Instant × Call F)) : TemplateCache F :=
  calls.foldl (fun cache call => call.2.apply call.1 cache) cache

/-! ### What each operation does to a lookup -/

theorem find_eq (cache : TemplateCache F) (key : TemplateKey) :
    cache.find key = cache.domains.flatten.lookup key :=
  (Table.lookup_flatten cache.domains key).symm

theorem find_removeExpired (cache : TemplateCache F) (now : Instant) (key : TemplateKey) :
    (cache.removeExpired now).find key =
      (cache.find key).filter fun entry => now - entry.sentAt < cache.timeout := by
  simp only [removeExpired, find, Table.lookup_filterMapValues]
  cases cache.domains.lookup key.1 with
  | none => rfl
  | some templates =>
    simp only [Option.bind_some]
    split
    · rename_i empty
      rw [List.isEmpty_iff, Table.entries_eq_nil] at empty
      have gone := empty key.2
      rw [Table.lookup_filterMapValues] at gone
      rw [Option.bind_none, ← gone]
      cases templates.lookup key.2 <;> simp [Option.filter]
    · rw [Option.bind_some, Table.lookup_filterMapValues]
      cases templates.lookup key.2 <;> simp [Option.filter]

theorem find_remove (cache : TemplateCache F) (key key' : TemplateKey) :
    (cache.remove key).find key' = if key' = key then none else cache.find key' := by
  obtain ⟨domain, id⟩ := key
  obtain ⟨domain', id'⟩ := key'
  cases found : cache.domains.lookup domain with
  | none =>
    have unchanged : cache.remove (domain, id) = cache := by simp only [remove, found]
    rw [unchanged]
    split
    · rename_i same
      cases same
      simp only [find, found, Option.bind_none]
    · rfl
  | some templates =>
    have erased : (templates.erase id).lookup id' = if id' = id then none
        else templates.lookup id' :=
      Table.lookup_erase_eq templates id id'
    by_cases sameDomain : domain' = domain
    · subst sameDomain
      simp only [find, remove, found, Option.bind_some, Prod.mk.injEq, true_and]
      rw [← erased]
      split
      · rename_i empty
        rw [List.isEmpty_iff, Table.entries_eq_nil] at empty
        rw [AList.lookup_erase, Option.bind_none, empty id']
      · rw [AList.lookup_insert, Option.bind_some]
    · simp only [find, remove, found, Prod.mk.injEq, sameDomain, false_and, if_false]
      split
      · rw [AList.lookup_erase_ne sameDomain]
      · rw [AList.lookup_insert_ne sameDomain]

theorem find_store (cache : TemplateCache F) (now : Instant) (key key' : TemplateKey)
    (fields : List F) :
    (cache.store now key fields).find key' = if key' = key then some ⟨fields, now⟩
    else cache.find key' := by
  obtain ⟨domain, id⟩ := key
  obtain ⟨domain', id'⟩ := key'
  simp only [find, store, Table.lookup_insert_eq, Prod.mk.injEq]
  by_cases sameDomain : domain' = domain
  · subst sameDomain
    simp only [if_true, true_and, Option.bind_some, Table.lookup_insert_eq]
    split
    · rfl
    · cases cache.domains.lookup domain' with
      | none => rfl
      | some templates => rfl
  · simp only [sameDomain, false_and, if_false]

theorem find_removeDomain (cache : TemplateCache F) (domain : UInt32) (key : TemplateKey) :
    (cache.removeDomain domain).find key = if key.1 = domain then none else cache.find key := by
  obtain ⟨domain', id⟩ := key
  cases found : cache.domains.lookup domain with
  | none =>
    have unchanged : cache.removeDomain domain = cache := by simp only [removeDomain, found]
    rw [unchanged]
    split
    · rename_i same
      cases same
      simp only [find, found, Option.bind_none]
    · rfl
  | some templates =>
    simp only [find, removeDomain, found, Table.lookup_erase_eq]
    split <;> rfl

theorem find_refreshDomain (cache : TemplateCache F) (domain : UInt32) (resolve : List F → List F)
    (key : TemplateKey) : (cache.refreshDomain domain resolve).find key =
      (cache.find key).map fun entry =>
        if key.1 = domain then { entry with fields := resolve entry.fields } else entry := by
  obtain ⟨domain', id⟩ := key
  cases found : cache.domains.lookup domain with
  | none =>
    have unchanged : cache.refreshDomain domain resolve = cache := by
      simp only [refreshDomain, found]
    rw [unchanged]
    by_cases same : domain' = domain
    · cases same
      simp only [find, found, Option.bind_none, Option.map_none]
    · simp only [same, if_false, Option.map_id']
  | some templates =>
    by_cases same : domain' = domain
    · cases same
      simp only [find, refreshDomain, found, AList.lookup_insert, Option.bind_some,
        Table.lookup_filterMapValues, if_true]
      cases templates.lookup id <;> rfl
    · simp only [find, refreshDomain, found, AList.lookup_insert_ne same, same, if_false,
        Option.map_id']

/-! ### The field count -/

/-- The fields of every stored entry. -/
def load (cache : TemplateCache F) : Nat := (cache.entries.map fun entry => entry.fields.length).sum

/-- The fields stored under other keys. -/
def loadOthers (cache : TemplateCache F) (key : TemplateKey) : Nat :=
  Table.total (fun key' entry => if key' ≠ key then entry.fields.length
    else 0) cache.domains.flatten

/-- The fields stored under one key. -/
def loadOf (cache : TemplateCache F) (key : TemplateKey) : Nat :=
  ((cache.find key).map fun entry => entry.fields.length).getD 0

theorem load_eq_total (cache : TemplateCache F) :
    cache.load = Table.total (fun _ entry => entry.fields.length) cache.domains.flatten := by
  rw [load, entries, ← Table.values_flatten, Table.total_values]

theorem loadOf_eq_elim (cache : TemplateCache F) (key : TemplateKey) :
    cache.loadOf key = (cache.domains.flatten.lookup key).elim 0 fun entry =>
      entry.fields.length := by
  rw [loadOf, find_eq]
  cases cache.domains.flatten.lookup key <;> rfl

theorem loadOthers_add_loadOf (cache : TemplateCache F) (key : TemplateKey) :
    cache.loadOthers key + cache.loadOf key = cache.load := by
  have others : cache.loadOthers key =
      Table.total (fun _ entry => entry.fields.length) (cache.domains.flatten.erase key) := by
    refine Table.total_congr fun key' => ?_
    rw [Table.lookup_erase_eq]
    by_cases same : key' = key
    · cases same
      simp only [ne_eq, not_true, if_false, if_true, Option.elim_none]
      cases cache.domains.flatten.lookup key <;> rfl
    · simp only [same, ne_eq, not_false_eq_true, if_true, if_false]
  rw [others, loadOf_eq_elim, load_eq_total, Table.total_erase]

theorem load_remove (cache : TemplateCache F) (key : TemplateKey) :
    (cache.remove key).load = cache.loadOthers key := by
  rw [load_eq_total, loadOthers]
  refine Table.total_congr fun key' => ?_
  rw [← find_eq, ← find_eq, find_remove]
  by_cases same : key' = key
  · cases same
    simp only [ne_eq, not_true, if_false, if_true, Option.elim_none]
    cases cache.find key <;> rfl
  · simp only [same, ne_eq, not_false_eq_true, if_true, if_false]

theorem load_store (cache : TemplateCache F) (now : Instant) (key : TemplateKey) (fields : List F) :
    (cache.store now key fields).load = cache.loadOthers key + fields.length := by
  have inserted : (cache.store now key fields).load =
      Table.total (fun _ entry => entry.fields.length)
        (cache.domains.flatten.insert key ⟨fields, now⟩) := by
    rw [load_eq_total]
    refine Table.total_congr fun key' => ?_
    rw [← find_eq, find_store, Table.lookup_insert_eq, find_eq]
  have whole := loadOthers_add_loadOf cache key
  have grown :=
    Table.total_insert (fun _ (entry : Entry F) => entry.fields.length) cache.domains.flatten key
      ⟨fields, now⟩
  rw [← inserted, ← load_eq_total, ← loadOf_eq_elim] at grown
  dsimp only at grown
  omega

theorem load_removeDomain (cache : TemplateCache F) {domain : UInt32}
    {templates : Table UInt16 (Entry F)} (found : cache.domains.lookup domain = some templates) :
    (cache.removeDomain domain).load + (templates.values.map fun entry => entry.fields.length).sum =
      cache.load := by
  have split := Table.total_erase
    (fun _ row => Table.total (fun _ (entry : Entry F) => entry.fields.length) row)
    cache.domains domain
  rw [found, Option.elim_some,
    Table.total_values (fun entry => entry.fields.length) templates] at split
  rw [load_eq_total, load_eq_total, Table.total_flatten, Table.total_flatten, ← split]
  simp only [removeDomain, found]

theorem load_refreshDomain (cache : TemplateCache F) (domain : UInt32) {resolve : List F → List F}
    (keeps : ∀ fields, (resolve fields).length = fields.length) :
    (cache.refreshDomain domain resolve).load = cache.load := by
  rw [load_eq_total, load_eq_total]
  refine Table.total_congr fun key => ?_
  rw [← find_eq, ← find_eq, find_refreshDomain]
  cases cache.find key with
  | none => rfl
  | some entry =>
    simp only [Option.map_some, Option.elim_some]
    split
    · exact keeps entry.fields
    · rfl

/-- Refreshing subtracts and adds back each template's own length. -/
theorem foldl_keepsLength {resolve : List F → List F}
    (keeps : ∀ fields, (resolve fields).length = fields.length) (entries : List (Entry F))
    (fields : Nat) (enough : ∀ entry ∈ entries, entry.fields.length ≤ fields) :
    entries.foldl (fun fields entry =>
      fields - entry.fields.length + (resolve entry.fields).length) fields
      = fields := by
  induction entries with
  | nil => rfl
  | cons entry entries ih =>
    have le := enough entry List.mem_cons_self
    rw [List.foldl_cons, keeps, Nat.sub_add_cancel le]
    exact ih fun other mem => enough other (List.mem_cons_of_mem entry mem)

theorem loadOf_le_load (cache : TemplateCache F) (key : TemplateKey) :
    cache.loadOf key ≤ cache.load := by
  rw [← loadOthers_add_loadOf cache key]
  exact Nat.le_add_left _ _

/-! ### The count stays exact -/

section
variable {cache : TemplateCache F}

theorem counted_remove (counted : cache.fields = cache.load) (key : TemplateKey) :
    (cache.remove key).fields = (cache.remove key).load := by
  have fields : (cache.remove key).fields = cache.fields - cache.loadOf key := by
    obtain ⟨domain, id⟩ := key
    cases found : cache.domains.lookup domain with
    | none =>
      simp only [TemplateCache.remove, loadOf, find, found, Option.bind_none, Option.map_none,
        Option.getD_none, Nat.sub_zero]
    | some templates =>
      simp only [TemplateCache.remove, loadOf, find, found, Option.bind_some]
      cases templates.lookup id <;> rfl
  have := loadOthers_add_loadOf cache key
  rw [fields, load_remove, counted]
  omega

theorem counted_store (counted : cache.fields = cache.load) (now : Instant) (key : TemplateKey)
    (fields : List F) :
    (cache.store now key fields).fields = (cache.store now key fields).load := by
  have added :
      (cache.store now key fields).fields = cache.fields + fields.length - cache.loadOf key := by
    obtain ⟨domain, id⟩ := key
    simp only [TemplateCache.store, loadOf, find]
    cases cache.domains.lookup domain with
    | none => rfl
    | some templates =>
      simp only [Option.getD_some, Option.bind_some]
      cases templates.lookup id <;> rfl
  have := loadOthers_add_loadOf cache key
  rw [added, load_store, counted]
  omega

theorem counted_removeDomain (counted : cache.fields = cache.load) (domain : UInt32) :
    (cache.removeDomain domain).fields = (cache.removeDomain domain).load := by
  cases found : cache.domains.lookup domain with
  | none =>
    have unchanged : cache.removeDomain domain = cache := by
      simp only [TemplateCache.removeDomain, found]
    rw [unchanged, counted]
  | some templates =>
    have fields : (cache.removeDomain domain).fields =
        cache.fields - (templates.values.map fun entry => entry.fields.length).sum := by
      simp only [TemplateCache.removeDomain, found]
    have := load_removeDomain cache found
    rw [fields, counted]
    omega

theorem counted_refreshDomain (counted : cache.fields = cache.load) (domain : UInt32)
    {resolve : List F → List F} (keeps : ∀ fields, (resolve fields).length = fields.length) :
    (cache.refreshDomain domain resolve).fields = (cache.refreshDomain domain resolve).load := by
  rw [load_refreshDomain cache domain keeps, ← counted]
  cases found : cache.domains.lookup domain with
  | none => simp only [TemplateCache.refreshDomain, found]
  | some templates =>
    simp only [TemplateCache.refreshDomain, found]
    refine foldl_keepsLength keeps _ _ fun entry mem => ?_
    obtain ⟨id, present⟩ := Table.mem_values.mp mem
    have held : cache.loadOf (domain, id) = entry.fields.length := by
      simp only [loadOf, find, found, Option.bind_some, present, Option.map_some, Option.getD_some]
    rw [← held, counted]
    exact loadOf_le_load cache (domain, id)

theorem fits_iff (counted : cache.fields = cache.load) (key : TemplateKey) (fields : List F) :
    cache.fits key fields = true ↔ cache.loadOthers key + fields.length ≤ MAX_TEMPLATE_FIELDS := by
  have := loadOthers_add_loadOf cache key
  have rest : cache.fields - cache.loadOf key = cache.loadOthers key := by
    rw [counted]
    omega
  simp only [fits, decide_eq_true_eq]
  change cache.fields - cache.loadOf key + _ ≤ _ ↔ _
  rw [rest]

end

/-! ### The invariant -/

/-- What holds of a cache at `now`, whatever calls led there. -/
structure Valid (now : Instant) (cache : TemplateCache F) : Prop where
  counted : cache.fields = cache.load
  /-- `nextExpiry` is a lower bound on every expiry. -/
  bounded : ∀ key entry, cache.find key = some entry →
    ∃ next, cache.nextExpiry = some next ∧ next ≤ entry.sentAt + cache.timeout
  past : ∀ key entry, cache.find key = some entry → entry.sentAt ≤ now

theorem valid_new (timeout : Duration) (now : Instant) :
    Valid now (new timeout now : TemplateCache F) where
  counted := rfl
  bounded := fun key entry found => by simp [find, new] at found
  past := fun key entry found => by simp [find, new] at found

theorem Valid.later {now later : Instant} {cache : TemplateCache F} (valid : Valid now cache)
    (le : now ≤ later) :
    Valid later cache :=
  ⟨valid.counted, valid.bounded,
    fun key entry found => Nat.le_trans (valid.past key entry found) le⟩

theorem Valid.remove {now : Instant} {cache : TemplateCache F} (valid : Valid now cache)
    (key : TemplateKey) :
    Valid now (cache.remove key) := by
  have same : (cache.remove key).nextExpiry = cache.nextExpiry ∧ (cache.remove key).timeout =
      cache.timeout := by
    unfold TemplateCache.remove
    split <;> exact ⟨rfl, rfl⟩
  have stored : ∀ key' entry, (cache.remove key).find key' = some entry →
      cache.find key' = some entry := by
    intro key' entry found
    rw [find_remove] at found
    split at found
    · cases found
    · exact found
  constructor
  · exact counted_remove valid.counted key
  · intro key' entry found
    rw [same.1, same.2]
    exact valid.bounded key' entry (stored key' entry found)
  · exact fun key' entry found => valid.past key' entry (stored key' entry found)

theorem Valid.store {now : Instant} {cache : TemplateCache F} (valid : Valid now cache)
    (key : TemplateKey) (fields : List F) : Valid now (cache.store now key fields) := by
  constructor
  · exact counted_store valid.counted now key fields
  · intro key' entry found
    refine ⟨_, rfl, ?_⟩
    change _ ≤ entry.sentAt + cache.timeout
    rw [find_store] at found
    split at found
    · cases found
      cases cache.nextExpiry with
      | none => exact Nat.le_refl _
      | some next => exact Nat.min_le_right _ _
    · obtain ⟨next, eq, le⟩ := valid.bounded key' entry found
      rw [eq]
      exact Nat.le_trans (Nat.min_le_left _ _) le
  · intro key' entry found
    rw [find_store] at found
    split at found
    · cases found
      exact Nat.le_refl _
    · exact valid.past key' entry found

theorem Valid.removeExpired {now : Instant} {cache : TemplateCache F} (valid : Valid now cache) :
    Valid now (cache.removeExpired now) := by
  have stored : ∀ key entry, (cache.removeExpired now).find key = some entry →
      cache.find key = some entry := by
    intro key entry found
    rw [find_removeExpired] at found
    exact (Option.filter_eq_some_iff.mp found).1
  refine ⟨rfl, ?_, fun key entry found => valid.past key entry (stored key entry found)⟩
  intro key entry found
  have mem : entry ∈ (cache.removeExpired now).entries := by
    rw [find_eq] at found
    rw [entries, ← Table.values_flatten]
    exact Table.mem_values.mpr ⟨key, found⟩
  have expiry : entry.sentAt + cache.timeout ∈
      (cache.removeExpired now).entries.map fun entry => entry.sentAt + cache.timeout :=
    List.mem_map.mpr ⟨entry, mem, rfl⟩
  obtain ⟨next, least⟩ : ∃ next, (cache.removeExpired now).nextExpiry = some next :=
    Option.isSome_iff_exists.mp (List.isSome_min?_of_mem expiry)
  exact ⟨next, least, (List.min?_eq_some_iff.mp least).2 _ expiry⟩

theorem Valid.removeDomain {now : Instant} {cache : TemplateCache F} (valid : Valid now cache)
    (domain : UInt32) :
    Valid now (cache.removeDomain domain) := by
  have stored : ∀ key entry, (cache.removeDomain domain).find key = some entry →
      cache.find key = some entry := by
    intro key entry found
    rw [find_removeDomain] at found
    split at found
    · cases found
    · exact found
  have same : (cache.removeDomain domain).nextExpiry = cache.nextExpiry ∧
      (cache.removeDomain domain).timeout = cache.timeout := by
    unfold TemplateCache.removeDomain
    split <;> exact ⟨rfl, rfl⟩
  constructor
  · exact counted_removeDomain valid.counted domain
  · intro key entry found
    rw [same.1, same.2]
    exact valid.bounded key entry (stored key entry found)
  · exact fun key entry found => valid.past key entry (stored key entry found)

theorem Valid.refreshDomain {now : Instant} {cache : TemplateCache F} (valid : Valid now cache)
    (domain : UInt32) {resolve : List F → List F}
    (keeps : ∀ fields, (resolve fields).length = fields.length) :
    Valid now (cache.refreshDomain domain resolve) := by
  have stored : ∀ key entry, (cache.refreshDomain domain resolve).find key = some entry →
      ∃ before, cache.find key = some before ∧ before.sentAt = entry.sentAt := by
    intro key entry found
    rw [find_refreshDomain] at found
    obtain ⟨before, present, rfl⟩ := Option.map_eq_some_iff.mp found
    refine ⟨before, present, ?_⟩
    split <;> rfl
  have same : (cache.refreshDomain domain resolve).nextExpiry = cache.nextExpiry ∧
      (cache.refreshDomain domain resolve).timeout = cache.timeout := by
    unfold TemplateCache.refreshDomain
    split <;> exact ⟨rfl, rfl⟩
  constructor
  · exact counted_refreshDomain valid.counted domain keeps
  · intro key entry found
    obtain ⟨before, present, time⟩ := stored key entry found
    rw [same.1, same.2, ← time]
    exact valid.bounded key before present
  · intro key entry found
    obtain ⟨before, present, time⟩ := stored key entry found
    rw [← time]
    exact valid.past key before present

theorem Valid.refuse {now : Instant} {cache : TemplateCache F} (valid : Valid now cache)
    (key : TemplateKey) :
    Valid now (cache.refuse key) := by
  have refusing : Valid now { cache with refusing := true } :=
    ⟨valid.counted, valid.bounded, valid.past⟩
  exact refusing.remove key

/-! ### The refinement -/

/-- The state of the map: the last template stored under each key. -/
abbrev Spec (F : Type) : Type := Table TemplateKey (ExpiringMap.Entry (List F))

def Entry.stamped (entry : Entry F) : ExpiringMap.Entry (List F) := ⟨entry.fields, entry.sentAt⟩

def view (cache : TemplateCache F) (key : TemplateKey) : Option (ExpiringMap.Entry (List F)) :=
  (cache.find key).map Entry.stamped

/-- The cache is valid at `now` and stands for `spec`. -/
structure Represents (now : Instant) (cache : TemplateCache F) (spec : Spec F) : Prop where
  valid : Valid now cache
  refines : ExpiringMap.Refines cache.timeout now cache.view spec.lookup

/-- The map admits a template that fits the cache, and one that does not once nothing in it has
expired. -/
abbrev Admits (timeout : Duration) (now : Instant) (key : TemplateKey) (fields : List F)
    (spec : Spec F) : Prop :=
  ExpiringMap.Admits List.length MAX_TEMPLATE_FIELDS timeout now key fields spec

theorem get_eq_view (cache : TemplateCache F) (now : Instant) (key : TemplateKey) :
    cache.get now key = (cache.view key).bind (ExpiringMap.visible cache.timeout now) := by
  rw [get, view]
  cases cache.find key with
  | none => rfl
  | some entry =>
    simp only [Option.filter, ExpiringMap.visible, ExpiringMap.Live, Entry.stamped, Option.map_some,
      Option.bind_some]
    by_cases alive : now - entry.sentAt < cache.timeout <;> simp only [alive, decide_true,
      decide_false, if_true, if_false, Bool.false_eq_true, Option.map_some, Option.map_none]

theorem Represents.get_eq {now : Instant} {cache : TemplateCache F} {spec : Spec F}
    (rep : Represents now cache spec) (key : TemplateKey) :
    cache.get now key = ExpiringMap.get cache.timeout now key spec := by
  rw [get_eq_view, ExpiringMap.get, rep.refines.visible_eq]

theorem Represents.later {now later : Instant} {cache : TemplateCache F} {spec : Spec F}
    (rep : Represents now cache spec) (le : now ≤ later) : Represents later cache spec :=
  ⟨rep.valid.later le, rep.refines.later le⟩

theorem liveOthers_le {now : Instant} {cache : TemplateCache F} {spec : Spec F}
    (rep : Represents now cache spec) (key : TemplateKey) :
    ExpiringMap.liveOthers List.length cache.timeout now key spec ≤ cache.loadOthers key := by
  refine Table.total_mono fun key' => ?_
  cases stored : spec.lookup key' with
  | none => exact Nat.zero_le _
  | some e =>
    simp only [Option.elim_some]
    split
    · rename_i counts
      obtain ⟨entry, found, rfl⟩ :=
        Option.map_eq_some_iff.mp (rep.refines.live key' e stored counts.2)
      rw [← find_eq, found, Option.elim_some, if_pos counts.1]
      exact Nat.le_refl _
    · exact Nat.zero_le _

/-- Where nothing stored has expired, the cache counts what the map counts. -/
theorem loadOthers_le {now : Instant} {cache : TemplateCache F} {spec : Spec F}
    (rep : Represents now cache spec) (alive : ∀ key entry, cache.find key = some entry →
      now - entry.sentAt < cache.timeout) (key : TemplateKey) :
    cache.loadOthers key ≤ ExpiringMap.liveOthers List.length cache.timeout now key spec := by
  refine Table.total_mono fun key' => ?_
  rw [← find_eq]
  cases found : cache.find key' with
  | none => exact Nat.zero_le _
  | some entry =>
    have stored := rep.refines.stored key' entry.stamped (by rw [view, found]; rfl)
    rw [stored]
    simp only [Option.elim_some]
    split
    · rename_i other
      rw [if_pos ⟨other, alive key' entry found⟩]
      exact Nat.le_refl _
    · exact Nat.zero_le _

theorem Represents.removeExpired {now : Instant} {cache : TemplateCache F} {spec : Spec F}
    (rep : Represents now cache spec) : Represents now (cache.removeExpired now) spec := by
  refine ⟨rep.valid.removeExpired, rep.refines.sweep ?_ ?_⟩
  · intro key e found
    obtain ⟨entry, present, rfl⟩ := Option.map_eq_some_iff.mp found
    rw [find_removeExpired] at present
    rw [view, (Option.filter_eq_some_iff.mp present).1, Option.map_some]
  · intro key e found alive
    obtain ⟨entry, present, rfl⟩ := Option.map_eq_some_iff.mp found
    have kept : (cache.find key).filter (fun entry => now - entry.sentAt < cache.timeout) =
        some entry :=
      Option.filter_eq_some_iff.mpr ⟨present, decide_eq_true alive⟩
    rw [view, find_removeExpired, kept, Option.map_some]

theorem removeExpired_alive (now : Instant) (cache : TemplateCache F) (key : TemplateKey)
    (entry : Entry F) (found : (cache.removeExpired now).find key = some entry) :
    now - entry.sentAt < cache.timeout := by
  rw [find_removeExpired] at found
  exact of_decide_eq_true (Option.filter_eq_some_iff.mp found).2

theorem Valid.alive {now : Instant} {cache : TemplateCache F} (valid : Valid now cache)
    (early : cache.nextExpiry.any (now ≥ ·) = false) (key : TemplateKey) (entry : Entry F)
    (found : cache.find key = some entry) : now - entry.sentAt < cache.timeout := by
  obtain ⟨next, eq, le⟩ := valid.bounded key entry found
  rw [eq, Option.any_some, decide_eq_false_iff_not] at early
  exact Nat.sub_lt_left_of_lt_add (valid.past key entry found)
    (Nat.lt_of_lt_of_le (Nat.lt_of_not_le early) le)

/-- An insert sweeps when that can make a difference, then stores what the map admits and refuses
the rest. -/
theorem insert_cases {now : Instant} {cache : TemplateCache F} {spec : Spec F}
    (rep : Represents now cache spec) (key : TemplateKey) (fields : List F) :
    ∃ swept, Represents now swept spec ∧ swept.timeout = cache.timeout ∧
      cache.insert now key fields =
        if Admits cache.timeout now key fields spec then swept.store now key fields
        else swept.refuse key := by
  obtain ⟨first, rep₁, sameTimeout, firstEq⟩ : ∃ first, Represents now first spec ∧
    first.timeout = cache.timeout ∧
      first = if now ≥ cache.nextSweep then cache.removeExpired now else cache := by
    split
    · exact ⟨_, rep.removeExpired, rfl, rfl⟩
    · exact ⟨_, rep, rfl, rfl⟩
  rw [insert, ← firstEq, ← sameTimeout]
  have admits : ∀ {c : TemplateCache F}, Represents now c spec → c.timeout = first.timeout →
      c.fits key fields = true → Admits first.timeout now key fields spec := by
    intro c rep' same fit
    have bound := (fits_iff rep'.valid.counted key fields).mp fit
    have le := liveOthers_le rep' key
    rw [same] at le
    change _ + _ ≤ _
    omega
  have fits : ∀ {c : TemplateCache F}, Represents now c spec → c.timeout = first.timeout →
      (∀ key entry, c.find key = some entry → now - entry.sentAt < c.timeout) →
      Admits first.timeout now key fields spec → c.fits key fields = true := by
    intro c rep' same alive bound
    have le := loadOthers_le rep' alive key
    rw [same] at le
    change _ + _ ≤ _ at bound
    exact (fits_iff rep'.valid.counted key fields).mpr (by omega)
  by_cases fit : first.fits key fields = true
  · exact ⟨first, rep₁, rfl, by rw [if_pos fit, if_pos (admits rep₁ rfl fit)]⟩
  · rw [if_neg fit]
    -- The second sweep is skipped only where it would free nothing.
    obtain ⟨second, rep₂, same₂, alive, secondEq⟩ : ∃ second, Represents now second spec ∧
        second.timeout = first.timeout ∧
        (∀ key entry, second.find key = some entry → now - entry.sentAt < second.timeout) ∧
        second = if first.nextExpiry.any (now ≥ ·) then first.removeExpired now else first := by
      split
      · exact ⟨_, rep₁.removeExpired, rfl, removeExpired_alive now first, rfl⟩
      · rename_i early
        exact ⟨_, rep₁, rfl, rep₁.valid.alive (Bool.not_eq_true _ ▸ early), rfl⟩
    refine ⟨second, rep₂, same₂, ?_⟩
    rw [← secondEq]
    by_cases fit₂ : second.fits key fields = true
    · rw [if_pos fit₂, if_pos (admits rep₂ same₂ fit₂)]
    · rw [if_neg fit₂, if_neg fun bound => fit₂ (fits rep₂ same₂ alive bound)]

theorem timeout_remove (cache : TemplateCache F) (key : TemplateKey) :
    (cache.remove key).timeout = cache.timeout := by
  unfold remove
  split <;> rfl

theorem timeout_apply (now : Instant) (cache : TemplateCache F) (call : Call F) :
    (call.apply now cache).timeout = cache.timeout := by
  cases call with
  | get key => rfl
  | insert key fields =>
    have refuse : ∀ c : TemplateCache F, (c.refuse key).timeout = c.timeout :=
      fun c => timeout_remove { c with refusing := true } key
    simp only [Call.apply, insert]
    split_ifs <;> first | rfl | exact refuse _
  | remove key => exact timeout_remove cache key
  | removeDomain domain =>
    simp only [Call.apply, removeDomain]
    split <;> rfl
  | refreshDomain domain resolve =>
    simp only [Call.apply, refreshDomain]
    split <;> rfl

theorem timeout_run (cache : TemplateCache F) (calls : List (Instant × Call F)) :
    (run cache calls).timeout = cache.timeout := by
  induction calls generalizing cache with
  | nil => rfl
  | cons call calls ih => exact (ih _).trans (timeout_apply call.1 cache call.2)

theorem valid_apply {now : Instant} {cache : TemplateCache F} {spec : Spec F}
    (rep : Represents now cache spec) {call : Call F} (keeps : call.KeepsLength) :
    Valid now (call.apply now cache) := by
  cases call with
  | get key => exact rep.valid
  | insert key fields =>
    obtain ⟨swept, rep', _, eq⟩ := insert_cases rep key fields
    rw [Call.apply, eq]
    split
    · exact rep'.valid.store key fields
    · exact rep'.valid.refuse key
  | remove key => exact rep.valid.remove key
  | removeDomain domain => exact rep.valid.removeDomain domain
  | refreshDomain domain resolve => exact rep.valid.refreshDomain domain keeps

theorem view_store (cache : TemplateCache F) (now : Instant) (key : TemplateKey) (fields : List F) :
    (cache.store now key fields).view = Function.update cache.view key (some ⟨fields, now⟩) := by
  funext key'
  rw [view, find_store, Function.update_apply]
  split <;> rfl

theorem view_remove (cache : TemplateCache F) (key : TemplateKey) :
    (cache.remove key).view = Function.update cache.view key none := by
  funext key'
  rw [view, find_remove, Function.update_apply]
  split <;> rfl

theorem refines_apply {now : Instant} {cache : TemplateCache F} {spec : Spec F}
    (rep : Represents now cache spec) (call : Call F) :
    ExpiringMap.Refines cache.timeout now (call.apply now cache).view
      (ExpiringMap.apply List.length MAX_TEMPLATE_FIELDS cache.timeout now spec
        call.spec).lookup := by
  have erase : ∀ key, (spec.erase key).lookup = Function.update spec.lookup key none := by
    intro key
    funext key'
    rw [Table.lookup_erase_eq, Function.update_apply]
  cases call with
  | get key => exact rep.refines
  | insert key fields =>
    obtain ⟨swept, rep', same, eq⟩ := insert_cases rep key fields
    have refines := rep'.refines
    rw [same] at refines
    rw [Call.apply, eq, Call.spec, ExpiringMap.apply]
    split
    · have insert : (spec.insert key ⟨fields, now⟩).lookup =
          Function.update spec.lookup key (some ⟨fields, now⟩) := by
        funext key'
        rw [Table.lookup_insert_eq, Function.update_apply]
      rw [view_store, insert]
      exact refines.update key _
    · rw [TemplateCache.refuse, view_remove, erase]
      exact refines.update key none
  | remove key =>
    rw [Call.apply, view_remove, Call.spec, ExpiringMap.apply, erase]
    exact rep.refines.update key none
  | removeDomain domain =>
    have spec' :
        (Table.filterMapValues (fun key e => if decide (key.1 = domain) then none
          else some e) spec).lookup =
        fun key => (spec.lookup key).bind fun e => if decide (key.1 = domain) then none
        else some e :=
      funext (Table.lookup_filterMapValues _ spec)
    have view' : (cache.removeDomain domain).view =
        fun key => (cache.view key).bind fun e => if decide (key.1 = domain) then none
        else some e := by
      funext key
      rw [view, find_removeDomain, view]
      cases cache.find key <;> by_cases same : key.1 = domain <;> simp [same]
    rw [Call.apply, view', Call.spec, ExpiringMap.apply, spec']
    refine rep.refines.map fun key e e' kept => ?_
    split at kept <;> cases kept
    rfl
  | refreshDomain domain resolve =>
    have spec' :=
      funext (Table.lookup_filterMapValues
        (fun (key : TemplateKey) (e : ExpiringMap.Entry (List F)) =>
      some (if decide (key.1 = domain) then { e with value := resolve e.value } else e)) spec)
    have view' : (cache.refreshDomain domain resolve).view = fun key =>
        (cache.view key).bind fun e =>
        some (if decide (key.1 = domain) then { e with value := resolve e.value } else e) := by
      funext key
      rw [view, find_refreshDomain, view]
      cases cache.find key <;> by_cases same : key.1 = domain <;> simp [same, Entry.stamped]
    rw [Call.apply, view', Call.spec, ExpiringMap.apply, spec']
    refine rep.refines.map fun key e e' kept => ?_
    cases kept
    split <;> rfl

theorem Represents.apply {now : Instant} {cache : TemplateCache F} {spec : Spec F}
    (rep : Represents now cache spec) {call : Call F} (keeps : call.KeepsLength) :
    Represents now (call.apply now cache)
      (ExpiringMap.apply List.length MAX_TEMPLATE_FIELDS cache.timeout now spec call.spec) := by
  refine ⟨valid_apply rep keeps, ?_⟩
  rw [timeout_apply]
  exact refines_apply rep call

def specOf (timeout : Duration) (calls : List (Instant × Call F)) : Spec F :=
  ExpiringMap.run List.length MAX_TEMPLATE_FIELDS timeout
    (calls.map fun call => (call.1, call.2.spec))

theorem represents_foldl {start : Instant} {cache : TemplateCache F} {spec : Spec F}
    (rep : Represents start cache spec) (calls : List (Instant × Call F))
    (ordered : (start :: calls.map Prod.fst).Pairwise (· ≤ ·))
    (keeps : ∀ call ∈ calls, call.2.KeepsLength) {now : Instant}
    (last : ∀ time ∈ start :: calls.map Prod.fst, time ≤ now) :
    Represents now (run cache calls)
      (calls.foldl (fun spec call =>
        ExpiringMap.apply List.length MAX_TEMPLATE_FIELDS cache.timeout call.1 spec call.2.spec)
          spec) := by
  induction calls generalizing start cache spec with
  | nil => exact rep.later (last start List.mem_cons_self)
  | cons call calls ih =>
    obtain ⟨first, rest⟩ := List.pairwise_cons.mp ordered
    have here := rep.later (first call.1 List.mem_cons_self)
    have next := ih (here.apply (keeps call List.mem_cons_self)) rest
      (fun other mem => keeps other (List.mem_cons_of_mem call mem))
      (fun time mem => last time (List.mem_cons_of_mem start mem))
    rw [timeout_apply] at next
    exact next

theorem run_represents (timeout : Duration) (start : Instant) (calls : List (Instant × Call F))
    (ordered : (start :: calls.map Prod.fst).Pairwise (· ≤ ·))
    (keeps : ∀ call ∈ calls, call.2.KeepsLength) {now : Instant}
    (last : ∀ time ∈ start :: calls.map Prod.fst, time ≤ now) :
    Represents now (run (new timeout start) calls) (specOf timeout calls) := by
  have empty : Represents start (new timeout start : TemplateCache F) ∅ := by
    refine ⟨valid_new timeout start, ?_, ?_⟩
    · intro key e found
      simp [view, find, new] at found
    · intro key e found
      simp at found
  have whole := represents_foldl empty calls ordered keeps last
  rw [specOf, ExpiringMap.run, List.foldl_map]
  exact whole

/-! ### Main result -/

/-- What a call makes of a template it does not remove. -/
def Call.refreshed (key : TemplateKey) : Call F → List F → List F
  | .refreshDomain domain resolve, fields => if key.1 = domain then resolve fields else fields
  | _, fields => fields

/-- No call removes an unexpired template under another key. -/
theorem Represents.get_apply {now : Instant} {cache : TemplateCache F} {spec : Spec F}
    (rep : Represents now cache spec) {call : Call F} (keeps : call.KeepsLength) {key : TemplateKey}
    (other : ¬ call.Removes key) :
    (call.apply now cache).get now key = (cache.get now key).map (call.refreshed key) := by
  have visible : ∀ e : Option (ExpiringMap.Entry (List F)),
      (e.bind (ExpiringMap.visible cache.timeout now)).map (fun fields => fields) =
        e.bind (ExpiringMap.visible cache.timeout now) := fun e => Option.map_id'
  rw [(rep.apply keeps).get_eq, timeout_apply, rep.get_eq, ExpiringMap.get, ExpiringMap.get]
  cases call with
  | get _ => exact (visible _).symm
  | insert key' fields =>
    rw [Call.spec, ExpiringMap.apply]
    split
    · rw [AList.lookup_insert_ne other]
      exact (visible _).symm
    · rw [AList.lookup_erase_ne other]
      exact (visible _).symm
  | remove key' =>
    rw [Call.spec, ExpiringMap.apply, AList.lookup_erase_ne other]
    exact (visible _).symm
  | removeDomain domain =>
    have outside : ¬ key.1 = domain := other
    rw [Call.spec, ExpiringMap.apply, Table.lookup_filterMapValues]
    simp only [outside, decide_false, Bool.false_eq_true, if_false, Option.bind_fun_some]
    exact (visible _).symm
  | refreshDomain domain resolve =>
    rw [Call.spec, ExpiringMap.apply, Table.lookup_filterMapValues]
    cases spec.lookup key with
    | none => rfl
    | some e =>
      by_cases alive : now - e.sentAt < cache.timeout <;> by_cases same : key.1 = domain <;>
        simp [ExpiringMap.visible, ExpiringMap.Live, Call.refreshed, alive, same]

/-- After any calls at non-decreasing times, lookups are those of the map with expiry; an insert
is stored exactly when the map admits it, and otherwise leaves nothing under its key; and no call
takes away an unexpired template under a key that is not its own. -/
theorem cache_refines_map (timeout : Duration) (start : Instant) (calls : List (Instant × Call F))
    (ordered : (start :: calls.map Prod.fst).Pairwise (· ≤ ·))
    (keeps : ∀ call ∈ calls, call.2.KeepsLength) (now : Instant)
    (last : ∀ time ∈ start :: calls.map Prod.fst, time ≤ now) :
    let cache := run (new timeout start) calls
    let spec := specOf timeout calls
    (∀ key, cache.get now key = ExpiringMap.get timeout now key spec) ∧
    (∀ key fields, (cache.insert now key fields).find key =
      if Admits timeout now key fields spec then some ⟨fields, now⟩ else none) ∧
    (∀ call : Call F, call.KeepsLength → ∀ key, ¬ call.Removes key →
      (call.apply now cache).get now key = (cache.get now key).map (call.refreshed key)) := by
  have rep := run_represents timeout start calls ordered keeps last
  have same : (run (new timeout start) calls).timeout = timeout :=
    timeout_run (new timeout start) calls
  refine ⟨fun key => ?_, fun key fields => ?_,
    fun call keeps key other => rep.get_apply keeps other⟩
  · rw [rep.get_eq, same]
  · obtain ⟨swept, _, _, eq⟩ := insert_cases rep key fields
    rw [eq, same]
    split
    · rw [find_store, if_pos rfl]
    · rw [TemplateCache.refuse, find_remove, if_pos rfl]

/-- Two templates of one domain: a refresh applies to both, a withdrawal to one, and expiry to the
other. -/
theorem cache_refines_map_on_two_templates :
    let calls : List (Instant × Call Nat) :=
      [(1, .insert (7, 256) [1, 2]), (3, .insert (7, 257) [3]),
        (4, .refreshDomain 7 (List.map (· + 1))), (5, .remove (7, 257))]
    (run (new 10 0) calls).get 10 (7, 256) = some [2, 3] ∧
      (run (new 10 0) calls).get 10 (7, 257) = none ∧
      (run (new 10 0) calls).get 11 (7, 256) = none := by
  intro calls
  have keeps : ∀ call ∈ calls, call.2.KeepsLength := by simp [calls, Call.KeepsLength]
  have before := (cache_refines_map 10 0 calls (by decide) keeps 10 (by decide)).1
  have after := (cache_refines_map 10 0 calls (by decide) keeps 11 (by decide)).1
  exact ⟨(before (7, 256)).trans (by decide), (before (7, 257)).trans (by decide),
    (after (7, 256)).trans (by decide)⟩

end Rustflow.TemplateCache
