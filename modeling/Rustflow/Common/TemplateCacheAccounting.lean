import Rustflow.Common.TemplateCacheRefinement

/-!
# The template cache's accounting

The cache counts its fields as it goes and recounts them only when it sweeps. The count is exact
after every call, so no subtraction of it goes below zero, and every entry is swept out before it
is two timeouts old.
-/

namespace Rustflow.TemplateCache
variable {F : Type}

/-! ### Checked subtraction -/

/-- A `usize` subtraction: `none` where a debug build panics. -/
def checkedSub (a b : Nat) : Option Nat := if b ≤ a then some (a - b) else none

theorem checkedSub_eq {a b : Nat} (enough : b ≤ a) : checkedSub a b = some (a - b) := if_pos enough

def checkedFits (cache : TemplateCache F) (key : TemplateKey) (fields : List F) : Option Bool := do
  let replaced := ((cache.find key).map fun entry => entry.fields.length).getD 0
  return (← checkedSub cache.fields replaced) + fields.length ≤ MAX_TEMPLATE_FIELDS

def checkedStore (cache : TemplateCache F) (now : Instant) (key : TemplateKey) (fields : List F) :
    Option (TemplateCache F) := do
  let total := cache.fields + fields.length
  let counted ← match cache.find key with
    | some replaced => checkedSub total replaced.fields.length
    | none => some total
  return { cache.store now key fields with fields := counted }

def checkedRemove (cache : TemplateCache F) (key : TemplateKey) : Option (TemplateCache F) := do
  let counted ← match cache.find key with
    | some entry => checkedSub cache.fields entry.fields.length
    | none => some cache.fields
  return { cache.remove key with fields := counted }

def checkedInsert (cache : TemplateCache F) (now : Instant) (key : TemplateKey) (fields : List F) :
    Option (TemplateCache F) := do
  let cache := if now ≥ cache.nextSweep then cache.removeExpired now else cache
  if ← cache.checkedFits key fields then cache.checkedStore now key fields
  else
    let cache := if cache.nextExpiry.any (now ≥ ·) then cache.removeExpired now else cache
    if ← cache.checkedFits key fields then cache.checkedStore now key fields
    else checkedRemove { cache with refusing := true } key

def checkedRemoveDomain (cache : TemplateCache F) (domain : UInt32) : Option (TemplateCache F) :=
  match cache.domains.lookup domain with
  | none => some cache
  | some templates => do
    let counted ← checkedSub cache.fields (templates.values.map fun entry =>
        entry.fields.length).sum
    return { cache.removeDomain domain with fields := counted }

def checkedRefreshDomain (cache : TemplateCache F) (domain : UInt32) (resolve : List F → List F) :
    Option (TemplateCache F) :=
  match cache.domains.lookup domain with
  | none => some cache
  | some templates => do
    let counted ← templates.values.foldlM
      (fun fields entry => do return (← checkedSub fields entry.fields.length) +
        (resolve entry.fields).length)
      cache.fields
    return { cache.refreshDomain domain resolve with fields := counted }

/-- A call with its subtractions checked. -/
def Call.applyChecked (now : Instant) (cache : TemplateCache F) : Call F → Option (TemplateCache F)
  | .get _ => some cache
  | .insert key fields => cache.checkedInsert now key fields
  | .remove key => cache.checkedRemove key
  | .removeDomain domain => cache.checkedRemoveDomain domain
  | .refreshDomain domain resolve => cache.checkedRefreshDomain domain resolve

/-! ### An exact count is enough for every subtraction -/

section
variable {cache : TemplateCache F}

theorem loadOf_eq {key : TemplateKey} {entry : Entry F} (found : cache.find key = some entry) :
    cache.loadOf key = entry.fields.length := by
  rw [loadOf, found, Option.map_some, Option.getD_some]

theorem length_le_fields (counted : cache.fields = cache.load) (key : TemplateKey) (entry : Entry F)
    (found : cache.find key = some entry) : entry.fields.length ≤ cache.fields := by
  rw [← loadOf_eq found, counted]
  exact loadOf_le_load cache key

theorem checkedFits_eq (counted : cache.fields = cache.load) (key : TemplateKey) (fields : List F) :
    cache.checkedFits key fields = some (cache.fits key fields) := by
  have enough : cache.loadOf key ≤ cache.fields := by
    rw [counted]
    exact loadOf_le_load cache key
  unfold checkedFits fits
  dsimp only
  rw [show ((cache.find key).map fun entry => entry.fields.length).getD 0 =
    cache.loadOf key from rfl,
    checkedSub_eq enough]
  rfl

theorem checkedStore_eq (counted : cache.fields = cache.load) (now : Instant) (key : TemplateKey)
    (fields : List F) :
    cache.checkedStore now key fields = some (cache.store now key fields) := by
  have enough := length_le_fields counted key
  unfold checkedStore store find at *
  cases domain : cache.domains.lookup key.1 with
  | none => rfl
  | some templates =>
    simp only [domain, Option.bind_some] at enough ⊢
    cases found : templates.lookup key.2 with
    | none => simp [found]
    | some replaced =>
      have le := enough replaced found
      simp [found,
        checkedSub_eq (show replaced.fields.length ≤ cache.fields + fields.length by omega)]

theorem checkedRemove_eq (counted : cache.fields = cache.load) (key : TemplateKey) :
    cache.checkedRemove key = some (cache.remove key) := by
  have enough := length_le_fields counted key
  unfold checkedRemove remove find at *
  cases domain : cache.domains.lookup key.1 with
  | none => rfl
  | some templates =>
    simp only [domain, Option.bind_some] at enough ⊢
    cases found : templates.lookup key.2 with
    | none => rfl
    | some entry =>
      have le := enough entry found
      simp [checkedSub_eq le]

theorem checkedInsert_eq {now : Instant} (valid : Valid now cache) (key : TemplateKey)
    (fields : List F) :
    cache.checkedInsert now key fields = some (cache.insert now key fields) := by
  have swept : ∀ due : Prop, [Decidable due] → ∀ c : TemplateCache F, Valid now c →
      Valid now (if due then c.removeExpired now else c) := by
    intro due _ c valid
    split
    · exact valid.removeExpired
    · exact valid
  have first := swept (now ≥ cache.nextSweep) cache valid
  unfold checkedInsert insert
  dsimp only
  generalize (if now ≥ cache.nextSweep then cache.removeExpired now else cache) = c at first
  rw [checkedFits_eq first.counted, Option.bind_eq_bind, Option.bind_some]
  split
  · exact checkedStore_eq first.counted now key fields
  · have second := swept (c.nextExpiry.any (now ≥ ·)) c first
    generalize (if c.nextExpiry.any (now ≥ ·) then c.removeExpired now else c) = c' at second
    rw [checkedFits_eq second.counted, Option.bind_some]
    split
    · exact checkedStore_eq second.counted now key fields
    · have refusing : ({ c' with refusing := true } : TemplateCache F).fields = c'.load :=
        second.counted
      exact checkedRemove_eq refusing key

theorem checkedRemoveDomain_eq (counted : cache.fields = cache.load) (domain : UInt32) :
    cache.checkedRemoveDomain domain = some (cache.removeDomain domain) := by
  unfold checkedRemoveDomain
  cases found : cache.domains.lookup domain with
  | none => simp only [removeDomain, found]
  | some templates =>
    have split := load_removeDomain cache found
    have enough : (templates.values.map fun entry => entry.fields.length).sum ≤
        cache.fields := by omega
    simp only [checkedSub_eq enough, removeDomain, found]
    rfl

theorem checked_foldl {resolve : List F → List F}
    (keeps : ∀ fields, (resolve fields).length = fields.length) (entries : List (Entry F))
    (fields : Nat) (enough : ∀ entry ∈ entries, entry.fields.length ≤ fields) :
    entries.foldlM
      (fun fields entry => do return (← checkedSub fields entry.fields.length) +
        (resolve entry.fields).length) fields
      = some fields := by
  induction entries with
  | nil => rfl
  | cons entry entries ih =>
    have le := enough entry List.mem_cons_self
    have later := ih fun other mem => enough other (List.mem_cons_of_mem entry mem)
    have step :
        (do return (← checkedSub fields entry.fields.length) + (resolve entry.fields).length) =
        some fields := by
      rw [checkedSub_eq le, keeps]
      exact congrArg some (Nat.sub_add_cancel le)
    rw [List.foldlM_cons, step]
    exact later

theorem checkedRefreshDomain_eq (counted : cache.fields = cache.load) (domain : UInt32)
    {resolve : List F → List F} (keeps : ∀ fields, (resolve fields).length = fields.length) :
    cache.checkedRefreshDomain domain resolve = some (cache.refreshDomain domain resolve) := by
  unfold checkedRefreshDomain
  cases found : cache.domains.lookup domain with
  | none => simp only [refreshDomain, found]
  | some templates =>
    have enough : ∀ entry ∈ templates.values, entry.fields.length ≤ cache.fields := by
      intro entry mem
      obtain ⟨id, present⟩ := Table.mem_values.mp mem
      exact length_le_fields counted
        (domain, id) entry (by rw [find, found, Option.bind_some, present])
    simp only [checked_foldl keeps _ _ enough, refreshDomain, found,
      foldl_keepsLength keeps _ _ enough]
    rfl

theorem applyChecked_eq {now : Instant} (valid : Valid now cache) {call : Call F}
    (keeps : call.KeepsLength) :
    call.applyChecked now cache = some (call.apply now cache) := by
  cases call with
  | get key => rfl
  | insert key fields => exact checkedInsert_eq valid key fields
  | remove key => exact checkedRemove_eq valid.counted key
  | removeDomain domain => exact checkedRemoveDomain_eq valid.counted domain
  | refreshDomain domain resolve => exact checkedRefreshDomain_eq valid.counted domain keeps

end

/-! ### The invariant -/

/-- What holds of a cache at `now`, whatever calls led there. -/
structure Accounted (now : Instant) (cache : TemplateCache F) : Prop extends Valid now cache where
  withinBudget : cache.load ≤ MAX_TEMPLATE_FIELDS
  noEmptyDomain : ∀ domain templates, cache.domains.lookup domain = some templates →
    templates.entries ≠ []
  sweepsSoon : cache.nextSweep ≤ now + cache.timeout
  /-- The next sweep comes before any stored entry is two timeouts old. -/
  sweepsOld : 0 < cache.timeout → ∀ key entry, cache.find key = some entry →
    cache.nextSweep < entry.sentAt + 2 * cache.timeout

theorem accounted_new (timeout : Duration) (now : Instant) :
    Accounted now (new timeout now : TemplateCache F) where
  toValid := valid_new timeout now
  withinBudget := Nat.zero_le _
  noEmptyDomain := fun domain templates found => by simp [new] at found
  sweepsSoon := Nat.le_refl _
  sweepsOld := fun _ key entry found => by simp [find, new] at found

section
variable {now : Instant} {cache : TemplateCache F}

theorem Accounted.later {later : Instant} (acc : Accounted now cache) (le : now ≤ later) :
    Accounted later cache where
  toValid := acc.toValid.later le
  withinBudget := acc.withinBudget
  noEmptyDomain := acc.noEmptyDomain
  sweepsSoon := acc.sweepsSoon.trans (Nat.add_le_add_right le _)
  sweepsOld := acc.sweepsOld

theorem load_removeExpired_le (cache : TemplateCache F) (now : Instant) :
    (cache.removeExpired now).load ≤ cache.load := by
  rw [load_eq_total, load_eq_total]
  refine Table.total_mono fun key => ?_
  rw [← find_eq, ← find_eq, find_removeExpired]
  cases cache.find key with
  | none => exact Nat.le_refl _
  | some entry =>
    simp only [Option.filter]
    split
    · exact Nat.le_refl _
    · exact Nat.zero_le _

/-- A sweep puts the next one a timeout ahead, and leaves nothing older than that. -/
theorem Accounted.removeExpired (acc : Accounted now cache) :
    Accounted now (cache.removeExpired now) where
  toValid := acc.toValid.removeExpired
  withinBudget := (load_removeExpired_le cache now).trans acc.withinBudget
  noEmptyDomain := by
    intro domain templates found
    simp only [TemplateCache.removeExpired, Table.lookup_filterMapValues] at found
    obtain ⟨before, -, kept⟩ := Option.bind_eq_some_iff.mp found
    split at kept
    · cases kept
    next nonempty =>
      cases kept
      exact fun empty => nonempty (List.isEmpty_iff.mpr empty)
  sweepsSoon := Nat.le_refl _
  sweepsOld := by
    intro _ key entry found
    have ahead : ∀ now sentAt timeout : Nat, now - sentAt < timeout →
        now + timeout < sentAt + 2 * timeout := by
      omega
    exact ahead now entry.sentAt cache.timeout (removeExpired_alive now cache key entry found)

theorem Accounted.store (acc : Accounted now cache) {key : TemplateKey} {fields : List F}
    (fit : cache.fits key fields = true) : Accounted now (cache.store now key fields) where
  toValid := acc.toValid.store key fields
  withinBudget := by
    rw [load_store]
    exact (fits_iff acc.counted key fields).mp fit
  noEmptyDomain := by
    intro domain templates found
    simp only [TemplateCache.store, Table.lookup_insert_eq] at found
    split at found
    · cases found
      rw [AList.entries_insert]
      exact List.cons_ne_nil _ _
    · exact acc.noEmptyDomain domain templates found
  sweepsSoon := acc.sweepsSoon
  sweepsOld := by
    intro positive key' entry found
    have ahead : ∀ sweep now timeout : Nat, 0 < timeout → sweep ≤ now + timeout →
        sweep < now + 2 * timeout := by
      omega
    rw [find_store] at found
    split at found
    · cases found
      exact ahead cache.nextSweep now cache.timeout positive acc.sweepsSoon
    · exact acc.sweepsOld positive key' entry found

theorem nextSweep_remove (cache : TemplateCache F) (key : TemplateKey) :
    (cache.remove key).nextSweep = cache.nextSweep := by
  unfold TemplateCache.remove
  split <;> rfl

theorem Accounted.remove (acc : Accounted now cache) (key : TemplateKey) :
    Accounted now (cache.remove key) where
  toValid := acc.toValid.remove key
  withinBudget := by
    have whole := loadOthers_add_loadOf cache key
    have budget := acc.withinBudget
    rw [load_remove]
    omega
  noEmptyDomain := by
    intro domain templates found
    unfold TemplateCache.remove at found
    split at found
    · exact acc.noEmptyDomain domain templates found
    · dsimp only at found
      split at found
      · rw [Table.lookup_erase_eq] at found
        split at found
        · cases found
        · exact acc.noEmptyDomain domain templates found
      next nonempty =>
        rw [Table.lookup_insert_eq] at found
        split at found
        · cases found
          exact fun empty => nonempty (List.isEmpty_iff.mpr empty)
        · exact acc.noEmptyDomain domain templates found
  sweepsSoon := by
    rw [nextSweep_remove, timeout_remove]
    exact acc.sweepsSoon
  sweepsOld := by
    intro positive key' entry found
    rw [timeout_remove] at positive
    rw [find_remove] at found
    rw [nextSweep_remove, timeout_remove]
    split at found
    · cases found
    · exact acc.sweepsOld positive key' entry found

theorem Accounted.refuse (acc : Accounted now cache) (key : TemplateKey) :
    Accounted now (cache.refuse key) := by
  have refusing : Accounted now { cache with refusing := true } :=
    ⟨⟨acc.counted, acc.bounded, acc.past⟩, acc.withinBudget, acc.noEmptyDomain, acc.sweepsSoon,
      acc.sweepsOld⟩
  exact refusing.remove key

theorem Accounted.removeDomain (acc : Accounted now cache) (domain : UInt32) :
    Accounted now (cache.removeDomain domain) := by
  cases here : cache.domains.lookup domain with
  | none =>
    have unchanged : cache.removeDomain domain = cache := by
      simp only [TemplateCache.removeDomain, here]
    rwa [unchanged]
  | some gone =>
    have kept : (cache.removeDomain domain).nextSweep = cache.nextSweep ∧
        (cache.removeDomain domain).timeout = cache.timeout ∧
        (cache.removeDomain domain).domains = cache.domains.erase domain := by
      simp only [TemplateCache.removeDomain, here, and_self]
    obtain ⟨sweep, timeout, domains⟩ := kept
    refine ⟨acc.toValid.removeDomain domain, ?_, ?_, ?_, ?_⟩
    · have split := load_removeDomain cache here
      have budget := acc.withinBudget
      omega
    · intro domain' templates found
      rw [domains, Table.lookup_erase_eq] at found
      split at found
      · cases found
      · exact acc.noEmptyDomain domain' templates found
    · rw [sweep, timeout]
      exact acc.sweepsSoon
    · intro positive key entry found
      rw [timeout] at positive
      rw [find_removeDomain] at found
      rw [sweep, timeout]
      split at found
      · cases found
      · exact acc.sweepsOld positive key entry found

theorem Accounted.refreshDomain (acc : Accounted now cache) (domain : UInt32)
    {resolve : List F → List F} (keeps : ∀ fields, (resolve fields).length = fields.length) :
    Accounted now (cache.refreshDomain domain resolve) := by
  cases here : cache.domains.lookup domain with
  | none =>
    have unchanged : cache.refreshDomain domain resolve = cache := by
      simp only [TemplateCache.refreshDomain, here]
    rwa [unchanged]
  | some before =>
    have kept : (cache.refreshDomain domain resolve).nextSweep = cache.nextSweep ∧
        (cache.refreshDomain domain resolve).timeout = cache.timeout := by
      simp only [TemplateCache.refreshDomain, here, and_self]
    obtain ⟨sweep, timeout⟩ := kept
    refine ⟨acc.toValid.refreshDomain domain keeps, ?_, ?_, ?_, ?_⟩
    · rw [load_refreshDomain cache domain keeps]
      exact acc.withinBudget
    · intro domain' templates found
      simp only [TemplateCache.refreshDomain, here, Table.lookup_insert_eq] at found
      split at found
      · cases found
        have nonempty := acc.noEmptyDomain domain before here
        simpa [Table.filterMapValues] using nonempty
      · exact acc.noEmptyDomain domain' templates found
    · rw [sweep, timeout]
      exact acc.sweepsSoon
    · intro positive key entry found
      rw [timeout] at positive
      rw [find_refreshDomain] at found
      obtain ⟨entry', present, rfl⟩ := Option.map_eq_some_iff.mp found
      have old := acc.sweepsOld positive key entry' present
      rw [sweep, timeout]
      split <;> exact old

/-- An insert leaves the next sweep in the future. -/
theorem Accounted.insert (acc : Accounted now cache) (key : TemplateKey) (fields : List F) :
    Accounted now (cache.insert now key fields) ∧
      (0 < (cache.insert now key fields).timeout →
        now < (cache.insert now key fields).nextSweep) := by
  let Ahead (c : TemplateCache F) : Prop := Accounted now c ∧ (0 < c.timeout → now < c.nextSweep)
  have swept : ∀ {c : TemplateCache F}, Accounted now c → Ahead (c.removeExpired now) := fun acc =>
    ⟨acc.removeExpired, fun positive => Nat.lt_add_of_pos_right positive⟩
  have stored : ∀ {c : TemplateCache F}, Ahead c → c.fits key fields = true →
      Ahead (c.store now key fields) :=
    fun ahead fit => ⟨ahead.1.store fit, ahead.2⟩
  have refused : ∀ {c : TemplateCache F}, Ahead c → Ahead (c.refuse key) := by
    rintro c ⟨acc, ahead⟩
    refine ⟨acc.refuse key, ?_⟩
    rw [TemplateCache.refuse, timeout_remove, nextSweep_remove]
    exact ahead
  have first : Ahead (if now ≥ cache.nextSweep then cache.removeExpired now else cache) := by
    split
    · exact swept acc
    next early => exact ⟨acc, fun _ => Nat.lt_of_not_le early⟩
  show Ahead (cache.insert now key fields)
  unfold TemplateCache.insert
  dsimp only
  generalize (if now ≥ cache.nextSweep then cache.removeExpired now else cache) = c at first
  split
  next fit => exact stored first fit
  · have second : Ahead (if c.nextExpiry.any (now ≥ ·) then c.removeExpired now else c) := by
      split
      · exact swept first.1
      · exact first
    generalize (if c.nextExpiry.any (now ≥ ·) then c.removeExpired now else c) = c' at second
    split
    next fit => exact stored second fit
    · exact refused second

theorem Accounted.apply (acc : Accounted now cache) {call : Call F} (keeps : call.KeepsLength) :
    Accounted now (call.apply now cache) := by
  cases call with
  | get key => exact acc
  | insert key fields => exact (acc.insert key fields).1
  | remove key => exact acc.remove key
  | removeDomain domain => exact acc.removeDomain domain
  | refreshDomain domain resolve => exact acc.refreshDomain domain keeps

end

theorem accounted_run {start : Instant} {cache : TemplateCache F} (acc : Accounted start cache)
    (calls : List (Instant × Call F)) (ordered : (start :: calls.map Prod.fst).Pairwise (· ≤ ·))
    (keeps : ∀ call ∈ calls, call.2.KeepsLength) {now : Instant}
    (last : ∀ time ∈ start :: calls.map Prod.fst, time ≤ now) :
    Accounted now (run cache calls) := by
  induction calls generalizing start cache with
  | nil => exact acc.later (last start List.mem_cons_self)
  | cons call calls ih =>
    obtain ⟨first, rest⟩ := List.pairwise_cons.mp ordered
    have here := acc.later (first call.1 List.mem_cons_self)
    exact ih (here.apply (keeps call List.mem_cons_self)) rest
      (fun other mem => keeps other (List.mem_cons_of_mem call mem))
      (fun time mem => last time (List.mem_cons_of_mem start mem))

/-! ### Main result -/

/-- After any calls at non-decreasing times the count is exact and within the budget, no domain is
left empty, `nextExpiry` bounds every expiry, no subtraction of a next call goes below zero, and
after an insert every entry was sent less than two timeouts before. -/
theorem cache_accounting (timeout : Duration) (start : Instant) (calls : List (Instant × Call F))
    (ordered : (start :: calls.map Prod.fst).Pairwise (· ≤ ·))
    (keeps : ∀ call ∈ calls, call.2.KeepsLength) (now : Instant)
    (last : ∀ time ∈ start :: calls.map Prod.fst, time ≤ now) :
    let cache := run (new timeout start) calls
    cache.fields = (cache.entries.map fun entry => entry.fields.length).sum ∧
    cache.fields ≤ MAX_TEMPLATE_FIELDS ∧
    (∀ domain templates, cache.domains.lookup domain = some templates → templates.entries ≠ []) ∧
    (∀ key entry, cache.find key = some entry →
      ∃ next, cache.nextExpiry = some next ∧ next ≤ entry.sentAt + timeout) ∧
    (∀ call : Call F, call.KeepsLength →
      call.applyChecked now cache = some (call.apply now cache)) ∧
    (0 < timeout → ∀ key fields key' entry, (cache.insert now key fields).find key' = some entry →
      entry.sentAt ≤ now ∧ now - entry.sentAt < 2 * timeout) := by
  intro cache
  have acc : Accounted now cache :=
    accounted_run (accounted_new timeout start) calls ordered keeps last
  have same : cache.timeout = timeout := timeout_run (new timeout start) calls
  refine ⟨acc.counted, ?_, acc.noEmptyDomain, ?_, ?_, ?_⟩
  · rw [acc.counted]
    exact acc.withinBudget
  · rw [← same]
    exact acc.bounded
  · intro call keeps
    exact applyChecked_eq acc.toValid keeps
  · intro positive key fields key' entry found
    obtain ⟨after, ahead⟩ := acc.insert key fields
    have kept : (cache.insert now key fields).timeout = timeout :=
      (timeout_apply now cache (.insert key fields)).trans same
    have old := after.sweepsOld (by rwa [kept]) key' entry found
    have future := ahead (by rwa [kept])
    have past := after.past key' entry found
    rw [kept] at old
    exact ⟨past, Nat.sub_lt_left_of_lt_add past (future.trans old)⟩

/-- An entry that outlived its timeout is swept out by the next insert after the sweep is due. -/
theorem cache_accounting_of_a_sweep :
    let calls : List (Instant × Call Nat) :=
      [(1, .insert (7, 256) [1, 2]), (12, .insert (7, 257) [3])]
    (run (new 10 0) calls).fields = 1 ∧ (run (new 10 0) calls).find (7, 256) = none := by
  intro calls
  have keeps : ∀ call ∈ calls, call.2.KeepsLength := by simp [calls, Call.KeepsLength]
  have counted := (cache_accounting 10 0 calls (by decide) keeps 12 (by decide)).1
  exact ⟨counted.trans (by decide), by decide⟩

end Rustflow.TemplateCache
