import Rustflow.Common.World
import Rustflow.Common.TemplateCacheRefinement

/-!
# What the latest definition of a template says

A parser keeps data templates and options templates in two caches. `inForce` reads off the
journal what the most recent definition of a key, of either kind, provides at a moment: its
specifications, unless it was refused, withdrawn or has expired. `Agrees` says that each cache
shows exactly that of a key, and the steps below keep it, as long as no definition of the key
arrives while the other cache still holds a template under it.
-/

namespace Rustflow

/-! ### Lookups after each operation -/

namespace TemplateCache
variable {F : Type} (cache : TemplateCache F) (now : Instant)

theorem get_none_later {now' : Instant} (le : now ≤ now') {key : TemplateKey}
    (gone : cache.get now key = none) :
    cache.get now' key = none := by
  rw [get, Option.map_eq_none_iff, Option.filter_eq_none_iff] at *
  intro entry found
  have := gone entry found
  simp only [decide_eq_true_eq, Nat.not_lt] at this ⊢
  exact Nat.le_trans this (Nat.sub_le_sub_right le _)

theorem get_removeExpired {now' : Instant} (le : now ≤ now') (key : TemplateKey) :
    (cache.removeExpired now).get now' key = cache.get now' key := by
  rw [get, get, find_removeExpired]
  cases cache.find key with
  | none => rfl
  | some entry =>
    change Option.map _ (Option.filter (fun entry : Entry F =>
      decide (now' - entry.sentAt < cache.timeout)) _) = _
    by_cases alive : now' - entry.sentAt < cache.timeout
    · have before : now - entry.sentAt < cache.timeout :=
        Nat.lt_of_le_of_lt (Nat.sub_le_sub_right le _) alive
      simp [Option.filter, alive, before]
    · by_cases before : now - entry.sentAt < cache.timeout <;> simp [Option.filter, alive, before]

theorem get_remove (key key' : TemplateKey) :
    (cache.remove key).get now key' = if key' = key then none else cache.get now key' := by
  rw [get, find_remove, timeout_remove, get]
  split <;> rfl

theorem get_removeDomain (domain : UInt32) (key : TemplateKey) :
    (cache.removeDomain domain).get now key = if key.1 = domain then none
    else cache.get now key := by
  have same : (cache.removeDomain domain).timeout = cache.timeout :=
    timeout_apply now cache (.removeDomain domain)
  rw [get, find_removeDomain, same, get]
  split <;> rfl

theorem get_refreshDomain (domain : UInt32) (resolve : List F → List F) (key : TemplateKey) :
    (cache.refreshDomain domain resolve).get now key =
      (cache.get now key).map fun fields => if key.1 = domain then resolve fields else fields := by
  have same : (cache.refreshDomain domain resolve).timeout = cache.timeout :=
    timeout_apply now cache (.refreshDomain domain resolve)
  rw [get, find_refreshDomain, same, get]
  cases cache.find key with
  | none => rfl
  | some entry =>
    by_cases alive : now - entry.sentAt < cache.timeout <;> by_cases here : key.1 = domain <;>
      simp [Option.filter, alive, here]

/-- Counting templates out and in again can only raise a count that is below one of them, and only
once. -/
theorem foldl_recount (lengths : List Nat) (fields : Nat) :
    lengths.foldl (fun fields length => fields - length + length)
        (lengths.foldl (fun fields length => fields - length + length) fields) =
      lengths.foldl (fun fields length => fields - length + length) fields := by
  have still : ∀ (lengths : List Nat) fields, (∀ length ∈ lengths, length ≤ fields) →
      lengths.foldl (fun fields length => fields - length + length) fields = fields := by
    intro lengths
    induction lengths with
    | nil => exact fun _ _ => rfl
    | cons length lengths ih =>
      intro fields enough
      rw [List.foldl_cons, Nat.sub_add_cancel (enough length List.mem_cons_self)]
      exact ih fields fun other mem => enough other (List.mem_cons_of_mem _ mem)
  have grown : ∀ (lengths : List Nat) fields, fields ≤
      lengths.foldl (fun fields length => fields - length + length) fields ∧
      ∀ length ∈ lengths, length ≤ lengths.foldl (fun fields length => fields - length + length)
        fields := by
    intro lengths
    induction lengths with
    | nil => exact fun fields => ⟨Nat.le_refl _, fun _ mem => by cases mem⟩
    | cons length lengths ih =>
      intro fields
      obtain ⟨le, each⟩ := ih (fields - length + length)
      rw [List.foldl_cons]
      refine ⟨by omega, fun other mem => ?_⟩
      obtain rfl | mem := List.mem_cons.mp mem
      · omega
      · exact each other mem
  exact still lengths _ (grown lengths fields).2

theorem refreshDomain_twice (cache : TemplateCache F) (domain : UInt32)
    {first second : List F → List F} (same : ∀ fields, second (first fields) = second fields)
    (keeps : ∀ fields, (first fields).length = fields.length)
    (keeps' : ∀ fields, (second fields).length = fields.length) :
    (cache.refreshDomain domain first).refreshDomain domain second =
      cache.refreshDomain domain second := by
  have count : ∀ (resolve : List F → List F) (_ : ∀ fields, (resolve fields).length = fields.length)
      (entries : List (Entry F)) fields,
      entries.foldl (fun fields entry =>
        fields - entry.fields.length + (resolve entry.fields).length) fields =
        (entries.map fun entry => entry.fields.length).foldl (fun fields length =>
          fields - length + length) fields := by
    intro resolve keeps entries fields
    rw [List.foldl_map]
    simp only [keeps]
  cases found : cache.domains.lookup domain with
  | none => simp only [refreshDomain, found]
  | some templates =>
    simp only [refreshDomain, found, AList.lookup_insert, count first keeps, count second keeps',
      Table.values_map, List.map_map, Function.comp_def, AList.insert_insert,
      Table.filterMapValues_map (fun entry : Entry F =>
      { entry with fields := first entry.fields })
        (fun entry => { entry with fields := second entry.fields }), same]
    simp only [keeps, foldl_recount]
/-- `swept` is the cache after some sweeps at `now`: entries are gone, no lookup has changed. -/
structure Swept (swept : TemplateCache F) : Prop where
  timeout : swept.timeout = cache.timeout
  get : ∀ now', now ≤ now' → ∀ key, swept.get now' key = cache.get now' key
  find : ∀ key entry, swept.find key = some entry → cache.find key = some entry

theorem swept_removeExpired (due : Bool) :
    Swept cache now (if due then cache.removeExpired now else cache) := by
  cases due with
  | false => exact ⟨rfl, fun _ _ _ => rfl, fun _ _ found => found⟩
  | true =>
    refine ⟨rfl, fun now' le key => get_removeExpired cache now le key, fun key entry found => ?_⟩
    rw [if_pos rfl, find_removeExpired] at found
    exact (Option.filter_eq_some_iff.mp found).1

/-- An insert stores the template in a swept cache, or removes its key from one. -/
theorem insert_eq (key : TemplateKey) (fields : List F) :
    ∃ swept : TemplateCache F, Swept cache now swept ∧
      (cache.insert now key fields = swept.store now key fields ∨ cache.insert now key fields =
        swept.refuse key) := by
  have first := swept_removeExpired cache now (decide (now ≥ cache.nextSweep))
  simp only [decide_eq_true_eq] at first
  rw [insert]
  generalize (if now ≥ cache.nextSweep then cache.removeExpired now else cache) = c at first
  split
  · exact ⟨c, first, .inl rfl⟩
  · have second := swept_removeExpired c now (c.nextExpiry.any (now ≥ ·))
    dsimp only
    generalize (if c.nextExpiry.any (now ≥ ·) then c.removeExpired now else c) = c' at second
    refine ⟨c', ⟨second.timeout.trans first.timeout,
      fun now' le key => (second.get now' le key).trans (first.get now' le key),
      fun key entry found => first.find key entry (second.find key entry found)⟩, ?_⟩
    split
    · exact .inl rfl
    · exact .inr rfl

theorem find_refuse_self (key : TemplateKey) : (cache.refuse key).find key = none := by
  rw [refuse, find_remove, if_pos rfl]

theorem find_insert_self (key : TemplateKey) (fields : List F) :
    (cache.insert now key fields).find key = some ⟨fields, now⟩ ∨
      (cache.insert now key fields).find key = none := by
  obtain ⟨swept, _, stored | refused⟩ := insert_eq cache now key fields
  · exact .inl (by rw [stored, find_store, if_pos rfl])
  · exact .inr (by rw [refused, find_refuse_self])

theorem find_insert_new (timeout : Duration) (start now : Instant) (key : TemplateKey)
    {fields : List F} (small : fields.length ≤ MAX_TEMPLATE_FIELDS) :
    ((new timeout start).insert now key fields).find key = some ⟨fields, now⟩ := by
  have room :
      (if now ≥ (new (F := F) timeout start).nextSweep then
        (new (F := F) timeout start).removeExpired now
      else new timeout start).fits key fields = true := by
    split <;> simpa [fits, find, new, removeExpired, entries, Table.filterMapValues,
      Table.values] using small
  rw [insert, if_pos room, find_store, if_pos rfl]

theorem get_insert_new {timeout : Duration} {now now' : Instant} (soon : now' - now < timeout)
    (start : Instant) (key : TemplateKey) (fields : List F)
    (small : fields.length ≤ MAX_TEMPLATE_FIELDS) :
    ((new timeout start).insert now key fields).get now' key = some fields := by
  have kept : ((new timeout start).insert now key fields).timeout = timeout :=
    timeout_apply now (new timeout start) (.insert key fields)
  rw [get, find_insert_new timeout start now key small, kept]
  simp [Option.filter, soon]
theorem get_insert_other {now' : Instant} (le : now ≤ now') {key key' : TemplateKey}
    (other : key' ≠ key) (fields : List F) :
    (cache.insert now key fields).get now' key' = cache.get now' key' := by
  obtain ⟨swept, same, stored | refused⟩ := insert_eq cache now key fields
  · rw [stored, ← same.get now' le, get, find_store, if_neg other]
    rfl
  · rw [refused, ← same.get now' le]
    exact (get_remove { swept with refusing := true } now' key key').trans (if_neg other)

theorem find_insert_other {key key' : TemplateKey} (other : key' ≠ key) {fields : List F}
    {entry : Entry F} (found : (cache.insert now key fields).find key' = some entry) :
    cache.find key' = some entry := by
  obtain ⟨swept, same, stored | refused⟩ := insert_eq cache now key fields
  · rw [stored, find_store, if_neg other] at found
    exact same.find key' entry found
  · rw [refused, refuse, find_remove, if_neg other] at found
    exact same.find key' entry found

end TemplateCache

/-! ### The latest definition -/

section
variable {S F : Type}

/-- The most recent definition of a key, of either kind, and whether it has been withdrawn since. -/
def latest (key : TemplateKey) : List (TemplateEvent S) → Option (Definition S × Bool)
  | [] => none
  | .define definition :: past => if definition.key = key then some (definition, false)
      else latest key past
  | .withdraw kind key' :: past =>
    (latest key past).map fun (definition, gone) =>
      (definition, gone || decide (definition.kind = kind ∧ key = key'))
  | .withdrawAll kind domain :: past =>
    (latest key past).map fun (definition, gone) =>
      (definition, gone || decide (definition.kind = kind ∧ key.1 = domain))

/-- The definition was stored, is not withdrawn and has not expired. -/
def Holds (timeout : Duration) (now : Instant) (definition : Definition S) (gone : Bool) : Prop :=
  definition.stored = true ∧ gone = false ∧ now - definition.sentAt < timeout

instance (timeout : Duration) (now : Instant) (definition : Definition S) (gone : Bool) :
    Decidable (Holds timeout now definition gone) := inferInstanceAs (Decidable (_ ∧ _ ∧ _))

/-- The specifications that a kind of template has under a key: those of the latest definition, if
it is of this kind and holds. -/
def inForce (timeout : Duration) (now : Instant) (journal : List (TemplateEvent S))
    (kind : TemplateKind) (key : TemplateKey) : Option (List S) :=
  (latest key journal).bind fun (definition, gone) =>
    if definition.kind = kind ∧ Holds timeout now definition gone then
      some definition.specs else none

/-- No definition of the key arrived while the other cache held an unexpired template under it. -/
def Uncrossed (key : TemplateKey) (journal : List (TemplateEvent S)) : Prop :=
  ∀ definition, TemplateEvent.define definition ∈ journal → definition.key = key →
    definition.crossed = false

theorem Uncrossed.of_cons {key : TemplateKey} {event : TemplateEvent S}
    {journal : List (TemplateEvent S)} (uncrossed : Uncrossed key (event :: journal)) :
    Uncrossed key journal :=
  fun definition mem => uncrossed definition (List.mem_cons_of_mem _ mem)

/-- Both caches show at `now` what the latest definition of the key says. -/
def Agrees (specOf : F → S) (timeout : Duration) (caches : TemplateKind → TemplateCache F)
    (journal : List (TemplateEvent S)) (key : TemplateKey) (now : Instant) : Prop :=
  ∀ kind, ((caches kind).get now key).map (List.map specOf) = inForce timeout now journal kind key

theorem TemplateKind.eq_other {kind kind' : TemplateKind} (ne : kind' ≠ kind) :
    kind' = kind.other := by
  cases kind <;> cases kind' <;> first | rfl | exact absurd rfl ne

theorem inForce_define {timeout : Duration} {now : Instant} {definition : Definition S}
    {journal : List (TemplateEvent S)} {kind : TemplateKind} {key : TemplateKey} :
    inForce timeout now (.define definition :: journal) kind key =
      if definition.key = key then
        if definition.kind = kind ∧ Holds timeout now definition false then
          some definition.specs else none
      else inForce timeout now journal kind key := by
  simp only [inForce, latest]
  split
  · rw [Option.bind_some]
  · rfl

/-- A withdrawal hits what the kind has under the keys it names. -/
theorem inForce_gone {timeout : Duration} {now : Instant} {journal : List (TemplateEvent S)}
    {kind kind' : TemplateKind} {key : TemplateKey} (hit : Prop) [Decidable hit]
    {event : TemplateEvent S} (step : latest key (event :: journal) =
      (latest key journal).map fun (definition, gone) =>
      (definition, gone || decide (definition.kind = kind ∧ hit))) :
    inForce timeout now (event :: journal) kind' key =
      if kind' = kind ∧ hit then none else inForce timeout now journal kind' key := by
  rw [inForce, step, inForce]
  cases latest key journal with
  | none => simp
  | some found =>
    obtain ⟨definition, gone⟩ := found
    simp only [Option.map_some, Option.bind_some, Holds]
    by_cases same : definition.kind = kind'
    · subst same
      by_cases strikes : definition.kind = kind ∧ hit <;> simp [strikes]
    · simp [same]

variable {specOf : F → S} {timeout : Duration} {caches : TemplateKind → TemplateCache F}
  {journal : List (TemplateEvent S)} {key : TemplateKey} {now now' : Instant}

theorem Agrees.define (agrees : Agrees specOf timeout caches journal key now') (le : now ≤ now')
    (timeouts : ∀ kind, (caches kind).timeout = timeout) (definition : Definition S)
    (fields : List F) (specs : definition.specs = fields.map specOf)
    (sentAt : definition.sentAt = now)
    (stored : definition.stored =
      (((caches definition.kind).insert now definition.key fields).find definition.key).isSome)
        (uncrossed : definition.key = key → (caches definition.kind.other).get now key = none) :
    Agrees specOf timeout
      (Function.update caches definition.kind
        ((caches definition.kind).insert now definition.key fields))
      (.define definition :: journal) key now' := by
  intro kind
  rw [inForce_define]
  by_cases sameKey : definition.key = key
  · subst sameKey
    rw [if_pos rfl]
    by_cases sameKind : kind = definition.kind
    · subst sameKind
      have kept : ((caches definition.kind).insert now definition.key fields).timeout = timeout :=
        (TemplateCache.timeout_apply now (caches definition.kind)
          (.insert definition.key fields)).trans
          (timeouts definition.kind)
      rw [Function.update_self, TemplateCache.get, kept]
      rcases TemplateCache.find_insert_self (caches definition.kind) now definition.key fields
        with found | found <;>
        rw [found] at stored ⊢
      · by_cases alive : now' - now < timeout <;> simp [Option.filter, Holds, stored, sentAt,
          alive, specs]
      · simp [Option.filter, Holds, stored]
    · rw [Function.update_of_ne sameKind, if_neg fun here => sameKind here.1.symm,
        TemplateKind.eq_other sameKind, TemplateCache.get_none_later _ now le (uncrossed rfl)]
      rfl
  · rw [if_neg sameKey, ← agrees kind]
    by_cases sameKind : kind = definition.kind
    · subst sameKind
      rw [Function.update_self, TemplateCache.get_insert_other _ now le (Ne.symm sameKey)]
    · rw [Function.update_of_ne sameKind]

theorem Agrees.withdraw (agrees : Agrees specOf timeout caches journal key now')
    (kind : TemplateKind) (key' : TemplateKey) :
    Agrees specOf timeout (Function.update caches kind ((caches kind).remove key'))
        (.withdraw kind key' :: journal) key now' := by
  intro kind'
  rw [inForce_gone (key = key') rfl, ← agrees kind']
  by_cases sameKind : kind' = kind
  · subst sameKind
    rw [Function.update_self, TemplateCache.get_remove]
    by_cases sameKey : key = key' <;> simp [sameKey]
  · rw [Function.update_of_ne sameKind, if_neg fun here => sameKind here.1]

theorem Agrees.withdrawAll (agrees : Agrees specOf timeout caches journal key now')
    (kind : TemplateKind) (domain : UInt32) :
    Agrees specOf timeout (Function.update caches kind ((caches kind).removeDomain domain))
        (.withdrawAll kind domain :: journal) key now' := by
  intro kind'
  rw [inForce_gone (key.1 = domain) rfl, ← agrees kind']
  by_cases sameKind : kind' = kind
  · subst sameKind
    rw [Function.update_self, TemplateCache.get_removeDomain]
    by_cases here : key.1 = domain <;> simp [here]
  · rw [Function.update_of_ne sameKind, if_neg fun here => sameKind here.1]

/-- Resolving the fields of a domain anew keeps their specifications. -/
theorem Agrees.refresh (agrees : Agrees specOf timeout caches journal key now') (domain : UInt32)
    {resolve : List F → List F} (keeps : ∀ fields, (resolve fields).map specOf =
      fields.map specOf) :
    Agrees specOf timeout (fun kind => (caches kind).refreshDomain domain resolve) journal key
      now' := by
  intro kind
  rw [← agrees kind, TemplateCache.get_refreshDomain, Option.map_map]
  refine Option.map_congr fun fields _ => ?_
  simp only [Function.comp_apply]
  split
  · exact keeps fields
  · rfl

/-- What `effective` finds, where the caches agree with the journal at both of its readings. -/
theorem effective_of_agrees {clock : Nat → Instant} {ticks : Nat}
    (first : Agrees specOf timeout caches journal key (clock ticks))
    (second : Agrees specOf timeout caches journal key (clock (ticks + 1))) :
    (effective clock (caches .data) (caches .options) key ticks).map (fun (kind, fields) =>
      (kind, fields.map specOf)) =
      ((inForce timeout (clock ticks) journal .data key).map fun specs =>
        (TemplateKind.data, specs)).or
        ((inForce timeout (clock (ticks + 1)) journal .options key).map fun specs =>
          (TemplateKind.options, specs)) := by
  rw [← first .data, ← second .options, effective]
  cases (caches .data).get (clock ticks) key <;>
    cases (caches .options).get (clock (ticks + 1)) key <;> rfl

end

end Rustflow
