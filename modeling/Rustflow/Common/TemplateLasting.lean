import Rustflow.Common.TemplateCount
import Mathlib.Data.Set.Card

/-!
# Templates that last

A template is still held after the records of a packet unless one of them withdraws it last, it
expires meanwhile or there is no room for what is defined. Nothing expires where nothing is defined.
-/

namespace Rustflow.TemplateCache
variable {F : Type}

/-- What a template record asks of a cache: a definition of a number of fields, or a withdrawal. -/
inductive Request where
  | define (key : TemplateKey) (size : Nat)
  | withdraw (key : TemplateKey)
  | withdrawAll (domain : UInt32)

namespace Request

def size : Request → Nat
  | .define _ size => size
  | .withdraw _ | .withdrawAll _ => 0

/-- Whether a template is held after the request, if there is room. -/
def Leaves (key : TemplateKey) (held : Prop) : Request → Prop
  | .define key' _ => key = key' ∨ held
  | .withdraw key' => key ≠ key' ∧ held
  | .withdrawAll domain => key.1 ≠ domain ∧ held

/-- The call that a cache gets for a request. Without one, templates may be resolved again. -/
inductive MadeAs : Option Request → Call F → Prop where
  | define (key : TemplateKey) (fields : List F) : MadeAs (some (.define key fields.length))
      (.insert key fields)
  | withdraw (key : TemplateKey) : MadeAs (some (.withdraw key)) (.remove key)
  | withdrawAll (domain : UInt32) : MadeAs (some (.withdrawAll domain)) (.removeDomain domain)
  | get (key : TemplateKey) : MadeAs none (.get key)
  | refresh (domain : UInt32) {resolve : List F → List F} (keeps : ∀ fields,
      (resolve fields).length = fields.length) :
      MadeAs none (.refreshDomain domain resolve)

end Request

/-- What a cache keeps of a call is within the budget and has at most the fields that are asked for
beside its own. -/
theorem Within.apply {cache : TemplateCache F} (within : Within cache) (now : Instant)
    {request : Option Request} {call : Call F} (made : Request.MadeAs request call) :
    Within (call.apply now cache) ∧ (call.apply now cache).load ≤
      cache.load + (request.toList.map Request.size).sum := by
  cases made with
  | define key fields =>
    refine ⟨within.insert now key fields, ?_⟩
    refine (insert_induction (I := fun c => Within c ∧ c.load ≤ cache.load)
      (J := fun c => c.load ≤ cache.load + fields.length) ⟨within, Nat.le_refl _⟩ ?_ ?_ ?_ : _)
    · intro c ⟨within, le⟩
      exact ⟨within.removeExpired now, (load_removeExpired_le c now).trans le⟩
    · intro c ⟨_, le⟩ _
      have whole := loadOthers_add_loadOf c key
      rw [load_store]
      omega
    · intro c ⟨_, le⟩
      have whole := loadOthers_add_loadOf { c with refusing := true } key
      change _ = c.load at whole
      rw [refuse, load_remove]
      omega
  | withdraw key =>
    have whole := loadOthers_add_loadOf cache key
    refine ⟨within.remove key, ?_⟩
    change (cache.remove key).load ≤ _
    rw [load_remove]
    omega
  | withdrawAll domain =>
    refine ⟨within.removeDomain domain, ?_⟩
    change (cache.removeDomain domain).load ≤ _
    cases found : cache.domains.lookup domain with
    | none =>
      have unchanged : cache.removeDomain domain = cache := by
        simp only [TemplateCache.removeDomain, found]
      rw [unchanged]
      exact Nat.le_add_right _ _
    | some gone =>
      have split := load_removeDomain cache found
      omega
  | get key => exact ⟨within, Nat.le_add_right _ _⟩
  | refresh domain keeps =>
    exact ⟨within.refreshDomain domain keeps, Nat.le_of_eq (load_refreshDomain cache domain keeps)⟩

theorem Within.load_insert_le {cache : TemplateCache F} (within : Within cache) (now : Instant)
    (key : TemplateKey) (fields : List F) :
    (cache.insert now key fields).load ≤ cache.load + fields.length :=
  (within.apply now (.define key fields)).2

/-! ### How many there may be -/

/-- A call stores no template but that it defines. -/
theorem find_apply {cache : TemplateCache F} {now : Instant} {request : Option Request}
    {call : Call F} (made : Request.MadeAs request call) {key : TemplateKey} {entry : Entry F}
    (found : (call.apply now cache).find key = some entry) :
    (∃ before, cache.find key = some before ∧ entry.fields.length = before.fields.length) ∨
      .define key entry.fields.length ∈ request.toList := by
  cases made with
  | define key' fields =>
    obtain before | ⟨rfl, rfl⟩ := find_insert found
    · exact .inl ⟨entry, before, rfl⟩
    · exact .inr (List.mem_singleton_self _)
  | withdraw key' =>
    change (cache.remove key').find key = _ at found
    rw [find_remove] at found
    split at found
    · cases found
    · exact .inl ⟨entry, found, rfl⟩
  | withdrawAll domain =>
    change (cache.removeDomain domain).find key = _ at found
    rw [find_removeDomain] at found
    split at found
    · cases found
    · exact .inl ⟨entry, found, rfl⟩
  | get _ => exact .inl ⟨entry, found, rfl⟩
  | @refresh domain resolve keeps =>
    change (cache.refreshDomain domain resolve).find key = _ at found
    rw [find_refreshDomain] at found
    obtain ⟨before, there, rfl⟩ := Option.map_eq_some_iff.mp found
    refine .inl ⟨before, there, ?_⟩
    split
    · exact keeps _
    · rfl

/-- The keys that templates are stored under or asked to be. -/
def keysWith (cache : TemplateCache F) (requests : List Request) : Set TemplateKey :=
  {key | cache.find key ≠ none ∨ ∃ size, .define key size ∈ requests}

/-- What is asked for leaves no more templates than the budget has fields: each has a field, or
there are not more keys. -/
def Affords (cache : TemplateCache F) (requests : List Request) : Prop :=
  (cache.HasFields ∧ ∀ key size, .define key size ∈ requests → size ≠ 0) ∨
    (cache.keysWith requests).ncard ≤ MAX_TEMPLATE_FIELDS

theorem finite_keys (keys : Set TemplateKey) : keys.Finite := by
  have domains : Finite UInt32 := .of_injective UInt32.toFin fun _ _ => UInt32.toFin_inj.mp
  have ids : Finite UInt16 := .of_injective UInt16.toFin fun _ _ => UInt16.toFin_inj.mp
  exact Set.toFinite keys

theorem Affords.length_entries_le {cache : TemplateCache F} (affords : cache.Affords [])
    (within : Within cache) :
    cache.entries.length ≤ MAX_TEMPLATE_FIELDS := by
  obtain ⟨has, -⟩ | few := affords
  · exact TemplateCache.length_entries_le within has
  · refine Nat.le_trans ?_ few
    have finite := finite_keys (cache.keysWith [])
    rw [entries, ← Table.values_flatten, Table.length_values, Set.ncard_eq_toFinset_card _ finite]
    refine Table.size_le_card fun key entry found => finite.mem_toFinset.mpr (.inl ?_)
    rw [find_eq, found]
    exact Option.some_ne_none entry

theorem Affords.apply {cache : TemplateCache F} {now : Instant} {request : Option Request}
    {call : Call F} (made : Request.MadeAs request call) {requests : List Request}
    (affords : cache.Affords (request.toList ++ requests)) :
    (call.apply now cache).Affords requests := by
  refine affords.imp ?_ ?_
  · rintro ⟨has, some_⟩
    refine ⟨fun key entry found => ?_,
      fun key size mem => some_ key size (List.mem_append_right _ mem)⟩
    refine List.length_pos_iff.mp (Nat.pos_of_ne_zero ?_)
    obtain ⟨before, there, same⟩ | defined := find_apply made found
    · rw [same]
      exact (List.length_pos_iff.mpr (has key before there)).ne'
    · exact some_ key _ (List.mem_append_left _ defined)
  · refine (Set.ncard_le_ncard ?_ (finite_keys _)).trans
    rintro key (found | ⟨size, mem⟩)
    · obtain ⟨entry, found⟩ := Option.ne_none_iff_exists'.mp found
      obtain ⟨before, there, -⟩ | defined := find_apply made found
      · exact .inl (there ▸ Option.some_ne_none before)
      · exact .inr ⟨_, List.mem_append_left _ defined⟩
    · exact .inr ⟨size, List.mem_append_right _ mem⟩

/-! ### Which there are -/

/-- A template is stored that has not expired at any reading of a clock. -/
def Fresh (clock : Nat → Instant) (cache : TemplateCache F) (key : TemplateKey) : Prop :=
  ∃ entry, cache.find key = some entry ∧ ∀ n, clock n - entry.sentAt < cache.timeout

/-- There is room for all that is asked for, if the template is among it. -/
def Room (cache : TemplateCache F) (key : TemplateKey) (requests : List Request) : Prop :=
  (∃ size, .define key size ∈ requests) → cache.load + (requests.map Request.size).sum ≤
    MAX_TEMPLATE_FIELDS

/-- A template is held after what is asked for: nothing else is defined, or it has not expired by
then and there is room. -/
def Outlasts (clock : Nat → Instant) (cache : TemplateCache F) (key : TemplateKey)
    (requests : List Request) : Prop :=
  (∀ key' size, .define key' size ∉ requests) ∧
    requests.foldl (Request.Leaves key) (cache.find key ≠ none) ∨
    (∀ n m, clock n - clock m < cache.timeout) ∧ cache.Room key requests ∧
      requests.foldl (Request.Leaves key) (cache.Fresh clock key)

theorem find_insert_fresh {cache : TemplateCache F} {now : Instant} {key key' : TemplateKey}
    {fields : List F} {entry : Entry F} (other : key' ≠ key) (found : cache.find key' = some entry)
    (alive : now - entry.sentAt < cache.timeout) :
    (cache.insert now key fields).find key' = some entry := by
  refine insert_induction (I := fun c => c.find key' = some entry ∧ c.timeout = cache.timeout)
    (J := fun c => c.find key' = some entry) ⟨found, rfl⟩ ?_ ?_ ?_
  · intro c ⟨found, timeout⟩
    refine ⟨?_, timeout⟩
    rw [find_removeExpired, found, Option.filter_some, timeout, if_pos (decide_eq_true alive)]
  · intro c ⟨found, _⟩ _
    rwa [find_store, if_neg other]
  · intro c ⟨found, _⟩
    rwa [refuse, find_remove, if_neg other]

section
variable {clock : Nat → Instant} {cache : TemplateCache F} {key : TemplateKey} {held : Prop}

theorem Fresh.apply (within : Within cache) (quick : ∀ n m, clock n - clock m < cache.timeout)
    {request : Option Request} {call : Call F} (made : Request.MadeAs request call) (n : Nat)
    (start : held → cache.Fresh clock key) (room : cache.Room key request.toList)
    (leaves : request.toList.foldl (Request.Leaves key) held) :
    (call.apply (clock n) cache).Fresh clock key := by
  have timeout := timeout_apply (clock n) cache call
  unfold Fresh
  rw [timeout]
  cases made with
  | define key' fields =>
    by_cases same : key = key'
    · subst same
      have room : cache.load + fields.length ≤ MAX_TEMPLATE_FIELDS :=
        room ⟨_, List.mem_singleton_self _⟩
      refine ⟨⟨fields, clock n⟩, ?_, fun m => quick m n⟩
      exact (find_insert_of_room within (clock n) key key room).trans (if_pos rfl)
    · obtain ⟨entry, found, alive⟩ := start (leaves.resolve_left same)
      exact ⟨entry, find_insert_fresh same found (alive n), alive⟩
  | withdraw key' =>
    obtain ⟨other, held⟩ := leaves
    obtain ⟨entry, found, alive⟩ := start held
    exact ⟨entry, (find_remove cache key' key).trans ((if_neg other).trans found), alive⟩
  | withdrawAll domain =>
    obtain ⟨other, held⟩ := leaves
    obtain ⟨entry, found, alive⟩ := start held
    exact ⟨entry, (find_removeDomain cache domain key).trans ((if_neg other).trans found), alive⟩
  | get _ => exact start leaves
  | @refresh domain resolve _ =>
    obtain ⟨entry, found, alive⟩ := start leaves
    have after := find_refreshDomain cache domain resolve key
    rw [found, Option.map_some] at after
    refine ⟨_, after, fun m => ?_⟩
    split
    · exact alive m
    · exact alive m

/-- Where nothing is defined, a template stays until it is withdrawn. -/
theorem find_apply_ne_none {now : Instant} {request : Option Request} {call : Call F}
    (made : Request.MadeAs request call) (undefined : ∀ key size, .define key size ∉ request.toList)
    (start : held → cache.find key ≠ none)
    (leaves : request.toList.foldl (Request.Leaves key) held) :
    (call.apply now cache).find key ≠ none := by
  cases made with
  | define key' fields => exact absurd (List.mem_singleton_self _) (undefined key' fields.length)
  | withdraw key' =>
    obtain ⟨other, held⟩ := leaves
    exact (find_remove cache key' key).trans (if_neg other) ▸ start held
  | withdrawAll domain =>
    obtain ⟨other, held⟩ := leaves
    exact (find_removeDomain cache domain key).trans (if_neg other) ▸ start held
  | get _ => exact start leaves
  | @refresh domain resolve _ =>
    have after := find_refreshDomain cache domain resolve key
    intro none
    exact start leaves (Option.map_eq_none_iff.mp (after.symm.trans none))

/-- A cache in which nothing expires at any reading of the clock, whatever is inserted. -/
structure Lasting (clock : Nat → Instant) (cache : TemplateCache F) : Prop where
  within : Within cache
  fresh : ∀ key entry, cache.find key = some entry → ∀ n, clock n - entry.sentAt < cache.timeout
  quick : ∀ n m, clock n - clock m < cache.timeout

theorem lasting_new {timeout : Duration} (quick : ∀ n m, clock n - clock m < timeout)
    (now : Instant) :
    Lasting clock (new timeout now : TemplateCache F) where
  within := within_new timeout now
  fresh key entry found := by simp [find, new] at found
  quick := quick

theorem Lasting.get (lasting : cache.Lasting clock) (n : Nat) (key : TemplateKey) :
    cache.get (clock n) key = (cache.find key).map Entry.fields := by
  unfold TemplateCache.get
  cases found : cache.find key with
  | none => rfl
  | some entry => rw [Option.filter_some, if_pos (decide_eq_true (lasting.fresh key entry found n))]

theorem Lasting.insert (lasting : cache.Lasting clock) (n : Nat) (key : TemplateKey)
    (fields : List F) :
    (cache.insert (clock n) key fields).Lasting clock := by
  have timeout : (cache.insert (clock n) key fields).timeout = cache.timeout :=
    timeout_apply (clock n) cache (.insert key fields)
  refine ⟨lasting.within.insert (clock n) key fields, ?_, by rw [timeout]; exact lasting.quick⟩
  rw [timeout]
  intro key' entry found
  obtain before | ⟨_, rfl⟩ := find_insert found
  · exact lasting.fresh key' entry before
  · exact fun m => lasting.quick m n

/-- An insert that there is room for adds a template and changes no other. -/
theorem Lasting.get_insert (lasting : cache.Lasting clock) (n m : Nat) (key key' : TemplateKey)
    {fields : List F} (room : cache.load + fields.length ≤ MAX_TEMPLATE_FIELDS) :
    (cache.insert (clock n) key fields).get (clock m) key' = if key' = key then some fields
    else cache.get (clock m) key' := by
  rw [(lasting.insert n key fields).get, lasting.get,
    find_insert_of_room lasting.within (clock n) key key' room]
  by_cases same : key' = key
  · rw [if_pos same, if_pos same]
    rfl
  · rw [if_neg same, if_neg same]
    split
    · rw [find_removeExpired]
      cases found : cache.find key' with
      | none => rfl
      | some entry =>
        rw [Option.filter_some, if_pos (decide_eq_true (lasting.fresh key' entry found n))]
    · rfl

end

end Rustflow.TemplateCache
