import Rustflow.Lib.CappedTable
import Mathlib.Data.UInt

/-!
# Sampling rates of a domain

`Domain` of `rustflow/src/processor.rs`: the sampling rates that options records state, and the one
a data record gets.
-/

namespace Rustflow

/-- Samplers one domain may have rates for. -/
def MAX_SAMPLERS : Nat := 1024

/-- What the options records of one observation domain said. -/
structure Domain where
  /-- The field `sampling_rate`, from options records that name no sampler. -/
  ownRate : Option UInt32 := none
  samplerRates : Table UInt64 UInt32 := ∅
  /-- The rate all of `samplerRates` share, if they agree. -/
  sharedSamplerRate : Option UInt32 := none
  systemInitTimeMs : Option Int := none

/-- The rate that all values visited are, if any are. -/
def commonRate : List UInt32 → Option UInt32
  | [] => none
  | first :: rates => if rates.all (· == first) then some first else none

namespace Domain

def setSamplingRate (self : Domain) (order : IterationOrder UInt32) (samplerId : Option UInt64)
    (rate : UInt32) :
    Domain :=
  let self :=
    match samplerId with
    | none => { self with ownRate := some rate }
    | some id =>
      if self.samplerRates.size < MAX_SAMPLERS then
        { self with samplerRates := self.samplerRates.insert id rate }
      else
        match self.samplerRates.lookup id with
        | some _ => { self with samplerRates := self.samplerRates.insert id rate }
        | none => self
  { self with sharedSamplerRate := commonRate (order.arrange self.samplerRates.values) }

/-- The rate of a data record that names this sampler, or none. -/
def samplingRate (self : Domain) (samplerId : Option UInt64) : Option UInt32 :=
  if self.samplerRates.size = 0 then self.ownRate
  else ((samplerId.bind self.samplerRates.lookup).or self.ownRate).or self.sharedSamplerRate

end Domain

/-- A call of `setSamplingRate`, with the order in which it visits the samplers. -/
structure RateCall where
  order : IterationOrder UInt32
  samplerId : Option UInt64
  rate : UInt32

namespace Domain

def after (calls : List RateCall) : Domain :=
  calls.foldl (fun domain call => domain.setSamplingRate call.order call.samplerId call.rate) {}

/-- The rate last set for a sampler, or for none. -/
def lastRate (calls : List RateCall) (samplerId : Option UInt64) : Option UInt32 :=
  CappedTable.lastWrite (calls.map fun call => (call.samplerId, call.rate)) samplerId

/-- The first samplers that rates were set for. -/
def tracked (calls : List RateCall) : List UInt64 :=
  CappedTable.firstKeys MAX_SAMPLERS (calls.filterMap (·.samplerId))

/-- The rates set for samplers. -/
def samplerWrites (calls : List RateCall) : List (UInt64 × UInt32) :=
  calls.filterMap fun call => call.samplerId.map (·, call.rate)

theorem samplerWrites_keys (calls : List RateCall) :
    (samplerWrites calls).map Prod.fst = calls.filterMap (·.samplerId) := by
  unfold samplerWrites
  rw [List.map_filterMap]
  congr 1
  funext call
  cases call.samplerId <;> rfl

theorem lastRate_snoc (calls : List RateCall) (call : RateCall) (samplerId : Option UInt64) :
    lastRate (calls ++ [call]) samplerId =
      if call.samplerId = samplerId then some call.rate else lastRate calls samplerId := by
  unfold lastRate
  rw [List.map_append]
  exact CappedTable.lastWrite_snoc _ _ _ _

theorem samplerWrites_snoc (calls : List RateCall) (call : RateCall) :
    samplerWrites (calls ++ [call]) = samplerWrites calls ++
      (call.samplerId.map (·, call.rate)).toList := by
  unfold samplerWrites
  rw [List.filterMap_append]
  cases named : call.samplerId <;> simp [named]

theorem lastWrite_samplerWrites (calls : List RateCall) (id : UInt64) :
    CappedTable.lastWrite (samplerWrites calls) id = lastRate calls (some id) := by
  induction calls using List.reverseRecOn with
  | nil => rfl
  | append_singleton calls call ih =>
    rw [lastRate_snoc, samplerWrites_snoc]
    cases call.samplerId with
    | none =>
      rw [if_neg nofun, ← ih]
      simp
    | some named =>
      show CappedTable.lastWrite (samplerWrites calls ++ [(named, call.rate)]) id = _
      rw [CappedTable.lastWrite_snoc, ih]
      simp

theorem commonRate_eq_some {rates : List UInt32} {rate : UInt32} :
    commonRate rates = some rate ↔ rates ≠ [] ∧ ∀ r ∈ rates, r = rate := by
  cases rates with
  | nil => simp [commonRate]
  | cons first rates =>
    rw [commonRate]
    by_cases agree : rates.all (· == first)
    · rw [if_pos agree, Option.some_inj]
      simp only [List.all_eq_true, beq_iff_eq] at agree
      constructor
      · rintro rfl
        exact ⟨List.cons_ne_nil _ _, List.forall_mem_cons.mpr ⟨rfl, agree⟩⟩
      · rintro ⟨_, all⟩
        exact all first List.mem_cons_self
    · rw [if_neg agree]
      refine ⟨nofun, fun ⟨_, all⟩ => absurd ?_ agree⟩
      obtain ⟨here, rest⟩ := List.forall_mem_cons.mp all
      simp only [List.all_eq_true, beq_iff_eq]
      exact fun r mem => (rest r mem).trans here.symm

/-- The samplers' table is written as one with room for `MAX_SAMPLERS`. -/
theorem setSamplingRate_parts (self : Domain) (order : IterationOrder UInt32)
    (samplerId : Option UInt64) (rate : UInt32) :
    (self.setSamplingRate order samplerId rate).ownRate = (if samplerId = none then some rate
      else self.ownRate) ∧
      (self.setSamplingRate order samplerId rate).samplerRates =
        samplerId.elim self.samplerRates (CappedTable.put MAX_SAMPLERS self.samplerRates · rate) ∧
      (self.setSamplingRate order samplerId rate).sharedSamplerRate =
        commonRate
          (order.arrange (self.setSamplingRate order samplerId rate).samplerRates.values) := by
  cases samplerId with
  | none => exact ⟨rfl, rfl, rfl⟩
  | some id =>
    unfold setSamplingRate CappedTable.put
    dsimp only [Option.elim_some]
    by_cases room : self.samplerRates.size < MAX_SAMPLERS
    · rw [if_pos room, if_pos (Or.inl room)]
      exact ⟨rfl, rfl, rfl⟩
    · rw [if_neg room]
      cases self.samplerRates.lookup id with
      | none =>
        rw [if_neg (not_or.mpr ⟨room, by simp⟩)]
        exact ⟨rfl, rfl, rfl⟩
      | some known =>
        rw [if_pos (Or.inr (by simp))]
        exact ⟨rfl, rfl, rfl⟩

/-- What a domain holds after calls. -/
structure Follows (calls : List RateCall) (domain : Domain) : Prop where
  own : domain.ownRate = lastRate calls none
  samplers : CappedTable.Tracks MAX_SAMPLERS (samplerWrites calls) domain.samplerRates
  shared : ∃ order : IterationOrder UInt32,
    domain.sharedSamplerRate = commonRate (order.arrange domain.samplerRates.values)

theorem follows_after (calls : List RateCall) : Follows calls (after calls) := by
  induction calls using List.reverseRecOn with
  | nil => exact ⟨rfl, CappedTable.Tracks.nil, ⟨⟨id, fun _ => .refl _⟩, rfl⟩⟩
  | append_singleton calls call ih =>
    have step : after (calls ++ [call]) =
        (after calls).setSamplingRate call.order call.samplerId call.rate :=
      List.foldl_append
    obtain ⟨own, samplers, shared⟩ :=
      (after calls).setSamplingRate_parts call.order call.samplerId call.rate
    rw [step]
    refine ⟨?_, ?_, call.order, shared⟩
    · rw [own, lastRate_snoc, ih.own]
    · rw [samplers, samplerWrites_snoc]
      cases call.samplerId with
      | none => simpa using ih.samplers
      | some named => exact ih.samplers.put named call.rate

theorem Follows.lookup {calls : List RateCall} {domain : Domain} (follows : Follows calls domain)
    (id : UInt64) :
    domain.samplerRates.lookup id = if id ∈ tracked calls then lastRate calls (some id)
    else none := by
  rw [follows.samplers.lookup, samplerWrites_keys, lastWrite_samplerWrites]
  rfl

theorem Follows.shared_eq_some {calls : List RateCall} {domain : Domain}
    (follows : Follows calls domain) {rate : UInt32} :
    domain.sharedSamplerRate = some rate ↔
      tracked calls ≠ [] ∧ ∀ id ∈ tracked calls, lastRate calls (some id) = some rate := by
  obtain ⟨order, shared⟩ := follows.shared
  have mem : ∀ r, r ∈ order.arrange domain.samplerRates.values ↔
      ∃ id ∈ tracked calls, lastRate calls (some id) = some r := by
    intro r
    rw [(order.perm _).mem_iff, Table.mem_values]
    simp only [follows.lookup, Option.ite_none_right_eq_some]
  have known : ∀ id ∈ tracked calls, ∃ r, lastRate calls (some id) = some r := by
    intro id named
    have some := follows.samplers.known (k := id)
    rw [follows.lookup, samplerWrites_keys, if_pos named] at some
    exact Option.isSome_iff_exists.mp (some.mpr named)
  rw [shared, commonRate_eq_some]
  constructor
  · rintro ⟨some, all⟩
    obtain ⟨r, there⟩ := List.exists_mem_of_ne_nil _ some
    obtain ⟨id, named, _⟩ := (mem r).mp there
    refine ⟨List.ne_nil_of_mem named, fun id' named' => ?_⟩
    obtain ⟨r', last⟩ := known id' named'
    rw [last, all r' ((mem r').mpr ⟨id', named', last⟩)]
  · rintro ⟨some, all⟩
    obtain ⟨id, named⟩ := List.exists_mem_of_ne_nil _ some
    refine ⟨List.ne_nil_of_mem ((mem rate).mpr ⟨id, named, all id named⟩), fun r there => ?_⟩
    obtain ⟨id', named', last⟩ := (mem r).mp there
    rw [all id' named'] at last
    exact (Option.some.inj last).symm

/-- The order of precedence, whether or not there are samplers. -/
theorem Follows.samplingRate {calls : List RateCall} {domain : Domain}
    (follows : Follows calls domain) (samplerId : Option UInt64) :
    domain.samplingRate samplerId =
      ((samplerId.bind domain.samplerRates.lookup).or (lastRate calls none)).or
        domain.sharedSamplerRate := by
  unfold Domain.samplingRate
  rw [follows.own]
  split
  · next empty =>
    rw [follows.samplers.size, samplerWrites_keys, List.length_eq_zero_iff] at empty
    have nobody : samplerId.bind domain.samplerRates.lookup = none := by
      cases samplerId with
      | none => rfl
      | some id =>
        show domain.samplerRates.lookup id = none
        rw [follows.lookup, show tracked calls = [] from empty, if_neg List.not_mem_nil]
    have unshared : domain.sharedSamplerRate = none := by
      refine Option.eq_none_iff_forall_ne_some.mpr fun rate shared => ?_
      exact (follows.shared_eq_some.mp shared).1 empty
    rw [nobody, unshared, Option.none_or, Option.or_none]
  · rfl

/-- A data record gets the rate last set for its sampler, if that is among the first
`MAX_SAMPLERS` that rates were set for, or else the one last set without a sampler, or else the one
all these samplers have. -/
theorem samplingRate_after (calls : List RateCall) (samplerId : Option UInt64) :
    (∀ id, ((after calls).samplerRates.lookup id).isSome ↔ id ∈ tracked calls) ∧
      (∀ id ∈ tracked calls, samplerId = some id → (after calls).samplingRate samplerId =
        lastRate calls (some id)) ∧
      ((∀ id ∈ tracked calls, samplerId ≠ some id) →
        (∀ rate, lastRate calls none = some rate → (after calls).samplingRate samplerId =
          some rate) ∧
        (lastRate calls none = none → ∀ rate, (after calls).samplingRate samplerId = some rate ↔
          tracked calls ≠ [] ∧ ∀ id ∈ tracked calls, lastRate calls (some id) = some rate)) := by
  have follows := follows_after calls
  have known : ∀ id, ((after calls).samplerRates.lookup id).isSome ↔ id ∈ tracked calls := by
    intro id
    rw [follows.samplers.known, samplerWrites_keys]
    rfl
  refine ⟨known, ?_, ?_⟩
  · rintro id named rfl
    obtain ⟨rate, last⟩ := Option.isSome_iff_exists.mp ((known id).mpr named)
    rw [follows.samplingRate, Option.bind_some, last, Option.some_or, Option.some_or]
    rw [follows.lookup, if_pos named] at last
    exact last.symm
  · intro unnamed
    have nobody : samplerId.bind (after calls).samplerRates.lookup = none := by
      cases samplerId with
      | none => rfl
      | some id =>
        show (after calls).samplerRates.lookup id = none
        rw [follows.lookup, if_neg fun named => unnamed id named rfl]
    rw [follows.samplingRate, nobody, Option.none_or]
    constructor
    · intro rate last
      rw [last, Option.some_or]
    · intro none rate
      rw [none, Option.none_or]
      exact follows.shared_eq_some

/-- Samplers 7 and 8 agree until 8 gets another rate. -/
def twoSamplers (rate : UInt32) : List RateCall :=
  let order : IterationOrder UInt32 := ⟨id, fun _ => .refl _⟩
  [⟨order, some 7, 100⟩, ⟨order, some 8, 100⟩, ⟨order, some 8, rate⟩]

theorem tracked_twoSamplers (rate : UInt32) : tracked (twoSamplers rate) = [7, 8] := by
  simp [tracked, twoSamplers, CappedTable.firstKeys, List.eraseDups_cons, MAX_SAMPLERS]

theorem samplingRate_twoSamplers :
    (after (twoSamplers 1000)).samplingRate (some 8) = some 1000 ∧
      (after (twoSamplers 100)).samplingRate (some 9) = some 100 ∧
      (after (twoSamplers 1000)).samplingRate none ≠ some 100 := by
  refine ⟨?_, ?_, ?_⟩
  · refine ((samplingRate_after (twoSamplers 1000) (some 8)).2.1 8 ?_ rfl).trans ?_
    · simp [tracked_twoSamplers]
    · simp [lastRate, twoSamplers, CappedTable.lastWrite]
  · have shared :=
      ((samplingRate_after (twoSamplers 100) (some 9)).2.2 (by simp [tracked_twoSamplers])).2 rfl
        100
    rw [tracked_twoSamplers] at shared
    exact shared.mpr (by simp [lastRate, twoSamplers, CappedTable.lastWrite])
  · have shared :=
      ((samplingRate_after (twoSamplers 1000) none).2.2 (by simp [tracked_twoSamplers])).2 rfl 100
    rw [tracked_twoSamplers] at shared
    exact fun rate =>
      absurd (shared.mp rate) (by simp [lastRate, twoSamplers, CappedTable.lastWrite])

end Domain

end Rustflow
