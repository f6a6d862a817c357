import Rustflow.Ipfix.Numbers

/-!
# The rate an options record describes

A rate stated itself, or 1-in-N of a whole pair. A pair with an interval of zero packets, which is
no 1-in-N, comes out as a rate of zero.
-/

namespace Rustflow.Ipfix
open NumericField

/-- The rate an options record describes, as a number. -/
def describedRate (record : DataRecord) : Option Nat :=
  (extractSamplingRate record).map UInt32.toNat

/-- The first usable rate that is stated itself. -/
def directRate (record : DataRecord) : Option Nat := record.iter.findSome? rateOf

def packetInterval (record : DataRecord) : Option Nat :=
  lastValue rated .samplingPacketInterval record.iter

def packetSpace (record : DataRecord) : Option Nat :=
  lastValue rated .samplingPacketSpace record.iter

/-- The rate is the one stated, or 1-in-N of a whole pair, or an interval on its own. -/
def RateExact (record : DataRecord) : Prop :=
  match directRate record with
  | some rate => describedRate record = some rate
  | none =>
    match packetInterval record, packetSpace record with
    | some p, some s => ∀ r, describedRate record = some r ↔ 1 ≤ p ∧ p * r = p + s ∧ r < 2 ^ 32
    | some p, none => describedRate record = some p
    | none, _ => describedRate record = none

/-- A pair of zero packets out of some, where no rate is stated itself. -/
def ZeroPair (record : DataRecord) : Prop :=
  directRate record = none ∧ packetInterval record = some 0 ∧ packetSpace record ≠ none

def occurrences (record : DataRecord) (ie : InformationElement) : Nat :=
  record.iter.countP fun entry => ianaElement entry.1 = some ie

/-- Each element for a rate occurs at most once, and of those that state one itself only one. -/
def OneOfEach (record : DataRecord) : Prop :=
  (∀ ie ∈ [.samplingInterval, .samplerRandomInterval, .samplingPacketInterval,
    .samplingPacketSpace],
      occurrences record ie ≤ 1) ∧
    (occurrences record .samplingInterval = 0 ∨ occurrences record .samplerRandomInterval = 0)

theorem describedRate_eq (record : DataRecord) :
    describedRate record =
      (wholeRate (directRate record) (packetInterval record) (packetSpace record)).bind
        (keep .samplingRate) :=
  sampling_entries id (fun _ _ => rfl) record.iter rfl

theorem rated_keep {value : FieldValue} {n : Nat} (read : rated value = some n) :
    keep .samplingRate n = some n := by
  obtain ⟨m, _, kept⟩ := Option.bind_eq_some_iff.mp read
  obtain ⟨rfl, fits⟩ := keep_eq_some.mp kept
  exact keep_eq_some.mpr ⟨rfl, fits⟩

theorem keep_directRate {record : DataRecord} {rate : Nat}
    (stated : directRate record = some rate) :
    keep .samplingRate rate = some rate := by
  obtain ⟨entry, _, read⟩ := List.exists_of_findSome?_eq_some stated
  unfold rateOf at read
  split at read
  · exact rated_keep read
  · cases read

theorem keep_lastValue {ie : InformationElement} {entries : List Entry} {n : Nat}
    (last : lastValue rated ie entries = some n) : keep .samplingRate n = some n := by
  obtain ⟨value, there, read⟩ := Option.bind_eq_some_iff.mp last
  obtain ⟨entry, _, written⟩ := List.mem_filterMap.mp (List.mem_of_getLast? there)
  split at written
  · cases written
    exact rated_keep read
  · cases written

theorem keep_samplingRate {n m : Nat} : keep .samplingRate n = some m ↔ n = m ∧ n < 2 ^ 32 := by
  rw [keep_eq_some]
  simp [NumericField.bits, NumericField.isCounter]

theorem quotient_iff {p s r : Nat} (positive : 0 < p) :
    ((if (p + s) % p = 0 then some ((p + s) / p) else none).bind (keep .samplingRate) = some r) ↔
      p * r = p + s ∧ r < 2 ^ 32 := by
  constructor
  · intro quotient
    split at quotient
    · next whole =>
      obtain ⟨rfl, small⟩ := keep_samplingRate.mp quotient
      exact ⟨Nat.mul_div_cancel' (Nat.dvd_of_mod_eq_zero whole), small⟩
    · cases quotient
  · rintro ⟨multiple, small⟩
    rw [← multiple, Nat.mul_mod_right, if_pos rfl, Nat.mul_div_cancel_left r positive]
    exact keep_samplingRate.mpr ⟨rfl, small⟩

theorem rateExact_iff (record : DataRecord) : RateExact record ↔ ¬ZeroPair record := by
  have described := describedRate_eq record
  unfold RateExact ZeroPair
  cases stated : directRate record with
  | some rate =>
    rw [stated] at described
    refine iff_of_true (described.trans ?_) nofun
    exact keep_directRate stated
  | none =>
    rw [stated] at described
    cases interval : packetInterval record with
    | none =>
      rw [interval] at described
      refine iff_of_true (described.trans ?_) nofun
      cases packetSpace record <;> rfl
    | some p =>
      rw [interval] at described
      cases space : packetSpace record with
      | none =>
        rw [space] at described
        refine iff_of_true (described.trans ?_) fun zero => zero.2.2 rfl
        exact keep_lastValue interval
      | some s =>
        rw [space] at described
        dsimp only
        by_cases zero : p = 0
        · subst zero
          refine iff_of_false (fun exact => ?_) fun not => not ⟨rfl, rfl, Option.some_ne_none s⟩
          have none := (exact 0).mp described
          omega
        · have positive : 0 < p := Nat.pos_of_ne_zero zero
          refine iff_of_true (fun r => ?_) fun pair => zero (Option.some.inj pair.2.1)
          rw [described]
          unfold wholeRate
          dsimp only
          rw [if_pos positive, quotient_iff positive]
          exact ⟨fun multiple => ⟨positive, multiple⟩, And.right⟩

/-! ### Order -/

theorem length_filterMap_if {α : Type} (p : Entry → Prop) [DecidablePred p] (f : Entry → α)
    (entries : List Entry) :
    (entries.filterMap fun entry => if p entry then some (f entry) else none).length =
      entries.countP (p ·) := by
  induction entries with
  | nil => rfl
  | cons entry entries ih =>
    rw [List.filterMap_cons, List.countP_cons]
    by_cases here : p entry <;> simp [here, ih]

theorem lastValue_perm {read : FieldValue → Option Nat} {ie : InformationElement}
    {entries entries' : List Entry} (perm : entries'.Perm entries)
    (once : entries.countP (fun entry => ianaElement entry.1 = some ie) ≤ 1) :
    lastValue read ie entries' = lastValue read ie entries := by
  unfold lastValue
  rw [Writes.filterMap_perm_eq perm]
  rw [length_filterMap_if (fun entry => ianaElement entry.1 = some ie) fun entry => read entry.2.2]
  exact once

theorem length_filterMap_rateOf (entries : List Entry) :
    (entries.filterMap rateOf).length ≤
      entries.countP (fun entry => ianaElement entry.1 = some .samplingInterval) +
        entries.countP fun entry => ianaElement entry.1 = some .samplerRandomInterval := by
  induction entries with
  | nil => exact Nat.le_refl _
  | cons entry entries ih =>
    rw [List.filterMap_cons, List.countP_cons, List.countP_cons]
    by_cases direct : ianaElement entry.1 = some .samplingInterval ∨
      ianaElement entry.1 = some .samplerRandomInterval
    · rw [show rateOf entry = rated entry.2.2 from if_pos direct]
      obtain here | here := direct <;> cases rated entry.2.2 <;> simp [here] <;> omega
    · rw [show rateOf entry = none from if_neg direct]
      dsimp only
      omega

theorem directRate_perm {record record' : DataRecord} (perm : record'.iter.Perm record.iter)
    (once : OneOfEach record) :
    directRate record' = directRate record := by
  unfold directRate
  rw [← List.head?_filterMap, ← List.head?_filterMap, Writes.filterMap_perm_eq perm]
  have bound : (record.iter.filterMap rateOf).length ≤
      occurrences record .samplingInterval + occurrences record .samplerRandomInterval :=
    length_filterMap_rateOf record.iter
  have interval : occurrences record .samplingInterval ≤ 1 := once.1 _ (by simp)
  have random : occurrences record .samplerRandomInterval ≤ 1 := once.1 _ (by simp)
  have either := once.2
  omega

/-- The rate is exact and the order of the fields does not matter, save for a pair of zero
packets. -/
theorem rate_exact_iff (record : DataRecord) :
    (RateExact record ∧ (OneOfEach record →
        ∀ record' : DataRecord, record'.iter.Perm record.iter →
        extractSamplingRate record' = extractSamplingRate record)) ↔
      ¬ZeroPair record := by
  rw [rateExact_iff, and_iff_left]
  intro once record' perm
  have interval : packetInterval record' = packetInterval record :=
    lastValue_perm perm (once.1 _ (by simp))
  have space : packetSpace record' = packetSpace record := lastValue_perm perm (once.1 _ (by simp))
  have described := describedRate_eq record'
  rw [directRate_perm perm once, interval, space, ← describedRate_eq] at described
  exact Option.map_injective (fun _ _ => UInt32.toNat.inj) described

/-- No packet out of five, which is read as a rate of zero. -/
def noneInFive : DataRecord where
  fields := [⟨.iana 305 4, .unsigned, "samplingPacketInterval"⟩,
    ⟨.iana 306 4, .unsigned, "samplingPacketSpace"⟩]
  values := [.unsigned32 0, .unsigned32 5]

theorem noneInFive_rate : ¬∀ record, RateExact record := by
  intro exact
  have none := (exact noneInFive 0).mp (by decide)
  exact absurd none.1 (by decide)

end Rustflow.Ipfix
