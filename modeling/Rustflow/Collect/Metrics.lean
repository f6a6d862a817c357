import Rustflow.FlowProcessor
import Rustflow.Lib.SharedCells

/-!
# Metrics of the ingest threads

`metrics.rs` of the collector: what the ingest threads count per exporter, in cells that they share.
A thread looks a cell up once and keeps its handle. `display` writes an address as labels have it.
The registry, the help texts and the server are left out.
-/

namespace Rustflow

/-- The lowercase name that logs and metric labels use. -/
def FlowType.name : FlowType → String
  | .netflowV5 => "netflow_v5"
  | .netflowV9 => "netflow_v9"
  | .ipfix => "ipfix"
  | .sflowV5 => "sflow_v5"

namespace Collect

open SharedCells

structure SourceLabel where
  sourceIp : String
  deriving DecidableEq

structure TypeSourceLabel where
  type : String
  sourceIp : String
  deriving DecidableEq

/-- The counters of `InputMetrics`, as one table keyed by the family of a counter and its label. -/
inductive Series where
  | packetsReceived (label : TypeSourceLabel)
  | bytesReceived (label : SourceLabel)
  | flowsProcessed (label : TypeSourceLabel)
  | parseErrors (label : TypeSourceLabel)
  | unknownVersion (label : SourceLabel)
  deriving DecidableEq

structure InputMetrics where
  counters : Cells Series UInt64
  /-- Unix time of the last datagram, by protocol family and source. -/
  exporterLastSeen : Cells TypeSourceLabel Int

/-- Handles of counters. -/
structure ExporterCounters where
  packetsReceived : Nat
  bytesReceived : Nat
  flowsProcessed : Nat
  parseErrors : Nat

/-- The metrics of one thread, which shares the cells with the others. -/
structure ExporterMetrics where
  family : String
  counters : Table (IpAddr × String) ExporterCounters
  lastSeen : Table IpAddr Nat

namespace InputMetrics

def new : InputMetrics := { counters := .empty 0, exporterLastSeen := .empty 0 }

/-- `inc_by` on a counter. -/
def incBy (self : InputMetrics) (handle : Nat) (n : Nat) : InputMetrics :=
  { self with counters := self.counters.modify handle (· + UInt64.ofNat n) }

/-- `get_or_create` and then `inc_by`. -/
def add (self : InputMetrics) (series : Series) (n : Nat) : InputMetrics :=
  let (handle, counters) := self.counters.getOrCreate series 0
  { self with counters }.incBy handle n

/-- What is counted under a label, zero where nothing is. -/
def count (self : InputMetrics) (series : Series) : UInt64 :=
  (self.counters.view.lookup series).getD 0

end InputMetrics

namespace ExporterMetrics

def new (family : String) : ExporterMetrics := { family, counters := ∅, lastSeen := ∅ }

variable (display : IpAddr → String)

/-- The gauge of a source, looked up on first contact. -/
def gauge (self : ExporterMetrics) (metrics : InputMetrics) (src : IpAddr) :
    Nat × ExporterMetrics × InputMetrics :=
  match self.lastSeen.lookup src with
  | some gauge => (gauge, self, metrics)
  | none =>
    let (gauge, exporterLastSeen) :=
      metrics.exporterLastSeen.getOrCreate { type := self.family, sourceIp := display src } 0
    (gauge, { self with lastSeen := self.lastSeen.insert src gauge },
      { metrics with exporterLastSeen })

/-- Any datagram counts, whether it parses or not. `now` is the clock in seconds. -/
def heardFrom (self : ExporterMetrics) (metrics : InputMetrics) (src : IpAddr)
    (timeReceivedNs : Option Int) (now : Int) :
    ExporterMetrics × InputMetrics :=
  let (gauge, self, metrics) := self.gauge display metrics src
  let secs := match timeReceivedNs with
    | some ns => ns / 1000000000
    | none => now
  (self, { metrics with exporterLastSeen := metrics.exporterLastSeen.modify gauge fun _ => secs })

def getOrCreate (self : ExporterMetrics) (metrics : InputMetrics) (src : IpAddr)
    (version : String) :
    ExporterCounters × ExporterMetrics × InputMetrics :=
  match self.counters.lookup (src, version) with
  | some counters => (counters, self, metrics)
  | none =>
    let sourceIp := display src
    let bySource : SourceLabel := { sourceIp }
    let byFamily : TypeSourceLabel := { type := self.family, sourceIp }
    let byVersion : TypeSourceLabel := { type := version, sourceIp }
    let (packetsReceived, cells) := metrics.counters.getOrCreate (.packetsReceived byFamily) 0
    let (bytesReceived, cells) := cells.getOrCreate (.bytesReceived bySource) 0
    let (flowsProcessed, cells) := cells.getOrCreate (.flowsProcessed byVersion) 0
    let (parseErrors, cells) := cells.getOrCreate (.parseErrors byVersion) 0
    let counters : ExporterCounters :=
      { packetsReceived, bytesReceived, flowsProcessed, parseErrors }
    (counters, { self with counters := self.counters.insert (src, version) counters },
      { metrics with counters := cells })

def recordPacket (self : ExporterMetrics) (metrics : InputMetrics) (src : IpAddr) (version : String)
    (bytes flowCount : Nat) :
    ExporterMetrics × InputMetrics :=
  let (counters, self, metrics) := self.getOrCreate display metrics src version
  (self, ((metrics.incBy counters.packetsReceived 1).incBy counters.bytesReceived bytes).incBy
    counters.flowsProcessed flowCount)

def recordParseError (self : ExporterMetrics) (metrics : InputMetrics) (src : IpAddr)
    (version : String) (bytes : Nat) :
    ExporterMetrics × InputMetrics :=
  let (counters, self, metrics) := self.getOrCreate display metrics src version
  (self, ((metrics.incBy counters.packetsReceived 1).incBy counters.bytesReceived bytes).incBy
    counters.parseErrors 1)

def recordUnknownVersion (self : ExporterMetrics) (metrics : InputMetrics) (src : IpAddr)
    (bytes : Nat) : InputMetrics :=
  let sourceIp := display src
  ((metrics.add (.packetsReceived { type := self.family, sourceIp }) 1).add
    (.bytesReceived { sourceIp }) bytes).add
    (.unknownVersion { sourceIp }) 1

end ExporterMetrics

/-! ### What is added -/

/-- The flows processed that an addition is of, if of these types. -/
def Series.processed (of : String → Bool) : Series × Nat → Nat
  | (.flowsProcessed label, n) => if of label.type then n else 0
  | _ => 0

theorem Series.processed_add (of : String → Bool) (series : Series) (before : UInt64) (n : Nat) :
    UInt64.ofNat (processed of (series, (before + UInt64.ofNat n).toNat)) =
      UInt64.ofNat (processed of (series, before.toNat)) +
        UInt64.ofNat (processed of (series, n)) := by
  cases series with
  | flowsProcessed label =>
    show UInt64.ofNat (if of label.type then _ else 0) =
      UInt64.ofNat (if of label.type then _ else 0) +
      UInt64.ofNat (if of label.type then n else 0)
    split
    · rw [UInt64.ofNat_toNat, UInt64.ofNat_toNat]
    · rfl
  | _ => rfl

/-- The sum of `flows_processed` over the labels of these types. -/
def InputMetrics.processed (self : InputMetrics) (of : String → Bool) : UInt64 :=
  UInt64.ofNat (self.counters.view.total fun series n => Series.processed of (series, n.toNat))

def added (series : Series) (additions : List (Series × Nat)) : Nat :=
  (additions.map fun addition => if addition.1 = series then addition.2 else 0).sum

/-- Nothing but these additions has changed, and all handles are still good. -/
structure Gained (before after : InputMetrics) (additions : List (Series × Nat)) : Prop where
  counters : ∀ series handle, before.counters.handles.lookup series = some handle →
    after.counters.handles.lookup series = some handle
  lastSeen : ∀ label handle, before.exporterLastSeen.handles.lookup label = some handle →
    after.exporterLastSeen.handles.lookup label = some handle
  count : ∀ series, after.count series = before.count series + UInt64.ofNat (added series additions)
  processed : ∀ of, after.processed of = before.processed of +
    UInt64.ofNat (additions.map (Series.processed of)).sum

namespace Gained
variable {before middle after : InputMetrics} {additions more : List (Series × Nat)}

theorem refl (metrics : InputMetrics) : Gained metrics metrics [] where
  counters _ _ found := found
  lastSeen _ _ found := found
  count _ := (UInt64.add_zero _).symm
  processed _ := (UInt64.add_zero _).symm

theorem trans (first : Gained before middle additions) (second : Gained middle after more) :
    Gained before after (additions ++ more) where
  counters series handle found := second.counters series handle (first.counters series handle found)
  lastSeen label handle found := second.lastSeen label handle (first.lastSeen label handle found)
  count series := by
    rw [second.count, first.count, added, added, added, List.map_append, List.sum_append,
      UInt64.ofNat_add, UInt64.add_assoc]
  processed of := by
    rw [second.processed, first.processed, List.map_append, List.sum_append, UInt64.ofNat_add,
      UInt64.add_assoc]

/-- Looking a cell up adds nothing, and its handle is good. -/
theorem getOrCreate (metrics : InputMetrics) (series : Series) : ∃ handle after,
    metrics.counters.getOrCreate series 0 = (handle, after.counters) ∧ after.exporterLastSeen =
      metrics.exporterLastSeen ∧
      Gained metrics after [] ∧ after.counters.handles.lookup series = some handle := by
  refine ⟨_, { metrics with counters := (metrics.counters.getOrCreate series 0).2 }, rfl, rfl, ?_,
    Cells.lookup_getOrCreate metrics.counters series 0⟩
  refine ⟨fun _ _ found => Cells.lookup_getOrCreate_of_some found series 0, fun _ _ found => found,
    fun other => ?_, fun of => ?_⟩
  · show ((metrics.counters.getOrCreate series 0).2.view.lookup other).getD 0 =
      metrics.count other + 0
    rw [UInt64.add_zero, Cells.lookup_view_getOrCreate]
    split
    · next same =>
      rw [same]
      rfl
    · rfl
  · have nothing : Series.processed of (series, (0 : UInt64).toNat) = 0 := by
      cases series with
      | flowsProcessed label => exact ite_self 0
      | _ => rfl
    show UInt64.ofNat _ = metrics.processed of + 0
    rw [UInt64.add_zero]
    exact congrArg UInt64.ofNat
      (Cells.total_getOrCreate (fun series (n : UInt64) =>
        Series.processed of (series, n.toNat)) nothing)

theorem incBy {metrics : InputMetrics} {series : Series} {handle : Nat}
    (found : metrics.counters.handles.lookup series = some handle) (n : Nat) :
    Gained metrics (metrics.incBy handle n) [(series, n)] where
  counters _ _ found := found
  lastSeen _ _ found := found
  count other := by
    show (((metrics.counters.modify handle (· + UInt64.ofNat n)).view.lookup other).getD 0) = _
    rw [Cells.lookup_view_modify found]
    unfold InputMetrics.count added
    rw [List.map_singleton, List.sum_singleton]
    split
    · next same =>
      rw [if_pos same.symm, same, Cells.lookup_view, found]
      rfl
    · next different =>
      rw [if_neg (Ne.symm different)]
      exact (UInt64.add_zero _).symm
  processed of := by
    have total := Cells.total_modify found (· + UInt64.ofNat n) fun series (n : UInt64) =>
      Series.processed of (series, n.toNat)
    have total := congrArg UInt64.ofNat total
    rw [UInt64.ofNat_add, UInt64.ofNat_add, Series.processed_add,
      UInt64.add_comm
        (UInt64.ofNat (Series.processed of (series, (metrics.counters.memory handle).toNat))),
        ← UInt64.add_assoc,
      UInt64.add_left_inj] at total
    rw [List.map_singleton, List.sum_singleton]
    exact total

/-- Three counters whose handles were looked up before any of them is changed. -/
theorem incThree {metrics : InputMetrics} {series₁ series₂ series₃ : Series}
    {handle₁ handle₂ handle₃ : Nat}
    (found₁ : metrics.counters.handles.lookup series₁ = some handle₁)
    (found₂ : metrics.counters.handles.lookup series₂ = some handle₂)
    (found₃ : metrics.counters.handles.lookup series₃ = some handle₃) (n₁ n₂ n₃ : Nat) :
    Gained metrics (((metrics.incBy handle₁ n₁).incBy handle₂ n₂).incBy handle₃ n₃)
      [(series₁, n₁), (series₂, n₂), (series₃, n₃)] :=
  ((incBy found₁ n₁).trans (@incBy (metrics.incBy handle₁ n₁) series₂ handle₂ found₂ n₂)).trans
    (@incBy ((metrics.incBy handle₁ n₁).incBy handle₂ n₂) series₃ handle₃ found₃ n₃)

theorem add (metrics : InputMetrics) (series : Series) (n : Nat) :
    Gained metrics (metrics.add series n) [(series, n)] := by
  obtain ⟨handle, after, made, gauges, nothing, found⟩ := getOrCreate metrics series
  have same : metrics.add series n = after.incBy handle n := by
    unfold InputMetrics.add
    rw [made, ← gauges]
  rw [same]
  exact nothing.trans (incBy found n)

end Gained

/-! ### What a thread records -/

namespace ExporterMetrics
variable {display : IpAddr → String} {self : ExporterMetrics} {metrics : InputMetrics}

/-- The handles kept are those of the labels. -/
structure Kept (display : IpAddr → String) (metrics : InputMetrics) (exporters : ExporterMetrics) :
    Prop where
  counters : ∀ src version counters, exporters.counters.lookup (src, version) = some counters →
    let sourceIp := display src
    metrics.counters.handles.lookup (.packetsReceived { type := exporters.family, sourceIp }) =
      some counters.packetsReceived ∧
      metrics.counters.handles.lookup (.bytesReceived { sourceIp }) = some counters.bytesReceived ∧
      metrics.counters.handles.lookup (.flowsProcessed { type := version, sourceIp }) =
        some counters.flowsProcessed ∧
      metrics.counters.handles.lookup (.parseErrors { type := version, sourceIp }) =
        some counters.parseErrors
  lastSeen : ∀ src gauge, exporters.lastSeen.lookup src = some gauge →
    metrics.exporterLastSeen.handles.lookup { type := exporters.family, sourceIp := display src } =
      some gauge

theorem Kept.new (family : String) : Kept display metrics (.new family) where
  counters _ _ _ found := by cases found
  lastSeen _ _ found := by cases found

/-- Whatever is added by whom. -/
theorem Kept.mono {after : InputMetrics} {additions : List (Series × Nat)}
    (kept : Kept display metrics self) (added : Gained metrics after additions) :
    Kept display after self where
  counters src version counters found := by
    obtain ⟨packets, bytes, flows, errors⟩ := kept.counters src version counters found
    exact ⟨added.counters _ _ packets, added.counters _ _ bytes, added.counters _ _ flows,
      added.counters _ _ errors⟩
  lastSeen src gauge found := added.lastSeen _ _ (kept.lastSeen src gauge found)

theorem Kept.getOrCreate (kept : Kept display metrics self) (src : IpAddr) (version : String) :
    ∃ counters exporters after, self.getOrCreate display metrics src version =
      (counters, exporters, after) ∧
      Kept display after exporters ∧ exporters.family = self.family ∧ Gained metrics after [] ∧
      exporters.counters.lookup (src, version) = some counters ∧ after.exporterLastSeen =
        metrics.exporterLastSeen := by
  unfold ExporterMetrics.getOrCreate
  cases found : self.counters.lookup (src, version) with
  | some counters => exact ⟨counters, self, metrics, rfl, kept, rfl, .refl metrics, found, rfl⟩
  | none =>
    dsimp only
    obtain ⟨packetsReceived, m₁, made₁, same₁, none₁, packets⟩ :=
      Gained.getOrCreate metrics (.packetsReceived { type := self.family, sourceIp := display src })
    obtain ⟨bytesReceived, m₂, made₂, same₂, none₂, bytes⟩ :=
      Gained.getOrCreate m₁ (.bytesReceived { sourceIp := display src })
    obtain ⟨flowsProcessed, m₃, made₃, same₃, none₃, flows⟩ :=
      Gained.getOrCreate m₂ (.flowsProcessed { type := version, sourceIp := display src })
    obtain ⟨parseErrors, m₄, made₄, same₄, none₄, errors⟩ :=
      Gained.getOrCreate m₃ (.parseErrors { type := version, sourceIp := display src })
    rw [made₁]
    dsimp only
    rw [made₂]
    dsimp only
    rw [made₃]
    dsimp only
    rw [made₄, ← same₁, ← same₂, ← same₃, ← same₄]
    have all : Gained metrics m₄ [] := ((none₁.trans none₂).trans none₃).trans none₄
    refine ⟨_, _, m₄, rfl, ⟨fun src' version' counters here => ?_, (kept.mono all).lastSeen⟩, rfl,
      all, AList.lookup_insert _, rfl⟩
    rw [Table.lookup_insert_eq] at here
    split at here
    · next same =>
      obtain ⟨rfl, rfl⟩ := Prod.mk.inj same
      obtain rfl := Option.some.inj here
      have bytes := none₄.counters _ _ (none₃.counters _ _ bytes)
      exact ⟨none₄.counters _ _ (none₃.counters _ _ (none₂.counters _ _ packets)), bytes,
        none₄.counters _ _ flows, errors⟩
    · exact (kept.mono all).counters src' version' counters here

/-- What a recorded datagram adds: a packet and its bytes, and what came of it. -/
def arrived (display : IpAddr → String) (family : String) (src : IpAddr) (bytes : Nat) :
    List (Series × Nat) :=
  [(.packetsReceived { type := family, sourceIp := display src }, 1),
    (.bytesReceived { sourceIp := display src }, bytes)]

theorem Kept.recordPacket (kept : Kept display metrics self) (src : IpAddr) (version : String)
    (bytes flowCount : Nat) :
    ∃ exporters after, self.recordPacket display metrics src version bytes flowCount =
      (exporters, after) ∧
      Kept display after exporters ∧ exporters.family = self.family ∧ after.exporterLastSeen =
        metrics.exporterLastSeen ∧
      Gained metrics after (arrived display self.family src bytes ++
        [(.flowsProcessed { type := version, sourceIp := display src }, flowCount)]) := by
  obtain ⟨counters, exporters, after, made, kept, family, none, found, gauges⟩ :=
    kept.getOrCreate src version
  obtain ⟨packets, bytesReceived, flows, -⟩ := kept.counters src version counters found
  rw [family] at packets
  have counted := Gained.incThree packets bytesReceived flows 1 bytes flowCount
  refine ⟨exporters, _, ?_, kept.mono counted, family, gauges, none.trans counted⟩
  unfold ExporterMetrics.recordPacket
  rw [made]

theorem Kept.recordParseError (kept : Kept display metrics self) (src : IpAddr) (version : String)
    (bytes : Nat) :
    ∃ exporters after, self.recordParseError display metrics src version bytes =
      (exporters, after) ∧
      Kept display after exporters ∧ exporters.family = self.family ∧ after.exporterLastSeen =
        metrics.exporterLastSeen ∧
      Gained metrics after (arrived display self.family src bytes ++
        [(.parseErrors { type := version, sourceIp := display src }, 1)]) := by
  obtain ⟨counters, exporters, after, made, kept, family, none, found, gauges⟩ :=
    kept.getOrCreate src version
  obtain ⟨packets, bytesReceived, -, errors⟩ := kept.counters src version counters found
  rw [family] at packets
  have counted := Gained.incThree packets bytesReceived errors 1 bytes 1
  refine ⟨exporters, _, ?_, kept.mono counted, family, gauges, none.trans counted⟩
  unfold ExporterMetrics.recordParseError
  rw [made]

theorem recordUnknownVersion_added (self : ExporterMetrics) (metrics : InputMetrics) (src : IpAddr)
    (bytes : Nat) :
    Gained metrics (self.recordUnknownVersion display metrics src bytes)
      (arrived display self.family src bytes ++
      [(.unknownVersion { sourceIp := display src }, 1)]) :=
  ((Gained.add metrics _ 1).trans (Gained.add _ _ bytes)).trans (Gained.add _ _ 1)

theorem Kept.gauge (kept : Kept display metrics self) (src : IpAddr) :
    ∃ gauge exporters after, self.gauge display metrics src = (gauge, exporters, after) ∧
      Kept display after exporters ∧ exporters.family = self.family ∧ Gained metrics after [] ∧
      after.exporterLastSeen.handles.lookup { type := self.family, sourceIp := display src } =
        some gauge ∧
      ∀ label, label ≠ { type := self.family, sourceIp := display src } →
        after.exporterLastSeen.view.lookup label = metrics.exporterLastSeen.view.lookup label := by
  unfold ExporterMetrics.gauge
  cases found : self.lastSeen.lookup src with
  | some gauge => exact ⟨gauge, self, metrics, rfl, kept, rfl, .refl metrics,
      kept.lastSeen src gauge found, fun _ _ => rfl⟩
  | none =>
    have made := Cells.lookup_getOrCreate metrics.exporterLastSeen
      { type := self.family, sourceIp := display src } 0
    have nothing : Gained metrics { metrics with
        exporterLastSeen := (metrics.exporterLastSeen.getOrCreate
          { type := self.family, sourceIp := display src } 0).2 } [] :=
      ⟨fun _ _ found => found, fun _ _ found => Cells.lookup_getOrCreate_of_some found _ 0,
        (Gained.refl metrics).count, (Gained.refl metrics).processed⟩
    refine ⟨_, _, _, rfl, ⟨(kept.mono nothing).counters, fun src' gauge here => ?_⟩, rfl, nothing,
      made, fun label other => ?_⟩
    · rw [Table.lookup_insert_eq] at here
      split at here
      · next same =>
        rw [same, ← Option.some.inj here]
        exact made
      · exact (kept.mono nothing).lastSeen src' gauge here
    · exact (Cells.lookup_view_getOrCreate _ _ 0 label).trans (if_neg other)

/-- The gauge of a source is set, and nothing else is changed. -/
theorem Kept.heardFrom (kept : Kept display metrics self) (src : IpAddr)
    (timeReceivedNs : Option Int) (now : Int) :
    ∃ exporters after, self.heardFrom display metrics src timeReceivedNs now = (exporters, after) ∧
      Kept display after exporters ∧ exporters.family = self.family ∧ Gained metrics after [] ∧
      ∀ label, after.exporterLastSeen.view.lookup label =
        if label = { type := self.family, sourceIp := display src } then
          some (timeReceivedNs.elim now (· / 1000000000))
        else metrics.exporterLastSeen.view.lookup label := by
  obtain ⟨gauge, exporters, middle, made, kept, family, nothing, found, others⟩ := kept.gauge src
  have set : Gained middle { middle with
      exporterLastSeen := middle.exporterLastSeen.modify gauge fun _ =>
        timeReceivedNs.elim now (· / 1000000000) } [] :=
    ⟨fun _ _ found => found, fun _ _ found => found, (Gained.refl middle).count,
      (Gained.refl middle).processed⟩
  refine ⟨exporters, _, ?_, kept.mono set, family, nothing.trans set, fun label => ?_⟩
  · unfold ExporterMetrics.heardFrom
    rw [made]
    cases timeReceivedNs <;> rfl
  · rw [Cells.lookup_view_modify found]
    split
    · rw [Cells.lookup_view, found]
      rfl
    · next other => exact others label other

end ExporterMetrics

end Collect

end Rustflow
