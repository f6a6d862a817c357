import Rustflow.Export.Flow

/-!
# No packet is lost or counted twice

The updates of a key, in order, are cut into stretches: one for each flow that has ended, in the
order in which they ended, and what is left for the flow that is cached. Each flow is the account
of its own stretch and of nothing else.
-/

namespace Rustflow

structure Update where
  packetSize : UInt64
  tcpFlags : UInt16
  seen : Seen

namespace FlowCache

def updatesOf (key : FlowKey) (calls : List (IterationOrder Flow × Call)) : List Update :=
  calls.filterMap fun
    | (_, .updateFlow key' packetSize tcpFlags seen) =>
      if key' = key then some ⟨packetSize, tcpFlags, seen⟩ else none
    | _ => none

end FlowCache

namespace Flow

/-- A flow as its next update leaves it, whether or not there was one yet. -/
def add (key : FlowKey) (flow : Option Flow) (u : Update) : Option Flow :=
  some ((flow.getD (Flow.new key u.seen)).update u.packetSize u.tcpFlags u.seen)

def ofUpdates (key : FlowKey) (updates : List Update) : Option Flow := updates.foldl (add key) none

theorem ofUpdates_snoc (key : FlowKey) (updates : List Update) (u : Update) :
    ofUpdates key (updates ++ [u]) = add key (ofUpdates key updates) u := by
  rw [ofUpdates, List.foldl_append]
  rfl

theorem ofUpdates_eq_none {key : FlowKey} {updates : List Update} : ofUpdates key updates = none ↔
    updates = [] := by
  constructor
  · intro none
    cases updates using List.reverseRecOn with
    | nil => rfl
    | append_singleton updates u =>
      rw [ofUpdates_snoc] at none
      cases none
  · rintro rfl
    rfl

def allFlags (flags : List UInt16) : UInt16 := flags.foldr (· ||| ·) 0

theorem allFlags_append (flags flags' : List UInt16) :
    allFlags (flags ++ flags') = allFlags flags ||| allFlags flags' := by
  induction flags with
  | nil => simp [allFlags]
  | cons flag flags ih =>
    unfold allFlags at ih ⊢
    rw [List.cons_append, List.foldr_cons, List.foldr_cons, ih, UInt16.or_assoc]

/-- What a stretch of updates adds up to, in 64 bits. -/
theorem ofUpdates_eq_some {key : FlowKey} {updates : List Update} {flow : Flow}
    (made : ofUpdates key updates = some flow) :
    flow.key = key ∧ flow.flowEndReason = none ∧ flow.packetCount.toNat = updates.length % 2 ^ 64 ∧
      flow.octetCount.toNat = (updates.map (·.packetSize.toNat)).sum % 2 ^ 64 ∧
      flow.tcpFlags = allFlags (updates.map (·.tcpFlags)) := by
  induction updates using List.reverseRecOn generalizing flow with
  | nil => cases made
  | append_singleton updates u ih =>
    rw [ofUpdates_snoc, add, Option.some.injEq] at made
    subst made
    rw [List.map_append, List.map_append, List.sum_append, allFlags_append, List.length_append]
    cases before : ofUpdates key updates with
    | none =>
      cases ofUpdates_eq_none.mp before
      have small := u.packetSize.toNat_lt
      simp [Flow.new, update, allFlags, Nat.mod_eq_of_lt small]
    | some flow =>
      obtain ⟨sameKey, running, packets, octets, flags⟩ := ih before
      simp only [Option.getD_some, update, List.length_singleton, List.map_cons, List.map_nil,
        List.sum_singleton]
      refine ⟨sameKey, running, ?_, ?_, ?_⟩
      · rw [UInt64.toNat_add, packets]
        simp
      · rw [UInt64.toNat_add, octets]
        simp
      · rw [flags]
        simp [allFlags]

end Flow

open Rustflow.Flow Rustflow.FlowCache

theorem running_eq {key : FlowKey} {updates : List Update} {flow : Flow}
    (made : ofUpdates key updates = some flow) :
    { flow with flowEndReason := none } = flow := by
  have running := (ofUpdates_eq_some made).2.1
  cases flow
  cases running
  rfl

/-- No counter wraps where the totals fit, and then the flows add up to the updates of their
stretches. -/
theorem totals_of_stretches {key : FlowKey} {flows : List Flow} {stretches : List (List Update)}
    (each : flows.map (fun flow => some { flow with flowEndReason := none }) =
      stretches.map (ofUpdates key)) :
    let updates := stretches.flatten
    (updates.length < 2 ^ 64 → (flows.map (·.packetCount.toNat)).sum = updates.length) ∧
      ((updates.map (·.packetSize.toNat)).sum < 2 ^ 64 →
        (flows.map (·.octetCount.toNat)).sum = (updates.map (·.packetSize.toNat)).sum) ∧
      allFlags (flows.map (·.tcpFlags)) = allFlags (updates.map (·.tcpFlags)) := by
  induction stretches generalizing flows with
  | nil =>
    cases List.map_eq_nil_iff.mp each
    exact ⟨fun _ => rfl, fun _ => rfl, rfl⟩
  | cons stretch stretches ih =>
    obtain ⟨flow, flows, rfl, made, rest⟩ := List.map_eq_cons_iff.mp each
    obtain ⟨_, _, packets, octets, flags⟩ := ofUpdates_eq_some made.symm
    obtain ⟨morePackets, moreOctets, moreFlags⟩ := ih rest
    simp only [List.flatten_cons, List.map_cons, List.sum_cons, List.map_append, List.sum_append,
      List.length_append, allFlags_append] at packets octets flags ⊢
    refine ⟨fun fits => ?_, fun fits => ?_, ?_⟩
    · rw [morePackets (by omega), packets, Nat.mod_eq_of_lt (by omega)]
    · rw [moreOctets (by omega), octets, Nat.mod_eq_of_lt (by omega)]
    · rw [← moreFlags, ← flags]
      rfl

/-- The flows that ended for a key, in order, and the one cached are the accounts of successive
stretches of its updates. -/
def Accounts (key : FlowKey) (updates : List Update) (ended : List Flow)
    (cached : Option Flow) : Prop :=
  ∃ (past : List (List Update)) (current : List Update), past.flatten ++ current = updates ∧
    ended.map (fun flow => some { flow with flowEndReason := none }) = past.map (ofUpdates key) ∧
    cached = ofUpdates key current

namespace Accounts
variable {key : FlowKey} {updates : List Update} {ended : List Flow} {cached : Option Flow}

theorem key_eq (accounts : Accounts key updates ended cached) {flow : Flow}
    (found : cached = some flow) :
    flow.key = key := by
  obtain ⟨_, current, _, _, made⟩ := accounts
  exact (ofUpdates_eq_some (made.symm.trans found)).1

theorem update (accounts : Accounts key updates ended cached) (u : Update) :
    Accounts key (updates ++ [u]) ended (Flow.add key cached u) := by
  obtain ⟨past, current, whole, closed, made⟩ := accounts
  refine ⟨past, current ++ [u], ?_, closed, ?_⟩
  · rw [← List.append_assoc, whole]
  · rw [ofUpdates_snoc, made]

theorem finish {flow : Flow} (accounts : Accounts key updates ended (some flow))
    (reason : FlowEndReason) :
    Accounts key updates (ended ++ [flow.ended reason]) none := by
  obtain ⟨past, current, whole, closed, made⟩ := accounts
  refine ⟨past ++ [current], [], ?_, ?_, rfl⟩
  · rw [List.flatten_append, List.flatten_singleton, List.append_nil, whole]
  · have unended : { flow.ended reason with flowEndReason := none } = flow := running_eq made.symm
    rw [List.map_append, closed, List.map_append, List.map_singleton, List.map_singleton,
      unended, made]

/-- Each of some flows may have ended: a reason is given for those that have. -/
theorem finish_some (accounts : Accounts key updates ended cached)
    (reason : Flow → Option FlowEndReason) :
    Accounts key updates (ended ++ (cached.bind fun flow => (reason flow).map flow.ended).toList)
      (cached.filter fun flow => (reason flow).isNone) := by
  cases cached with
  | none => simpa using accounts
  | some flow =>
    cases given : reason flow with
    | none => simpa [Option.filter, given] using accounts
    | some why => simpa [Option.filter, given] using accounts.finish why

/-- Where the totals fit in 64 bits, they are those of the updates. -/
theorem totals (accounts : Accounts key updates ended cached) :
    let flows := ended ++ cached.toList
    (updates.length < 2 ^ 64 → (flows.map (·.packetCount.toNat)).sum = updates.length) ∧
      ((updates.map (·.packetSize.toNat)).sum < 2 ^ 64 →
        (flows.map (·.octetCount.toNat)).sum = (updates.map (·.packetSize.toNat)).sum) ∧
      allFlags (flows.map (·.tcpFlags)) = allFlags (updates.map (·.tcpFlags)) := by
  obtain ⟨past, current, rfl, closed, made⟩ := accounts
  cases cached with
  | none =>
    have empty : current = [] := ofUpdates_eq_none.mp made.symm
    subst empty
    rw [List.append_nil, Option.toList_none, List.append_nil]
    exact totals_of_stretches closed
  | some flow =>
    have running : { flow with flowEndReason := none } = flow := running_eq made.symm
    have stretches : (ended ++ [flow]).map (fun flow => some { flow with flowEndReason := none }) =
        (past ++ [current]).map (ofUpdates key) := by
      rw [List.map_append, closed, List.map_append, List.map_singleton, List.map_singleton,
        running, made]
    have sums := totals_of_stretches stretches
    rw [List.flatten_append, List.flatten_singleton] at sums
    exact sums

end Accounts

/-! ### What each operation does -/

namespace FlowCache

/-- The flows that end when each one is given a reason or none, and for a key only its own. -/
theorem filter_ended (order : IterationOrder Flow) (reason : Flow → Option FlowEndReason)
    {flows : Table FlowKey Flow} (keyed : ∀ key flow, flows.lookup key = some flow → flow.key = key)
    (key : FlowKey) :
    ((order.arrange flows.values).filterMap fun flow => (reason flow).map flow.ended).filter
      (·.key = key) =
      ((flows.lookup key).bind fun flow => (reason flow).map flow.ended).toList := by
  have swap : ∀ visited : List Flow,
      (visited.filterMap fun flow => (reason flow).map flow.ended).filter (·.key = key) =
        (visited.filter (·.key = key)).filterMap fun flow => (reason flow).map flow.ended := by
    intro visited
    induction visited with
    | nil => rfl
    | cons flow visited ih =>
      cases given : reason flow with
      | none => by_cases here : flow.key = key <;> simp [given, here, ih]
      | some why => by_cases here : flow.key = key <;> simp [given, here, ih, ended]
  rw [swap, Table.filter_arrange_values order keyed]
  cases flows.lookup key with
  | none => rfl
  | some flow => cases given : reason flow <;> simp [given]

theorem evictIdleLongest_eq (order : IterationOrder Flow) {cache : FlowCache} {cutoff : Instant}
    (selected : selectNth (cache.flows.values.map (·.lastSeen))
      (max (cache.maxFlows / EVICTION_FRACTION) 1 - 1) = some cutoff) :
    let reason := fun flow : Flow => if flow.lastSeen > cutoff then none
      else some FlowEndReason.lackOfResources
    cache.evictIdleLongest order = some { cache with
      flows := cache.flows.retain fun flow => (reason flow).isNone
      evicted := cache.evicted ++ (order.arrange cache.flows.values).filterMap fun flow =>
        (reason flow).map flow.ended } := by
  intro reason
  have keep : (fun flow : Flow => decide (flow.lastSeen > cutoff)) = fun flow =>
      (reason flow).isNone := by
    funext flow
    by_cases later : flow.lastSeen > cutoff <;> simp [reason, later]
  have ends : ∀ visited : List Flow, 
      (visited.filter fun flow => !decide (flow.lastSeen > cutoff)).map (·.ended .lackOfResources) =
        visited.filterMap fun flow => (reason flow).map flow.ended := by
    intro visited
    induction visited with
    | nil => rfl
    | cons flow visited ih =>
      by_cases later : flow.lastSeen > cutoff <;> simp [reason, later] at ih ⊢ <;> exact ih
  rw [evictIdleLongest, selected, Option.bind_eq_bind, Option.bind_some]
  dsimp only
  rw [ends, keep]
  rfl

/-- The cache is configured as at the start and within its limit, and the accounts of every key are
right. -/
structure Balanced (cache start : FlowCache) (calls : List (IterationOrder Flow × Call))
    (returned : List Flow) :
    Prop where
  settings : (cache.activeTimeout, cache.inactiveTimeout, cache.maxFlows) =
    (start.activeTimeout, start.inactiveTimeout, start.maxFlows)
  room : cache.flows.size ≤ start.maxFlows
  accounts : ∀ key, Accounts key (updatesOf key calls)
    ((returned ++ cache.evicted).filter (·.key = key))
    (cache.flows.lookup key)

section
variable {cache start : FlowCache} {calls : List (IterationOrder Flow × Call)}
  {returned : List Flow}

theorem balanced_new (activeTimeout inactiveTimeout maxFlows : Nat) :
    let start := new activeTimeout inactiveTimeout maxFlows
    Balanced start start [] [] where
  settings := rfl
  room := Nat.zero_le _
  accounts _ := ⟨[], [], rfl, rfl, rfl⟩

theorem Balanced.keyed (balanced : Balanced cache start calls returned) (key : FlowKey)
    (flow : Flow) (found : cache.flows.lookup key = some flow) : flow.key = key :=
  (balanced.accounts key).key_eq found

/-- Ending flows for whatever reason keeps the accounts right. -/
theorem Balanced.finish (balanced : Balanced cache start calls returned)
    (order : IterationOrder Flow) (reason : Flow → Option FlowEndReason) (key : FlowKey) :
    Accounts key (updatesOf key calls)
      ((returned ++ (cache.evicted ++ (order.arrange cache.flows.values).filterMap fun flow =>
        (reason flow).map flow.ended)).filter (·.key = key))
      ((cache.flows.retain fun flow => (reason flow).isNone).lookup key) := by
  rw [← List.append_assoc, List.filter_append, filter_ended order reason balanced.keyed,
    Table.lookup_retain]
  exact (balanced.accounts key).finish_some reason

theorem Balanced.checkExpiredFlows (balanced : Balanced cache start calls returned)
    (order : IterationOrder Flow) (now : Instant) :
    Balanced (cache.checkExpiredFlows order now).1 start
      (calls ++ [(order, .checkExpiredFlows now)])
        (returned ++ (cache.checkExpiredFlows order now).2) where
  settings := balanced.settings
  room := by
    refine Nat.le_trans ?_ balanced.room
    change Table.size (Table.retain _ _) ≤ _
    rw [← Table.length_values, Table.values_retain, ← Table.length_values]
    exact List.length_filter_le _ _
  accounts key := by
    have same : updatesOf key (calls ++ [(order, .checkExpiredFlows now)]) =
        updatesOf key calls := by
      simp [updatesOf]
    have accounts := balanced.finish order (cache.expiry now) key
    rw [same]
    change Accounts key _ (List.filter _ ((returned ++ _) ++ [])) _
    rw [List.append_nil]
    exact accounts

theorem Balanced.exportAll (balanced : Balanced cache start calls returned)
    (order : IterationOrder Flow) :
    Balanced (cache.exportAll order).1 start (calls ++ [(order, .exportAll)])
      (returned ++ (cache.exportAll order).2) where
  settings := balanced.settings
  room := Nat.zero_le _
  accounts key := by
    have same : updatesOf key (calls ++ [(order, .exportAll)]) = updatesOf key calls := by
      simp [updatesOf]
    have accounts := balanced.finish order (fun _ => some .forcedEnd) key
    have nothing : (cache.flows.retain fun _ => (some FlowEndReason.forcedEnd).isNone).lookup key =
        none := by
      rw [Table.lookup_retain]
      cases cache.flows.lookup key <;> rfl
    have all : ∀ visited : List Flow,
        visited.filterMap (fun flow => (some FlowEndReason.forcedEnd).map flow.ended) =
        visited.map (·.ended .forcedEnd) := fun visited => congrFun List.filterMap_eq_map visited
    rw [nothing, all] at accounts
    rw [same]
    change Accounts key _ (List.filter _ ((returned ++ _) ++ [])) none
    rw [List.append_nil]
    exact accounts

/-- Making room never panics, leaves room, and ends no flow seen later than one it keeps. -/
theorem Balanced.makeRoom (balanced : Balanced cache start calls returned)
    (positive : 1 ≤ start.maxFlows) (order : IterationOrder Flow) :
    ∃ cache' ended, cache.makeRoom order = some cache' ∧
        Balanced cache' start calls returned ∧ cache'.flows.size < start.maxFlows ∧
        cache'.evicted = cache.evicted ++ ended ∧
        ∀ key flow, cache'.flows.lookup key = some flow →
          cache.flows.lookup key = some flow ∧ ∀ gone ∈ ended, gone.lastSeen ≤ flow.lastSeen := by
  have limit : cache.maxFlows = start.maxFlows := congrArg (·.2.2) balanced.settings
  have room := balanced.room
  by_cases full : cache.flows.size ≥ cache.maxFlows
  · have inside : max (cache.maxFlows / EVICTION_FRACTION) 1 - 1 <
        (cache.flows.values.map (·.lastSeen)).length := by
      have : cache.maxFlows / EVICTION_FRACTION ≤ cache.maxFlows := Nat.div_le_self _ _
      rw [List.length_map, Table.length_values]
      omega
    obtain ⟨cutoff, selected⟩ := Option.isSome_iff_exists.mp (selectNth_isSome.mpr inside)
    have evicts := evictIdleLongest_eq order selected
    generalize kept : (fun flow : Flow => if flow.lastSeen > cutoff then none
      else some FlowEndReason.lackOfResources) =
      reason at evicts
    have late : ∀ flow, reason flow = none ↔ cutoff < flow.lastSeen := by
      intro flow
      subst kept
      by_cases later : flow.lastSeen > cutoff <;> simp [later]
    have fewer : (cache.flows.retain fun flow => (reason flow).isNone).size < cache.flows.size := by
      have := length_filter_selectNth selected
      rw [List.filter_map, List.length_map, List.length_map] at this
      have same : cache.flows.values.filter (fun flow => (reason flow).isNone) =
          cache.flows.values.filter ((fun x => decide (cutoff < x)) ∘ (·.lastSeen)) := by
        refine List.filter_congr fun flow _ => ?_
        rw [Bool.eq_iff_iff, Option.isNone_iff_eq_none, late]
        simp
      rw [← Table.length_values, ← Table.length_values, Table.values_retain, same]
      omega
    refine ⟨_, _, (if_pos full).trans evicts,
      ⟨balanced.settings, by dsimp only; omega, balanced.finish order reason⟩, by
        dsimp only; omega, rfl, fun key flow found => ?_⟩
    rw [Table.lookup_retain, Option.filter_eq_some_iff, Option.isNone_iff_eq_none, late] at found
    refine ⟨found.1, fun gone mem => ?_⟩
    obtain ⟨flow', _, ended⟩ := List.mem_filterMap.mp mem
    obtain ⟨why, given, rfl⟩ := Option.map_eq_some_iff.mp ended
    have early : ¬ cutoff < flow'.lastSeen := by
      rw [← late, given]
      exact Option.some_ne_none why
    exact Nat.le_trans (Nat.not_lt.mp early) (Nat.le_of_lt found.2)
  · refine ⟨cache, [], if_neg full,
      balanced, by omega, (List.append_nil _).symm, fun key flow found => ⟨found, ?_⟩⟩
    exact fun gone mem => absurd mem (List.not_mem_nil)

/-- An update never panics and is entered in its key's account; the flows it ends to make room were
seen no later than any it keeps. -/
theorem Balanced.updateFlow (balanced : Balanced cache start calls returned)
    (positive : 1 ≤ start.maxFlows) (order : IterationOrder Flow) (key : FlowKey)
    (packetSize : UInt64) (tcpFlags : UInt16) (seen : Seen) :
    ∃ cache' ended, cache.updateFlow order key packetSize tcpFlags seen = some cache' ∧
      Balanced cache' start (calls ++ [(order, .updateFlow key packetSize tcpFlags seen)])
        returned ∧
      cache'.evicted = cache.evicted ++ ended ∧
      (cache'.flows.lookup key).isSome ∧
      ∀ key', key' ≠ key → ∀ flow, cache'.flows.lookup key' = some flow →
        ∀ gone ∈ ended, gone.lastSeen ≤ flow.lastSeen := by
  have updates :
      ∀ key', updatesOf key' (calls ++ [(order, .updateFlow key packetSize tcpFlags seen)]) =
      updatesOf key' calls ++ if key = key' then [⟨packetSize, tcpFlags, seen⟩] else [] := by
    intro key'
    by_cases same : key = key' <;> simp [updatesOf, same]
  -- One entry is written, for the key, in a cache that has room for it.
  have enter : ∀ (cache' : FlowCache) (flow : Option Flow), Balanced cache' start calls returned →
      cache'.flows.lookup key = flow → (flow = none → cache'.flows.size < start.maxFlows) →
      let entered := (flow.getD (Flow.new key seen)).update packetSize tcpFlags seen
      Balanced { cache' with flows := cache'.flows.insert key entered } start
        (calls ++ [(order, .updateFlow key packetSize tcpFlags seen)]) returned := by
    intro cache' flow balanced' found room entered
    refine ⟨balanced'.settings, ?_, fun key' => ?_⟩
    · have within := balanced'.room
      dsimp only
      rw [Table.size_insert, found]
      cases flow with
      | none => exact room rfl
      | some flow => exact within
    · have accounts := balanced'.accounts key'
      dsimp only
      rw [updates, Table.lookup_insert_eq]
      by_cases same : key' = key
      · subst same
        rw [found] at accounts
        rw [if_pos rfl, if_pos rfl]
        exact accounts.update ⟨packetSize, tcpFlags, seen⟩
      · rw [if_neg same, if_neg (Ne.symm same), List.append_nil]
        exact accounts
  cases found : cache.flows.lookup key with
  | some flow =>
    refine ⟨{ cache with flows := cache.flows.insert key (flow.update packetSize tcpFlags seen) },
      [], ?_, enter cache (some flow) balanced found fun h => (by cases h),
      (List.append_nil _).symm, ?_, ?_⟩
    · rw [FlowCache.updateFlow, found]
    · dsimp only
      rw [AList.lookup_insert]
      rfl
    · exact fun _ _ _ _ gone mem => absurd mem List.not_mem_nil
  | none =>
    obtain ⟨cache', ended, made, balanced', room, evicted, kept⟩ := balanced.makeRoom positive order
    have absent : cache'.flows.lookup key = none := by
      refine Option.eq_none_iff_forall_ne_some.mpr fun flow present => ?_
      have := (kept key flow present).1
      rw [found] at this
      cases this
    refine ⟨{ cache' with flows := cache'.flows.insert key ((Flow.new key seen).update packetSize
      tcpFlags seen) },
      ended, ?_, enter cache' none balanced' absent fun _ => room, evicted, ?_, ?_⟩
    · rw [FlowCache.updateFlow, found]
      dsimp only
      rw [made]
      rfl
    · dsimp only
      rw [AList.lookup_insert]
      rfl
    · intro key' other flow present
      dsimp only at present
      rw [AList.lookup_insert_ne other] at present
      exact (kept key' flow present).2

theorem Balanced.call (balanced : Balanced cache start calls returned)
    (positive : 1 ≤ start.maxFlows) (next : IterationOrder Flow × Call) :
    ∃ cache' flows, cache.call next = some (cache', flows) ∧
        Balanced cache' start (calls ++ [next]) (returned ++ flows) := by
  obtain ⟨order, ⟨key, packetSize, tcpFlags, seen⟩ | now | _⟩ := next
  · obtain ⟨cache', _, updated, balanced', _⟩ :=
      balanced.updateFlow positive order key packetSize tcpFlags seen
    refine ⟨cache', [], ?_, ?_⟩
    · rw [FlowCache.call, updated]
      rfl
    · rw [List.append_nil]
      exact balanced'
  · exact ⟨_, _, rfl, balanced.checkExpiredFlows order now⟩
  · exact ⟨_, _, rfl, balanced.exportAll order⟩

theorem Balanced.run (balanced : Balanced cache start calls returned)
    (positive : 1 ≤ start.maxFlows) (more : List (IterationOrder Flow × Call)) :
    ∃ cache' flows, cache.run more = some (cache', flows) ∧
        Balanced cache' start (calls ++ more) (returned ++ flows) := by
  induction more generalizing cache calls returned with
  | nil => exact ⟨cache, [], rfl, by simpa using balanced⟩
  | cons next more ih =>
    obtain ⟨cache', flows, called, balanced'⟩ := balanced.call positive next
    obtain ⟨cache'', later, ran, balanced''⟩ := ih balanced'
    refine ⟨cache'', flows ++ later, ?_, ?_⟩
    · rw [FlowCache.run, called]
      simp only [Option.bind_eq_bind, Option.bind_some]
      rw [ran]
      rfl
    · rw [List.append_assoc, List.singleton_append, List.append_assoc] at balanced''
      exact balanced''

end

end FlowCache

/-! ### Main result -/

/-- However the cache is used, no update panics, it stays within its limit, and the flows returned,
waiting and cached for a key account for its updates, each flow for a stretch of its own. Room is
made by ending flows seen no later than those kept, and a check leaves none that has timed out and
ends only those and the ones already waiting. -/
theorem flow_cache_conserves (activeTimeout inactiveTimeout maxFlows : Nat)
    (positive : 1 ≤ maxFlows) (calls : List (IterationOrder Flow × Call)) :
    ∃ cache returned, (FlowCache.new activeTimeout inactiveTimeout maxFlows).run calls =
      some (cache, returned) ∧
      cache.flows.size ≤ maxFlows ∧
      (∀ key,
        let updates := updatesOf key calls
        let ended := (returned ++ cache.evicted).filter (·.key = key)
        let cached := cache.flows.lookup key
        let flows := ended ++ cached.toList
        Accounts key updates ended cached ∧
          (updates.length < 2 ^ 64 → (flows.map (·.packetCount.toNat)).sum = updates.length) ∧
          ((updates.map (·.packetSize.toNat)).sum < 2 ^ 64 →
            (flows.map (·.octetCount.toNat)).sum = (updates.map (·.packetSize.toNat)).sum) ∧
          allFlags (flows.map (·.tcpFlags)) = allFlags (updates.map (·.tcpFlags))) ∧
      (∀ order key packetSize tcpFlags seen, ∃ cache' ended,
        cache.updateFlow order key packetSize tcpFlags seen = some cache' ∧
          cache'.flows.size ≤ maxFlows ∧
          (cache'.flows.lookup key).isSome ∧ cache'.evicted = cache.evicted ++ ended ∧
          ∀ key', key' ≠ key → ∀ flow, cache'.flows.lookup key' = some flow →
            ∀ gone ∈ ended, gone.lastSeen ≤ flow.lastSeen) ∧
      ∀ order now,
        let checked := cache.checkExpiredFlows order now
        (∀ key flow, checked.1.flows.lookup key = some flow →
          now - flow.firstSeen < Duration.fromSecs activeTimeout ∧
            now - flow.lastSeen < Duration.fromSecs inactiveTimeout) ∧
        ∀ flow ∈ checked.2, flow ∈ cache.evicted ∨ Duration.fromSecs activeTimeout ≤
          now - flow.firstSeen ∨
          Duration.fromSecs inactiveTimeout ≤ now - flow.lastSeen := by
  obtain ⟨cache, returned, ran, balanced⟩ :=
    (balanced_new activeTimeout inactiveTimeout maxFlows).run positive calls
  rw [List.nil_append, List.nil_append] at balanced
  have active : cache.activeTimeout = Duration.fromSecs activeTimeout :=
    congrArg (·.1) balanced.settings
  have inactive : cache.inactiveTimeout = Duration.fromSecs inactiveTimeout :=
    congrArg (·.2.1) balanced.settings
  refine ⟨cache, returned, ran, balanced.room,
    fun key => ⟨balanced.accounts key, (balanced.accounts key).totals⟩,
    fun order key packetSize tcpFlags seen => ?_, fun order now =>
      ⟨fun key flow found => ?_, fun flow mem => ?_⟩⟩
  · obtain ⟨cache', ended, updated, balanced', evicted, entered, kept⟩ :=
      balanced.updateFlow positive order key packetSize tcpFlags seen
    exact ⟨cache', ended, updated, balanced'.room, entered, evicted, kept⟩
  · have alive := (Option.filter_eq_some_iff.mp ((Table.lookup_retain _ _ _).symm.trans found)).2
    unfold expiry at alive
    rw [active, inactive] at alive
    dsimp only at alive
    split at alive
    · cases alive
    · next young =>
      split at alive
      · cases alive
      · next busy => exact ⟨Nat.lt_of_not_ge young, Nat.lt_of_not_ge busy⟩
  · rcases List.mem_append.mp mem with waiting | expired
    · exact .inl waiting
    · obtain ⟨flow', _, ended⟩ := List.mem_filterMap.mp expired
      obtain ⟨why, given, rfl⟩ := Option.map_eq_some_iff.mp ended
      refine .inr ?_
      unfold expiry at given
      rw [active, inactive] at given
      dsimp only at given
      split at given
      · next old => exact .inl old
      · split at given
        · next idle => exact .inr idle
        · cases given

/-- Three packets of two flows in a cache with room for one. -/
def threePackets : List (IterationOrder Flow × Call) :=
  let key := fun port : UInt16 => FlowKey.mk (.v4 0x0a000001) (.v4 0x0a000002) 6 port 80
  let order : IterationOrder Flow := ⟨id, fun _ => .rfl⟩
  [(order, .updateFlow (key 1) 100 2 ⟨⟨0⟩, 5⟩), (order, .updateFlow (key 1) 60 16 ⟨⟨1⟩, 6⟩),
    (order, .updateFlow (key 2) 40 2 ⟨⟨2⟩, 7⟩)]

theorem threePackets_conserved :
    ∃ cache returned, (FlowCache.new 60 15 1).run threePackets = some (cache, returned) ∧
      cache.flows.size ≤ 1 := by
  obtain ⟨cache, returned, ran, room, _⟩ := flow_cache_conserves 60 15 1 (by decide) threePackets
  exact ⟨cache, returned, ran, room⟩

end Rustflow
