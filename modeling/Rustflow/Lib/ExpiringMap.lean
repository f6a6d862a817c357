import Rustflow.Lib.Table

/-!
# A map whose entries expire

The specification of a budgeted cache: a finite map that remembers when each key was last
stored and forgets nothing on its own. An entry is live until `timeout` has passed since it
was stored, a lookup sees live entries only, and storing a value is refused when it and the
live entries under other keys would not fit the capacity.

`Refines` relates such a map to an implementation that may have dropped expired entries.
-/

namespace ExpiringMap

structure Entry (V : Type) where
  value : V
  sentAt : Nat
  deriving DecidableEq

variable {K V : Type}

/-- Less than `timeout` has passed since the entry was stored. -/
def Live (timeout now : Nat) (e : Entry V) : Prop := now - e.sentAt < timeout

instance (timeout now : Nat) (e : Entry V) : Decidable (Live timeout now e) :=
  inferInstanceAs (Decidable (_ < _))

theorem Live.earlier {timeout now now' : Nat} {e : Entry V} (h : Live timeout now' e)
    (le : now ≤ now') :
    Live timeout now e := by
  unfold Live at *
  omega

/-- What a lookup shows of an entry. -/
def visible (timeout now : Nat) (e : Entry V) : Option V :=
  if Live timeout now e then some e.value else none

/-- Operations on the map. `refresh` may change the values of some keys but not when they were
stored. -/
inductive Op (K V : Type) where
  | lookup (k : K)
  | insert (k : K) (v : V)
  | remove (k : K)
  | removeAll (p : K → Bool)
  | refresh (p : K → Bool) (f : V → V)

section Spec
variable [DecidableEq K] (size : V → Nat) (capacity timeout : Nat)

/-- The value of a live entry. -/
def get (now : Nat) (k : K) (s : Table K (Entry V)) : Option V :=
  (s.lookup k).bind (visible timeout now)

/-- The sizes of the live entries under other keys. -/
def liveOthers (now : Nat) (k : K) (s : Table K (Entry V)) : Nat :=
  Table.total (fun k' e => if k' ≠ k ∧ Live timeout now e then size e.value else 0) s

/-- The value and the live entries under other keys fit the capacity. -/
def Admits (now : Nat) (k : K) (v : V) (s : Table K (Entry V)) : Prop :=
  size v + liveOthers size timeout now k s ≤ capacity

instance (now : Nat) (k : K) (v : V) (s : Table K (Entry V)) :
    Decidable (Admits size capacity timeout now k v s) :=
  inferInstanceAs (Decidable (_ ≤ _))

def apply (now : Nat) (s : Table K (Entry V)) : Op K V → Table K (Entry V)
  | .lookup _ => s
  | .insert k v => if Admits size capacity timeout now k v s then s.insert k ⟨v, now⟩ else s.erase k
  | .remove k => s.erase k
  | .removeAll p => Table.filterMapValues (fun k e => if p k then none else some e) s
  | .refresh p f =>
    Table.filterMapValues (fun k e => some (if p k then { e with value := f e.value } else e)) s

/-- Runs timed operations from the empty map. -/
def run (ops : List (Nat × Op K V)) : Table K (Entry V) :=
  ops.foldl (fun s op => apply size capacity timeout op.1 s op.2) ∅

end Spec

/-! ### Refinement -/

/-- The implementation stores what the map stores, except that expired entries may be gone. -/
structure Refines (timeout now : Nat) (c s : K → Option (Entry V)) : Prop where
  stored : ∀ k e, c k = some e → s k = some e
  live : ∀ k e, s k = some e → Live timeout now e → c k = some e

namespace Refines
variable {timeout now : Nat} {c s : K → Option (Entry V)}

theorem visible_eq (h : Refines timeout now c s) (k : K) :
    (c k).bind (visible timeout now) = (s k).bind (visible timeout now) := by
  refine Option.ext fun v => ?_
  simp only [Option.bind_eq_some_iff, visible, Option.ite_none_right_eq_some, Option.some.injEq]
  constructor
  · rintro ⟨e, found, alive, rfl⟩
    exact ⟨e, h.stored k e found, alive, rfl⟩
  · rintro ⟨e, found, alive, rfl⟩
    exact ⟨e, h.live k e found alive, alive, rfl⟩

theorem later {now' : Nat} (h : Refines timeout now c s) (le : now ≤ now') :
    Refines timeout now' c s :=
  ⟨h.stored, fun k e found alive => h.live k e found (alive.earlier le)⟩

/-- Dropping some of the expired entries keeps the refinement. -/
theorem sweep {c' : K → Option (Entry V)} (h : Refines timeout now c s)
    (kept : ∀ k e, c' k = some e → c k = some e)
    (live : ∀ k e, c k = some e → Live timeout now e → c' k = some e) : Refines timeout now c' s :=
  ⟨fun k e found => h.stored k e (kept k e found),
    fun k e found alive => live k e (h.live k e found alive) alive⟩

/-- Both sides change in the same way at each key, which keeps the time of an entry it keeps. -/
theorem map {g : K → Entry V → Option (Entry V)} (h : Refines timeout now c s)
    (time : ∀ k e e', g k e = some e' → e'.sentAt = e.sentAt) :
    Refines timeout now (fun k => (c k).bind (g k)) (fun k => (s k).bind (g k)) := by
  constructor
  · intro k e found
    obtain ⟨e₀, before, after⟩ := Option.bind_eq_some_iff.mp found
    exact Option.bind_eq_some_iff.mpr ⟨e₀, h.stored k e₀ before, after⟩
  · intro k e found alive
    obtain ⟨e₀, before, after⟩ := Option.bind_eq_some_iff.mp found
    have alive₀ : Live timeout now e₀ := by
      have := time k e₀ e after
      unfold Live at *
      omega
    exact Option.bind_eq_some_iff.mpr ⟨e₀, h.live k e₀ before alive₀, after⟩

theorem update [DecidableEq K] (h : Refines timeout now c s) (k : K) (e : Option (Entry V)) :
    Refines timeout now (Function.update c k e) (Function.update s k e) := by
  constructor <;> intro k' e'
  · by_cases same : k' = k
    · subst same; simp
    · simpa [same] using h.stored k' e'
  · by_cases same : k' = k
    · subst same; simp +contextual
    · simpa [same] using h.live k' e'

end Refines

end ExpiringMap
