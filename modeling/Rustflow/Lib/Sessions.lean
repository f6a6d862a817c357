import Rustflow.Lib.Table

/-!
# Sessions that time out

A session for each key, forgotten when its key has not been heard from for so long. Those are looked
for now and then, whichever key is heard from. A key heard from often enough finds its session as it
left it.
-/

structure Sessions (K E : Type) where
  map : Table K E
  nextSweep : Nat

namespace Sessions
variable {K E : Type}

section
variable (lastSeen : E → Nat) (interval timeout : Nat)

def sweep (now : Nat) (self : Sessions K E) : Sessions K E :=
  if now ≥ self.nextSweep then
    { map := self.map.retain fun session => now - lastSeen session < timeout,
      nextSweep := now + interval }
  else self

end

variable [DecidableEq K]

def put (self : Sessions K E) (k : K) (session : E) : Sessions K E :=
  { self with map := self.map.insert k session }

theorem lookup_put (self : Sessions K E) (k k' : K) (session : E) :
    (self.put k session).map.lookup k' = if k' = k then some session else self.map.lookup k' :=
  Table.lookup_insert_eq _ _ _ _

variable {lastSeen : E → Nat} {interval timeout now now' : Nat}

/-- A sweep keeps a session or forgets one that has timed out. -/
theorem lookup_sweep (self : Sessions K E) (k : K) :
    (self.sweep lastSeen interval timeout now).map.lookup k = self.map.lookup k ∨
      (self.sweep lastSeen interval timeout now).map.lookup k = none ∧
        ∃ session, self.map.lookup k = some session ∧ timeout ≤ now - lastSeen session := by
  unfold sweep
  split
  · rw [Table.lookup_retain]
    cases found : self.map.lookup k with
    | none => exact .inl rfl
    | some session =>
      by_cases recent : now - lastSeen session < timeout
      · exact .inl (by simp [recent])
      · exact .inr ⟨by simpa using recent, session, rfl, Nat.not_lt.mp recent⟩
  · exact .inl rfl

/-- The session that a key left behind is there, or has timed out. -/
def Holds (lastSeen : E → Nat) (timeout now : Nat) (k : K) (session : Option E)
    (self : Sessions K E) : Prop :=
  self.map.lookup k = session ∨ self.map.lookup k = none ∧ ∃ left, session = some left ∧
    timeout ≤ now - lastSeen left

variable {k k' : K} {session : Option E} {self : Sessions K E}

theorem Holds.later (holds : Holds lastSeen timeout now k session self) (le : now ≤ now') :
    Holds lastSeen timeout now' k session self :=
  holds.imp_right fun ⟨gone, left, same, late⟩ => ⟨gone, left, same,
    Nat.le_trans late (Nat.sub_le_sub_right le _)⟩

theorem Holds.sweep (holds : Holds lastSeen timeout now k session self) (le : now ≤ now') :
    Holds lastSeen timeout now' k session (self.sweep lastSeen interval timeout now') := by
  obtain there | ⟨gone, left, rfl, late⟩ := holds.later le
  · obtain same | ⟨gone, left, found, late⟩ := self.lookup_sweep k
    · exact .inl (same.trans there)
    · exact .inr ⟨gone, left, there.symm.trans found, late⟩
  · refine .inr ⟨?_, left, rfl, late⟩
    obtain same | ⟨gone', _⟩ := self.lookup_sweep k
    · exact same.trans gone
    · exact gone'

theorem Holds.put_other (holds : Holds lastSeen timeout now k session self) (other : k ≠ k')
    (session' : E) :
    Holds lastSeen timeout now k session (self.put k' session') := by
  unfold Holds
  rw [lookup_put, if_neg other]
  exact holds

theorem holds_put (self : Sessions K E) (k : K) (session : E) :
    Holds lastSeen timeout now k (some session) (self.put k session) :=
  .inl (by rw [lookup_put, if_pos rfl])

/-- A key that comes back in time finds what it left. -/
theorem Holds.lookup (holds : Holds lastSeen timeout now k session self)
    (recent : ∀ left, session = some left → now - lastSeen left < timeout) :
    self.map.lookup k = session := by
  obtain there | ⟨_, left, same, late⟩ := holds
  · exact there
  · exact absurd (recent left same) (Nat.not_lt.mpr late)

/-- A key is heard from at these times, each less than `timeout` after the one before. -/
def Steady (timeout : Nat) (times : List Nat) : Prop :=
  times.IsChain fun time next => next - time < timeout

/-- Every session has a property. -/
def Forall (P : K → E → Prop) (self : Sessions K E) : Prop :=
  ∀ k session, self.map.lookup k = some session → P k session

variable {P : K → E → Prop}

theorem Forall.sweep (all : Forall P self) :
    Forall P (self.sweep lastSeen interval timeout now) := by
  intro k session found
  obtain same | ⟨gone, _⟩ := @lookup_sweep _ _ _ lastSeen interval timeout now self k
  · exact all k session (same.symm.trans found)
  · rw [gone] at found
    cases found

theorem Forall.put (all : Forall P self) {new : E} (holds : P k new) :
    Forall P (self.put k new) := by
  intro k' session found
  rw [lookup_put] at found
  split at found
  · next same =>
    cases found
    rwa [same]
  · exact all k' session found

end Sessions
