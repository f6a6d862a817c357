import Rustflow.Lib.Table

/-!
# Cells shared through handles

Cells are named by keys in a table, but whoever has looked a cell up keeps its handle and goes
through that from then on. `view` is the plain table of values that the cells stand for. A handle
stays good whatever is done through others, so that a write through it is a write at its key:
`lookup_view_modify`.
-/

namespace SharedCells
variable {K V : Type} [DecidableEq K]

/-- Different keys have different cells, all of them allocated. -/
structure Cells (K V : Type) [DecidableEq K] where
  handles : Table K Nat
  memory : Nat → V
  next : Nat
  allocated : ∀ key handle, handles.lookup key = some handle → handle < next
  distinct : ∀ key handle key' handle', handles.lookup key = some handle →
    handles.lookup key' = some handle' →
    handle = handle' → key = key'

namespace Cells

def empty (value : V) : Cells K V where
  handles := ∅
  memory := fun _ => value
  next := 0
  allocated _ _ found := by cases found
  distinct _ _ _ _ found := by cases found

def create (self : Cells K V) (key : K) (value : V) : Cells K V where
  handles := self.handles.insert key self.next
  memory := Function.update self.memory self.next value
  next := self.next + 1
  allocated := Table.forall_insert (Nat.lt_succ_self _) fun k handle found _ =>
    Nat.lt_succ_of_lt (self.allocated k handle found)
  distinct := Table.unique_insert (fun _ _ => Eq.symm) self.distinct fun k handle found same =>
    absurd (self.allocated k handle found) (by rw [← same]; exact Nat.lt_irrefl _)

/-- The handle of a key, whose cell is made with `value` if there is none. -/
def getOrCreate (self : Cells K V) (key : K) (value : V) : Nat × Cells K V :=
  match self.handles.lookup key with
  | some handle => (handle, self)
  | none => (self.next, self.create key value)

def modify (self : Cells K V) (handle : Nat) (f : V → V) : Cells K V :=
  { self with memory := Function.update self.memory handle (f (self.memory handle)) }

/-- What the cells stand for. -/
def view (self : Cells K V) : Table K V :=
  self.handles.filterMapValues fun _ handle => some (self.memory handle)

variable {self : Cells K V} {key : K} {handle : Nat}

theorem lookup_view (self : Cells K V) (key : K) :
    self.view.lookup key = (self.handles.lookup key).map self.memory := by
  rw [view, Table.lookup_filterMapValues]
  exact Option.map_eq_bind.symm

theorem lookup_getOrCreate (self : Cells K V) (key : K) (value : V) :
    (self.getOrCreate key value).2.handles.lookup key = some (self.getOrCreate key value).1 := by
  unfold getOrCreate
  cases found : self.handles.lookup key with
  | some handle => exact found
  | none => exact AList.lookup_insert _

/-- A handle stays that of its key. -/
theorem lookup_getOrCreate_of_some (found : self.handles.lookup key = some handle) (key' : K)
    (value : V) :
    (self.getOrCreate key' value).2.handles.lookup key = some handle := by
  unfold getOrCreate
  cases other : self.handles.lookup key' with
  | some handle' => exact found
  | none =>
    have different : key ≠ key' := by
      rintro rfl
      rw [other] at found
      cases found
    exact (AList.lookup_insert_ne different).trans found

theorem lookup_view_getOrCreate (self : Cells K V) (key : K) (value : V) (key' : K) :
    (self.getOrCreate key value).2.view.lookup key' =
      if key' = key then some ((self.view.lookup key).getD value) else self.view.lookup key' := by
  rw [lookup_view, lookup_view, lookup_view]
  unfold getOrCreate
  cases found : self.handles.lookup key with
  | some handle =>
    show (self.handles.lookup key').map self.memory = _
    split
    · next same =>
      rw [same, found]
      rfl
    · rfl
  | none =>
    show ((self.handles.insert key self.next).lookup key').map
      (Function.update self.memory self.next value) = _
    rw [Table.lookup_insert_eq]
    split
    · next same => exact congrArg some (Function.update_self ..)
    · next other =>
      cases there : self.handles.lookup key' with
      | none => rfl
      | some handle =>
        exact congrArg some (Function.update_of_ne
          (Nat.ne_of_lt (self.allocated key' handle there)) ..)

/-- A write through the handle of a key is a write at the key. -/
theorem lookup_view_modify (found : self.handles.lookup key = some handle) (f : V → V) (key' : K) :
    (self.modify handle f).view.lookup key' = if key' = key then (self.view.lookup key).map f
    else self.view.lookup key' := by
  rw [lookup_view, lookup_view, lookup_view]
  show (self.handles.lookup key').map
    (Function.update self.memory handle (f (self.memory handle))) = _
  split
  · next same =>
    rw [same, found]
    exact congrArg some (Function.update_self ..)
  · next other =>
    cases there : self.handles.lookup key' with
    | none => rfl
    | some handle' =>
      refine congrArg some (Function.update_of_ne (fun same => other ?_) ..)
      exact self.distinct key' handle' key handle there found same

/-- A new cell of which nothing is measured. -/
theorem total_getOrCreate (measure : K → V → Nat) {value : V} (nothing : measure key value = 0) :
    (self.getOrCreate key value).2.view.total measure = self.view.total measure := by
  refine Table.total_congr fun key' => ?_
  rw [lookup_view_getOrCreate]
  split
  · next same =>
    rw [same]
    cases self.view.lookup key with
    | none => exact nothing
    | some v => rfl
  · rfl

theorem total_modify (found : self.handles.lookup key = some handle) (f : V → V)
    (measure : K → V → Nat) :
    (self.modify handle f).view.total measure + measure key (self.memory handle) =
      self.view.total measure + measure key (f (self.memory handle)) := by
  have here : self.view.lookup key = some (self.memory handle) := by
    rw [lookup_view, found]
    rfl
  have same : (self.modify handle f).view.total measure =
      Table.total measure (self.view.insert key (f (self.memory handle))) := by
    refine Table.total_congr fun key' => ?_
    rw [lookup_view_modify found, Table.lookup_insert_eq, here]
    split
    · next same =>
      rw [same]
      rfl
    · rfl
  rw [same]
  have inserted := Table.total_insert measure self.view key (f (self.memory handle))
  rw [here] at inserted
  exact inserted

end Cells

end SharedCells
