import Mathlib.Data.List.Basic

/-!
# Checked computations

Programs in a language that stops at an index out of range, with the rules that show one to return.
-/

/-- Why a computation does not return. -/
inductive Stop where
  | outOfRange
  /-- A value that was expected is not there. -/
  | absent
  /-- A container of a fixed capacity is full. -/
  | overfull
  | assertion
  /-- The rounds given to a loop are used up. -/
  | endless
  deriving DecidableEq

abbrev Checked : Type → Type := Except Stop

namespace Checked
variable {α β σ ρ : Type}

def index (xs : List α) (i : Nat) : Checked α :=
  match xs[i]? with
  | some x => .ok x
  | none => .error .outOfRange

def expect : Option α → Checked α
  | some x => .ok x
  | none => .error .absent

def push (capacity : Nat) (xs : List α) (x : α) : Checked (List α) :=
  if xs.length < capacity then .ok (xs ++ [x]) else .error .overfull

def set (xs : List α) (i : Nat) (x : α) : Checked (List α) :=
  if i < xs.length then .ok (xs.set i x) else .error .outOfRange

def assert (holds : Bool) : Checked Unit := if holds then .ok () else .error .assertion

/-- Runs the body until it is done, for so many rounds at most. -/
def loop (body : σ → Checked (σ ⊕ ρ)) : Nat → σ → Checked ρ
  | 0, _ => .error .endless
  | rounds + 1, s => do
    match ← body s with
    | .inl s => loop body rounds s
    | .inr r => return r

@[simp] theorem ok_bind (a : α) (f : α → Checked β) : (Except.ok a >>= f : Checked β) = f a := rfl

theorem index_of_lt {xs : List α} {i : Nat} (inRange : i < xs.length) : index xs i = .ok xs[i] := by
  unfold index
  rw [List.getElem?_eq_getElem inRange]

@[simp] theorem index_cons_zero (x : α) (xs : List α) : index (x :: xs) 0 = .ok x := rfl

@[simp] theorem index_cons_succ (x : α) (xs : List α) (i : Nat) :
    index (x :: xs) (i + 1) = index xs i := rfl

theorem push_of_lt {capacity : Nat} {xs : List α} (room : xs.length < capacity) (x : α) :
    push capacity xs x = .ok (xs ++ [x]) := if_pos room

theorem set_of_lt {xs : List α} {i : Nat} (inRange : i < xs.length) (x : α) :
    set xs i x = .ok (xs.set i x) :=
  if_pos inRange

theorem assert_bind_eq_ok {holds : Bool} {f : Unit → Checked α} {a : α} :
    assert holds >>= f = .ok a ↔ holds ∧ f () = .ok a := by
  cases holds <;> simp [assert, bind, Except.bind]

/-- A fold of checked steps is that of the plain ones, while an invariant of theirs keeps them
going. -/
theorem foldlM_eq {step : σ → α → Checked σ} {plain : σ → α → σ} (inv : σ → Prop) {xs : List α}
    (each : ∀ s, inv s → ∀ x ∈ xs, step s x = .ok (plain s x) ∧ inv (plain s x)) {s : σ}
    (start : inv s) :
    xs.foldlM step s = .ok (xs.foldl plain s) ∧ inv (xs.foldl plain s) := by
  induction xs generalizing s with
  | nil => exact ⟨rfl, start⟩
  | cons x xs ih =>
    obtain ⟨stepped, kept⟩ := each s start x List.mem_cons_self
    rw [List.foldlM_cons, stepped, ok_bind]
    exact ih (fun s' holds y mem => each s' holds y (List.mem_cons_of_mem x mem)) kept

/-- The loop computes what each round keeps, in fewer rounds than the measure allows. -/
theorem loop_eq {body : σ → Checked (σ ⊕ ρ)} (f : σ → ρ) (measure : σ → Nat)
    (round : ∀ s, body s = .ok (.inr (f s)) ∨ ∃ s', body s = .ok (.inl s') ∧ f s' = f s ∧
      measure s' < measure s)
    {rounds : Nat} {s : σ} (enough : measure s < rounds) : loop body rounds s = .ok (f s) := by
  induction rounds generalizing s with
  | zero => omega
  | succ rounds ih =>
    unfold loop
    obtain done | ⟨s', more, kept, less⟩ := round s
    · rw [done]
      rfl
    · rw [more, ← kept]
      exact ih (by omega)

end Checked
