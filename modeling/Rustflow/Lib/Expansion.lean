import Mathlib.Data.List.Basic

/-!
# Reading one item at a time

Inputs come to any number of items each, or to an event. A reader keeps the items of one input in a
queue and returns them one by one; when there are none it goes on to the next input. `reads_eq` says
that nothing gets lost, repeated or out of order.
-/

namespace Expansion
variable {σ ι α β S : Type}

/-- What there is to read: the state, the items queued and the inputs to come. -/
structure Reading (σ ι α : Type) where
  state : σ
  queue : List α
  inputs : List ι

/-- Items are returned as `wrap` has them. `atEnd` is returned after the last input, if reading does
not wait there. -/
def readLoop (wrap : α → β) (expand : σ → ι → σ × (List α ⊕ β)) (atEnd : Option β) :
    List ι → σ → List α → Option (β × Reading σ ι α)
  | inputs, state, item :: queue => some (wrap item, { state, queue, inputs })
  | [], state, [] => atEnd.map fun event => (event, { state, queue := [], inputs := [] })
  | input :: inputs, state, [] =>
    match expand state input with
    | (state, .inl items) => readLoop wrap expand atEnd inputs state items
    | (state, .inr event) => some (event, { state, queue := [], inputs })

def read (wrap : α → β) (expand : σ → ι → σ × (List α ⊕ β)) (atEnd : Option β)
    (self : Reading σ ι α) :
    Option (β × Reading σ ι α) := readLoop wrap expand atEnd self.inputs self.state self.queue

/-- Everything the inputs come to. -/
def all (wrap : α → β) (expand : σ → ι → σ × (List α ⊕ β)) : σ → List ι → List β
  | _, [] => []
  | state, input :: inputs =>
    match expand state input with
    | (state, .inl items) => items.map wrap ++ all wrap expand state inputs
    | (state, .inr event) => event :: all wrap expand state inputs

/-- Everything there is to read. -/
def Reading.left (wrap : α → β) (expand : σ → ι → σ × (List α ⊕ β))
    (self : Reading σ ι α) : List β :=
  self.queue.map wrap ++ all wrap expand self.state self.inputs

/-- Up to so many calls, and what they returned. -/
def calls (call : S → Option (β × S)) : Nat → S → List β × S
  | 0, self => ([], self)
  | n + 1, self =>
    match call self with
    | none => ([], self)
    | some (returned, next) =>
      let (more, last) := calls call n next
      (returned :: more, last)

/-- Calls until what is returned is not to be skipped, so many times at most. -/
def skipping (call : S → Option (β × S)) (skip : β → Bool) : Nat → S → Option (β × S)
  | 0, _ => none
  | tries + 1, self =>
    match call self with
    | none => none
    | some (returned, next) => if skip returned then skipping call skip tries next
        else some (returned, next)

variable {wrap : α → β} {expand : σ → ι → σ × (List α ⊕ β)} {atEnd : Option β}

theorem all_of_items {state next : σ} {input : ι} {items : List α}
    (came : expand state input = (next, .inl items)) (inputs : List ι) :
    all wrap expand state (input :: inputs) = items.map wrap ++ all wrap expand next inputs := by
  rw [all, came]

theorem all_of_event {state next : σ} {input : ι} {event : β}
    (came : expand state input = (next, .inr event)) (inputs : List ι) :
    all wrap expand state (input :: inputs) = event :: all wrap expand next inputs := by
  rw [all, came]

/-- A read returns the first of what is left. At the end it returns that nothing is. -/
theorem left_of_read {self next : Reading σ ι α} {returned : β}
    (run : read wrap expand atEnd self = some (returned, next)) :
    self.left wrap expand = returned :: next.left wrap expand ∨
      self.left wrap expand = [] ∧ next.left wrap expand = [] ∧ atEnd = some returned := by
  obtain ⟨state, queue, inputs⟩ := self
  unfold read at run
  dsimp only at run
  unfold Reading.left
  dsimp only
  induction inputs generalizing state queue with
  | nil =>
    cases queue with
    | nil =>
      unfold readLoop at run
      obtain ⟨event, ends, same⟩ := Option.map_eq_some_iff.mp run
      cases same
      exact Or.inr ⟨rfl, rfl, ends⟩
    | cons item queue =>
      unfold readLoop at run
      cases Option.some.inj run
      exact Or.inl rfl
  | cons input inputs ih =>
    cases queue with
    | nil =>
      unfold readLoop at run
      rw [List.map_nil, List.nil_append]
      split at run
      · next after items came =>
        rw [all_of_items came]
        exact ih after items run
      · next after event came =>
        cases Option.some.inj run
        exact Or.inl (all_of_event came inputs)
    | cons item queue =>
      unfold readLoop at run
      cases Option.some.inj run
      exact Or.inl rfl

/-- Reading waits only with nothing left to read. -/
theorem left_of_read_none {self : Reading σ ι α} (waits : read wrap expand atEnd self = none) :
    self.left wrap expand = [] ∧ atEnd = none := by
  obtain ⟨state, queue, inputs⟩ := self
  unfold read at waits
  dsimp only at waits
  unfold Reading.left
  dsimp only
  induction inputs generalizing state queue with
  | nil =>
    cases queue with
    | nil =>
      unfold readLoop at waits
      exact ⟨rfl, Option.map_eq_none_iff.mp waits⟩
    | cons item queue =>
      unfold readLoop at waits
      cases waits
  | cons input inputs ih =>
    cases queue with
    | nil =>
      unfold readLoop at waits
      split at waits
      · next after items came =>
        rw [all_of_items came, List.map_nil, List.nil_append]
        exact ih after items waits
      · cases waits
    | cons item queue =>
      unfold readLoop at waits
      cases waits

/-- So many reads return that much of what is left, and after it that nothing is. -/
theorem reads_eq (n : Nat) (self : Reading σ ι α) :
    (calls (read wrap expand atEnd) n self).1 = (self.left wrap expand).take n ++
        atEnd.toList.flatMap (List.replicate (n - (self.left wrap expand).length)) ∧
      (calls (read wrap expand atEnd) n self).2.left wrap expand =
        (self.left wrap expand).drop n := by
  induction n generalizing self with
  | zero => cases atEnd <;> simp [calls]
  | succ n ih =>
    unfold calls
    cases run : read wrap expand atEnd self with
    | none =>
      obtain ⟨none, waits⟩ := left_of_read_none run
      simp [none, waits]
    | some result =>
      obtain ⟨returned, next⟩ := result
      obtain ⟨more, after⟩ := ih next
      dsimp only
      rcases left_of_read run with here | ⟨none, done, ended⟩
      · rw [here, more, after, List.length_cons, Nat.add_sub_add_right]
        exact ⟨rfl, rfl⟩
      · rw [none, after, done, more, done, ended]
        simp [List.replicate_succ]

/-- An event is returned for an input of its own. -/
theorem inputs_of_event {self next : Reading σ ι α} {event : β} (other : ∀ item, wrap item ≠ event)
    (run : read wrap expand none self = some (event, next)) :
    next.inputs.length < self.inputs.length := by
  obtain ⟨state, queue, inputs⟩ := self
  unfold read at run
  dsimp only at run ⊢
  induction inputs generalizing state queue with
  | nil =>
    cases queue with
    | nil => cases run
    | cons item queue => exact absurd (congrArg Prod.fst (Option.some.inj run)) (other item)
  | cons input inputs ih =>
    cases queue with
    | nil =>
      unfold readLoop at run
      split at run
      · next after items came => exact Nat.lt_succ_of_lt (ih after items run)
      · cases Option.some.inj run
        exact Nat.lt_succ_self _
    | cons item queue =>
      unfold readLoop at run
      exact absurd (congrArg Prod.fst (Option.some.inj run)) (other item)

/-- Each call returns the first of what is left. -/
def TakesFirst (call : S → Option (β × S)) (left : S → List β) : Prop :=
  ∀ self, match call self with
    | none => left self = []
    | some (returned, next) => left self = returned :: left next

theorem TakesFirst.calls {call : S → Option (β × S)} {left : S → List β}
    (first : TakesFirst call left) (n : Nat) (self : S) :
    (Expansion.calls call n self).1 = (left self).take n ∧ left (Expansion.calls call n self).2 =
      (left self).drop n := by
  induction n generalizing self with
  | zero => exact ⟨rfl, rfl⟩
  | succ n ih =>
    have here := first self
    unfold Expansion.calls
    cases run : call self with
    | none =>
      rw [run] at here
      simp [here]
    | some result =>
      rw [run] at here
      rw [here]
      obtain ⟨more, after⟩ := ih result.2
      exact ⟨congrArg _ more, after⟩

theorem takesFirst_read : TakesFirst (read wrap expand none) (Reading.left wrap expand) := by
  intro self
  cases run : read wrap expand none self with
  | none => exact (left_of_read_none run).1
  | some result =>
    rcases left_of_read run with here | ⟨_, _, never⟩
    · exact here
    · cases never

/-- Skipping the events to be skipped, reading returns the first of the rest. -/
theorem left_of_skipping {skip : β → Bool} (items : ∀ item, skip (wrap item) = false) {tries : Nat}
    {self : Reading σ ι α} (enough : self.inputs.length < tries) :
    match skipping (read wrap expand none) skip tries self with
    | none => (self.left wrap expand).filter (!skip ·) = []
    | some (returned, next) =>
      skip returned = false ∧ (self.left wrap expand).filter (!skip ·) =
        returned :: (next.left wrap expand).filter (!skip ·) := by
  induction tries generalizing self with
  | zero => exact absurd enough (Nat.not_lt_zero _)
  | succ tries ih =>
    unfold skipping
    cases run : read wrap expand none self with
    | none => exact congrArg _ (left_of_read_none run).1
    | some result =>
      obtain ⟨returned, next⟩ := result
      have here : self.left wrap expand = returned :: next.left wrap expand := by
        have first : TakesFirst (read wrap expand none) (Reading.left wrap expand) :=
          takesFirst_read
        have first := first self
        rw [run] at first
        exact first
      dsimp only
      rw [here, List.filter_cons]
      cases skipped : skip returned with
      | false => exact ⟨skipped, rfl⟩
      | true =>
        have other : ∀ item, wrap item ≠ returned := by
          rintro item rfl
          rw [items] at skipped
          cases skipped
        exact ih (Nat.lt_of_lt_of_le (inputs_of_event other run) (Nat.le_of_lt_succ enough))

end Expansion
