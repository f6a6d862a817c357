import Mathlib.Data.List.Basic

/-!
# Buffered writing

A writer that gathers pieces in a buffer before a sink that may take a part of what it is given,
fail or be interrupted, by the rules of the standard library's `BufWriter`. A piece that is shorter
than the buffer goes in whole or not at all.
-/

/-- What a sink answers a call: it takes so much, was interrupted, or fails. -/
inductive Answer where
  | took (n : Nat)
  | interrupted
  | failed

/-- What a sink has been given, and how it will answer. Past these answers it fails. -/
structure Sink (α : Type) where
  written : List α
  answers : List Answer

/-- How far a sink got: whether it took everything, and what is left. -/
structure Pushed (α : Type) where
  done : Bool
  rest : List α
  sink : Sink α

namespace Sink
variable {α : Type}

/-- Writes until all is taken. To take nothing is to fail, and an interrupted call is made again. -/
def push (written : List α) : List Answer → List α → Pushed α
  | answers, [] => ⟨true, [], written, answers⟩
  | [], a :: as => ⟨false, a :: as, written, []⟩
  | .took n :: answers, a :: as =>
    if n = 0 then ⟨false, a :: as, written, answers⟩
    else push (written ++ (a :: as).take n) answers ((a :: as).drop n)
  | .interrupted :: answers, a :: as => push written answers (a :: as)
  | .failed :: answers, a :: as => ⟨false, a :: as, written, answers⟩

def writeAll (self : Sink α) (piece : List α) : Pushed α := push self.written self.answers piece

def flush (self : Sink α) : Bool × Sink α :=
  match self.answers with
  | [] => (false, self)
  | answer :: answers =>
    let flushed := match answer with
      | .took _ => true
      | _ => false
    (flushed, { self with answers })

theorem push_taken (written : List α) (answers : List Answer) (piece : List α) :
    ∃ taken, (push written answers piece).sink.written = written ++ taken ∧
      taken ++ (push written answers piece).rest = piece := by
  fun_induction push written answers piece with
  | case4 written n answers a as more ih =>
    obtain ⟨taken, is, split⟩ := ih
    refine ⟨(a :: as).take n ++ taken, ?_, ?_⟩
    · rw [is, List.append_assoc]
    · rw [List.append_assoc, split, List.take_append_drop]
  | case5 written answers a as ih => exact ih
  | _ => exact ⟨[], (List.append_nil _).symm, rfl⟩

theorem push_done {written : List α} {answers : List Answer} {piece : List α}
    (done : (push written answers piece).done = true) : (push written answers piece).rest = [] := by
  fun_induction push written answers piece with
  | case1 => rfl
  | case4 written n answers a as more ih => exact ih done
  | case5 written answers a as ih => exact ih done
  | _ => cases done

theorem written_flush (self : Sink α) : self.flush.2.written = self.written := by
  unfold flush
  cases self.answers <;> rfl

end Sink

structure BufWriter (α : Type) where
  capacity : Nat
  buffer : List α
  sink : Sink α

namespace BufWriter
variable {α : Type}

def withCapacity (capacity : Nat) (sink : Sink α) : BufWriter α := { capacity, buffer := [], sink }

def spareCapacity (self : BufWriter α) : Nat := self.capacity - self.buffer.length

def writeToBuffer (self : BufWriter α) (piece : List α) : BufWriter α :=
  { self with buffer := self.buffer ++ piece }

/-- What the sink takes leaves the buffer, also when it fails then. -/
def flushBuf (self : BufWriter α) : Bool × BufWriter α :=
  let pushed := self.sink.writeAll self.buffer
  (pushed.done, { self with buffer := pushed.rest, sink := pushed.sink })

/-- Flushes for a piece that there is no room for. -/
def makeRoom (self : BufWriter α) (piece : List α) : Bool × BufWriter α :=
  if self.spareCapacity < piece.length then self.flushBuf else (true, self)

/-- Past the buffer. -/
def writeThrough (self : BufWriter α) (piece : List α) : Bool × BufWriter α :=
  let pushed := self.sink.writeAll piece
  (pushed.done, { self with sink := pushed.sink })

def writeAllCold (self : BufWriter α) (piece : List α) : Bool × BufWriter α :=
  match self.makeRoom piece with
  | (false, self) => (false, self)
  | (true, self) =>
    if self.capacity ≤ piece.length then self.writeThrough piece
    else (true, self.writeToBuffer piece)

def writeAll (self : BufWriter α) (piece : List α) : Bool × BufWriter α :=
  if piece.length < self.spareCapacity then (true, self.writeToBuffer piece)
  else self.writeAllCold piece

def flush (self : BufWriter α) : Bool × BufWriter α :=
  match self.flushBuf with
  | (false, self) => (false, self)
  | (true, self) => (self.sink.flush.1, { self with sink := self.sink.flush.2 })

/-- Everything taken so far, in the sink or not. -/
def content (self : BufWriter α) : List α := self.sink.written ++ self.buffer

/-- A piece that does not go through the buffer is cut: the sink takes some of it, and then
fails. -/
def Cuts (self : BufWriter α) (piece : List α) : Prop :=
  self.capacity ≤ piece.length ∧ (self.makeRoom piece).1 = true ∧
    ((self.makeRoom piece).2.writeThrough piece).1 = false ∧
      ((self.makeRoom piece).2.sink.writeAll piece).rest ≠ piece

@[simp] theorem content_withCapacity (capacity : Nat) (sink : Sink α) :
    (withCapacity capacity sink).content = sink.written :=
  List.append_nil _

@[simp] theorem content_writeToBuffer (self : BufWriter α) (piece : List α) :
    (self.writeToBuffer piece).content = self.content ++ piece := (List.append_assoc ..).symm

@[simp] theorem content_flushBuf (self : BufWriter α) : self.flushBuf.2.content = self.content := by
  obtain ⟨taken, written, split⟩ := Sink.push_taken self.sink.written self.sink.answers self.buffer
  show (Sink.push self.sink.written self.sink.answers self.buffer).sink.written ++ _ =
    _ ++ self.buffer
  rw [written, List.append_assoc]
  exact congrArg _ split

theorem buffer_flushBuf {self : BufWriter α} (flushed : self.flushBuf.1 = true) :
    self.flushBuf.2.buffer = [] :=
  Sink.push_done flushed

theorem content_makeRoom (self : BufWriter α) (piece : List α) :
    (self.makeRoom piece).2.content = self.content := by
  unfold makeRoom
  split
  · exact content_flushBuf self
  · rfl

theorem capacity_makeRoom (self : BufWriter α) (piece : List α) :
    (self.makeRoom piece).2.capacity = self.capacity := by
  unfold makeRoom
  split <;> rfl

/-- A piece as long as the whole buffer finds the buffer empty. -/
theorem buffer_makeRoom {self : BufWriter α} {piece : List α} (some : piece ≠ [])
    (long : self.capacity ≤ piece.length) (ready : (self.makeRoom piece).1 = true) :
    (self.makeRoom piece).2.buffer = [] := by
  unfold makeRoom at *
  split at ready
  · next full =>
    rw [if_pos full]
    exact buffer_flushBuf ready
  · next room =>
    rw [if_neg room]
    have positive := List.length_pos_iff.mpr some
    unfold spareCapacity at room
    refine List.eq_nil_of_length_eq_zero (show self.buffer.length = 0 from ?_)
    omega

theorem content_writeThrough (self : BufWriter α) {piece : List α}
    (direct : piece ≠ [] → self.buffer = []) :
    ∃ taken, (self.writeThrough piece).2.content = self.content ++ taken ∧
      ((self.writeThrough piece).1 = true → taken = piece) ∧
      (taken = [] ↔ (self.sink.writeAll piece).rest = piece) := by
  obtain ⟨taken, written, split⟩ := Sink.push_taken self.sink.written self.sink.answers piece
  refine ⟨taken, ?_, fun done => ?_, ?_⟩
  · show (Sink.push _ _ piece).sink.written ++ self.buffer =
      (self.sink.written ++ self.buffer) ++ taken
    rw [written]
    by_cases none : piece = []
    · rw [(List.append_eq_nil_iff.mp (split.trans none)).1, List.append_nil, List.append_nil]
    · rw [direct none, List.append_nil, List.append_nil]
  · rw [Sink.push_done done, List.append_nil] at split
    exact split
  · refine ⟨fun none => by rwa [none, List.nil_append] at split, fun rest => ?_⟩
    rw [show (Sink.push self.sink.written self.sink.answers piece).rest = piece from rest] at split
    exact List.append_left_eq_self.mp split

/-- A piece that is taken is taken whole, and of one that is not nothing is, unless it is cut. -/
theorem content_writeAll (self : BufWriter α) (piece : List α) :
    ∃ taken, (self.writeAll piece).2.content = self.content ++ taken ∧
      ((self.writeAll piece).1 = true → taken = piece ∧ ¬self.Cuts piece) ∧
      ((self.writeAll piece).1 = false → (taken = [] ↔ ¬self.Cuts piece)) := by
  unfold writeAll
  split
  · next short =>
    refine ⟨piece, content_writeToBuffer self piece, fun _ => ⟨rfl, fun cuts => ?_⟩, nofun⟩
    have long := cuts.1
    unfold spareCapacity at short
    omega
  · next cold =>
    have same := content_makeRoom self piece
    have unchanged := capacity_makeRoom self piece
    unfold writeAllCold
    unfold Cuts
    cases room : self.makeRoom piece with
    | mk ready roomy =>
      rw [room] at same unchanged
      dsimp only at same unchanged
      cases ready with
      | false => exact ⟨[], by simpa using same, nofun, fun _ => by simp⟩
      | true =>
        dsimp only
        rw [unchanged]
        split
        · next long =>
          have empty := fun some => buffer_makeRoom some long (congrArg Prod.fst room)
          rw [room] at empty
          dsimp only at empty
          obtain ⟨taken, content, done, none⟩ := content_writeThrough roomy empty
          refine ⟨taken, by rw [content, same], fun ok => ⟨done ok, fun cuts => ?_⟩, fun failed => ?_⟩
          · rw [ok] at cuts
            cases cuts.2.2.1
          · simp only [long, failed, true_and, ne_eq, not_not, none]
        · next short =>
          rw [← same]
          exact ⟨piece, content_writeToBuffer roomy piece,
            fun _ => ⟨rfl, fun cuts => short cuts.1⟩, nofun⟩

theorem content_flush (self : BufWriter α) : self.flush.2.content = self.content := by
  have same := content_flushBuf self
  unfold flush
  cases flushed : self.flushBuf with
  | mk ok empty =>
    rw [flushed] at same
    cases ok with
    | false => exact same
    | true =>
      rw [← same]
      exact congrArg (· ++ empty.buffer) empty.sink.written_flush

theorem written_flush {self : BufWriter α} (ok : self.flush.1 = true) :
    self.flush.2.sink.written = self.content := by
  have same := content_flush self
  have drained : self.flush.2.buffer = [] := by
    have emptied : self.flushBuf.1 = true → self.flushBuf.2.buffer = [] := buffer_flushBuf
    unfold flush at *
    cases flushed : self.flushBuf with
    | mk ok' empty =>
      rw [flushed] at ok emptied
      cases ok' with
      | false => cases ok
      | true => exact emptied rfl
  rw [content, drained, List.append_nil] at same
  exact same

@[simp] theorem capacity_writeAll (self : BufWriter α) (piece : List α) :
    (self.writeAll piece).2.capacity = self.capacity := by
  have unchanged := capacity_makeRoom self piece
  unfold writeAll writeAllCold
  split
  · rfl
  · cases room : self.makeRoom piece with
    | mk ready roomy =>
      rw [room] at unchanged
      cases ready with
      | false => exact unchanged
      | true =>
        dsimp only
        split <;> exact unchanged

@[simp] theorem capacity_flush (self : BufWriter α) : self.flush.2.capacity = self.capacity := by
  have unchanged : self.flushBuf.2.capacity = self.capacity := rfl
  unfold flush
  cases flushed : self.flushBuf with
  | mk ok empty =>
    rw [flushed] at unchanged
    cases ok <;> exact unchanged

theorem not_cuts_of_short {self : BufWriter α} {piece : List α}
    (short : piece.length < self.capacity) : ¬self.Cuts piece :=
  fun cuts => Nat.not_lt.mpr cuts.1 short

/-! ### Pieces one after the other -/

/-- Writes the pieces up to the first that fails. -/
def offer : BufWriter α → List (List α) → Bool × BufWriter α
  | self, [] => (true, self)
  | self, piece :: pieces =>
    match self.writeAll piece with
    | (true, self) => offer self pieces
    | (false, self) => (false, self)

/-- The pieces whose writing succeeded. -/
def accepted : BufWriter α → List (List α) → List (List α)
  | _, [] => []
  | self, piece :: pieces =>
    match self.writeAll piece with
    | (true, self) => piece :: accepted self pieces
    | (false, _) => []

def Uncut : BufWriter α → List (List α) → Prop
  | _, [] => True
  | self, piece :: pieces =>
    ¬self.Cuts piece ∧ ((self.writeAll piece).1 = true → Uncut (self.writeAll piece).2 pieces)

theorem offer_one (self : BufWriter α) (piece : List α) :
    (self.offer [piece]).2 = (self.writeAll piece).2 := by
  unfold offer
  cases self.writeAll piece with
  | mk ok next => cases ok <;> rfl

/-- After writing there are just the accepted pieces, or a part of one that was cut on top. -/
def Adds (before after : BufWriter α) (pieces : List (List α)) (uncut : Prop) : Prop :=
  uncut ∧ after.content = before.content ++ pieces.flatten ∨
    ¬uncut ∧ before.content.length + pieces.flatten.length < after.content.length

theorem offer_adds (self : BufWriter α) (pieces : List (List α)) :
    Adds self (self.offer pieces).2 (self.accepted pieces) (self.Uncut pieces) := by
  induction pieces generalizing self with
  | nil => exact Or.inl ⟨trivial, (List.append_nil _).symm⟩
  | cons piece pieces ih =>
    obtain ⟨taken, content, whole, none⟩ := content_writeAll self piece
    unfold offer accepted Uncut
    cases wrote : self.writeAll piece with
    | mk ok next =>
      rw [wrote] at content whole none
      dsimp only at content whole none
      cases ok with
      | true =>
        obtain ⟨rfl, uncut⟩ := whole rfl
        obtain ⟨rest, is⟩ | ⟨cut, more⟩ := ih next
        · refine Or.inl ⟨⟨uncut, fun _ => rest⟩, ?_⟩
          rw [List.flatten_cons, ← List.append_assoc, ← content]
          exact is
        · refine Or.inr ⟨fun both => cut (both.2 rfl), ?_⟩
          rw [content, List.length_append] at more
          show _ < (next.offer pieces).2.content.length
          rw [List.flatten_cons, List.length_append]
          omega
      | false =>
        by_cases uncut : self.Cuts piece
        · refine Or.inr ⟨fun both => both.1 uncut, ?_⟩
          have some : taken ≠ [] := fun empty => (none rfl).mp empty uncut
          have positive := List.length_pos_iff.mpr some
          show _ + 0 < next.content.length
          rw [content, List.length_append]
          omega
        · refine Or.inl ⟨⟨uncut, nofun⟩, ?_⟩
          rw [(none rfl).mpr uncut] at content
          exact content

theorem accepted_first (self : BufWriter α) (pieces : List (List α)) :
    self.accepted pieces <+: pieces := by
  induction pieces generalizing self with
  | nil => exact List.prefix_rfl
  | cons piece pieces ih =>
    unfold accepted
    cases self.writeAll piece with
    | mk ok next =>
      cases ok with
      | true => exact List.prefix_cons_inj piece |>.mpr (ih next)
      | false => exact List.nil_prefix

@[simp] theorem capacity_offer (self : BufWriter α) (pieces : List (List α)) :
    (self.offer pieces).2.capacity = self.capacity := by
  induction pieces generalizing self with
  | nil => rfl
  | cons piece pieces ih =>
    have unchanged := capacity_writeAll self piece
    unfold offer
    cases wrote : self.writeAll piece with
    | mk ok next =>
      rw [wrote] at unchanged
      cases ok with
      | true => exact (ih next).trans unchanged
      | false => exact unchanged

theorem uncut_of_short {self : BufWriter α} {pieces : List (List α)}
    (short : ∀ piece ∈ pieces, piece.length < self.capacity) : self.Uncut pieces := by
  induction pieces generalizing self with
  | nil => trivial
  | cons piece pieces ih =>
    refine ⟨not_cuts_of_short (short piece List.mem_cons_self), fun _ => ih fun other mem => ?_⟩
    rw [capacity_writeAll]
    exact short other (List.mem_cons_of_mem _ mem)

/-! ### Runs -/

inductive Request (α : Type) where
  | offer (pieces : List (List α))
  | flush

def Request.pieces : Request α → List (List α)
  | .offer pieces => pieces
  | .flush => []

def step (self : BufWriter α) : Request α → Bool × BufWriter α
  | .offer pieces => self.offer pieces
  | .flush => self.flush

/-- Failures do not end a run. -/
def run : BufWriter α → List (Request α) → BufWriter α
  | self, [] => self
  | self, request :: requests => run (self.step request).2 requests

def kept : BufWriter α → List (Request α) → List (List α)
  | _, [] => []
  | self, request :: requests => self.accepted request.pieces ++ kept (self.step request).2 requests

def UncutRun : BufWriter α → List (Request α) → Prop
  | _, [] => True
  | self, request :: requests => self.Uncut request.pieces ∧ UncutRun (self.step request).2 requests

theorem step_adds (self : BufWriter α) (request : Request α) :
    Adds self (self.step request).2 (self.accepted request.pieces) (self.Uncut request.pieces) := by
  cases request with
  | offer pieces => exact offer_adds self pieces
  | flush => exact Or.inl ⟨trivial, (content_flush self).trans (List.append_nil _).symm⟩

theorem run_adds (self : BufWriter α) (requests : List (Request α)) :
    Adds self (self.run requests) (self.kept requests) (self.UncutRun requests) := by
  induction requests generalizing self with
  | nil => exact Or.inl ⟨trivial, (List.append_nil _).symm⟩
  | cons request requests ih =>
    have later := ih (self.step request).2
    unfold run kept UncutRun
    rw [Adds, List.flatten_append, List.length_append, ← List.append_assoc]
    obtain ⟨uncut, is⟩ | ⟨cut, more⟩ := step_adds self request
    · obtain ⟨rest, is'⟩ | ⟨cut, more⟩ := later
      · exact Or.inl ⟨⟨uncut, rest⟩, by rw [is', is]⟩
      · refine Or.inr ⟨fun both => cut both.2, ?_⟩
        rw [is, List.length_append] at more
        omega
    · refine Or.inr ⟨fun both => cut both.1, ?_⟩
      obtain ⟨_, is'⟩ | ⟨_, more'⟩ := later
      · rw [is', List.length_append]
        omega
      · omega

theorem kept_sublist (self : BufWriter α) (requests : List (Request α)) :
    (self.kept requests).Sublist (requests.flatMap Request.pieces) := by
  induction requests generalizing self with
  | nil => exact List.Sublist.refl _
  | cons request requests ih =>
    rw [List.flatMap_cons]
    exact (accepted_first self request.pieces).sublist.append (ih _)

theorem uncutRun_of_short {self : BufWriter α} {requests : List (Request α)}
    (short : ∀ request ∈ requests, ∀ piece ∈ request.pieces, piece.length < self.capacity) :
    self.UncutRun requests := by
  induction requests generalizing self with
  | nil => trivial
  | cons request requests ih =>
    refine ⟨uncut_of_short (short request List.mem_cons_self), ih fun other mem piece mem' => ?_⟩
    have unchanged : (self.step request).2.capacity = self.capacity := by
      cases request with
      | offer pieces => exact capacity_offer self pieces
      | flush => exact capacity_flush self
    rw [unchanged]
    exact short other (List.mem_cons_of_mem _ mem) piece mem'

/-- A flush that succeeds leaves just the accepted pieces in the sink, if and only if none was
cut. -/
theorem flushed_iff {self : BufWriter α} {requests : List (Request α)}
    (ok : (self.run requests).flush.1 = true) :
    (self.run requests).flush.2.sink.written = self.content ++ (self.kept requests).flatten ↔
      self.UncutRun requests := by
  rw [written_flush ok]
  obtain ⟨uncut, is⟩ | ⟨cut, more⟩ := run_adds self requests
  · exact iff_of_true is uncut
  · refine iff_of_false (fun is => ?_) cut
    rw [is, List.length_append] at more
    omega

end BufWriter
