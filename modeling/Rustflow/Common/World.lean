import Rustflow.Common.TemplateCache
import Rustflow.Lib.Combinator

/-!
# A parser at work

What a parser of either protocol changes as it reads messages: its own state, the readings it has
taken from the clock, and a journal of what happened to its templates. The journal is written and
never read: it is what the invariants of the caches are about.
-/

namespace Rustflow
open Combinator

/-- Which of a parser's two caches a template is in, and so how its data is read. -/
inductive TemplateKind where
  | data
  | options
  deriving DecidableEq

def TemplateKind.other : TemplateKind → TemplateKind
  | .data => .options
  | .options => .data

/-- A template record that arrived, with field specifications of type `S`. -/
structure Definition (S : Type) where
  kind : TemplateKind
  key : TemplateKey
  specs : List S
  sentAt : Instant
  /-- The field budget admitted it. -/
  stored : Bool
  /-- The cache of the other kind held an unexpired template under the key. -/
  crossed : Bool

/-- What a template set did. -/
inductive TemplateEvent (S : Type) where
  | define (definition : Definition S)
  | withdraw (kind : TemplateKind) (key : TemplateKey)
  | withdrawAll (kind : TemplateKind) (domain : UInt32)

/-- The parser `P`, how often it has read the clock, and the journal, latest event first. -/
structure World (P S : Type) where
  parser : P
  ticks : Nat
  journal : List (TemplateEvent S)

namespace World
variable {P S α : Type}

/-- Runs a parser that only reads `P`, and the clock. -/
def borrow (p : P → ParserM Nat α) : ParserM (World P S) α := fun input w =>
  let (result, ticks) := p w.parser input w.ticks
  (result, { w with ticks })

/-- Changes the world and reads nothing. -/
def update (f : World P S → World P S) : ParserM (World P S) Unit :=
  fun input w => (some (input, ()), f w)

end World

/-- Reads the clock: `clock n` is its `n`-th reading. A lookup takes one reading for each cache it
asks, also where the source finds no entry whose age it would have to know; no behaviour is lost,
since the readings are arbitrary. -/
def readClock (clock : Nat → Instant) : ParserM Nat Instant := fun input ticks =>
  (some (input, clock ticks), ticks + 1)

/-- The template in effect under a key, and its kind: data templates are asked first. -/
def templateInEffect {F : Type} (clock : Nat → Instant)
    (templates optionsTemplates : TemplateCache F) (key : TemplateKey) :
    ParserM Nat (Option (TemplateKind × List F)) := do
  let now ← readClock clock
  match templates.get now key with
  | some fields => return some (.data, fields)
  | none =>
    let now ← readClock clock
    return (optionsTemplates.get now key).map fun fields => (.options, fields)

/-- The records of a data set, each read with the fields of the template in effect. -/
def parseDescribedRecords {F α R : Type} (clock : Nat → Instant)
    (templates optionsTemplates : TemplateCache F) (key : TemplateKey)
    (parseRecord : List F → ParserM Nat α) (wrap : TemplateKind → α → R) :
    ParserM Nat (List R) := do
  match ← templateInEffect clock templates optionsTemplates key with
  | none => return []
  | some (kind, fields) =>
    -- A record parser that consumes nothing makes `many0` fail, which would discard every
    -- remaining set in the message.
    if fields.isEmpty then return []
    else return (← many0 (parseRecord fields)).map (wrap kind)

/-- What `templateInEffect` finds at the `ticks`-th reading of the clock. -/
def effective {F : Type} (clock : Nat → Instant) (templates optionsTemplates : TemplateCache F)
    (key : TemplateKey) (ticks : Nat) : Option (TemplateKind × List F) :=
  ((templates.get (clock ticks) key).map fun fields => (TemplateKind.data, fields)).or
    ((optionsTemplates.get (clock (ticks + 1)) key).map fun fields =>
      (TemplateKind.options, fields))

/-- Asking uses no input, whatever it finds. -/
theorem templateInEffect_apply {F : Type} (clock : Nat → Instant)
    (templates optionsTemplates : TemplateCache F) (key : TemplateKey) (input : List UInt8)
    (ticks : Nat) :
    ∃ ticks', templateInEffect clock templates optionsTemplates key input ticks =
      (some (input, effective clock templates optionsTemplates key ticks), ticks') := by
  simp only [templateInEffect, effective]
  cases found : templates.get (clock ticks) key with
  | some fields =>
    refine ⟨ticks + 1, (bindM_of_some rfl).trans ?_⟩
    rw [found]
    rfl
  | none =>
    refine ⟨ticks + 2, (bindM_of_some rfl).trans ?_⟩
    rw [found]
    rfl

section
variable {F α R : Type} {clock : Nat → Instant} {templates optionsTemplates : TemplateCache F}
  {key : TemplateKey}
  {parseRecord : List F → ParserM Nat α} {wrap : TemplateKind → α → R}

variable (parseRecord wrap) in
theorem parseDescribedRecords_none {ticks : Nat}
    (absent : effective clock templates optionsTemplates key ticks = none) (input : List UInt8) :
    ∃ ticks', parseDescribedRecords clock templates optionsTemplates key parseRecord wrap
      input ticks =
      (some (input, []), ticks') := by
  obtain ⟨ticks', found⟩ := templateInEffect_apply clock templates optionsTemplates key input ticks
  rw [absent] at found
  exact ⟨ticks', bindM_of_some found⟩

variable (parseRecord wrap) in
theorem parseDescribedRecords_some {ticks : Nat} {kind : TemplateKind} {fields : List F}
    (present : effective clock templates optionsTemplates key ticks = some (kind, fields))
    (input : List UInt8) :
    ∃ ticks', parseDescribedRecords clock templates optionsTemplates key parseRecord wrap
      input ticks =
      if fields = [] then (some (input, []), ticks')
      else ((many0 (parseRecord fields) input ticks').1.map fun r => (r.1, r.2.map (wrap kind)),
        (many0 (parseRecord fields) input ticks').2) := by
  obtain ⟨ticks', found⟩ := templateInEffect_apply clock templates optionsTemplates key input ticks
  rw [present] at found
  refine ⟨ticks', (bindM_of_some found).trans ?_⟩
  cases fields with
  | nil => rfl
  | cons field fields =>
    rw [if_neg (List.cons_ne_nil field fields)]
    rcases run : many0 (parseRecord (field :: fields)) input ticks' with ⟨_ | ⟨rest, records⟩, t⟩
    · exact bindM_of_none run
    · exact bindM_of_some run

/-- What holds of each record that is read holds of all the records of a set. -/
theorem parseDescribedRecords_forall {Q : R → Prop}
    (each : ∀ kind fields input ticks rest a ticks', parseRecord fields input ticks =
      (some (rest, a), ticks') → Q (wrap kind a))
    {input rest : List UInt8} {ticks ticks' : Nat} {records : List R}
    (run : parseDescribedRecords clock templates optionsTemplates key parseRecord wrap input ticks =
      (some (rest, records), ticks')) :
    ∀ record ∈ records, Q record := by
  rcases found : effective clock templates optionsTemplates key ticks with _ | ⟨kind, fields⟩
  · obtain ⟨_, none⟩ := parseDescribedRecords_none parseRecord wrap found input
    rw [none] at run
    cases run
    intro record mem
    cases mem
  · obtain ⟨start, some_⟩ := parseDescribedRecords_some parseRecord wrap found input
    rw [some_] at run
    split at run
    · cases run
      intro record mem
      cases mem
    · rcases all : many0 (parseRecord fields) input start with ⟨_ | ⟨left, as⟩, t⟩ <;>
        rw [all] at run <;> cases run
      intro record mem
      obtain ⟨a, inside, rfl⟩ := List.mem_map.mp mem
      exact many0_forall (Q := fun a => Q (wrap kind a)) (each kind fields) all a inside

/-- Where no record costs more than it used up, neither do all of them. -/
theorem parseDescribedRecords_sum {cost : R → Nat} {Q : R → Prop}
    (each : ∀ kind fields input ticks rest a ticks', parseRecord fields input ticks =
      (some (rest, a), ticks') →
      Q (wrap kind a) → cost (wrap kind a) + rest.length ≤ input.length)
    {input rest : List UInt8} {ticks ticks' : Nat} {records : List R}
    (run : parseDescribedRecords clock templates optionsTemplates key parseRecord wrap input ticks =
      (some (rest, records), ticks'))
    (all : ∀ record ∈ records, Q record) : (records.map cost).sum + rest.length ≤ input.length := by
  rcases found : effective clock templates optionsTemplates key ticks with _ | ⟨kind, fields⟩
  · obtain ⟨_, none⟩ := parseDescribedRecords_none parseRecord wrap found input
    rw [none] at run
    cases run
    simp
  · obtain ⟨start, some_⟩ := parseDescribedRecords_some parseRecord wrap found input
    rw [some_] at run
    split at run
    · cases run
      simp
    · rcases repeated : many0 (parseRecord fields) input start with ⟨_ | ⟨left, as⟩, t⟩ <;>
        rw [repeated] at run <;> cases run
      rw [List.map_map]
      exact many0_sum (each kind fields) repeated fun a mem => all _ (List.mem_map_of_mem mem)

/-- Reading the records of a set keeps what one reading of the clock and one record keep. -/
theorem parseDescribedRecords_keeps {I : Nat → Prop} (tick : ∀ n, I n → I (n + 1))
    (each : ∀ fields input n, I n → I (parseRecord fields input n).2) (input : List UInt8)
    (ticks : Nat) (h : I ticks) :
    I (parseDescribedRecords clock templates optionsTemplates key parseRecord wrap input
      ticks).2 := by
  refine bindM_keeps (fun input n h => ?_) (fun found => ?_) input ticks h
  · refine bindM_keeps (fun _ n h => tick n h) (fun now => ?_) input n h
    cases templates.get now key with
    | some fields => exact fun _ _ h => h
    | none => exact bindM_keeps (fun _ n h => tick n h) fun _ _ _ h => h
  · cases found with
    | none => exact fun _ _ h => h
    | some found =>
      dsimp only
      split
      · exact fun _ _ h => h
      · exact bindM_keeps (many0_keeps (each _)) fun _ _ _ h => h

/-- Reading the records of a set fails exactly where its template makes records that use nothing
up: the others either fail, which ends the repetition, or make progress. -/
theorem parseDescribedRecords_isSome {stalls : List F → Prop}
    (still : ∀ fields, stalls fields → ∀ input ticks, ∃ a, parseRecord fields input ticks =
      (some (input, a), ticks))
    (moves : ∀ fields, ¬ stalls fields → ∀ input ticks rest a ticks',
      parseRecord fields input ticks = (some (rest, a), ticks') → rest.length < input.length)
    (input : List UInt8) (ticks : Nat) :
    (parseDescribedRecords clock templates optionsTemplates key parseRecord wrap input
      ticks).1.isSome ↔
      ¬ ∃ kind fields, effective clock templates optionsTemplates key ticks = some (kind, fields) ∧
        fields ≠ [] ∧ stalls fields := by
  rcases found : effective clock templates optionsTemplates key ticks with _ | ⟨kind, fields⟩
  · obtain ⟨_, run⟩ := parseDescribedRecords_none parseRecord wrap found input
    simp [run]
  · obtain ⟨ticks', run⟩ := parseDescribedRecords_some parseRecord wrap found input
    rw [run]
    by_cases empty : fields = []
    · simp [empty]
    · rw [if_neg empty]
      by_cases stuck : stalls fields
      · obtain ⟨a, step⟩ := still fields stuck input ticks'
        rw [many0_stall step (Nat.lt_irrefl _)]
        simp [empty, stuck]
      · obtain ⟨rest, records, t, all⟩ := many0_ok (moves fields stuck) input ticks'
        rw [all]
        simp [empty, stuck]

end

end Rustflow
