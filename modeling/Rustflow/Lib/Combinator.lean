import Rustflow.Lib.BigEndian

/-!
# Byte parser combinators

Recursive-descent parsers over byte lists, in the style of a combinator library whose
repetition stops at the first recoverable error. `Parser` is pure; `ParserM` also carries
a world that outlives a failed attempt.

`Reads` says which bytes a parser accepts whatever follows them, and `Shrinks` how much
input a success uses up. Both compose along `bind`.
-/

namespace Combinator

/-- The rest of the input and the value; `none` is a recoverable error. -/
def Parser (α : Type) : Type := List UInt8 → Option (List UInt8 × α)

/-- A parser that also reads and writes a world; what it wrote stays written when it fails. -/
def ParserM (σ α : Type) : Type := List UInt8 → σ → Option (List UInt8 × α) × σ

instance : Monad Parser where
  pure a := fun input => some (input, a)
  bind p f := fun input =>
    match p input with
    | none => none
    | some (rest, a) => f a rest

instance {σ : Type} : Monad (ParserM σ) where
  pure a := fun input s => (some (input, a), s)
  bind p f := fun input s =>
    match p input s with
    | (none, s') => (none, s')
    | (some (rest, a), s') => f a rest s'

instance {σ : Type} : MonadLift Parser (ParserM σ) where
  monadLift p := fun input s => (p input, s)

/-- The recoverable error. -/
def fail {α : Type} : Parser α := fun _ => none

/-- The next `n` bytes. -/
def take (n : Nat) : Parser (List UInt8) := fun input =>
  if n ≤ input.length then some (input.drop n, input.take n) else none

/-- Runs the parser and uses nothing up. -/
def peek {α : Type} (p : Parser α) : Parser α := fun input => (p input).map fun r => (input, r.2)

/-- How many bytes are left. -/
def remaining : Parser Nat := fun input => some (input, input.length)

/-- An unsigned big-endian integer of `n` bytes. -/
def beUint (n : Nat) : Parser Nat := do return BigEndian.value (← take n)

def beU8 : Parser UInt8 := do return UInt8.ofNat (← beUint 1)
def beU16 : Parser UInt16 := do return UInt16.ofNat (← beUint 2)
def beU24 : Parser UInt32 := do return UInt32.ofNat (← beUint 3)
def beU32 : Parser UInt32 := do return UInt32.ofNat (← beUint 4)
def beU64 : Parser UInt64 := do return UInt64.ofNat (← beUint 8)

def beI8 : Parser Int8 := do return Int8.ofNat (← beUint 1)
def beI16 : Parser Int16 := do return Int16.ofNat (← beUint 2)
def beI32 : Parser Int32 := do return Int32.ofNat (← beUint 4)
def beI64 : Parser Int64 := do return Int64.ofNat (← beUint 8)

/-- Twenty-four bits, sign-extended by setting the top byte of a negative value. -/
def beI24 : Parser Int32 := do
  let x ← beU24
  return if x &&& 0x800000 != 0 then (x ||| 0xff000000).toInt32 else x.toInt32

/-- Fails unless the value passes the test. -/
def verify {α : Type} (p : Parser α) (test : α → Bool) : Parser α := do
  let a ← p
  if test a then return a else fail

/-- Fails where `f` has no value. -/
def mapOpt {α β : Type} (p : Parser α) (f : α → Option β) : Parser β := do
  match f (← p) with
  | some b => return b
  | none => fail

/-- Runs the parser only under the condition. -/
def cond {α : Type} (condition : Bool) (p : Parser α) : Parser (Option α) :=
  if condition then do return some (← p) else return none

/-- Exactly `n` times. -/
def count {α : Type} (p : Parser α) : Nat → Parser (List α)
  | 0 => return []
  | n + 1 => do
    let a ← p
    return a :: (← count p n)

/-- Runs `q` on the slice that `p` returns; what `q` leaves of the slice is dropped. -/
def mapParser {σ α : Type} (p : Parser (List UInt8)) (q : ParserM σ α) : ParserM σ α :=
  fun input s =>
  match p input with
  | none => (none, s)
  | some (rest, slice) =>
    match q slice s with
    | (none, s') => (none, s')
    | (some (_, a), s') => (some (rest, a), s')

/-- The loop of `many0`, with fuel for every byte of the input. -/
def many0Loop {σ α : Type} (p : ParserM σ α) :
    Nat → List UInt8 → σ → Option (List UInt8 × List α) × σ
  | 0, input, s => (some (input, []), s)
  | fuel + 1, input, s =>
    match p input s with
    | (none, s') => (some (input, []), s')
    | (some (rest, a), s') =>
      -- A step that uses nothing up would repeat for ever: the whole repetition fails.
      if rest.length < input.length then
        match many0Loop p fuel rest s' with
        | (none, s'') => (none, s'')
        | (some (rest', as), s'') => (some (rest', a :: as), s'')
      else (none, s')

/-- Repeats until the parser fails, and succeeds with what it had. It fails itself only when
the parser succeeds without using any input. -/
def many0 {σ α : Type} (p : ParserM σ α) : ParserM σ (List α) := fun input s =>
  many0Loop p (input.length + 1) input s

/-- What a turn of a loop over a slice comes to: the end of the loop, or a step with or without
a value. -/
inductive Turn (α : Type) where
  | stop
  | next (item : Option α)

/-- Exactly `n` times, in a world. -/
def countM {σ α : Type} (p : ParserM σ α) : Nat → ParserM σ (List α)
  | 0 => return []
  | n + 1 => do
    let a ← p
    return a :: (← countM p n)

/-- The loop of `untilEmpty`, with fuel for every byte of the input. -/
def untilEmptyLoop {σ α : Type} (p : ParserM σ (Turn α)) :
    Nat → List UInt8 → σ → Option (List UInt8 × List α) × σ
  | 0, input, s => (some (input, []), s)
  | fuel + 1, input, s =>
    if input.isEmpty then (some (input, []), s)
    else
      match p input s with
      | (none, s') => (none, s')
      | (some (rest, .stop), s') => (some (rest, []), s')
      | (some (rest, .next item), s') =>
        match untilEmptyLoop p fuel rest s' with
        | (none, s'') => (none, s'')
        | (some (rest', as), s'') => (some (rest', item.toList ++ as), s'')

/-- Repeats while there is input. A failing turn fails the whole loop. -/
def untilEmpty {σ α : Type} (p : ParserM σ (Turn α)) : ParserM σ (List α) := fun input s =>
  untilEmptyLoop p input.length input s

/-- A pure parser as one over the trivial world. -/
def Parser.alone {α : Type} (p : Parser α) : ParserM Unit α := fun input s => (p input, s)

/-- `many0` of a pure parser. -/
def Parser.many0 {α : Type} (p : Parser α) : Parser (List α) := fun input =>
  (Combinator.many0 p.alone input ()).1

/-- `untilEmpty` of a pure parser. -/
def Parser.untilEmpty {α : Type} (p : Parser (Turn α)) : Parser (List α) := fun input =>
  (Combinator.untilEmpty p.alone input ()).1

section Pure
variable {α β : Type} {p : Parser α} {f : α → Parser β}

@[simp] theorem pure_apply (a : α) (input : List UInt8) :
    (pure a : Parser α) input = some (input, a) := rfl

theorem bind_of_some {input rest : List UInt8} {a : α} (h : p input = some (rest, a)) :
    (p >>= f) input = f a rest := by
  simp only [bind, h]

theorem bind_of_none {input : List UInt8} (h : p input = none) : (p >>= f) input = none := by
  simp only [bind, h]

theorem bind_eq_some {input rest : List UInt8} {b : β} :
    (p >>= f) input = some (rest, b) ↔
      ∃ mid a, p input = some (mid, a) ∧ f a mid = some (rest, b) := by
  constructor
  · intro h
    cases first : p input with
    | none => rw [bind_of_none first] at h; cases h
    | some r =>
      obtain ⟨mid, a⟩ := r
      exact ⟨mid, a, rfl, by rwa [bind_of_some first] at h⟩
  · rintro ⟨mid, a, first, second⟩
    rw [bind_of_some first, second]

instance : LawfulMonad Parser := LawfulMonad.mk' Parser
  (fun p => by
    funext input
    show (match p input with | none => none | some (rest, a) => some (rest, a)) = p input
    rcases p input with _ | _ <;> rfl)
  (fun _ _ => rfl)
  (fun p f g => by
    funext input
    rcases run : p input with _ | ⟨rest, a⟩
    · rw [bind_of_none (bind_of_none run), bind_of_none run]
    · rw [bind_of_some run]
      simp only [bind, run])

/-- Whatever the input was, a mapped result is in the image of the map. -/
theorem map_forall {g : α → β} {Q : β → Prop} (all : ∀ a, Q (g a)) {input rest : List UInt8} {b : β}
    (h : (p >>= fun a => pure (g a)) input = some (rest, b)) : Q b := by
  obtain ⟨mid, a, -, value⟩ := bind_eq_some.mp h
  cases value
  exact all a

theorem mapOpt_eq_some {g : α → Option β} {input rest : List UInt8} {b : β} :
    mapOpt p g input = some (rest, b) ↔ ∃ a, p input = some (rest, a) ∧ g a = some b := by
  constructor
  · intro run
    obtain ⟨mid, a, first, value⟩ := bind_eq_some.mp run
    rcases known : g a with _ | c <;> simp only [known] at value <;> cases value
    exact ⟨a, first, known⟩
  · rintro ⟨a, first, known⟩
    refine (bind_of_some first).trans ?_
    rw [known]
    rfl

theorem take_eq_some {n : Nat} {input rest bs : List UInt8} :
    take n input = some (rest, bs) ↔ n ≤ input.length ∧ rest = input.drop n ∧
      bs = input.take n := by
  unfold take
  split <;> simp_all [eq_comm]

theorem take_append {n : Nat} {bs : List UInt8} (rest : List UInt8) (len : bs.length = n) :
    take n (bs ++ rest) = some (rest, bs) := by
  subst len
  simp [take]

/-! ### What a parser reads -/

/-- `p` takes exactly `bs` for `a`, whatever follows. -/
def Reads (p : Parser α) (bs : List UInt8) (a : α) : Prop := ∀ rest, p (bs ++ rest) = some (rest, a)

theorem reads_pure (a : α) : Reads (pure a) [] a := fun _ => rfl

theorem Reads.bind {bs cs : List UInt8} {a : α} {b : β} (first : Reads p bs a)
    (second : Reads (f a) cs b) :
    Reads (p >>= f) (bs ++ cs) b := by
  intro rest
  rw [List.append_assoc, bind_of_some (first (cs ++ rest)), second rest]

theorem Reads.map {bs : List UInt8} {a : α} (g : α → β) (first : Reads p bs a) :
    Reads (p >>= fun a => pure (g a)) bs (g a) := by
  simpa using first.bind (f := fun a => pure (g a)) (reads_pure (g a))

theorem reads_take {n : Nat} {bs : List UInt8} (len : bs.length = n) : Reads (take n) bs bs :=
  fun rest => take_append rest len

theorem reads_beUint (n v : Nat) : Reads (beUint n) (BigEndian.bytes n v) (v % 256 ^ n) := by
  rw [← BigEndian.value_bytes]
  exact (reads_take (BigEndian.length_bytes n v)).map _

theorem reads_beUint_of_lt {n v : Nat} (small : v < 256 ^ n) :
    Reads (beUint n) (BigEndian.bytes n v) v := by
  simpa only [Nat.mod_eq_of_lt small] using reads_beUint n v

theorem reads_beU8 (v : UInt8) : Reads beU8 (BigEndian.bytes 1 v.toNat) v := by
  have read := (reads_beUint_of_lt (n := 1) v.toNat_lt).map UInt8.ofNat
  rwa [UInt8.ofNat_toNat] at read

theorem reads_beU16 (v : UInt16) : Reads beU16 (BigEndian.bytes 2 v.toNat) v := by
  have read := (reads_beUint_of_lt (n := 2) v.toNat_lt).map UInt16.ofNat
  rwa [UInt16.ofNat_toNat] at read

theorem reads_beU24 {v : UInt32} (small : v.toNat < 256 ^ 3) :
    Reads beU24 (BigEndian.bytes 3 v.toNat) v := by
  have read := (reads_beUint_of_lt small).map UInt32.ofNat
  rwa [UInt32.ofNat_toNat] at read

theorem reads_beU32 (v : UInt32) : Reads beU32 (BigEndian.bytes 4 v.toNat) v := by
  have read := (reads_beUint_of_lt (n := 4) v.toNat_lt).map UInt32.ofNat
  rwa [UInt32.ofNat_toNat] at read

theorem reads_beU64 (v : UInt64) : Reads beU64 (BigEndian.bytes 8 v.toNat) v := by
  have read := (reads_beUint_of_lt (n := 8) v.toNat_lt).map UInt64.ofNat
  rwa [UInt64.ofNat_toNat] at read

theorem reads_count {enc : α → List UInt8} {as : List α} (each : ∀ a ∈ as, Reads p (enc a) a) :
    Reads (count p as.length) (as.flatMap enc) as := by
  induction as with
  | nil => exact reads_pure []
  | cons a as ih =>
    have head := each a List.mem_cons_self
    have tail := ih fun b mem => each b (List.mem_cons_of_mem a mem)
    rw [List.flatMap_cons]
    exact head.bind (tail.map (a :: ·))

theorem Reads.verify {bs : List UInt8} {a : α} {test : α → Bool} (h : Reads p bs a)
    (ok : test a = true) :
    Reads (verify p test) bs a := by
  intro rest
  refine (bind_of_some (h rest)).trans ?_
  rw [if_pos ok, pure_apply]

theorem Reads.mapOpt {bs : List UInt8} {a : α} {g : α → Option β} {b : β} (h : Reads p bs a)
    (value : g a = some b) :
    Reads (mapOpt p g) bs b := by
  intro rest
  refine (bind_of_some (h rest)).trans ?_
  rw [value]
  rfl

theorem reads_count_map {γ : Type} {frame : γ → List UInt8} {g : γ → α}
    (each : ∀ c, Reads p (frame c) (g c)) (cs : List γ) :
    Reads (count p cs.length) (cs.flatMap frame) (cs.map g) := by
  induction cs with
  | nil => exact reads_pure []
  | cons c cs ih =>
    rw [List.flatMap_cons]
    exact (each c).bind (ih.map (g c :: ·))

/-- Where each success is a frame's value and leaves what follows the frame, so many successes are
the values of as many frames. -/
theorem count_spelled {γ : Type} {frame : γ → List UInt8} {g : γ → α}
    (spelled : ∀ input rest a, p input = some (rest, a) → ∃ c, input = frame c ++ rest ∧ a = g c)
    {n : Nat} {input rest : List UInt8} {as : List α} (run : count p n input = some (rest, as)) :
    ∃ cs : List γ, cs.length = n ∧ input = cs.flatMap frame ++ rest ∧ as = cs.map g := by
  induction n generalizing input as with
  | zero =>
    cases run
    exact ⟨[], rfl, rfl, rfl⟩
  | succ n ih =>
    obtain ⟨mid, a, first, next⟩ := bind_eq_some.mp run
    obtain ⟨left, tail, more, last⟩ := bind_eq_some.mp next
    cases last
    obtain ⟨c, rfl, rfl⟩ := spelled _ _ _ first
    obtain ⟨cs, length, rfl, rfl⟩ := ih more
    exact ⟨c :: cs, congrArg (· + 1) length, by rw [List.flatMap_cons, List.append_assoc], rfl⟩

theorem count_frames {γ : Type} {frame : γ → List UInt8}
    (framed : ∀ input rest a, p input = some (rest, a) → ∃ c, input = frame c ++ rest) {n : Nat}
    {input rest : List UInt8} {as : List α} (run : count p n input = some (rest, as)) :
    ∃ cs : List γ, cs.length = n ∧ input = cs.flatMap frame ++ rest := by
  have spelled : ∀ input rest a, p input = some (rest, a) →
      ∃ c : γ × α, input = (fun c : γ × α => frame c.1) c ++ rest ∧ a = Prod.snd c := by
    intro input rest a first
    obtain ⟨c, split⟩ := framed input rest a first
    exact ⟨(c, a), split, rfl⟩
  obtain ⟨cs, length, rfl, -⟩ := count_spelled spelled run
  exact ⟨cs.map Prod.fst, by rw [List.length_map, length], by rw [List.flatMap_map]⟩

/-! ### Parsers that do not look ahead -/

/-- A success reads the bytes it uses up, whatever follows them. -/
def Local (p : Parser α) : Prop :=
  ∀ input rest a, p input = some (rest, a) → ∃ used, input = used ++ rest ∧ Reads p used a

theorem local_pure (a : α) : Local (pure a) := by
  intro input rest b run
  cases run
  exact ⟨[], rfl, reads_pure a⟩

theorem local_fail : Local (fail : Parser α) := by
  intro input rest b run
  cases run

theorem Local.bind (first : Local p) (second : ∀ a, Local (f a)) : Local (p >>= f) := by
  intro input rest b run
  obtain ⟨mid, a, head, tail⟩ := bind_eq_some.mp run
  obtain ⟨used, rfl, reads⟩ := first input mid a head
  obtain ⟨more, rfl, reads'⟩ := second a mid rest b tail
  exact ⟨used ++ more, (List.append_assoc used more rest).symm, reads.bind reads'⟩

theorem local_take (n : Nat) : Local (take n) := by
  intro input rest bs run
  obtain ⟨enough, rfl, rfl⟩ := take_eq_some.mp run
  exact ⟨input.take n, (List.take_append_drop n input).symm,
    reads_take (List.length_take_of_le enough)⟩

theorem local_beUint (n : Nat) : Local (beUint n) :=
  (local_take n).bind fun _ => local_pure _

theorem local_beU16 : Local beU16 := (local_beUint 2).bind fun _ => local_pure _

theorem local_beU32 : Local beU32 := (local_beUint 4).bind fun _ => local_pure _

theorem local_cond (condition : Bool) (h : Local p) : Local (cond condition p) := by
  unfold cond
  split
  · exact h.bind fun _ => local_pure _
  · exact local_pure _

theorem local_count (h : Local p) (n : Nat) : Local (count p n) := by
  induction n with
  | zero => exact local_pure _
  | succ n ih => exact h.bind fun _ => ih.bind fun _ => local_pure _

/-! ### What a value was read from -/

/-- A success starts with the bytes that spell its value. -/
def Spelled (p : Parser α) (spell : α → List UInt8) : Prop :=
  ∀ input rest a, p input = some (rest, a) → input = spell a ++ rest

/-- The first step of a parser, undone. -/
theorem Spelled.bind {spell : α → List UInt8} (first : Spelled p spell)
    {input rest : List UInt8} {b : β} (run : (p >>= f) input = some (rest, b)) :
    ∃ mid a, input = spell a ++ mid ∧ f a mid = some (rest, b) := by
  obtain ⟨mid, a, read, next⟩ := bind_eq_some.mp run
  exact ⟨mid, a, first input mid a read, next⟩

theorem Spelled.count {spell : α → List UInt8} (each : Spelled p spell) (n : Nat) :
    Spelled (count p n) fun as => as.flatMap spell := by
  intro input rest as run
  obtain ⟨cs, -, rfl, rfl⟩ :=
    count_spelled (fun input rest a run => ⟨a, each input rest a run, rfl⟩) run
  rw [List.map_id']

theorem Spelled.cond {spell : α → List UInt8} (condition : Bool) (inner : Spelled p spell) :
    Spelled (cond condition p) fun a => a.elim [] spell := by
  intro input rest a run
  unfold Combinator.cond at run
  split at run
  · obtain ⟨_, b, spelled, last⟩ := inner.bind run
    cases last
    exact spelled
  · cases run
    rfl

/-- What a value was read from reads as that value wherever it stands. -/
theorem Spelled.reads {spell : α → List UInt8} (spelled : Spelled p spell) (whole : Local p)
    {input rest : List UInt8} {a : α} (run : p input = some (rest, a)) : Reads p (spell a) a := by
  obtain ⟨used, rfl, reads⟩ := whole input rest a run
  rwa [List.append_cancel_right (spelled (used ++ rest) rest a run)] at reads

theorem take_spelled {n : Nat} {input rest bs : List UInt8} (run : take n input = some (rest, bs)) :
    input = bs ++ rest ∧ bs.length = n := by
  obtain ⟨enough, rfl, rfl⟩ := take_eq_some.mp run
  exact ⟨(List.take_append_drop n input).symm, List.length_take_of_le enough⟩

theorem beUint_spelled {n : Nat} {input rest : List UInt8} {v : Nat}
    (run : beUint n input = some (rest, v)) :
    input = BigEndian.bytes n v ++ rest ∧ v < 256 ^ n := by
  obtain ⟨mid, bs, slice, last⟩ := bind_eq_some.mp run
  cases last
  obtain ⟨rfl, rfl⟩ := take_spelled slice
  exact ⟨by rw [BigEndian.bytes_value rfl], BigEndian.value_lt bs⟩

theorem beU8_spelled : Spelled beU8 fun v => BigEndian.bytes 1 v.toNat := by
  intro input rest v run
  obtain ⟨mid, n, number, value⟩ := bind_eq_some.mp run
  cases value
  obtain ⟨rfl, small⟩ := beUint_spelled number
  dsimp only
  rw [UInt8.toNat_ofNat_of_lt' small]

theorem beU16_spelled : Spelled beU16 fun v => BigEndian.bytes 2 v.toNat := by
  intro input rest v run
  obtain ⟨mid, n, number, value⟩ := bind_eq_some.mp run
  cases value
  obtain ⟨rfl, small⟩ := beUint_spelled number
  dsimp only
  rw [UInt16.toNat_ofNat_of_lt' small]

theorem beU32_spelled : Spelled beU32 fun v => BigEndian.bytes 4 v.toNat := by
  intro input rest v run
  obtain ⟨mid, n, number, value⟩ := bind_eq_some.mp run
  cases value
  obtain ⟨rfl, small⟩ := beUint_spelled number
  dsimp only
  rw [UInt32.toNat_ofNat_of_lt' small]

theorem beU32_eq_some {input rest : List UInt8} {v : UInt32} (run : beU32 input = some (rest, v)) :
    input = BigEndian.bytes 4 v.toNat ++ rest := beU32_spelled input rest v run

/-! ### How much a parser uses up -/

/-- A success of `p` uses up at least `k` bytes. -/
def Shrinks (p : Parser α) (k : Nat) : Prop :=
  ∀ input rest a, p input = some (rest, a) → rest.length + k ≤ input.length

theorem shrinks_pure (a : α) : Shrinks (pure a) 0 := by
  intro input rest b h
  cases h
  exact Nat.le_refl _

theorem Shrinks.mono {j k : Nat} (h : Shrinks p j) (le : k ≤ j) : Shrinks p k :=
  fun input rest a run => by have := h input rest a run; omega

theorem Shrinks.bind {j k : Nat} (first : Shrinks p j) (second : ∀ a, Shrinks (f a) k) :
    Shrinks (p >>= f) (j + k) := by
  intro input rest b h
  obtain ⟨mid, a, run, next⟩ := bind_eq_some.mp h
  have := first input mid a run
  have := second a mid rest b next
  omega

theorem shrinks_take (n : Nat) : Shrinks (take n) n := by
  intro input rest bs h
  obtain ⟨enough, rfl, -⟩ := take_eq_some.mp h
  rw [List.length_drop]
  omega

theorem shrinks_beUint (n : Nat) : Shrinks (beUint n) n :=
  (shrinks_take n).bind fun _ => shrinks_pure _

theorem shrinks_beU8 : Shrinks beU8 1 := (shrinks_beUint 1).bind fun _ => shrinks_pure _

theorem shrinks_beU16 : Shrinks beU16 2 := (shrinks_beUint 2).bind fun _ => shrinks_pure _

theorem shrinks_beU32 : Shrinks beU32 4 := (shrinks_beUint 4).bind fun _ => shrinks_pure _

/-- `p` takes `n` bytes wherever there are as many, and fails elsewhere. -/
def Takes (p : Parser α) (n : Nat) : Prop :=
  ∀ input, if n ≤ input.length then ∃ a, p input = some (input.drop n, a) else p input = none

theorem takes_pure (a : α) : Takes (pure a) 0 := fun input => ⟨a, by rw [List.drop_zero]; rfl⟩

theorem takes_take (n : Nat) : Takes (take n) n := by
  intro input
  unfold take
  split
  · exact ⟨input.take n, rfl⟩
  · rfl

theorem Takes.bind {m n : Nat} (first : Takes p m) (second : ∀ a, Takes (f a) n) :
    Takes (p >>= f) (m + n) := by
  intro input
  have one := first input
  split
  next enough =>
    rw [if_pos (by omega)] at one
    obtain ⟨a, run⟩ := one
    have two := second a (input.drop m)
    rw [List.length_drop, if_pos (by omega), List.drop_drop] at two
    obtain ⟨b, last⟩ := two
    exact ⟨b, (bind_of_some run).trans last⟩
  next short =>
    split at one
    · obtain ⟨a, run⟩ := one
      have two := second a (input.drop m)
      rw [List.length_drop, if_neg (by omega)] at two
      rw [bind_of_some run, two]
    · exact bind_of_none one

theorem Takes.map {n : Nat} (first : Takes p n) (g : α → β) : Takes (p >>= fun a => pure (g a)) n :=
  first.bind fun a => takes_pure (g a)

theorem takes_mapOpt {n : Nat} {g : α → Option β} (first : Takes p n) (total : ∀ a, (g a).isSome) :
    Takes (mapOpt p g) n := by
  refine first.bind (n := 0) fun a => ?_
  obtain ⟨b, value⟩ := Option.isSome_iff_exists.mp (total a)
  rw [value]
  exact takes_pure b

theorem Takes.eq_some {n : Nat} (takes : Takes p n) {input rest : List UInt8} {a : α}
    (run : p input = some (rest, a)) : n ≤ input.length ∧ rest = input.drop n := by
  have one := takes input
  split at one
  next enough =>
    obtain ⟨b, same⟩ := one
    rw [run] at same
    cases same
    exact ⟨enough, rfl⟩
  · rw [run] at one
    cases one

theorem Takes.eq_none {n : Nat} (takes : Takes p n) {input : List UInt8} (run : p input = none) :
    input.length < n := by
  have one := takes input
  split at one
  · obtain ⟨b, same⟩ := one
    rw [run] at same
    cases same
  next short => exact Nat.lt_of_not_le short

theorem Takes.shrinks {n : Nat} (takes : Takes p n) : Shrinks p n := by
  intro input rest a run
  obtain ⟨enough, rfl⟩ := takes.eq_some run
  rw [List.length_drop, Nat.sub_add_cancel enough]

theorem takes_beUint (n : Nat) : Takes (beUint n) n := (takes_take n).map _

theorem takes_beU8 : Takes beU8 1 := (takes_beUint 1).map _

theorem takes_beU16 : Takes beU16 2 := (takes_beUint 2).map _

theorem takes_beU24 : Takes beU24 3 := (takes_beUint 3).map _

theorem takes_beU32 : Takes beU32 4 := (takes_beUint 4).map _

theorem takes_beU64 : Takes beU64 8 := (takes_beUint 8).map _

theorem shrinks_count {k : Nat} (h : Shrinks p k) (n : Nat) : Shrinks (count p n) (n * k) := by
  induction n with
  | zero => simpa [count] using shrinks_pure (α := List α) []
  | succ n ih =>
    have step := h.bind fun a => ih.bind fun as => shrinks_pure (a :: as)
    exact step.mono (by rw [Nat.succ_mul]; omega)

end Pure

section World
variable {σ α β : Type} {p : ParserM σ α} {f : α → ParserM σ β}

@[simp] theorem pureM_apply (a : α) (input : List UInt8) (s : σ) :
    (pure a : ParserM σ α) input s = (some (input, a), s) := rfl

@[simp] theorem liftM_apply (p : Parser α) (input : List UInt8) (s : σ) :
    (liftM p : ParserM σ α) input s = (p input, s) := rfl

theorem bindM_of_some {input rest : List UInt8} {a : α} {s s' : σ}
    (h : p input s = (some (rest, a), s')) :
    (p >>= f) input s = f a rest s' := by
  simp only [bind, h]

theorem bindM_of_none {input : List UInt8} {s s' : σ} (h : p input s = (none, s')) :
    (p >>= f) input s = (none, s') := by
  simp only [bind, h]

theorem bindM_eq_some {input rest : List UInt8} {b : β} {s s' : σ} :
    (p >>= f) input s = (some (rest, b), s') ↔
      ∃ mid a t, p input s = (some (mid, a), t) ∧ f a mid t = (some (rest, b), s') := by
  constructor
  · intro h
    rcases first : p input s with ⟨_ | ⟨mid, a⟩, t⟩
    · rw [bindM_of_none first] at h; cases h
    · exact ⟨mid, a, t, rfl, by rwa [bindM_of_some first] at h⟩
  · rintro ⟨mid, a, t, first, second⟩
    rw [bindM_of_some first, second]

theorem bindM_isSome {input : List UInt8} {s : σ} :
    ((p >>= f) input s).1.isSome ↔ ∃ mid a s', p input s = (some (mid, a), s') ∧
      (f a mid s').1.isSome := by
  rcases first : p input s with ⟨_ | ⟨mid, a⟩, s'⟩
  · rw [bindM_of_none first]
    simp
  · rw [bindM_of_some first]
    constructor
    · exact fun done => ⟨mid, a, s', rfl, done⟩
    · rintro ⟨_, _, _, same, done⟩
      cases same
      exact done

/-- A step that leaves the world alone. -/
theorem liftM_bind_isSome {q : Parser α} {input : List UInt8} {s : σ} :
    ((liftM q >>= f) input s).1.isSome ↔ ∃ mid a, q input = some (mid, a) ∧
      (f a mid s).1.isSome := by
  rw [bindM_isSome]
  constructor
  · rintro ⟨mid, a, s', first, done⟩
    obtain rfl : s = s' := congrArg Prod.snd first
    exact ⟨mid, a, congrArg Prod.fst first, done⟩
  · rintro ⟨mid, a, first, done⟩
    exact ⟨mid, a, s, Prod.ext first rfl, done⟩

theorem bindM_pure_isSome {g : α → β} {input : List UInt8} {s : σ} :
    ((p >>= fun a => pure (g a)) input s).1.isSome = (p input s).1.isSome := by
  rcases run : p input s with ⟨_ | r, t⟩
  · rw [bindM_of_none run]
    rfl
  · rw [bindM_of_some run]
    rfl

/-- Where both succeed on an input, the two leave the same of it. -/
def SameRest (p : ParserM σ α) (q : ParserM σ β) : Prop :=
  ∀ input s s' t t' rest rest' a b, p input s = (some (rest, a), s') →
    q input t = (some (rest', b), t') → rest = rest'

theorem SameRest.countM {q : ParserM σ β} (same : SameRest p q) (n : Nat) :
    SameRest (countM p n) (countM q n) := by
  induction n with
  | zero =>
    intro input s s' t t' rest rest' as bs run run'
    cases run
    cases run'
    rfl
  | succ n ih =>
    intro input s s' t t' rest rest' as bs run run'
    obtain ⟨mid, a, u, first, run⟩ := bindM_eq_some.mp run
    obtain ⟨mid', b, u', first', run'⟩ := bindM_eq_some.mp run'
    obtain rfl := same _ _ _ _ _ _ _ _ _ first first'
    obtain ⟨_, others, v, more, run⟩ := bindM_eq_some.mp run
    obtain ⟨_, others', v', more', run'⟩ := bindM_eq_some.mp run'
    cases run
    cases run'
    exact ih _ _ _ _ _ _ _ _ _ more more'

theorem bindM_assoc {γ : Type} (p : ParserM σ α) (f : α → ParserM σ β) (g : β → ParserM σ γ) :
    (p >>= f) >>= g = p >>= fun a => f a >>= g := by
  funext input s
  rcases run : p input s with ⟨_ | ⟨rest, a⟩, t⟩
  · rw [bindM_of_none (bindM_of_none run), bindM_of_none run]
  · rw [bindM_of_some run]
    simp only [bind, run]

/-- A success of `p` uses up at least `k` bytes, whatever the world. -/
def ShrinksM (p : ParserM σ α) (k : Nat) : Prop :=
  ∀ input s rest a s', p input s = (some (rest, a), s') → rest.length + k ≤ input.length

theorem shrinksM_pure (a : α) : ShrinksM (pure a : ParserM σ α) 0 := by
  intro input s rest b s' h
  cases h
  exact Nat.le_refl _

theorem ShrinksM.mono {j k : Nat} (h : ShrinksM p j) (le : k ≤ j) : ShrinksM p k :=
  fun input s rest a s' run => by have := h input s rest a s' run; omega

theorem shrinksM_lift {q : Parser α} {k : Nat} (h : Shrinks q k) :
    ShrinksM (liftM q : ParserM σ α) k :=
  fun input _ rest a _ run => h input rest a (congrArg Prod.fst run)

theorem ShrinksM.bind {j k : Nat} (first : ShrinksM p j) (second : ∀ a, ShrinksM (f a) k) :
    ShrinksM (p >>= f) (j + k) := by
  intro input s rest b s' h
  obtain ⟨mid, a, t, run, next⟩ := bindM_eq_some.mp h
  have := first input s mid a t run
  have := second a mid t rest b s' next
  omega

theorem mapParser_of_some {q : Parser (List UInt8)} {input rest slice : List UInt8} {s : σ}
    (h : q input = some (rest, slice)) :
    mapParser q p input s = ((p slice s).1.map fun r => (rest, r.2), (p slice s).2) := by
  simp only [mapParser, h]
  rcases p slice s with ⟨_ | _, _⟩ <;> rfl

theorem mapParser_eq_some {q : Parser (List UInt8)} {input rest : List UInt8} {a : α} {s s' : σ} :
    mapParser q p input s = (some (rest, a), s') ↔
      ∃ slice left, q input = some (rest, slice) ∧ p slice s = (some (left, a), s') := by
  constructor
  · intro h
    cases first : q input with
    | none => simp only [mapParser, first, Prod.mk.injEq, reduceCtorEq, false_and] at h
    | some r =>
      obtain ⟨mid, slice⟩ := r
      rw [mapParser_of_some first] at h
      obtain ⟨value, rfl⟩ := Prod.mk.inj h
      obtain ⟨⟨left, b⟩, inner, same⟩ := Option.map_eq_some_iff.mp value
      cases same
      exact ⟨slice, left, rfl, Prod.ext inner rfl⟩
  · rintro ⟨slice, left, first, inner⟩
    rw [mapParser_of_some first, inner]
    rfl

theorem shrinksM_mapParser {q : Parser (List UInt8)} {k : Nat} (h : Shrinks q k) :
    ShrinksM (mapParser q p) k := by
  intro input s rest a s' run
  obtain ⟨slice, _, first, _⟩ := mapParser_eq_some.mp run
  exact h input rest slice first

/-- What holds of the world before a sequence holds after it, if each half keeps it. -/
theorem bindM_keeps {I : σ → Prop} (first : ∀ input s, I s → I (p input s).2)
    (second : ∀ a input s, I s → I (f a input s).2) (input : List UInt8) (s : σ) (h : I s) :
    I ((p >>= f) input s).2 := by
  rcases run : p input s with ⟨_ | ⟨mid, a⟩, t⟩
  · rw [bindM_of_none run]
    simpa [run] using first input s h
  · rw [bindM_of_some run]
    exact second a mid t (by simpa [run] using first input s h)

theorem mapParser_keeps {I : σ → Prop} {q : Parser (List UInt8)}
    (each : ∀ input s, I s → I (p input s).2) (input : List UInt8) (s : σ) (h : I s) :
    I (mapParser q p input s).2 := by
  cases first : q input with
  | none => simpa only [mapParser, first] using h
  | some r =>
    obtain ⟨rest, slice⟩ := r
    rw [mapParser_of_some first]
    exact each slice s h

/-! ### Repetition -/

/-- The fuel is never what stops the loop. -/
theorem many0Loop_fuel {a b : Nat} {input : List UInt8} {s : σ} (ha : input.length < a)
    (hb : input.length < b) :
    many0Loop p a input s = many0Loop p b input s := by
  induction a generalizing b input s with
  | zero => omega
  | succ a ih =>
    obtain ⟨b, rfl⟩ : ∃ k, b = k + 1 := ⟨b - 1, by omega⟩
    rw [many0Loop, many0Loop]
    rcases p input s with ⟨_ | ⟨rest, x⟩, t⟩
    · rfl
    · dsimp only
      split
      · rw [ih (by omega) (by omega : rest.length < b)]
      · rfl

theorem many0_eq (p : ParserM σ α) (input : List UInt8) (s : σ) :
    many0 p input s =
      match p input s with
      | (none, s') => (some (input, []), s')
      | (some (rest, a), s') =>
        if rest.length < input.length then
          match many0 p rest s' with
          | (none, s'') => (none, s'')
          | (some (rest', as), s'') => (some (rest', a :: as), s'')
        else (none, s') := by
  conv_lhs => unfold many0
  rw [many0Loop]
  rcases p input s with ⟨_ | ⟨rest, a⟩, t⟩
  · rfl
  · dsimp only
    split
    · rename_i shorter
      rw [many0Loop_fuel shorter (Nat.lt_succ_self _), many0]
    · rfl

theorem many0_stop {input : List UInt8} {s s' : σ} (h : p input s = (none, s')) :
    many0 p input s = (some (input, []), s') := by
  rw [many0_eq, h]

theorem many0_step {input rest rest' : List UInt8} {a : α} {as : List α} {s s' s'' : σ}
    (h : p input s = (some (rest, a), s')) (shorter : rest.length < input.length)
    (more : many0 p rest s' = (some (rest', as), s'')) :
    many0 p input s = (some (rest', a :: as), s'') := by
  rw [many0_eq, h]
  simp only [shorter, if_true, more]

theorem many0_stall {input rest : List UInt8} {a : α} {s s' : σ}
    (h : p input s = (some (rest, a), s')) (stuck : ¬ rest.length < input.length) :
    many0 p input s = (none, s') := by
  rw [many0_eq, h]
  simp only [stuck, if_false]

/-- `many0` succeeds when every success of the parser uses something up. -/
theorem many0_ok (progress : ∀ input s rest a s', p input s = (some (rest, a), s') →
      rest.length < input.length)
    (input : List UInt8) (s : σ) : ∃ rest as s', many0 p input s = (some (rest, as), s') := by
  induction len : input.length using Nat.strong_induction_on generalizing input s with
  | _ n ih =>
    subst len
    rcases run : p input s with ⟨_ | ⟨mid, a⟩, t⟩
    · exact ⟨input, [], t, many0_stop run⟩
    · have shorter := progress input s mid a t run
      obtain ⟨rest, as, s', more⟩ := ih mid.length shorter mid t rfl
      exact ⟨rest, a :: as, s', many0_step run shorter more⟩

/-- Induction over a successful repetition: `stop` at the first failure, `step` before. -/
theorem many0_induction {motive : List UInt8 → σ → List UInt8 → List α → σ → Prop}
    (stop : ∀ input s s', p input s = (none, s') → motive input s input [] s')
    (step : ∀ input s mid a t rest as s', p input s = (some (mid, a), t) →
      mid.length < input.length →
      motive mid t rest as s' → motive input s rest (a :: as) s')
    {input rest : List UInt8} {as : List α} {s s' : σ}
    (h : many0 p input s = (some (rest, as), s')) :
    motive input s rest as s' := by
  induction len : input.length using Nat.strong_induction_on generalizing input s as with
  | _ n ih =>
    subst len
    rw [many0_eq] at h
    rcases run : p input s with ⟨_ | ⟨mid, a⟩, t⟩
    · rw [run] at h
      cases h
      exact stop _ _ _ run
    · rw [run] at h
      dsimp only at h
      split at h
      · rename_i shorter
        rcases more : many0 p mid t with ⟨_ | ⟨rest', as'⟩, s''⟩
        · rw [more] at h; cases h
        · rw [more] at h
          cases h
          exact step input s mid a t _ _ _ run shorter (ih mid.length shorter more rfl)
      · cases h

theorem many0_forall {Q : α → Prop}
    (each : ∀ input s rest a s', p input s = (some (rest, a), s') → Q a) {input rest : List UInt8}
    {as : List α} {s s' : σ} (h : many0 p input s = (some (rest, as), s')) :
    ∀ a ∈ as, Q a := by
  refine many0_induction (motive := fun _ _ _ as _ => ∀ a ∈ as, Q a) ?_ ?_ h
  · intro _ _ _ _ a mem
    cases mem
  · intro input s mid a t rest as s' run _ ih b mem
    rcases List.mem_cons.mp mem with rfl | mem
    · exact each _ _ _ _ _ run
    · exact ih b mem

/-- Where each item costs no more than it used up, so do all of them. -/
theorem many0_sum {cost : α → Nat} {Q : α → Prop}
    (each : ∀ input s rest a s', p input s = (some (rest, a), s') → Q a →
      cost a + rest.length ≤ input.length)
    {input rest : List UInt8} {as : List α} {s s' : σ} (h : many0 p input s = (some (rest, as), s'))
    (all : ∀ a ∈ as, Q a) : (as.map cost).sum + rest.length ≤ input.length := by
  refine many0_induction (motive := fun input _ rest as _ =>
    (∀ a ∈ as, Q a) → (as.map cost).sum + rest.length ≤ input.length) ?_ ?_ h all
  · intro input _ _ _ _
    simp
  · intro input s mid a t rest as s' run _ ih all
    have first := each _ _ _ _ _ run (all a List.mem_cons_self)
    have others := ih fun b mem => all b (List.mem_cons_of_mem a mem)
    rw [List.map_cons, List.sum_cons]
    omega

/-- An invariant of the world that the parser keeps is kept by its repetition, failed or not. -/
theorem many0_keeps {I : σ → Prop} (each : ∀ input s, I s → I (p input s).2)
    (input : List UInt8) (s : σ) (h : I s) : I (many0 p input s).2 := by
  induction len : input.length using Nat.strong_induction_on generalizing input s with
  | _ n ih =>
    subst len
    have one := each input s h
    rw [many0_eq]
    rcases run : p input s with ⟨_ | ⟨mid, a⟩, t⟩
    · simpa [run] using one
    · rw [run] at one
      dsimp only
      split
      · rename_i shorter
        have rest := ih mid.length shorter mid t one rfl
        rcases more : many0 p mid t with ⟨_ | _, s''⟩ <;> simpa [more] using rest
      · exact one

/-- What holds of every item of a turn holds of all that `untilEmpty` returns. -/
theorem untilEmpty_forall {q : ParserM σ (Turn α)} {Q : α → Prop}
    (each : ∀ input s rest a s', q input s = (some (rest, .next (some a)), s') → Q a)
    {input rest : List UInt8} {as : List α} {s s' : σ}
    (h : untilEmpty q input s = (some (rest, as), s')) :
    ∀ a ∈ as, Q a := by
  have loop : ∀ fuel input s rest as s', untilEmptyLoop q fuel input s = (some (rest, as), s') →
      ∀ a ∈ as, Q a := by
    intro fuel
    induction fuel with
    | zero =>
      intro input s rest as s' h a mem
      cases h
      cases mem
    | succ fuel ih =>
      intro input s rest as s' h a mem
      rw [untilEmptyLoop] at h
      split at h
      · cases h
        cases mem
      · rcases run : q input s with ⟨_ | ⟨mid, _ | item⟩, t⟩ <;> rw [run] at h
        · cases h
        · cases h
          cases mem
        · dsimp only at h
          rcases more : untilEmptyLoop q fuel mid t with ⟨_ | ⟨rest', as'⟩, t'⟩ <;>
            rw [more] at h <;> cases h
          obtain here | later := List.mem_append.mp mem
          · obtain rfl := Option.mem_toList.mp here
            exact each _ _ _ _ _ run
          · exact ih _ _ _ _ _ more a later
  exact loop _ _ _ _ _ _ h

/-- A step of the loop is at least a byte shorter than its input. -/
def Advances (q : ParserM σ (Turn α)) : Prop :=
  ∀ input s rest item s', q input s = (some (rest, .next item), s') → rest.length < input.length

/-- Where every step uses something up, a byte of fuel for each byte of input is enough. -/
theorem untilEmptyLoop_fuel {q : ParserM σ (Turn α)} (advances : Advances q) {a b : Nat}
    {input : List UInt8} {s : σ} (ha : input.length ≤ a) (hb : input.length ≤ b) :
    untilEmptyLoop q a input s = untilEmptyLoop q b input s := by
  induction a generalizing b input s with
  | zero =>
    obtain rfl : input = [] := List.length_eq_zero_iff.mp (Nat.le_zero.mp ha)
    cases b <;> rfl
  | succ a ih =>
    cases b with
    | zero =>
      obtain rfl : input = [] := List.length_eq_zero_iff.mp (Nat.le_zero.mp hb)
      rfl
    | succ b =>
      rw [untilEmptyLoop, untilEmptyLoop]
      split
      · rfl
      · rcases run : q input s with ⟨_ | ⟨rest, _ | item⟩, t⟩
        · rfl
        · rfl
        · have shorter := advances _ _ _ _ _ run
          dsimp only
          rw [ih (b := b) (by omega) (by omega)]

theorem untilEmpty_eq {q : ParserM σ (Turn α)} (advances : Advances q)
    (input : List UInt8) (s : σ) :
    untilEmpty q input s =
      if input.isEmpty then (some (input, []), s)
      else
        match q input s with
        | (none, s') => (none, s')
        | (some (rest, .stop), s') => (some (rest, []), s')
        | (some (rest, .next item), s') =>
          match untilEmpty q rest s' with
          | (none, s'') => (none, s'')
          | (some (rest', as), s'') => (some (rest', item.toList ++ as), s'') := by
  cases input with
  | nil => rfl
  | cons byte input =>
    rw [untilEmpty, List.length_cons, untilEmptyLoop]
    split
    · rfl
    · rcases run : q (byte :: input) s with ⟨_ | ⟨rest, _ | item⟩, t⟩
      · rfl
      · rfl
      · have shorter := advances _ _ _ _ _ run
        rw [List.length_cons] at shorter
        dsimp only
        rw [untilEmptyLoop_fuel advances (b := rest.length) (by omega) (Nat.le_refl _)]
        rfl

theorem untilEmpty_sum {q : ParserM σ (Turn α)} {cost : α → Nat} {Q : α → Prop}
    (advances : Advances q) (stops : ∀ input s rest s', q input s = (some (rest, .stop), s') →
      rest.length ≤ input.length)
    (each : ∀ input s rest item s', q input s = (some (rest, .next item), s') → (∀ a ∈ item, Q a) →
      (item.toList.map cost).sum + rest.length ≤ input.length)
    {input rest : List UInt8} {as : List α} {s s' : σ}
    (h : untilEmpty q input s = (some (rest, as), s')) (all : ∀ a ∈ as, Q a) :
    (as.map cost).sum + rest.length ≤ input.length := by
  induction len : input.length using Nat.strong_induction_on generalizing input s as with
  | _ n ih =>
    subst len
    rw [untilEmpty_eq advances] at h
    split at h
    · cases h
      simp
    · rcases run : q input s with ⟨_ | ⟨mid, _ | item⟩, t⟩ <;> rw [run] at h
      · cases h
      · cases h
        simpa using stops _ _ _ _ run
      · dsimp only at h
        rcases more : untilEmpty q mid t with ⟨_ | ⟨rest', others⟩, t'⟩ <;>
          rw [more] at h <;> cases h
        have first :=
          each _ _ _ _ _ run fun a mem => all a (List.mem_append_left _ (Option.mem_toList.mpr mem))
        have later :=
          ih mid.length (advances _ _ _ _ _ run) more (fun a mem =>
            all a (List.mem_append_right _ mem)) rfl
        rw [List.map_append, List.sum_append]
        omega

/-- `frame` shows how far each turn of `q` goes. Where it finds an item, `q` gets as far or fails:
it succeeds on a `good` item, and only on a `fair` one. -/
structure Mirrors (q : ParserM σ (Turn α)) (frame : Parser (Turn β)) (good fair : β → Prop) :
    Prop where
  advances : Advances q
  frameAdvances : Advances frame.alone
  fails : ∀ input, frame input = none → ∀ s, (q input s).1 = none
  stops : ∀ input left, frame input = some (left, .stop) →
    ∀ s, ∃ rest, (q input s).1 = some (rest, .stop)
  next : ∀ input rest item, frame input = some (rest, .next item) → ∀ s,
    ((q input s).1 = none ∨ ∃ own, (q input s).1 = some (rest, .next own)) ∧
      ((∀ b ∈ item, good b) → (q input s).1.isSome) ∧ ((q input s).1.isSome → ∀ b ∈ item, fair b)

theorem Parser.untilEmpty_eq {frame : Parser (Turn β)} (advances : Advances frame.alone)
    (input : List UInt8) :
    frame.untilEmpty input =
      if input.isEmpty then some (input, [])
      else
        match frame input with
        | none => none
        | some (rest, .stop) => some (rest, [])
        | some (rest, .next item) => (frame.untilEmpty rest).map fun r =>
          (r.1, item.toList ++ r.2) := by
  rw [Parser.untilEmpty, Combinator.untilEmpty_eq advances]
  split
  · rfl
  · simp only [Parser.alone]
    rcases frame input with _ | ⟨rest, _ | item⟩
    · rfl
    · rfl
    · dsimp only
      rw [Parser.untilEmpty]
      rcases Combinator.untilEmpty frame.alone rest () with ⟨_ | _, _⟩ <;> rfl

theorem Mirrors.succeeds {q : ParserM σ (Turn α)} {frame : Parser (Turn β)} {good fair : β → Prop}
    (mirrors : Mirrors q frame good fair) {input left : List UInt8} {items : List β}
    (framed : frame.untilEmpty input = some (left, items)) (all : ∀ b ∈ items, good b) (s : σ) :
    (untilEmpty q input s).1.isSome := by
  induction len : input.length using Nat.strong_induction_on generalizing input s items with
  | _ n ih =>
    subst len
    rw [Parser.untilEmpty_eq mirrors.frameAdvances] at framed
    rw [untilEmpty_eq mirrors.advances]
    split at framed
    next empty => rw [if_pos empty]; rfl
    next nonempty =>
      rw [if_neg nonempty]
      rcases turn : frame input with _ | ⟨rest, _ | item⟩ <;> rw [turn] at framed
      · cases framed
      · obtain ⟨rest', stopped⟩ := mirrors.stops input rest turn s
        rcases run : q input s with ⟨_ | _, t⟩ <;> rw [run] at stopped <;> cases stopped
        rfl
      · obtain ⟨⟨left', others⟩, more, same⟩ := Option.map_eq_some_iff.mp framed
        cases same
        obtain ⟨far, own, -⟩ := mirrors.next input rest item turn s
        have here := own fun b mem => all b (List.mem_append_left _ (Option.mem_toList.mpr mem))
        obtain ⟨value, at_⟩ := far.resolve_left (Option.isSome_iff_ne_none.mp here)
        have shorter := mirrors.frameAdvances input () rest item () (Prod.ext turn rfl)
        rcases run : q input s with ⟨_ | _, t⟩ <;> rw [run] at at_ <;> cases at_
        have later :=
          ih rest.length shorter more (fun b mem => all b (List.mem_append_right _ mem)) t rfl
        dsimp only
        rcases tail : untilEmpty q rest t with ⟨_ | _, t'⟩ <;> rw [tail] at later
        · cases later
        · rfl

theorem Mirrors.framed {q : ParserM σ (Turn α)} {frame : Parser (Turn β)} {good fair : β → Prop}
    (mirrors : Mirrors q frame good fair) {input : List UInt8} {s : σ}
    (done : (untilEmpty q input s).1.isSome) :
    ∃ left items, frame.untilEmpty input = some (left, items) ∧ ∀ b ∈ items, fair b := by
  induction len : input.length using Nat.strong_induction_on generalizing input s with
  | _ n ih =>
    subst len
    rw [Parser.untilEmpty_eq mirrors.frameAdvances]
    rw [untilEmpty_eq mirrors.advances] at done
    split at done
    next empty => exact ⟨_, _, if_pos empty, fun b mem => by cases mem⟩
    next nonempty =>
      rw [if_neg nonempty]
      rcases turn : frame input with _ | ⟨rest, _ | item⟩
      · have failed := mirrors.fails input turn s
        rcases run : q input s with ⟨_ | _, t⟩ <;> rw [run] at failed done
        · cases done
        · cases failed
      · exact ⟨_, _, rfl, fun b mem => by cases mem⟩
      · obtain ⟨far, -, own⟩ := mirrors.next input rest item turn s
        have shorter := mirrors.frameAdvances input () rest item () (Prod.ext turn rfl)
        rcases run : q input s with ⟨_ | _, t⟩ <;> rw [run] at far own done
        · cases done
        · obtain ⟨value, same⟩ := far.resolve_left (by simp)
          cases same
          dsimp only at done
          have more : (untilEmpty q rest t).1.isSome := by
            rcases tail : untilEmpty q rest t with ⟨_ | _, t'⟩ <;> rw [tail] at done
            · cases done
            · rfl
          obtain ⟨left, others, found, all⟩ := ih rest.length shorter more rfl
          refine ⟨left, item.toList ++ others, congrArg (Option.map _) found, ?_⟩
          intro b mem
          rcases List.mem_append.mp mem with here | there
          · exact own rfl b (Option.mem_toList.mp here)
          · exact all b there

theorem untilEmpty_keeps {q : ParserM σ (Turn α)} {I : σ → Prop}
    (each : ∀ input s, I s → I (q input s).2) (input : List UInt8) (s : σ) (h : I s) :
    I (untilEmpty q input s).2 := by
  have loop : ∀ fuel input s, I s → I (untilEmptyLoop q fuel input s).2 := by
    intro fuel
    induction fuel with
    | zero => exact fun _ _ h => h
    | succ fuel ih =>
      intro input s h
      have one := each input s h
      rw [untilEmptyLoop]
      split
      · exact h
      · rcases run : q input s with ⟨_ | ⟨rest, _ | item⟩, t⟩ <;> rw [run] at one
        · exact one
        · exact one
        · have more := ih rest t one
          dsimp only
          rcases next : untilEmptyLoop q fuel rest t with ⟨_ | _, s''⟩ <;> simpa [next] using more
  exact loop _ input s h

/-! ### What a parser reads, in any world -/

/-- `p` takes exactly `bs` for `a`, whatever follows, and leaves the world alone. -/
def ReadsM (p : ParserM σ α) (bs : List UInt8) (a : α) : Prop :=
  ∀ rest s, p (bs ++ rest) s = (some (rest, a), s)

theorem readsM_pure (a : α) : ReadsM (pure a : ParserM σ α) [] a := fun _ _ => rfl

theorem readsM_lift {q : Parser α} {bs : List UInt8} {a : α} (h : Reads q bs a) :
    ReadsM (liftM q : ParserM σ α) bs a := fun rest _ => Prod.ext (h rest) rfl

theorem ReadsM.bind {bs cs : List UInt8} {a : α} {b : β} (first : ReadsM p bs a)
    (second : ReadsM (f a) cs b) :
    ReadsM (p >>= f) (bs ++ cs) b := by
  intro rest s
  rw [List.append_assoc, bindM_of_some (first (cs ++ rest) s), second rest s]

theorem ReadsM.map {bs : List UInt8} {a : α} (g : α → β) (first : ReadsM p bs a) :
    ReadsM (p >>= fun a => pure (g a)) bs (g a) := by
  simpa using first.bind (f := fun a => pure (g a)) (readsM_pure (g a))

/-- A repetition reads a sequence of encodings up to input the parser rejects. -/
theorem many0_reads {ι : Type} {enc : ι → List UInt8} {val : ι → α} {is : List ι}
    {rest : List UInt8} {s s' : σ} (each : ∀ i ∈ is, ReadsM p (enc i) (val i))
    (nonempty : ∀ i ∈ is, enc i ≠ []) (stop : p rest s = (none, s')) :
    many0 p (is.flatMap enc ++ rest) s = (some (rest, is.map val), s') := by
  induction is with
  | nil => exact many0_stop stop
  | cons i is ih =>
    have more := ih (fun j mem => each j (List.mem_cons_of_mem i mem))
      fun j mem => nonempty j (List.mem_cons_of_mem i mem)
    rw [List.flatMap_cons, List.append_assoc]
    refine many0_step (each i List.mem_cons_self _ s) ?_ more
    have := List.length_pos_iff.mpr (nonempty i List.mem_cons_self)
    simp only [List.length_append]
    omega

end World

section PureRepetition
variable {α : Type} {p : Parser α}

theorem Parser.many0_stop {input : List UInt8} (h : p input = none) :
    p.many0 input = some (input, []) :=
  congrArg Prod.fst (Combinator.many0_stop (p := p.alone) (s := ()) (Prod.ext h rfl))

theorem Parser.many0_step {input rest rest' : List UInt8} {a : α} {as : List α}
    (h : p input = some (rest, a)) (shorter : rest.length < input.length)
    (more : p.many0 rest = some (rest', as)) :
    p.many0 input = some (rest', a :: as) :=
  have first : p.alone input () = (some (rest, a), ()) := Prod.ext h rfl
  have others : Combinator.many0 p.alone rest () = (some (rest', as), ()) := Prod.ext more rfl
  congrArg Prod.fst (Combinator.many0_step first shorter others)

theorem Parser.many0_ok {k : Nat} (h : Shrinks p (k + 1)) (input : List UInt8) :
    ∃ rest as, p.many0 input = some (rest, as) := by
  obtain ⟨rest, as, s, run⟩ := Combinator.many0_ok (p := p.alone)
    (fun input _ rest a _ run => by
      have := h input rest a (congrArg Prod.fst run)
      omega) input ()
  exact ⟨rest, as, congrArg Prod.fst run⟩

theorem Parser.many0_induction {motive : List UInt8 → List UInt8 → List α → Prop}
    (stop : ∀ input, p input = none → motive input input [])
    (step : ∀ input mid a rest as, p input = some (mid, a) → motive mid rest as →
      motive input rest (a :: as))
    {input rest : List UInt8} {as : List α} (h : p.many0 input = some (rest, as)) :
    motive input rest as := by
  have run : Combinator.many0 p.alone input () = (some (rest, as), ()) := Prod.ext h rfl
  refine Combinator.many0_induction (motive := fun input _ rest as _ =>
    motive input rest as) ?_ ?_ run
  · intro input _ _ ended
    exact stop input (congrArg Prod.fst ended)
  · intro input _ mid a _ rest as _ run _ later
    exact step input mid a rest as (congrArg Prod.fst run) later

theorem Parser.many0_forall {Q : α → Prop} (each : ∀ input rest a, p input = some (rest, a) → Q a)
    {input rest : List UInt8} {as : List α} (h : p.many0 input = some (rest, as)) :
    ∀ a ∈ as, Q a := by
  refine Parser.many0_induction (motive := fun _ _ as => ∀ a ∈ as, Q a) ?_ ?_ h
  · intro _ _ a mem
    cases mem
  · intro input mid a rest as run later b mem
    rcases List.mem_cons.mp mem with rfl | mem
    · exact each _ _ _ run
    · exact later b mem

theorem Parser.many0_spelled {spell : α → List UInt8} (each : Spelled p spell) :
    Spelled p.many0 fun as => as.flatMap spell := by
  intro input rest as run
  refine Parser.many0_induction (motive := fun input rest as =>
    input = as.flatMap spell ++ rest) ?_ ?_ run
  · intro input _
    rfl
  · intro input mid a rest as run later
    rw [each input mid a run, later, List.flatMap_cons, List.append_assoc]

theorem Parser.many0_reads {enc : α → List UInt8} {as : List α} {rest : List UInt8}
    (each : ∀ a ∈ as, Reads p (enc a) a) (nonempty : ∀ a ∈ as, enc a ≠ []) (stop : p rest = none) :
    p.many0 (as.flatMap enc ++ rest) = some (rest, as) := by
  induction as with
  | nil => exact Parser.many0_stop stop
  | cons a as ih =>
    have more := ih (fun b mem => each b (List.mem_cons_of_mem a mem))
      fun b mem => nonempty b (List.mem_cons_of_mem a mem)
    rw [List.flatMap_cons, List.append_assoc]
    refine Parser.many0_step (each a List.mem_cons_self _) ?_ more
    have := List.length_pos_iff.mpr (nonempty a List.mem_cons_self)
    simp only [List.length_append]
    omega

end PureRepetition

end Combinator
