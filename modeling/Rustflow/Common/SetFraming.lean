import Rustflow.Lib.Frames

/-!
# Sets within a message

Both protocols frame the sets of a message alike: an ID, a length that counts this header of four
bytes, and the contents. `RawSet` is a set as it is on the wire, whatever its contents are.
-/

namespace Rustflow
open Combinator BigEndian

/-- A set whose contents `parseRecords` reads, given its ID. -/
def parseFramedSet {σ α β : Type} (headerSize : Nat) (parseRecords : UInt16 → ParserM σ α)
    (make : UInt16 → UInt16 → α → β) : ParserM σ β := do
  let id ← beU16
  let length ← beU16
  -- Without a sane length there is no telling where the next set starts.
  if length.toNat < headerSize then fail
  else
    let records ← mapParser (take (length.toNat - headerSize)) (parseRecords id)
    return make id length records

/-- A set on the wire, with a length that fits its header. -/
structure RawSet where
  id : UInt16
  content : List UInt8
  fits : 4 + content.length < 2 ^ 16

namespace RawSet

/-- The declared length. -/
def length (set : RawSet) : UInt16 := UInt16.ofNat (4 + set.content.length)

def frame (set : RawSet) : List UInt8 :=
  bytes 2 set.id.toNat ++ bytes 2 set.length.toNat ++ set.content

/-- The ID and the declared length of a set. -/
def tag (set : RawSet) : UInt16 × UInt16 := (set.id, set.length)

theorem toNat_length (set : RawSet) : set.length.toNat = 4 + set.content.length := by
  rw [length, UInt16.toNat_ofNat', Nat.mod_eq_of_lt set.fits]

theorem frame_ne_nil (set : RawSet) : set.frame ≠ [] := by
  simp [frame, bytes]

end RawSet

section
variable {σ α β : Type} {parseRecords : UInt16 → ParserM σ α} {make : UInt16 → UInt16 → α → β}

/-- A framed set parses as its contents do, and leaves what follows it. -/
theorem parseFramedSet_frame (set : RawSet) (rest : List UInt8) (s : σ) :
    parseFramedSet 4 parseRecords make (set.frame ++ rest) s =
      ((parseRecords set.id set.content s).1.map fun r => (rest, make set.id set.length r.2),
        (parseRecords set.id set.content s).2) := by
  have id : (liftM beU16 : ParserM σ UInt16) (set.frame ++ rest) s =
      (some (bytes 2 set.length.toNat ++ (set.content ++ rest), set.id), s) := by
    rw [RawSet.frame, List.append_assoc, List.append_assoc]
    exact Prod.ext (reads_beU16 set.id _) rfl
  have length :
      (liftM beU16 : ParserM σ UInt16) (bytes 2 set.length.toNat ++ (set.content ++ rest)) s =
      (some (set.content ++ rest, set.length), s) := Prod.ext (reads_beU16 set.length _) rfl
  have content : take (set.length.toNat - 4) (set.content ++ rest) = some (rest, set.content) :=
    take_append rest (by rw [set.toNat_length]; omega)
  rw [parseFramedSet, bindM_of_some id, bindM_of_some length,
    if_neg (by rw [set.toNat_length]; omega)]
  rcases run : parseRecords set.id set.content s with ⟨_ | ⟨left, records⟩, s'⟩
  · exact bindM_of_none ((mapParser_of_some content).trans (by rw [run]; rfl))
  · exact bindM_of_some ((mapParser_of_some content).trans (by rw [run]; rfl))

variable (parseRecords make) in
/-- A set fails before its contents are looked at, or does what they do. -/
theorem parseFramedSet_cases (headerSize : Nat) (input : List UInt8) (s : σ) :
    parseFramedSet headerSize parseRecords make input s = (none, s) ∨
      ∃ rest id length slice, rest.length < input.length ∧
        parseFramedSet headerSize parseRecords make input s =
          ((parseRecords id slice s).1.map fun r => (rest, make id length r.2),
            (parseRecords id slice s).2) := by
  rcases first : beU16 input with _ | ⟨mid, id⟩
  · exact .inl (bindM_of_none (Prod.ext first rfl))
  have readId : (liftM beU16 : ParserM σ UInt16) input s = (some (mid, id), s) := Prod.ext first rfl
  rcases second : beU16 mid with _ | ⟨mid', length⟩
  · exact .inl ((bindM_of_some readId).trans (bindM_of_none (Prod.ext second rfl)))
  have readLength : (liftM beU16 : ParserM σ UInt16) mid s = (some (mid', length), s) :=
    Prod.ext second rfl
  rw [parseFramedSet, bindM_of_some readId, bindM_of_some readLength]
  split
  · exact .inl rfl
  rcases third : take (length.toNat - headerSize) mid' with _ | ⟨rest, slice⟩
  · exact .inl (bindM_of_none (by rw [mapParser, third]))
  have shorter := shrinks_beU16 _ _ _ first
  have shorter' := shrinks_beU16 _ _ _ second
  have shorter'' := shrinks_take _ _ _ _ third
  refine .inr ⟨rest, id, length, slice, by omega, ?_⟩
  rcases run : parseRecords id slice s with ⟨_ | ⟨left, records⟩, s'⟩
  · exact bindM_of_none ((mapParser_of_some third).trans (by rw [run]; rfl))
  · exact bindM_of_some ((mapParser_of_some third).trans (by rw [run]; rfl))

/-- What reading contents keeps, reading a set keeps. -/
theorem parseFramedSet_keeps {I : σ → Prop} {headerSize : Nat}
    (each : ∀ id content s, I s → I (parseRecords id content s).2) (input : List UInt8) (s : σ)
    (h : I s) : I (parseFramedSet headerSize parseRecords make input s).2 := by
  refine bindM_keeps (fun _ _ h => h) (fun id => ?_) input s h
  refine bindM_keeps (fun _ _ h => h) (fun length => ?_)
  split
  · exact fun _ _ h => h
  · exact bindM_keeps (mapParser_keeps (each id)) fun _ _ _ h => h

theorem parseFramedSet_nil (s : σ) : parseFramedSet 4 parseRecords make [] s = (none, s) := rfl

/-- Reading a body made of sets succeeds, and returns them all exactly when the contents of each
can be read in its turn. -/
theorem many0_parseFramedSet {fit : σ → RawSet → Prop} (make : UInt16 → UInt16 → α → β)
    (tag : β → UInt16 × UInt16) (readable : ∀ s set, (parseRecords set.id set.content s).1.isSome ↔
      fit s set)
    (tagged : ∀ id length a, tag (make id length a) = (id, length)) (sets : List RawSet) (s : σ) :
    ∃ rest as s', many0 (parseFramedSet 4 parseRecords make) (sets.flatMap RawSet.frame) s =
      (some (rest, as), s') ∧
      (as.map tag = sets.map RawSet.tag ↔
        Proceeds fit (fun s set => (parseRecords set.id set.content s).2) s sets) ∧
      (Proceeds fit (fun s set => (parseRecords set.id set.content s).2) s sets → rest = []) := by
  refine many0_frames RawSet.frame_ne_nil (fun s => ⟨s, parseFramedSet_nil s⟩) ?_ ?_ sets s
  · intro s set rest fit
    obtain ⟨⟨left, records⟩, found⟩ := Option.isSome_iff_exists.mp ((readable s set).mpr fit)
    refine ⟨make set.id set.length records, ?_, tagged _ _ _⟩
    rw [parseFramedSet_frame, found]
    rfl
  · intro s set rest unfit
    rw [← readable, Option.isSome_iff_ne_none, not_not] at unfit
    exact ⟨_, by rw [parseFramedSet_frame, unfit]; rfl⟩

end

end Rustflow
