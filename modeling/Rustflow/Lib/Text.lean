import Mathlib.Algebra.GroupWithZero.Nat
import Mathlib.Data.List.Induction

/-!
# Text

The string searches that file names are read with, on lists of characters.
-/

namespace Text

/-- What follows `p` at the start of the text. -/
def stripPrefix {A : Type} [DecidableEq A] (p text : List A) : Option (List A) :=
  if p <+: text then some (text.drop p.length) else none

/-- What comes before `s` at the end of the text. -/
def stripSuffix {A : Type} [DecidableEq A] (s text : List A) : Option (List A) :=
  if s <:+ text then some (text.take (text.length - s.length)) else none

/-- The parts before and after the first `c`. -/
def splitOnce (c : Char) : List Char → Option (List Char × List Char)
  | [] => none
  | d :: ds => if d = c then some ([], ds) else (splitOnce c ds).map fun r => (d :: r.1, r.2)

/-- The parts before and after the last `c`. -/
def rsplitOnce (c : Char) (text : List Char) : Option (List Char × List Char) :=
  (splitOnce c text.reverse).map fun r => (r.2.reverse, r.1.reverse)

/-- The parts before and after a byte index, where it is inside the text and cuts no character. -/
def splitAtChecked : Nat → List Char → Option (List Char × List Char)
  | 0, text => some ([], text)
  | _ + 1, [] => none
  | n + 1, c :: cs =>
    if c.utf8Size ≤ n + 1 then (splitAtChecked (n + 1 - c.utf8Size) cs).map fun r =>
      (c :: r.1, r.2) else none

/-- The property `White_Space` of Unicode. -/
def isWhitespace (c : Char) : Bool :=
  let n := c.toNat
  (0x09 ≤ n && n ≤ 0x0d) || n = 0x20 || n = 0x85 || n = 0xa0 || n =
    0x1680 || (0x2000 ≤ n && n ≤ 0x200a) || n = 0x2028 ||
    n = 0x2029 || n = 0x202f || n = 0x205f || n = 0x3000

def trim (text : List Char) : List Char :=
  ((text.dropWhile isWhitespace).reverse.dropWhile isWhitespace).reverse

/-- One ASCII digit or more. -/
def isNumber (text : List Char) : Bool := !text.isEmpty && text.all Char.isDigit

/-- The number that decimal digits spell. -/
def parseNumber (text : List Char) : Nat :=
  text.foldl (fun n c => n * 10 + (c.toNat - '0'.toNat)) 0

theorem splitOnce_append {c : Char} {before : List Char} (absent : c ∉ before) (after : List Char) :
    splitOnce c (before ++ c :: after) = some (before, after) := by
  induction before with
  | nil => exact if_pos rfl
  | cons d ds ih =>
    rw [List.mem_cons, not_or] at absent
    obtain ⟨other, absent⟩ := absent
    rw [List.cons_append, splitOnce, if_neg (Ne.symm other), ih absent]
    rfl

theorem rsplitOnce_append {c : Char} {after : List Char} (absent : c ∉ after) (before : List Char) :
    rsplitOnce c (before ++ c :: after) = some (before, after) := by
  have turned : (before ++ c :: after).reverse = after.reverse ++ c :: before.reverse := by simp
  rw [rsplitOnce, turned, splitOnce_append fun inside => absent (List.mem_reverse.mp inside)]
  simp only [Option.map_some, List.reverse_reverse]

theorem splitOnce_eq_some {c : Char} {text before after : List Char}
    (found : splitOnce c text = some (before, after)) :
    text = before ++ c :: after ∧ c ∉ before := by
  induction text generalizing before with
  | nil => cases found
  | cons d ds ih =>
    unfold splitOnce at found
    split at found
    · rename_i same
      cases found
      exact ⟨by rw [same]; rfl, List.not_mem_nil⟩
    · rename_i other
      obtain ⟨⟨before', after'⟩, deeper, same⟩ := Option.map_eq_some_iff.mp found
      cases same
      obtain ⟨rfl, absent⟩ := ih deeper
      refine ⟨rfl, ?_⟩
      rw [List.mem_cons, not_or]
      exact ⟨Ne.symm other, absent⟩

theorem rsplitOnce_eq_some {c : Char} {text before after : List Char}
    (found : rsplitOnce c text = some (before, after)) :
    text = before ++ c :: after ∧ c ∉ after := by
  obtain ⟨⟨last, front⟩, split, same⟩ := Option.map_eq_some_iff.mp found
  cases same
  obtain ⟨turned, absent⟩ := splitOnce_eq_some split
  refine ⟨?_, fun inside => absent (List.mem_reverse.mp inside)⟩
  rw [← List.reverse_reverse text, turned]
  simp

/-- A text is taken apart at its last `c` in one way. -/
theorem append_cons_inj {c : Char} {before after before' after' : List Char} (absent : c ∉ after)
    (absent' : c ∉ after') (same : before ++ c :: after = before' ++ c :: after') :
    before = before' ∧ after = after' := by
  have split := rsplitOnce_append absent before
  rw [same, rsplitOnce_append absent' before'] at split
  obtain ⟨rfl, rfl⟩ := Prod.mk.inj (Option.some.inj split)
  exact ⟨rfl, rfl⟩

theorem isDigit_of_mem_toDigits {n : Nat} {c : Char} (inside : c ∈ Nat.toDigits 10 n) :
    c.isDigit = true :=
  Nat.isDigit_of_mem_toDigits (by decide) (by decide) inside

theorem dot_notMem_toDigits (n : Nat) : '.' ∉ Nat.toDigits 10 n := by
  intro inside
  exact absurd (isDigit_of_mem_toDigits inside) (by decide)

/-- The bytes a text takes in UTF-8. -/
def byteLength (text : List Char) : Nat := (text.map Char.utf8Size).sum

theorem byteLength_append (a b : List Char) :
    byteLength (a ++ b) = byteLength a + byteLength b := by
  simp [byteLength]

theorem byteLength_eq_zero {text : List Char} (empty : byteLength text = 0) : text = [] := by
  cases text with
  | nil => rfl
  | cons c cs =>
    have positive := c.utf8Size_pos
    simp only [byteLength, List.map_cons, List.sum_cons] at empty
    omega

theorem byteLength_of_isDigit {text : List Char} (digits : ∀ c ∈ text, c.isDigit = true) :
    byteLength text = text.length := by
  induction text with
  | nil => rfl
  | cons c cs ih =>
    have digit := Char.isDigit_iff_toNat.mp (digits c List.mem_cons_self)
    have nine : '9'.toNat = 57 := rfl
    have small : c.val ≤ 127 := by
      rw [UInt32.le_iff_toNat_le]
      show c.toNat ≤ 127
      omega
    have rest := ih fun d inside => digits d (List.mem_cons_of_mem c inside)
    rw [byteLength] at rest ⊢
    rw [List.map_cons, List.sum_cons, rest, Char.utf8Size_eq_one_iff.mpr small, List.length_cons,
      Nat.add_comm]

/-- A text is taken apart in one way at a byte index from its end. -/
theorem append_inj_of_byteLength {a b c d : List Char} (same : a ++ b = c ++ d)
    (length : byteLength b = byteLength d) :
    a = c ∧ b = d := by
  have apart : ∀ {more b d : List Char}, b = more ++ d → byteLength b = byteLength d →
      more = [] := by
    intro more b d whole length
    apply byteLength_eq_zero
    rw [whole, byteLength_append] at length
    omega
  rcases List.append_eq_append_iff.mp same with ⟨more, rfl, rest⟩ | ⟨more, rfl, rest⟩
  · obtain rfl := apart rest length
    exact ⟨(List.append_nil a).symm, rest⟩
  · obtain rfl := apart rest length.symm
    exact ⟨List.append_nil c, rest.symm⟩

theorem splitAtChecked_eq_some {n : Nat} {text before after : List Char} :
    splitAtChecked n text = some (before, after) ↔ text = before ++ after ∧
      byteLength before = n := by
  constructor
  · intro split
    induction text generalizing n before with
    | nil =>
      cases n with
      | zero =>
        cases split
        exact ⟨rfl, rfl⟩
      | succ n => cases split
    | cons c cs ih =>
      cases n with
      | zero =>
        cases split
        exact ⟨rfl, rfl⟩
      | succ n =>
        rw [splitAtChecked] at split
        split at split
        · rename_i fits
          obtain ⟨⟨before', after'⟩, found, same⟩ := Option.map_eq_some_iff.mp split
          cases same
          obtain ⟨rfl, length⟩ := ih found
          refine ⟨rfl, ?_⟩
          simp only [byteLength, List.map_cons, List.sum_cons] at length ⊢
          omega
        · cases split
  · rintro ⟨rfl, rfl⟩
    induction before with
    | nil => cases after <;> rfl
    | cons c cs ih =>
      have positive := c.utf8Size_pos
      obtain ⟨n, length⟩ : ∃ n, byteLength (c :: cs) = n + 1 := by
        refine ⟨byteLength (c :: cs) - 1, ?_⟩
        simp only [byteLength, List.map_cons, List.sum_cons]
        omega
      have rest : n + 1 - c.utf8Size = byteLength cs := by
        rw [← length]
        simp [byteLength]
      rw [length, List.cons_append, splitAtChecked, rest, ih]
      rw [if_pos]
      · rfl
      · rw [← length]
        simp [byteLength]

theorem parseNumber_concat (text : List Char) (c : Char) :
    parseNumber (text ++ [c]) = parseNumber text * 10 + (c.toNat - '0'.toNat) := by
  rw [parseNumber, List.foldl_append]
  rfl

theorem parseNumber_lt {text : List Char} (digits : ∀ c ∈ text, c.isDigit = true) :
    parseNumber text < 10 ^ text.length := by
  induction text using List.reverseRecOn with
  | nil => decide
  | append_singleton front c ih =>
    have shorter := ih fun d inside => digits d (List.mem_append_left _ inside)
    have digit := Char.isDigit_iff_toNat.mp (digits c (by simp))
    have nine : '9'.toNat = '0'.toNat + 9 := rfl
    rw [parseNumber_concat, List.length_append, List.length_singleton, Nat.pow_succ]
    omega

theorem parseNumber_toDigits (n : Nat) : parseNumber (Nat.toDigits 10 n) = n := by
  have read := @Nat.ofDigitChars_ten_toDigits n
  rw [Nat.ofDigitChars_eq_foldl] at read
  simpa only [parseNumber, Nat.mul_comm] using read

theorem parseNumber_zeros (zeros : Nat) (text : List Char) :
    parseNumber (List.replicate zeros '0' ++ text) = parseNumber text := by
  induction zeros with
  | zero => rfl
  | succ zeros ih => exact ih

/-- Digits of one width are told apart by their number. -/
theorem parseNumber_inj {a b : List Char} (width : a.length = b.length)
    (digits : ∀ c ∈ a, c.isDigit = true) (digits' : ∀ c ∈ b, c.isDigit = true)
    (value : parseNumber a = parseNumber b) : a = b := by
  induction a using List.reverseRecOn generalizing b with
  | nil => exact (List.length_eq_zero_iff.mp width.symm).symm
  | append_singleton front c ih =>
    obtain ⟨front', d, rfl⟩ : ∃ front' d, b = front' ++ [d] := by
      refine ⟨b.dropLast, b.getLast ?_, (List.dropLast_concat_getLast _).symm⟩
      rintro rfl
      simp at width
    have digit := Char.isDigit_iff_toNat.mp (digits c (by simp))
    have digit' := Char.isDigit_iff_toNat.mp (digits' d (by simp))
    have nine : '9'.toNat = '0'.toNat + 9 := rfl
    rw [parseNumber_concat, parseNumber_concat] at value
    have last : c.toNat = d.toNat := by omega
    have fronts : front = front' := by
      refine ih ?_ ?_ ?_ ?_
      · simpa using width
      · exact fun c inside => digits c (List.mem_append_left _ inside)
      · exact fun c inside => digits' c (List.mem_append_left _ inside)
      · omega
    rw [fronts, Char.toNat_inj.mp last]

section
variable {A : Type} [DecidableEq A]

theorem stripPrefix_append (p text : List A) : stripPrefix p (p ++ text) = some text := by
  rw [stripPrefix, if_pos (List.prefix_append p text), List.drop_left]

theorem stripSuffix_append (text s : List A) : stripSuffix s (text ++ s) = some text := by
  rw [stripSuffix, if_pos (List.suffix_append text s), List.length_append, Nat.add_sub_cancel,
    List.take_left]

theorem stripPrefix_eq_some {p text rest : List A} :
    stripPrefix p text = some rest ↔ text = p ++ rest := by
  constructor
  · intro found
    unfold stripPrefix at found
    split at found
    · rename_i starts
      obtain ⟨tail, rfl⟩ := starts
      rw [List.drop_left] at found
      cases found
      rfl
    · cases found
  · rintro rfl
    exact stripPrefix_append p rest

theorem stripSuffix_eq_some {s text rest : List A} :
    stripSuffix s text = some rest ↔ text = rest ++ s := by
  constructor
  · intro found
    unfold stripSuffix at found
    split at found
    · rename_i ends
      obtain ⟨head, rfl⟩ := ends
      rw [List.length_append, Nat.add_sub_cancel, List.take_left] at found
      cases found
      rfl
    · cases found
  · rintro rfl
    exact stripSuffix_append rest s

end

end Text
