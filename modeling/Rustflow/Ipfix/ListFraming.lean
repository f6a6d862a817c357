import Rustflow.Common.TemplateHistory
import Rustflow.Ipfix.Progress

/-!
# Lengths and the framing of lists

A value takes exactly its length of input, whatever its type. `Framed` says of the content of a
list that its header, its elements and its items are all there; beside that only a list of
zero-width records can make a value fail.
-/

namespace Rustflow.Ipfix
open Combinator

/-! ### Exact lengths -/

/-- A value that is read is exactly as long as it was to be. -/
def Exact (parseValue : ValueParser) : Prop :=
  ∀ dataType length input ticks rest value ticks',
    parseValue dataType length input ticks = (some (rest, value), ticks') → length ≤ input.length ∧
      rest = input.drop length

section
variable (clock : Nat → Instant) (self : IpfixParser) (domain : UInt32)

theorem mapParser_take {α : Type} {p : ParserM Nat α} {length : Nat} {input rest : List UInt8}
    {a : α} {ticks ticks' : Nat} (run : mapParser (take length) p input ticks =
      (some (rest, a), ticks')) :
    length ≤ input.length ∧ rest = input.drop length := by
  obtain ⟨slice, left, first, -⟩ := mapParser_eq_some.mp run
  obtain ⟨enough, same, -⟩ := take_eq_some.mp first
  exact ⟨enough, same⟩

theorem exact_parseFieldValue (levels : Nat) :
    Exact (parseFieldValue clock self domain levels) := by
  intro dataType length input ticks rest value ticks' run
  unfold parseFieldValue at run
  split at run
  · exact (takes_parseScalar _ _).eq_some (congrArg Prod.fst run)
  · exact mapParser_take run
  · exact mapParser_take run
  · exact mapParser_take run
  · exact (takes_parseScalar _ _).eq_some (congrArg Prod.fst run)

/-! ### Record boundaries -/

variable {clock self domain}

/-- Two readings of a record, whatever the types of its fields, end in the same place. -/
theorem parseFields_boundary {parseValue parseValue' : ValueParser} (exact_ : Exact parseValue)
    (exact' : Exact parseValue') {fields fields' : List ResolvedField}
    (same : fields.map (·.spec) = fields'.map (·.spec)) {input rest rest' : List UInt8}
    {values values' : List FieldValue} {ticks ticks' t t' : Nat}
    (run : parseFields parseValue fields input ticks = (some (rest, values), t))
    (run' : parseFields parseValue' fields' input ticks' = (some (rest', values'), t')) :
    rest = rest' := by
  induction fields generalizing fields' input ticks ticks' values values' with
  | nil =>
    obtain rfl : fields' = [] := List.map_eq_nil_iff.mp same.symm
    cases run
    cases run'
    rfl
  | cons field fields ih =>
    obtain ⟨field', others, rfl, sameSpec, sameSpecs⟩ := List.map_eq_cons_iff.mp same.symm
    rw [parseFields] at run run'
    obtain ⟨mid, length, s, first, run⟩ := bindM_eq_some.mp run
    obtain ⟨mid', length', s', first', run'⟩ := bindM_eq_some.mp run'
    rw [sameSpec] at first'
    have prefix_ : some (mid, length) = some (mid', length') :=
      (congrArg Prod.fst first).symm.trans (congrArg Prod.fst first')
    cases prefix_
    obtain ⟨left, value, u, second, run⟩ := bindM_eq_some.mp run
    obtain ⟨left', value', u', second', run'⟩ := bindM_eq_some.mp run'
    obtain ⟨-, rfl⟩ := exact_ _ _ _ _ _ _ _ second
    obtain ⟨-, rfl⟩ := exact' _ _ _ _ _ _ _ second'
    obtain ⟨_, values, v, third, run⟩ := bindM_eq_some.mp run
    obtain ⟨_, values', v', third', run'⟩ := bindM_eq_some.mp run'
    cases run
    cases run'
    exact ih sameSpecs.symm third third'

theorem sameRest_records {parseValue parseValue' : ValueParser} (exact_ : Exact parseValue)
    (exact' : Exact parseValue') {fields fields' : List ResolvedField}
    (same : fields.map (·.spec) = fields'.map (·.spec)) :
    SameRest (parseRecordFromFields parseValue fields)
      (parseRecordFromFields parseValue' fields') := by
  intro input s s' t t' rest rest' record record' run run'
  obtain ⟨_, values, u, first, last⟩ := bindM_eq_some.mp run
  obtain ⟨_, values', u', first', last'⟩ := bindM_eq_some.mp run'
  cases last
  cases last'
  exact parseFields_boundary exact_ exact' same first first'

end

/-! ### Framing -/

def elementTurn (field : FieldSpecifier) : Parser (Turn (List UInt8)) := do
  let actualLength ← parseFieldLength field.fieldLength
  let left ← remaining
  if field.fieldLength = 0 ∨ left < actualLength then return .stop
  else return .next (some (← take actualLength))

def basicListParts : Parser (FieldSpecifier × List (List UInt8)) := do
  let _ ← beU8
  let field ← parseFieldSpecifier
  return (field, ← (elementTurn field).untilEmpty)

def subTemplateListParts : Parser UInt16 := do
  let _ ← beU8
  beU16

/-- The template of one item of a multi-list, if it has content. -/
def itemTurn : Parser (Turn UInt16) := do
  let templateId ← beU16
  let length ← beU16
  let contentLength := length.toNat - 4
  if contentLength = 0 then return .next none
  else
    let _ ← take contentLength
    return .next (some templateId)

def multiListParts : Parser (List UInt16) := do
  let _ ← beU8
  itemTurn.untilEmpty

def elementType (self : IpfixParser) (domain : UInt32) (field : FieldSpecifier) : DataType :=
  ((lookup self.ieRegistry self.elementTypes domain field).map (·.dataType)).getD .octetArray

/-- The content of a value of a type is all there, and no list that is read in it names a template
which is `bad` with so many levels of lists left. Records are not part of the framing: what follows
the last whole one is passed over. -/
def Framed (self : IpfixParser) (domain : UInt32) (bad : Nat → UInt16 → Prop) : Nat → DataType →
    List UInt8 → Prop
  | levels + 1, .basicList, content =>
    ∃ left field elements, basicListParts content = some (left, field, elements) ∧
      ∀ element ∈ elements, Framed self domain bad levels (elementType self domain field) element
  | levels + 1, .subTemplateList, content =>
    ∃ left templateId, subTemplateListParts content = some (left, templateId) ∧
      ¬ bad levels templateId
  | levels + 1, .subTemplateMultiList, content =>
    ∃ left templateIds, multiListParts content = some (left, templateIds) ∧
      ∀ templateId ∈ templateIds, ¬ bad levels templateId
  | _, _, _ => True

theorem parseFieldLength_cases {fieldLength : UInt16} {input rest : List UInt8} {length : Nat}
    (run : parseFieldLength fieldLength input = some (rest, length)) :
    rest.length < input.length ∨ rest = input ∧ length = fieldLength.toNat := by
  have used := shrinks_parseFieldLength _ _ _ run
  by_cases variable_ : fieldLength = IPFIX_VARIABLE_LENGTH
  · rw [if_pos variable_] at used
    exact .inl (by omega)
  · have fixed : parseFieldLength fieldLength input = some (input, fieldLength.toNat) :=
      congrFun (if_pos variable_) input
    rw [fixed] at run
    cases run
    exact .inr ⟨rfl, rfl⟩

section
variable {clock : Nat → Instant} {self : IpfixParser} {domain : UInt32} {levels : Nat}

theorem elementTurn_eq (field : FieldSpecifier) (input : List UInt8) :
    elementTurn field input =
      match parseFieldLength field.fieldLength input with
      | none => none
      | some (mid, length) =>
        if field.fieldLength = 0 ∨ mid.length < length then some (mid, .stop)
        else some (mid.drop length, .next (some (mid.take length))) := by
  rcases first : parseFieldLength field.fieldLength input with _ | ⟨mid, length⟩
  · exact bind_of_none first
  · refine (bind_of_some first).trans ?_
    refine (bind_of_some (show remaining mid = some (mid, mid.length) from rfl)).trans ?_
    dsimp only
    split
    · rfl
    next enough =>
      rw [not_or, Nat.not_lt] at enough
      exact bind_of_some (take_eq_some.mpr ⟨enough.2, rfl, rfl⟩)

theorem basicListTurn_eq (parseValue : ValueParser) (field : FieldSpecifier) (dataType : DataType)
    (input : List UInt8) (ticks : Nat) :
    basicListTurn parseValue field dataType input ticks =
      match parseFieldLength field.fieldLength input with
      | none => (none, ticks)
      | some (mid, length) =>
        if field.fieldLength = 0 ∨ mid.length < length then (some (mid, .stop), ticks)
        else
          ((parseValue dataType length mid ticks).1.map fun r => (r.1, .next (some r.2)),
            (parseValue dataType length mid ticks).2) := by
  rcases first : parseFieldLength field.fieldLength input with _ | ⟨mid, length⟩
  · exact bindM_of_none (Prod.ext first rfl)
  · refine (bindM_of_some (Prod.ext first rfl)).trans ?_
    refine (bindM_of_some (show (liftM remaining : ParserM Nat Nat) mid ticks =
      (some (mid, mid.length), ticks) from rfl)).trans ?_
    dsimp only
    split
    · rfl
    · rcases value : parseValue dataType length mid ticks with ⟨_ | r, t⟩
      · exact bindM_of_none value
      · exact bindM_of_some value

theorem element_advances {field : FieldSpecifier} {input mid : List UInt8} {length : Nat}
    (first : parseFieldLength field.fieldLength input = some (mid, length))
    (goes : ¬ (field.fieldLength = 0 ∨ mid.length < length)) :
    (mid.drop length).length < input.length := by
  rw [not_or, Nat.not_lt] at goes
  rw [List.length_drop]
  rcases parseFieldLength_cases first with shorter | ⟨rfl, rfl⟩
  · omega
  · have positive : field.fieldLength.toNat ≠ 0 := fun zero => goes.1 (UInt16.toNat_inj.mp zero)
    omega

theorem advances_basicListTurn {parseValue : ValueParser} (exact_ : Exact parseValue)
    (field : FieldSpecifier) (dataType : DataType) :
    Advances (basicListTurn parseValue field dataType) := by
  intro input ticks rest item ticks' run
  rw [basicListTurn_eq] at run
  split at run
  · cases run
  next mid length first =>
    split at run
    · cases run
    next goes =>
      obtain ⟨value, -⟩ := Prod.mk.inj run
      obtain ⟨⟨left, v⟩, read, same⟩ := Option.map_eq_some_iff.mp value
      cases same
      obtain ⟨-, rfl⟩ := exact_ _ _ _ _ _ _ _ (Prod.ext read rfl)
      exact element_advances first goes

theorem advances_elementTurn (field : FieldSpecifier) : Advances (elementTurn field).alone := by
  intro input _ rest item _ run
  have turn : elementTurn field input = some (rest, .next item) := congrArg Prod.fst run
  rw [elementTurn_eq] at turn
  split at turn
  · cases turn
  next mid length first =>
    split at turn
    · cases turn
    next goes =>
      cases turn
      exact element_advances first goes

theorem mirrors_basicList {parseValue : ValueParser} (exact_ : Exact parseValue)
    (field : FieldSpecifier) {dataType : DataType} {good fair : List UInt8 → Prop}
    (accepts : ∀ length input ticks, length ≤ input.length → good (input.take length) →
      (parseValue dataType length input ticks).1.isSome)
    (requires : ∀ length input ticks, length ≤ input.length →
      (parseValue dataType length input ticks).1.isSome →
      fair (input.take length)) :
    Mirrors (basicListTurn parseValue field dataType) (elementTurn field) good fair where
  advances := advances_basicListTurn exact_ field dataType
  frameAdvances := advances_elementTurn field
  fails := by
    intro input framed ticks
    rw [elementTurn_eq] at framed
    rw [basicListTurn_eq]
    split at framed
    · rfl
    · split at framed <;> cases framed
  stops := by
    intro input left framed ticks
    rw [elementTurn_eq] at framed
    rw [basicListTurn_eq]
    split at framed
    · cases framed
    next mid length first =>
      split at framed
      next stops => exact ⟨mid, by simp only [if_pos stops]⟩
      · cases framed
  next := by
    intro input rest item framed ticks
    rw [elementTurn_eq] at framed
    rw [basicListTurn_eq]
    split at framed
    · cases framed
    next mid length first =>
      split at framed
      · cases framed
      next goes =>
        cases framed
        simp only [if_neg goes, Option.isSome_map, Option.mem_some_iff, forall_eq']
        rw [not_or, Nat.not_lt] at goes
        refine ⟨?_, accepts length mid ticks goes.2, requires length mid ticks goes.2⟩
        rcases read : parseValue dataType length mid ticks with ⟨_ | ⟨left, v⟩, t⟩
        · exact .inl rfl
        · obtain ⟨-, rfl⟩ := exact_ _ _ _ _ _ _ _ read
          exact .inr ⟨some v, rfl⟩

theorem itemTurn_eq (input : List UInt8) :
    itemTurn input =
      match beU16 input with
      | none => none
      | some (mid, templateId) =>
        match beU16 mid with
        | none => none
        | some (content, length) =>
          if length.toNat - 4 = 0 then some (content, .next none)
          else if length.toNat - 4 ≤ content.length then
            some (content.drop (length.toNat - 4), .next (some templateId))
          else none := by
  rcases first : beU16 input with _ | ⟨mid, templateId⟩
  · exact bind_of_none first
  · refine (bind_of_some first).trans ?_
    dsimp only
    rcases second : beU16 mid with _ | ⟨content, length⟩
    · exact bind_of_none second
    · refine (bind_of_some second).trans ?_
      dsimp only
      split
      · rfl
      · split
        next enough => exact bind_of_some (take_eq_some.mpr ⟨enough, rfl, rfl⟩)
        next short => exact bind_of_none (if_neg short)

variable (clock self domain) in
theorem multiListTurn_eq (parseValue : ValueParser) (input : List UInt8) (ticks : Nat) :
    multiListTurn clock self parseValue domain input ticks =
      match beU16 input with
      | none => (none, ticks)
      | some (mid, templateId) =>
        match beU16 mid with
        | none => (none, ticks)
        | some (content, length) =>
          if length.toNat - 4 = 0 then (some (content, .next none), ticks)
          else if length.toNat - 4 ≤ content.length then
            let read :=
              parseTemplatedRecords clock self parseValue domain templateId
                (content.take (length.toNat - 4)) ticks
            (read.1.map fun r => (content.drop (length.toNat - 4),
              .next (some { templateId, length, data := r.2.filterMap Record.dataRecord? })),
              read.2)
          else (none, ticks) := by
  rcases first : beU16 input with _ | ⟨mid, templateId⟩
  · exact bindM_of_none (Prod.ext first rfl)
  · refine (bindM_of_some (Prod.ext first rfl)).trans ?_
    dsimp only
    rcases second : beU16 mid with _ | ⟨content, length⟩
    · exact bindM_of_none (Prod.ext second rfl)
    · refine (bindM_of_some (Prod.ext second rfl)).trans ?_
      dsimp only
      split
      · rfl
      · split
        next enough =>
          have slice :=
            mapParser_of_some (p := parseTemplatedRecords clock self parseValue domain templateId)
              (s := ticks)
            (take_eq_some.mpr ⟨enough, rfl, rfl⟩)
          rcases read : parseTemplatedRecords clock self parseValue domain templateId
            (content.take (length.toNat - 4)) ticks with ⟨_ | ⟨left, records⟩, t⟩ <;>
              rw [read] at slice
          · exact bindM_of_none slice
          · exact bindM_of_some slice
        next short =>
          have none_ : take (length.toNat - 4) content = none := if_neg short
          exact bindM_of_none (by simp only [mapParser, none_]; rfl)

theorem beU16_length {input mid : List UInt8} {v : UInt16} (read : beU16 input = some (mid, v)) :
    mid.length + 2 ≤ input.length := shrinks_beU16 input mid v read

theorem advances_itemTurn : Advances itemTurn.alone := by
  intro input _ rest item _ run
  have turn : itemTurn input = some (rest, .next item) := congrArg Prod.fst run
  rw [itemTurn_eq] at turn
  split at turn
  · cases turn
  next mid templateId first =>
    split at turn
    · cases turn
    next content length second =>
      have header := beU16_length first
      have header' := beU16_length second
      split at turn
      · cases turn
        omega
      · split at turn <;> cases turn
        rw [List.length_drop]
        omega

theorem advances_multiListTurn (parseValue : ValueParser) :
    Advances (multiListTurn clock self parseValue domain) := by
  intro input ticks rest item ticks' run
  rw [multiListTurn_eq] at run
  split at run
  · cases run
  next mid templateId first =>
    split at run
    · cases run
    next content length second =>
      have header := beU16_length first
      have header' := beU16_length second
      split at run
      · cases run
        omega
      · split at run
        · obtain ⟨value, -⟩ := Prod.mk.inj run
          obtain ⟨_, -, same⟩ := Option.map_eq_some_iff.mp value
          cases same
          rw [List.length_drop]
          omega
        · cases run

theorem mirrors_multiList {parseValue : ValueParser} {good fair : UInt16 → Prop}
    (accepts : ∀ templateId input ticks, good templateId →
      (parseTemplatedRecords clock self parseValue domain templateId input ticks).1.isSome)
    (requires : ∀ templateId input ticks,
      (parseTemplatedRecords clock self parseValue domain templateId input ticks).1.isSome →
        fair templateId) :
    Mirrors (multiListTurn clock self parseValue domain) itemTurn good fair where
  advances := advances_multiListTurn parseValue
  frameAdvances := advances_itemTurn
  fails := by
    intro input framed ticks
    rw [itemTurn_eq] at framed
    rw [multiListTurn_eq]
    split at framed
    · rfl
    · split at framed
      · rfl
      · split at framed
        · cases framed
        next long =>
          split at framed
          · cases framed
          next short => simp only [if_neg long, if_neg short]
  stops := by
    intro input left framed ticks
    rw [itemTurn_eq] at framed
    split at framed
    · cases framed
    · split at framed
      · cases framed
      · split at framed
        · cases framed
        · split at framed <;> cases framed
  next := by
    intro input rest item framed ticks
    rw [itemTurn_eq] at framed
    rw [multiListTurn_eq]
    split at framed
    · cases framed
    next mid templateId first =>
      split at framed
      · cases framed
      next content length second =>
        split at framed
        next empty =>
          cases framed
          simp only [if_pos empty]
          exact ⟨.inr ⟨none, rfl⟩, fun _ => rfl, fun _ b mem => by cases mem⟩
        next long =>
          split at framed
          next enough =>
            cases framed
            simp only [if_neg long, if_pos enough, Option.isSome_map, Option.mem_some_iff,
              forall_eq']
            refine ⟨?_, accepts _ _ _, requires _ _ _⟩
            rcases parseTemplatedRecords clock self parseValue domain templateId
              (content.take (length.toNat - 4)) ticks with ⟨_ | ⟨left, records⟩, t⟩
            · exact .inl rfl
            · exact .inr ⟨_, rfl⟩
          · cases framed

/-! ### What makes a value fail -/

/-- The template has fields and its records use nothing up, with `levels` of lists left to
decode. -/
def ZeroWidthInEffect (clock : Nat → Instant) (self : IpfixParser) (domain : UInt32)
    (ticks levels : Nat) (templateId : UInt16) : Prop :=
  ∃ kind fields, effective clock self.templates self.optionsTemplates (domain, templateId) ticks =
    some (kind, fields) ∧
    fields ≠ [] ∧ zeroWidthAt levels fields = true

theorem takes_isSome {α : Type} {p : Parser α} {n : Nat} (takes : Takes p n) {input : List UInt8}
    (enough : n ≤ input.length) :
    (p input).isSome := by
  have one := takes input
  rw [if_pos enough] at one
  obtain ⟨a, run⟩ := one
  rw [run]
  rfl

theorem mapParser_take_isSome {α : Type} {p : ParserM Nat α} {length : Nat} {input : List UInt8}
    (enough : length ≤ input.length) (ticks : Nat) :
    (mapParser (take length) p input ticks).1.isSome = (p (input.take length) ticks).1.isSome := by
  rw [mapParser_of_some (take_eq_some.mpr ⟨enough, rfl, rfl⟩), Option.isSome_map]

theorem parseBasicList_isSome (parseValue : ValueParser) {length : Nat} {input : List UInt8}
    (enough : length ≤ input.length) (ticks : Nat) :
    (parseBasicList self parseValue domain length input ticks).1.isSome ↔
      ∃ mid semantic, beU8 (input.take length) = some (mid, semantic) ∧
        ∃ content field, parseFieldSpecifier mid = some (content, field) ∧
          (untilEmpty (basicListTurn parseValue field (elementType self domain field)) content
            ticks).1.isSome := by
  rw [parseBasicList, mapParser_take_isSome enough, liftM_bind_isSome]
  simp only [liftM_bind_isSome, bindM_pure_isSome]
  rfl

theorem basicListParts_eq_some {input left : List UInt8} {field : FieldSpecifier}
    {elements : List (List UInt8)} :
    basicListParts input = some (left, field, elements) ↔
      ∃ mid semantic, beU8 input = some (mid, semantic) ∧
        ∃ content, parseFieldSpecifier mid = some (content, field) ∧
          (elementTurn field).untilEmpty content = some (left, elements) := by
  unfold basicListParts
  constructor
  · intro parts
    obtain ⟨mid, semantic, first, parts⟩ := bind_eq_some.mp parts
    obtain ⟨content, field, second, parts⟩ := bind_eq_some.mp parts
    obtain ⟨_, elements, third, last⟩ := bind_eq_some.mp parts
    cases last
    exact ⟨mid, semantic, first, content, second, third⟩
  · rintro ⟨mid, semantic, first, content, second, third⟩
    rw [bind_of_some first, bind_of_some second, bind_of_some third]
    rfl

theorem parseSubTemplateList_isSome (parseValue : ValueParser) {length : Nat} {input : List UInt8}
    (enough : length ≤ input.length) (ticks : Nat) :
    (parseSubTemplateList clock self parseValue domain length input ticks).1.isSome ↔
      ∃ content templateId, subTemplateListParts (input.take length) = some (content, templateId) ∧
        (parseTemplatedRecords clock self parseValue domain templateId content ticks).1.isSome := by
  rw [parseSubTemplateList, mapParser_take_isSome enough, liftM_bind_isSome]
  simp only [liftM_bind_isSome, bindM_pure_isSome, subTemplateListParts, bind_eq_some]
  constructor
  · rintro ⟨mid, semantic, first, content, templateId, second, done⟩
    exact ⟨content, templateId, ⟨mid, semantic, first, second⟩, done⟩
  · rintro ⟨content, templateId, ⟨mid, semantic, first, second⟩, done⟩
    exact ⟨mid, semantic, first, content, templateId, second, done⟩

theorem parseSubTemplateMultiList_isSome (parseValue : ValueParser) {length : Nat}
    {input : List UInt8} (enough : length ≤ input.length) (ticks : Nat) :
    (parseSubTemplateMultiList clock self parseValue domain length input ticks).1.isSome ↔
      ∃ content semantic, beU8 (input.take length) = some (content, semantic) ∧
        (untilEmpty (multiListTurn clock self parseValue domain) content ticks).1.isSome := by
  rw [parseSubTemplateMultiList, mapParser_take_isSome enough, liftM_bind_isSome]
  simp only [bindM_pure_isSome]

/-- A value that is framed and names no bad template is read, where every template that stalls is
bad. -/
theorem parseFieldValue_accepts {bad : Nat → UInt16 → Prop}
    (stalls : ∀ levels templateId ticks,
      ZeroWidthInEffect clock self domain ticks levels templateId → bad levels templateId)
    (levels : Nat) (dataType : DataType) {length : Nat} {input : List UInt8} (ticks : Nat)
    (enough : length ≤ input.length)
    (framed : Framed self domain bad levels dataType (input.take length)) :
    (parseFieldValue clock self domain levels dataType length input ticks).1.isSome := by
  induction levels generalizing dataType length input ticks with
  | zero => exact takes_isSome (takes_parseScalar dataType length) enough
  | succ levels ih =>
    have exact_ := exact_parseFieldValue clock self domain levels
    have records : ∀ templateId input ticks, ¬ bad levels templateId →
        (parseTemplatedRecords clock self (parseFieldValue clock self domain levels) domain
          templateId input ticks).1.isSome :=
      fun templateId input ticks fine =>
        (parseTemplatedRecords_isSome clock self domain levels domain templateId input ticks).mpr
        fun zero => fine (stalls levels templateId ticks zero)
    cases dataType with
    | basicList =>
      obtain ⟨left, field, elements, parts, all⟩ := framed
      obtain ⟨mid, semantic, first, content, second, third⟩ := basicListParts_eq_some.mp parts
      have mirrors :
          Mirrors (basicListTurn _ field (elementType self domain field)) (elementTurn field)
          (Framed self domain bad levels (elementType self domain field)) fun _ => True :=
        mirrors_basicList exact_ field (fun length input ticks enough framed =>
          ih _ ticks enough framed)
          fun _ _ _ _ _ => trivial
      exact (parseBasicList_isSome _ enough ticks).mpr
        ⟨mid, semantic, first, content, field, second, mirrors.succeeds third all ticks⟩
    | subTemplateList =>
      obtain ⟨content, templateId, parts, fine⟩ := framed
      exact (parseSubTemplateList_isSome _ enough ticks).mpr ⟨content, templateId, parts,
        records templateId content ticks fine⟩
    | subTemplateMultiList =>
      obtain ⟨left, templateIds, parts, all⟩ := framed
      obtain ⟨content, semantic, first, second⟩ := bind_eq_some.mp parts
      have mirrors :
          Mirrors (multiListTurn clock self (parseFieldValue clock self domain levels) domain)
            itemTurn
          (fun templateId => ¬ bad levels templateId) fun _ => True :=
        mirrors_multiList records fun _ _ _ _ => trivial
      exact (parseSubTemplateMultiList_isSome _ enough ticks).mpr
        ⟨content, semantic, first, mirrors.succeeds second all ticks⟩
    | octetArray => exact takes_isSome (takes_parseScalar .octetArray length) enough
    | string => exact takes_isSome (takes_parseScalar .string length) enough
    | _ => exact takes_isSome (takes_parseScalar _ length) enough

/-- A value that is read is framed and names no bad template, where every bad template stalls. -/
theorem parseFieldValue_requires {bad : Nat → UInt16 → Prop}
    (stalls : ∀ levels templateId ticks, bad levels templateId →
      ZeroWidthInEffect clock self domain ticks levels templateId)
    (levels : Nat) (dataType : DataType) {length : Nat} {input : List UInt8} (ticks : Nat)
    (enough : length ≤ input.length)
    (done : (parseFieldValue clock self domain levels dataType length input ticks).1.isSome) :
    Framed self domain bad levels dataType (input.take length) := by
  induction levels generalizing dataType length input ticks with
  | zero => cases dataType <;> exact trivial
  | succ levels ih =>
    have exact_ := exact_parseFieldValue clock self domain levels
    have records : ∀ templateId input ticks,
        (parseTemplatedRecords clock self (parseFieldValue clock self domain levels) domain
          templateId input ticks).1.isSome →
          ¬ bad levels templateId :=
      fun templateId input ticks read is_bad =>
        (parseTemplatedRecords_isSome clock self domain levels domain templateId input ticks).mp
          read
          (stalls levels templateId ticks is_bad)
    cases dataType with
    | basicList =>
      obtain ⟨mid, semantic, first, content, field, second, read⟩ :=
        (parseBasicList_isSome _ enough ticks).mp done
      have mirrors :
          Mirrors (basicListTurn _ field (elementType self domain field)) (elementTurn field)
          (fun _ => False) (Framed self domain bad levels (elementType self domain field)) :=
        mirrors_basicList exact_ field (fun _ _ _ _ none_ => none_.elim)
          fun length input ticks enough done => ih _ ticks enough done
      obtain ⟨left, elements, third, all⟩ := mirrors.framed read
      exact ⟨left, field, elements,
        basicListParts_eq_some.mpr ⟨mid, semantic, first, content, second, third⟩, all⟩
    | subTemplateList =>
      obtain ⟨content, templateId, parts, read⟩ :=
        (parseSubTemplateList_isSome _ enough ticks).mp done
      exact ⟨content, templateId, parts, records templateId content ticks read⟩
    | subTemplateMultiList =>
      obtain ⟨content, semantic, first, read⟩ :=
        (parseSubTemplateMultiList_isSome _ enough ticks).mp done
      have mirrors :
          Mirrors (multiListTurn clock self (parseFieldValue clock self domain levels) domain)
            itemTurn
          (fun _ => False) fun templateId => ¬ bad levels templateId :=
        mirrors_multiList (fun _ _ _ none_ => none_.elim) records
      obtain ⟨left, templateIds, second, all⟩ := mirrors.framed read
      exact ⟨left, templateIds, bind_eq_some.mpr ⟨content, semantic, first, second⟩, all⟩
    | _ => exact trivial

end

/-! ### At any time -/

section
variable (self : IpfixParser) (domain : UInt32)

/-- The same at some reading of the clock. -/
def ZeroWidthAtSomeTime (levels : Nat) (templateId : UInt16) : Prop :=
  ∃ now, ZeroWidthInEffect (fun _ => now) self domain 0 levels templateId

/-- The content is all there, whatever templates it names. -/
abbrev Intact : Nat → DataType → List UInt8 → Prop := Framed self domain fun _ _ => False

variable {self domain}

/-- A data template that has expired stays so while the options template under its ID is looked
up. -/
theorem zeroWidth_at_some_time {clock : Nat → Instant} (monotone : Monotone clock)
    {ticks levels : Nat} {templateId : UInt16}
    (zero : ZeroWidthInEffect clock self domain ticks levels templateId) :
    ZeroWidthAtSomeTime self domain levels templateId := by
  obtain ⟨kind, fields, found, rest⟩ := zero
  rw [effective] at found
  cases data : self.templates.get (clock ticks) (domain, templateId) with
  | some fields' =>
    rw [data] at found
    exact ⟨clock ticks, kind, fields, by rw [effective, data]; exact found, rest⟩
  | none =>
    rw [data] at found
    have gone := TemplateCache.get_none_later _ _ (monotone (Nat.le_succ ticks)) data
    exact ⟨clock (ticks + 1), kind, fields, by rw [effective, gone]; exact found, rest⟩

theorem framed_at_any_time {bad : Instant → Nat → UInt16 → Prop} {levels : Nat}
    {dataType : DataType} {content : List UInt8}
    (always : ∀ now, Framed self domain (bad now) levels dataType content) :
    Framed self domain (fun levels templateId => ∃ now, bad now levels templateId) levels dataType
      content := by
  induction levels generalizing dataType content with
  | zero => cases dataType <;> exact trivial
  | succ levels ih =>
    cases dataType with
    | basicList =>
      obtain ⟨left, field, elements, parts, -⟩ := always 0
      refine ⟨left, field, elements, parts, fun element mem => ih fun now => ?_⟩
      obtain ⟨_, _, _, parts', all⟩ := always now
      cases parts.symm.trans parts'
      exact all element mem
    | subTemplateList =>
      obtain ⟨left, templateId, parts, -⟩ := always 0
      refine ⟨left, templateId, parts, fun ⟨now, is_bad⟩ => ?_⟩
      obtain ⟨_, _, parts', fine⟩ := always now
      cases parts.symm.trans parts'
      exact fine is_bad
    | subTemplateMultiList =>
      obtain ⟨left, templateIds, parts, -⟩ := always 0
      refine ⟨left, templateIds, parts, fun templateId mem ⟨now, is_bad⟩ => ?_⟩
      obtain ⟨_, _, parts', fine⟩ := always now
      cases parts.symm.trans parts'
      exact fine templateId mem is_bad
    | _ => exact trivial

/-- A value that is read takes its length; one that is not is too short, or a list whose content is
not all there. -/
def ReadsItsLength (clock : Nat → Instant) (self : IpfixParser) (domain : UInt32) (levels : Nat)
    (dataType : DataType) (length : Nat) (input : List UInt8) (ticks : Nat) : Prop :=
  match (parseFieldValue clock self domain levels dataType length input ticks).1 with
  | some (rest, _) => length ≤ input.length ∧ rest = input.drop length
  | none => input.length < length ∨
      dataType.isList = true ∧ 0 < levels ∧ ¬ Intact self domain levels dataType (input.take length)

theorem list_of_not_intact {levels : Nat} {dataType : DataType} {content : List UInt8}
    (broken : ¬ Intact self domain levels dataType content) :
    dataType.isList = true ∧ 0 < levels := by
  cases levels with
  | zero => cases dataType <;> exact absurd trivial broken
  | succ levels =>
    cases dataType <;> first | exact ⟨rfl, Nat.succ_pos levels⟩ | exact absurd trivial broken

/-- A value reads its length, whatever the time, exactly when no list read in it names a template
whose records use nothing up. -/
theorem readsItsLength_iff (levels : Nat) (dataType : DataType) (length : Nat)
    (input : List UInt8) :
    (∀ clock, Monotone clock → ∀ ticks,
      ReadsItsLength clock self domain levels dataType length input ticks) ↔
      (length ≤ input.length → Intact self domain levels dataType (input.take length) →
        Framed self domain (ZeroWidthAtSomeTime self domain) levels dataType
          (input.take length)) := by
  constructor
  · intro reads enough intact
    refine framed_at_any_time fun now => ?_
    have here := reads (fun _ => now) monotone_const 0
    refine parseFieldValue_requires (fun _ _ _ zero => zero) levels dataType 0 enough ?_
    unfold ReadsItsLength at here
    split at here
    next rest value read => rw [read]; rfl
    next failed =>
      rcases here with short | ⟨-, -, broken⟩
      · omega
      · exact absurd intact broken
  · intro fine clock monotone ticks
    unfold ReadsItsLength
    split
    next rest value read =>
      exact exact_parseFieldValue clock self domain levels _ _ _ _ _ _ _ (Prod.ext read rfl)
    next failed =>
      by_cases enough : length ≤ input.length
      · refine .inr ?_
        have broken : ¬ Intact self domain levels dataType (input.take length) := by
          intro intact
          have read :=
            parseFieldValue_accepts (fun _ _ _ zero => zeroWidth_at_some_time monotone zero)
              levels dataType
            ticks enough (fine enough intact)
          rw [failed] at read
          cases read
        obtain ⟨list, positive⟩ := list_of_not_intact broken
        exact ⟨list, positive, broken⟩
      · exact .inl (Nat.lt_of_not_le enough)

end

end Rustflow.Ipfix
