import Rustflow.Ipfix.Lengths
import Rustflow.Ipfix.ListFraming
import Mathlib.Logic.Function.Iterate

/-!
# Nested lists

The source counts how deep a value is in lists and stops decoding them at `MAX_LIST_DEPTH`, whatever
the templates say. `fieldValueCall` is one call of `parse_field_value`, given what answers the calls
it makes in turn: nine calls on a path are all there can be, so the answer to a tenth is never
asked.
-/

namespace Rustflow.Ipfix
open Combinator

/-! ### Levels of lists -/

mutual

/-- The most lists on any path into a value. -/
def FieldValue.listLevels : FieldValue → Nat
  | .basicList _ _ content => levelsOfValues content + 1
  | .subTemplateList _ _ data => levelsOfRecords data + 1
  | .subTemplateMultiList _ data => levelsOfItems data + 1
  | _ => 0

def levelsOfValues : List FieldValue → Nat
  | [] => 0
  | value :: values => max value.listLevels (levelsOfValues values)

def levelsOfRecord : DataRecord → Nat
  | ⟨_, values⟩ => levelsOfValues values

def levelsOfRecords : List DataRecord → Nat
  | [] => 0
  | record :: data => max (levelsOfRecord record) (levelsOfRecords data)

def levelsOfItem : SubTemplateMultiItem FieldValue → Nat
  | ⟨_, _, data⟩ => levelsOfRecords data

def levelsOfItems : List (SubTemplateMultiItem FieldValue) → Nat
  | [] => 0
  | item :: items => max (levelsOfItem item) (levelsOfItems items)

end

section
variable {bound : Nat}

theorem levelsOfValues_le {values : List FieldValue}
    (each : ∀ value ∈ values, value.listLevels ≤ bound) :
    levelsOfValues values ≤ bound := by
  induction values with
  | nil => exact Nat.zero_le bound
  | cons value values ih =>
    simp only [List.forall_mem_cons] at each
    exact Nat.max_le.mpr ⟨each.1, ih each.2⟩

theorem levelsOfRecords_le {data : List DataRecord}
    (each : ∀ record ∈ data, ∀ value ∈ record.values, value.listLevels ≤ bound) :
    levelsOfRecords data ≤ bound := by
  induction data with
  | nil => exact Nat.zero_le bound
  | cons record data ih =>
    simp only [List.forall_mem_cons] at each
    obtain ⟨fields, values⟩ := record
    exact Nat.max_le.mpr ⟨levelsOfValues_le each.1, ih each.2⟩

theorem levelsOfItems_le {items : List (SubTemplateMultiItem FieldValue)}
    (each : ∀ item ∈ items, ∀ record ∈ item.data, ∀ value ∈ record.values,
      value.listLevels ≤ bound) :
    levelsOfItems items ≤ bound := by
  induction items with
  | nil => exact Nat.zero_le bound
  | cons item items ih =>
    simp only [List.forall_mem_cons] at each
    obtain ⟨templateId, length, data⟩ := item
    exact Nat.max_le.mpr ⟨levelsOfRecords_le each.1, ih each.2⟩

end

theorem listLevels_scalar {dataType : DataType} {length : Nat} {input rest : List UInt8}
    {value : FieldValue} (run : parseScalar dataType length input = some (rest, value)) :
    value.listLevels = 0 := by
  have scalar := isList_parseScalar run
  cases value <;> first | rfl | cases scalar

section
variable {clock : Nat → Instant} {self : IpfixParser} {domain : UInt32}

theorem listLevels_parseFieldValue (levels : Nat) {dataType : DataType} {length : Nat}
    {input rest : List UInt8} {ticks ticks' : Nat} {value : FieldValue}
    (run : parseFieldValue clock self domain levels dataType length input ticks =
      (some (rest, value), ticks')) :
    value.listLevels ≤ levels := by
  induction levels generalizing dataType length input ticks rest value ticks' with
  | zero => exact Nat.le_of_eq (listLevels_scalar (congrArg Prod.fst run))
  | succ levels ih =>
    have readIn : ∀ {fieldLength dataType value},
        ReadIn (parseFieldValue clock self domain levels) fieldLength dataType value →
          value.listLevels ≤ levels := by
      rintro _ _ _ ⟨_, _, _, _, _, _, -, read⟩
      exact ih read
    have recordRead : ∀ {record}, RecordRead (parseFieldValue clock self domain levels) record →
        ∀ value ∈ record.values, value.listLevels ≤ levels := by
      intro record read value mem
      obtain ⟨_, _, here⟩ := read.of_mem mem
      exact readIn here
    rcases parseFieldValue_read levels run with scalar | ⟨semantic, field, content, elementType,
      rfl, each⟩ |
      ⟨semantic, templateId, data, rfl, each⟩ | ⟨semantic, items, rfl, each⟩
    · rw [listLevels_scalar scalar]
      exact Nat.zero_le _
    · exact Nat.succ_le_succ (levelsOfValues_le fun element mem => readIn (each element mem))
    · exact Nat.succ_le_succ (levelsOfRecords_le fun record mem => recordRead (each record mem))
    · exact Nat.succ_le_succ (levelsOfItems_le fun item mem record inside =>
        recordRead (each item mem record inside))

end

theorem listLevels_parse {clock : Nat → Instant} {input rest : List UInt8} {w w' : World}
    {packet : IpfixPacket} (run : parse clock input w = (some (rest, packet), w')) :
    ∀ set ∈ packet.sets, ∀ record ∈ set.records.filterMap Record.dataRecord?,
      ∀ value ∈ record.values,
      value.listLevels ≤ MAX_LIST_DEPTH := by
  intro set inside record inside' value mem
  obtain ⟨self, domain, read⟩ := parse_read run set inside record inside'
  obtain ⟨_, _, _, _, _, _, _, _, -, read⟩ := read.of_mem mem
  exact listLevels_parseFieldValue MAX_LIST_DEPTH read

/-! ### The calls -/

section
variable (clock : Nat → Instant) (self : IpfixParser) (domain : UInt32)

def octets (length : Nat) : Parser FieldValue := do return .octetArray (← vector length)

/-- A call of `parse_field_value` at a depth: `call` answers the calls at other depths that the
lists make. -/
def fieldValueCall (call : Nat → ValueParser) (depth : Nat) : ValueParser := fun dataType length =>
  if dataType.isList ∧ MAX_LIST_DEPTH ≤ depth then liftM (octets length)
  else
    match dataType with
    | .basicList => parseBasicList self (call (depth + 1)) domain length
    | .subTemplateList => parseSubTemplateList clock self (call (depth + 1)) domain length
    | .subTemplateMultiList => parseSubTemplateMultiList clock self (call (depth + 1)) domain length
    | dataType => liftM (parseScalar dataType length)

theorem fieldValueCall_octets (call : Nat → ValueParser) {depth : Nat}
    (deep : MAX_LIST_DEPTH ≤ depth) {dataType : DataType} (list : dataType.isList = true)
    (length : Nat) (input : List UInt8) (ticks : Nat) :
    fieldValueCall clock self domain call depth dataType length input ticks =
      (if length ≤ input.length then some (input.drop length, .octetArray (input.take length))
        else none, ticks) := by
  have undecoded : fieldValueCall clock self domain call depth dataType length =
      liftM (octets length) := if_pos ⟨list, deep⟩
  rw [undecoded]
  show (octets length input, ticks) = _
  split
  next enough => exact Prod.ext (bind_of_some (take_eq_some.mpr ⟨enough, rfl, rfl⟩)) rfl
  next short => exact Prod.ext (bind_of_none (if_neg short)) rfl

theorem fieldValueCall_deep (call : Nat → ValueParser) {depth : Nat}
    (deep : MAX_LIST_DEPTH ≤ depth) :
    fieldValueCall clock self domain call depth = parseFieldValue clock self domain 0 := by
  funext dataType length
  cases dataType <;> simp only [fieldValueCall, DataType.isList, deep, and_self, and_true,
    Bool.false_eq_true, if_true, if_false] <;> rfl

theorem fieldValueCall_shallow (call : Nat → ValueParser) {depth levels : Nat}
    (left : depth + (levels + 1) = MAX_LIST_DEPTH)
    (below : call (depth + 1) = parseFieldValue clock self domain levels) :
    fieldValueCall clock self domain call depth =
      parseFieldValue clock self domain (levels + 1) := by
  have shallow : ¬ MAX_LIST_DEPTH ≤ depth := by omega
  funext dataType length
  cases dataType <;> simp only [fieldValueCall, shallow, and_false, if_false, below] <;> rfl

/-- What the calls come to, once there are more of them than levels left: what stands in for further
ones is never asked. -/
theorem fieldValueCall_iterate (bottom : Nat → ValueParser) {depth k : Nat}
    (enough : MAX_LIST_DEPTH - depth < k) :
    (fieldValueCall clock self domain)^[k] bottom depth =
      parseFieldValue clock self domain (MAX_LIST_DEPTH - depth) := by
  induction k generalizing depth with
  | zero => omega
  | succ k ih =>
    rw [Function.iterate_succ_apply']
    obtain shallow | deep := Nat.lt_or_ge depth MAX_LIST_DEPTH
    · obtain ⟨levels, left⟩ : ∃ levels, MAX_LIST_DEPTH - depth = levels + 1 :=
        ⟨MAX_LIST_DEPTH - depth - 1, by omega⟩
      have below : (fieldValueCall clock self domain)^[k] bottom (depth + 1) =
          parseFieldValue clock self domain (MAX_LIST_DEPTH - (depth + 1)) := ih (by omega)
      rw [show MAX_LIST_DEPTH - (depth + 1) = levels by omega] at below
      rw [left]
      exact fieldValueCall_shallow clock self domain _ (by omega) below
    · rw [fieldValueCall_deep clock self domain _ deep, Nat.sub_eq_zero_of_le deep]

end

/-! ### The loops -/

/-- The loops around a value parser end: a turn that goes on uses input up, so that more fuel than a
unit for each byte changes nothing. -/
structure LoopsEnd (clock : Nat → Instant) (parser : IpfixParser) (domain : UInt32)
    (parseValue : ValueParser) : Prop where
  records : ∀ fields fuel input ticks, input.length < fuel →
    many0Loop (parseRecordFromFields parseValue fields) fuel input ticks =
      many0 (parseRecordFromFields parseValue fields) input ticks
  elements : ∀ field dataType, Advances (basicListTurn parseValue field dataType)
  basicList : ∀ field dataType fuel input ticks, input.length ≤ fuel →
    untilEmptyLoop (basicListTurn parseValue field dataType) fuel input ticks =
      untilEmpty (basicListTurn parseValue field dataType) input ticks
  items : Advances (multiListTurn clock parser parseValue domain)
  multiList : ∀ fuel input ticks, input.length ≤ fuel →
    untilEmptyLoop (multiListTurn clock parser parseValue domain) fuel input ticks =
      untilEmpty (multiListTurn clock parser parseValue domain) input ticks

theorem loopsEnd (clock : Nat → Instant) (self : IpfixParser) (domain : UInt32) (levels : Nat) :
    LoopsEnd clock self domain (parseFieldValue clock self domain levels) := by
  have elements := advances_basicListTurn (exact_parseFieldValue clock self domain levels)
  have items :
      Advances (multiListTurn clock self (parseFieldValue clock self domain levels) domain) :=
    advances_multiListTurn _
  constructor
  · intro fields fuel input ticks enough
    exact many0Loop_fuel enough (Nat.lt_succ_self _)
  · exact elements
  · intro field dataType fuel input ticks enough
    exact untilEmptyLoop_fuel (elements field dataType) enough (Nat.le_refl _)
  · exact items
  · intro fuel input ticks enough
    exact untilEmptyLoop_fuel items enough (Nat.le_refl _)

/-- Reading a value ends whatever the templates are, with at most `MAX_LIST_DEPTH` levels of
lists. -/
theorem nested_lists_end (clock : Nat → Instant) (self : IpfixParser) (domain : UInt32) :
    (∀ (bottom : Nat → ValueParser) (depth k : Nat), MAX_LIST_DEPTH - depth < k →
      (fieldValueCall clock self domain)^[k] bottom depth =
        parseFieldValue clock self domain (MAX_LIST_DEPTH - depth)) ∧
    (∀ depth, LoopsEnd clock self domain
      (parseFieldValue clock self domain (MAX_LIST_DEPTH - depth))) ∧
    (∀ depth dataType length input ticks rest value ticks',
      parseFieldValue clock self domain (MAX_LIST_DEPTH - depth) dataType length input ticks =
        (some (rest, value), ticks') →
        value.listLevels ≤ MAX_LIST_DEPTH - depth) ∧
    (∀ w input rest packet w', parse clock input w = (some (rest, packet), w') →
      ∀ set ∈ packet.sets, ∀ record ∈ set.records.filterMap Record.dataRecord?,
        ∀ value ∈ record.values,
        value.listLevels ≤ MAX_LIST_DEPTH) ∧
    ∀ (call : Nat → ValueParser) depth dataType length input ticks, MAX_LIST_DEPTH ≤ depth →
      dataType.isList = true →
      fieldValueCall clock self domain call depth dataType length input ticks =
        (if length ≤ input.length then some (input.drop length, .octetArray (input.take length))
          else none, ticks) := by
  refine ⟨?_, ?_, ?_, ?_, ?_⟩
  · intro bottom depth k enough
    exact fieldValueCall_iterate clock self domain bottom enough
  · intro depth
    exact loopsEnd clock self domain _
  · intro depth dataType length input ticks rest value ticks' run
    exact listLevels_parseFieldValue _ run
  · intro w input rest packet w' run
    exact listLevels_parse run
  · intro call depth dataType length input ticks deep list
    exact fieldValueCall_octets clock self domain call deep list length input ticks

/-- A template set with template 256, whose one field is a list of records of template 256. -/
def selfListing : List UInt8 := [1, 0, 0, 1, 1, 36, 255, 255]

def listRegistry : IERegistry :=
  IERegistry.new.addElement 292 none "subTemplateList" .subTemplateList

/-- So many lists of template 256 in one another. -/
def nested : Nat → List UInt8
  | 0 => []
  | n + 1 => [3, 1, 0] ++ if n = 0 then [] else UInt8.ofNat (nested n).length :: nested n

/-- Nine lists under a template that lists itself: eight are decoded. -/
def nestedMessage : List UInt8 :=
  [0, 10, 0, 68, 0, 0, 0, 0, 0, 0, 0, 1, 0, 0, 0, 7, 0,
    2, 0, 12] ++ selfListing ++ [1, 0, 0, 40, 35] ++ nested 9

theorem nested_lists_end_of_nine :
    let self :=
      (parseRecords (fun _ => 0) 7 IPFIX_TEMPLATE_SET_ID selfListing
        (World.new (fun _ => 0) listRegistry 600)).2.parser
    (fieldValueCall (fun _ => 0) self 7)^[9] (fun _ _ _ => liftM fail) 0 =
      parseFieldValue (fun _ => 0) self 7 8 ∧
      untilEmptyLoop (multiListTurn (fun _ => 0) self (parseFieldValue (fun _ => 0) self 7 8) 7) 4
        [1, 0, 0, 4] 0 =
        untilEmpty (multiListTurn (fun _ => 0) self (parseFieldValue (fun _ => 0) self 7 8) 7)
          [1, 0, 0, 4] 0 ∧
      (∃ rest value, (parseFieldValue (fun _ => 0) self 7 8 .subTemplateList 35 (nested 9) 0).1 =
        some (rest, value) ∧
        value.listLevels ≤ 8) ∧
      (∃ rest packet,
        (parse (fun _ => 0) nestedMessage (World.new (fun _ => 0) listRegistry 600)).1 =
          some (rest, packet) ∧
        ∀ set ∈ packet.sets, ∀ record ∈ set.records.filterMap Record.dataRecord?,
          ∀ value ∈ record.values,
          value.listLevels ≤ 8) ∧
      fieldValueCall (fun _ => 0) self 7 (fun _ _ _ => liftM fail) 8 .subTemplateList 3
        (nested 1) 0 =
        (some ([], .octetArray [3, 1, 0]), 0) := by
  intro self
  obtain ⟨calls, loops, values, packets, octets⟩ := nested_lists_end (fun _ => 0) self 7
  refine ⟨calls _ 0 9 (by decide), (loops 0).multiList 4 [1, 0, 0, 4] 0 (by decide), ?_, ?_,
    octets _ 8 .subTemplateList 3 (nested 1) 0 (by decide) rfl⟩
  · have read :
        (parseFieldValue (fun _ => 0) self 7 8 .subTemplateList 35 (nested 9) 0).1.isSome := by
      decide +kernel
    obtain ⟨⟨rest, value⟩, found⟩ := Option.isSome_iff_exists.mp read
    exact ⟨rest, value, found, values 0 _ _ _ _ _ _ _ (Prod.ext found rfl)⟩
  · have read :
        (parse (fun _ => 0) nestedMessage (World.new (fun _ => 0) listRegistry 600)).1.isSome := by
      decide +kernel
    obtain ⟨⟨rest, packet⟩, found⟩ := Option.isSome_iff_exists.mp read
    exact ⟨rest, packet, found, packets _ _ _ _ _ (Prod.ext found rfl)⟩

end Rustflow.Ipfix
