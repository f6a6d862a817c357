import Rustflow.Ipfix.EncodedSize
import Rustflow.Ipfix.ListFraming

/-!
# What makes an encoded packet longer

Every value is written in no more bytes than it was read from, but for the integers of three, five,
six and seven bytes in variable-length fields. Added up over fields, records, lists and sets, a
packet without such an integer and without a withdrawal of an options template fits the message it
came in.
-/

namespace Rustflow.Ipfix
open Combinator BigEndian

/-! ### Values -/

/-- The integers that are read from fewer bytes than their type has. -/
def FieldValue.widens : FieldValue → Bool
  | .unsigned32 _ | .unsigned64 _ | .signed32 _ | .signed64 _ => true
  | _ => false

theorem size_string_le {length : Nat} {input rest : List UInt8} {v : Option String}
    (run : string length input = some (rest, v)) :
    (v.elim FieldValue.null FieldValue.string).size ≤ length := by
  obtain ⟨_, bs, slice, last⟩ := bind_eq_some.mp run
  cases last
  obtain ⟨enough, rfl, rfl⟩ := take_eq_some.mp slice
  cases text : Utf8.read (input.take length) with
  | none => exact Nat.zero_le length
  | some s =>
    have cut := Utf8.length_trimEndNul_le s
    rw [Utf8.bytes_read text, List.length_take_of_le enough] at cut
    exact cut

/-- A value read from so many bytes takes no more, unless it is such an integer. -/
def SizedBy (length : Nat) (value : FieldValue) : Prop :=
  value.widens = false ∨ length = 0 → value.size ≤ length

theorem sizedBy_parseScalar {dataType : DataType} {length : Nat} {input rest : List UInt8}
    {value : FieldValue} (run : parseScalar dataType length input = some (rest, value)) :
    SizedBy length value := by
  unfold parseScalar at run
  split at run
  · refine map_forall (fun v => ?_) run
    cases v <;> simp [SizedBy, FieldValue.size]
  iterate 21 exact map_forall (fun _ => by simp [SizedBy, FieldValue.widens, FieldValue.size]) run
  · obtain ⟨_, v, first, last⟩ := bind_eq_some.mp run
    cases last
    exact fun _ => size_string_le first
  · exact map_forall (fun _ => by simp [SizedBy, FieldValue.size]) run
  · refine map_forall (fun v => ?_) run
    cases v <;> simp [SizedBy, FieldValue.size]
  iterate 2 exact map_forall (fun _ => by simp [SizedBy, FieldValue.size]) run
  · obtain ⟨_, v, first, last⟩ := bind_eq_some.mp run
    cases last
    obtain ⟨enough, -, rfl⟩ := take_eq_some.mp first
    exact fun _ => Nat.le_of_eq (List.length_take_of_le enough)

theorem sizeIn_le {fieldLength : UInt16} {value : FieldValue} {natural length : Nat}
    {input mid : List UInt8} (first : parseFieldLength fieldLength input = some (mid, length))
    (short : fieldLength = IPFIX_VARIABLE_LENGTH ∨ length = 0 ∨ value.adapts = false →
      natural ≤ length) :
    sizeIn fieldLength value natural + mid.length ≤ input.length + length := by
  unfold sizeIn
  by_cases var : fieldLength = IPFIX_VARIABLE_LENGTH
  · have natural_le := short (.inl var)
    rw [if_pos var]
    rw [parseFieldLength, if_neg (not_not.mpr var)] at first
    obtain ⟨left, firstByte, byte, first⟩ := beU8_spelled.bind first
    have one := congrArg List.length byte
    rw [List.length_append, length_bytes] at one
    split at first
    next low =>
      cases first
      have low : firstByte.toNat < 255 := UInt8.lt_iff_toNat_lt.mp low
      rw [if_pos (by omega)]
      omega
    next =>
      obtain ⟨left', word, two, first⟩ := beU16_spelled.bind first
      have three := congrArg List.length two
      rw [List.length_append, length_bytes] at three
      cases first
      split <;> omega
  · have fixed : parseFieldLength fieldLength input = some (input, fieldLength.toNat) :=
      congrFun (if_pos var) input
    rw [fixed] at first
    cases first
    rw [if_neg var]
    split
    next own =>
      have natural_le :=
        short (.inr (own.imp (fun zero => by rw [zero]; rfl) (fun fixed => by simpa using fixed)))
      omega
    next => omega

/-! ### Packets without wide integers in variable-length fields -/

/-- No integer that may have been read from fewer bytes than it is written in. -/
def Compact (values : List (UInt16 × FieldValue)) : Prop :=
  ∀ value, Within values IPFIX_VARIABLE_LENGTH value → value.widens = false

theorem Within.mono {values values' : List (UInt16 × FieldValue)} (sub : values ⊆ values')
    {fieldLength : UInt16} {value : FieldValue} (within : Within values fieldLength value) :
    Within values' fieldLength value := by
  induction within with
  | top mem => exact .top (sub mem)
  | nested _ mem ih => exact .nested ih mem

theorem Compact.mono {values values' : List (UInt16 × FieldValue)} (compact : Compact values')
    (sub : values ⊆ values') :
    Compact values := fun value within => compact value (within.mono sub)

theorem Compact.of_mem {values : List (UInt16 × FieldValue)} (compact : Compact values)
    {fieldLength : UInt16} {value : FieldValue} (mem : (fieldLength, value) ∈ values) :
    Compact [(fieldLength, value)] :=
  compact.mono fun _ here => List.mem_singleton.mp here ▸ mem

theorem Compact.children {fieldLength : UInt16} {value : FieldValue}
    (compact : Compact [(fieldLength, value)]) :
    Compact value.children :=
  fun inner within => compact inner (within.of_child (List.mem_singleton_self _))

theorem Compact.narrow {value : FieldValue} (compact : Compact [(IPFIX_VARIABLE_LENGTH, value)]) :
    value.widens = false :=
  compact value (.top (List.mem_singleton_self _))

/-! ### Records and lists -/

/-- No value that is read is written in more bytes, if it is compact. -/
def ReadsShort (parseValue : ValueParser) : Prop :=
  ∀ dataType length input ticks rest value ticks', parseValue dataType length input ticks =
    (some (rest, value), ticks') →
    Compact value.children → SizedBy length value

section
variable {clock : Nat → Instant} {self : IpfixParser} {domain : UInt32} {parseValue : ValueParser}
  (exact_ : Exact parseValue) (short : ReadsShort parseValue)
include exact_ short

theorem fits_field {fieldLength : UInt16} {dataType : DataType} {input mid rest : List UInt8}
    {length ticks ticks' : Nat} {value : FieldValue}
    (first : parseFieldLength fieldLength input = some (mid, length))
    (read : parseValue dataType length mid ticks = (some (rest, value), ticks'))
    (compact : Compact [(fieldLength, value)]) :
    sizeIn fieldLength value value.size + rest.length ≤ input.length := by
  obtain ⟨enough, rfl⟩ := exact_ _ _ _ _ _ _ _ read
  have sized := short _ _ _ _ _ _ _ read compact.children
  have field : sizeIn fieldLength value value.size + mid.length ≤ input.length + length := by
    refine sizeIn_le first fun reason => sized ?_
    rcases reason with rfl | zero | own
    · exact .inl compact.narrow
    · exact .inr zero
    · exact .inl (by cases value <;> first | rfl | cases own)
  rw [List.length_drop]
  omega

theorem fits_parseFields {fields : List ResolvedField} {input rest : List UInt8}
    {ticks ticks' : Nat} {values : List FieldValue}
    (run : parseFields parseValue fields input ticks = (some (rest, values), ticks'))
    (compact : Compact (entries { fields, values })) :
    sizeValues fields values + rest.length ≤ input.length := by
  induction fields generalizing input ticks values with
  | nil =>
    cases run
    simp [sizeValues]
  | cons field fields ih =>
    obtain ⟨mid, length, t, first, run⟩ := bindM_eq_some.mp run
    obtain ⟨mid', value, t', second, run⟩ := bindM_eq_some.mp run
    obtain ⟨mid'', others, t'', third, run⟩ := bindM_eq_some.mp run
    cases run
    have here :=
      fits_field exact_ short (congrArg Prod.fst first) second (compact.of_mem List.mem_cons_self)
    have later := ih third (compact.mono fun _ mem => List.mem_cons_of_mem _ mem)
    rw [sizeValues]
    omega

theorem fits_parseTemplatedRecords {id : UInt16} {input rest : List UInt8} {ticks ticks' : Nat}
    {records : List Record}
    (run : parseTemplatedRecords clock self parseValue domain id input ticks =
      (some (rest, records), ticks'))
        (compact : Compact ((records.filterMap Record.dataRecord?).flatMap entries)) :
    (records.map Record.size).sum + rest.length ≤ input.length := by
  refine parseDescribedRecords_sum (Q := fun record => ∀ data, record.dataRecord? = some data →
    Compact (entries data)) ?_ run ?_
  · intro kind fields input ticks rest record ticks' read ok
    obtain ⟨_, values, _, first, read⟩ := bindM_eq_some.mp read
    cases read
    have size : (TemplateKind.wrap kind { fields, values }).size = sizeValues fields values := by
      cases kind <;> rfl
    rw [size]
    exact fits_parseFields exact_ short first (ok _ (by cases kind <;> rfl))
  · intro record mem data found
    exact compact.mono fun entry inside => List.mem_flatMap.mpr ⟨data,
      List.mem_filterMap.mpr ⟨record, mem, found⟩, inside⟩

end

theorem sizeRecords_le (records : List Record) :
    sizeRecords (records.filterMap Record.dataRecord?) ≤ (records.map Record.size).sum := by
  induction records with
  | nil => exact Nat.le_refl 0
  | cons record records ih =>
    rw [List.map_cons, List.sum_cons]
    cases record with
    | template => exact Nat.le_trans ih (Nat.le_add_left _ _)
    | optionsTemplate => exact Nat.le_trans ih (Nat.le_add_left _ _)
    | data => exact Nat.add_le_add_left ih _
    | optionsData => exact Nat.add_le_add_left ih _

theorem sizeElements_eq (fieldLength : UInt16) (content : List FieldValue) :
    sizeElements fieldLength content =
      (content.map fun value => sizeIn fieldLength value value.size).sum := by
  induction content with
  | nil => rfl
  | cons value content ih => rw [sizeElements, ih, List.map_cons, List.sum_cons]

theorem sizeItems_eq (items : List (SubTemplateMultiItem FieldValue)) :
    sizeItems items = (items.map sizeItem).sum := by
  induction items with
  | nil => rfl
  | cons item items ih => rw [sizeItems, ih, List.map_cons, List.sum_cons]

section
variable {clock : Nat → Instant} {self : IpfixParser} {domain : UInt32} {parseValue : ValueParser}

theorem fits_basicListTurn (exact_ : Exact parseValue) (short : ReadsShort parseValue)
    {field : FieldSpecifier} {dataType : DataType} {input rest : List UInt8} {ticks ticks' : Nat}
    {item : Option FieldValue} (turn : basicListTurn parseValue field dataType input ticks =
      (some (rest, .next item), ticks'))
    (compact : ∀ value ∈ item, Compact [(field.fieldLength, value)]) :
    (item.toList.map fun value => sizeIn field.fieldLength value value.size).sum + rest.length ≤
      input.length := by
  obtain ⟨mid, length, t, value, first, read, rfl⟩ := basicListTurn_next turn
  have here := fits_field exact_ short first read (compact value rfl)
  simpa using here

theorem stops_basicListTurn {field : FieldSpecifier} {dataType : DataType} {input rest : List UInt8}
    {ticks ticks' : Nat} (turn : basicListTurn parseValue field dataType input ticks =
      (some (rest, .stop), ticks')) :
    rest.length ≤ input.length := by
  rw [basicListTurn_eq] at turn
  split at turn
  · cases turn
  next mid length first =>
    split at turn
    · cases turn
      rcases parseFieldLength_cases first with shorter | ⟨rfl, -⟩
      · omega
      · exact Nat.le_refl _
    · obtain ⟨value, -⟩ := Prod.mk.inj turn
      obtain ⟨_, -, same⟩ := Option.map_eq_some_iff.mp value
      cases same

theorem fits_parseBasicList (exact_ : Exact parseValue) (short : ReadsShort parseValue)
    {length : Nat} {input rest : List UInt8} {ticks ticks' : Nat} {value : FieldValue}
    (run : parseBasicList self parseValue domain length input ticks = (some (rest, value), ticks'))
    (compact : Compact value.children) : value.size ≤ length := by
  obtain ⟨slice, left, sliced, run⟩ := mapParser_eq_some.mp run
  obtain ⟨mid, semantic, _, first, run⟩ := bindM_eq_some.mp run
  obtain ⟨mid', field, _, second, run⟩ := bindM_eq_some.mp run
  obtain ⟨mid'', content, _, turns, run⟩ := bindM_eq_some.mp run
  cases run
  have whole := (take_spelled sliced).2
  have one := congrArg List.length (beU8_spelled _ _ _ (congrArg Prod.fst first))
  have specifier := congrArg List.length (fieldSpecifier_spelled _ _ _ (congrArg Prod.fst second))
  have elements := untilEmpty_sum (Q := fun value => Compact [(field.fieldLength, value)])
    (advances_basicListTurn exact_ field _) (fun _ _ _ _ turn => stops_basicListTurn turn)
    (fun _ _ _ _ _ turn compact => fits_basicListTurn exact_ short turn compact) turns
    fun value mem => compact.of_mem (List.mem_map_of_mem mem)
  rw [List.length_append, length_bytes] at one
  rw [List.length_append, FieldSpecifier.length_encode] at specifier
  rw [FieldValue.size, sizeElements_eq]
  omega

theorem fits_parseSubTemplateList (exact_ : Exact parseValue) (short : ReadsShort parseValue)
    {length : Nat} {input rest : List UInt8} {ticks ticks' : Nat} {value : FieldValue}
    (run : parseSubTemplateList clock self parseValue domain length input ticks =
      (some (rest, value), ticks'))
    (compact : Compact value.children) : value.size ≤ length := by
  obtain ⟨slice, left, sliced, run⟩ := mapParser_eq_some.mp run
  obtain ⟨mid, semantic, _, first, run⟩ := bindM_eq_some.mp run
  obtain ⟨mid', id, _, second, run⟩ := bindM_eq_some.mp run
  obtain ⟨mid'', records, _, read, run⟩ := bindM_eq_some.mp run
  cases run
  have whole := (take_spelled sliced).2
  have one := congrArg List.length (beU8_spelled _ _ _ (congrArg Prod.fst first))
  have two := congrArg List.length (beU16_spelled _ _ _ (congrArg Prod.fst second))
  have data := fits_parseTemplatedRecords exact_ short read compact
  have lists := sizeRecords_le records
  rw [List.length_append, length_bytes] at one two
  rw [FieldValue.size]
  omega

theorem fits_multiListTurn (exact_ : Exact parseValue) (short : ReadsShort parseValue)
    {input rest : List UInt8} {ticks ticks' : Nat} {item : Option (SubTemplateMultiItem FieldValue)}
    (turn : multiListTurn clock self parseValue domain input ticks =
      (some (rest, .next item), ticks'))
    (compact : ∀ i ∈ item, Compact (i.data.flatMap entries)) :
    (item.toList.map sizeItem).sum + rest.length ≤ input.length := by
  obtain ⟨mid, id, _, first, turn⟩ := bindM_eq_some.mp turn
  obtain ⟨mid', declared, _, second, turn⟩ := bindM_eq_some.mp turn
  have two := congrArg List.length (beU16_spelled _ _ _ (congrArg Prod.fst first))
  have four := congrArg List.length (beU16_spelled _ _ _ (congrArg Prod.fst second))
  rw [List.length_append, length_bytes] at two four
  split at turn
  · cases turn
    simp only [Option.toList_none, List.map_nil, List.sum_nil]
    omega
  · obtain ⟨_, records, _, sliced, turn⟩ := bindM_eq_some.mp turn
    cases turn
    obtain ⟨slice, left, part, read⟩ := mapParser_eq_some.mp sliced
    have whole := congrArg List.length (take_spelled part).1
    have data := fits_parseTemplatedRecords exact_ short read (compact _ rfl)
    have lists := sizeRecords_le records
    rw [List.length_append] at whole
    simp only [Option.toList_some, List.map_cons, List.map_nil, List.sum_cons,
      List.sum_nil, sizeItem]
    omega

theorem multiListTurn_goes_on {input rest : List UInt8} {ticks ticks' : Nat}
    (turn : multiListTurn clock self parseValue domain input ticks = (some (rest, .stop), ticks')) :
    False := by
  obtain ⟨_, id, _, _, turn⟩ := bindM_eq_some.mp turn
  obtain ⟨_, declared, _, _, turn⟩ := bindM_eq_some.mp turn
  split at turn
  · cases turn
  · obtain ⟨_, records, _, _, turn⟩ := bindM_eq_some.mp turn
    cases turn

theorem fits_parseSubTemplateMultiList (exact_ : Exact parseValue) (short : ReadsShort parseValue)
    {length : Nat} {input rest : List UInt8} {ticks ticks' : Nat} {value : FieldValue}
    (run : parseSubTemplateMultiList clock self parseValue domain length input ticks =
      (some (rest, value), ticks'))
    (compact : Compact value.children) : value.size ≤ length := by
  obtain ⟨slice, left, sliced, run⟩ := mapParser_eq_some.mp run
  obtain ⟨mid, semantic, _, first, run⟩ := bindM_eq_some.mp run
  obtain ⟨mid', items, _, turns, run⟩ := bindM_eq_some.mp run
  cases run
  have whole := (take_spelled sliced).2
  have one := congrArg List.length (beU8_spelled _ _ _ (congrArg Prod.fst first))
  have data :=
    untilEmpty_sum (Q := fun item => Compact (item.data.flatMap entries))
      (advances_multiListTurn parseValue)
    (fun _ _ _ _ turn => (multiListTurn_goes_on turn).elim) (fun _ _ _ _ _ turn compact =>
      fits_multiListTurn exact_ short turn compact) turns
    fun item mem => compact.mono fun entry inside => List.mem_flatMap.mpr ⟨item, mem, inside⟩
  rw [List.length_append, length_bytes] at one
  rw [FieldValue.size, sizeItems_eq]
  omega

theorem readsShort_parseFieldValue (clock : Nat → Instant) (self : IpfixParser) (domain : UInt32)
    (levels : Nat) :
    ReadsShort (parseFieldValue clock self domain levels) := by
  induction levels with
  | zero =>
    intro dataType length input ticks rest value ticks' run _
    exact sizedBy_parseScalar (congrArg Prod.fst run)
  | succ levels ih =>
    have exact_ := exact_parseFieldValue clock self domain levels
    intro dataType length input ticks rest value ticks' run compact
    have scalar : parseScalar dataType length input = some (rest, value) → SizedBy length value :=
      sizedBy_parseScalar
    cases dataType with
    | basicList => exact fun _ => fits_parseBasicList exact_ ih run compact
    | subTemplateList => exact fun _ => fits_parseSubTemplateList exact_ ih run compact
    | subTemplateMultiList => exact fun _ => fits_parseSubTemplateMultiList exact_ ih run compact
    | _ => exact scalar (congrArg Prod.fst run)

end

/-! ### Sets and packets -/

/-- What may be longer when it is encoded again is not there. -/
def NeverGrows (records : List Record) : Prop :=
  (∀ t, Record.optionsTemplate t ∈ records → t.fieldCount ≠ 0) ∧
    Compact ((records.filterMap Record.dataRecord?).flatMap entries)

theorem templateRecord_spelled : Spelled parseTemplateRecord TemplateRecord.encode := by
  intro input rest record run
  obtain ⟨_, templateId, first, run⟩ := beU16_spelled.bind run
  obtain ⟨_, fieldCount, second, run⟩ := beU16_spelled.bind run
  obtain ⟨_, fields, third, run⟩ := (fieldSpecifier_spelled.count _).bind run
  cases run
  rw [first, second, third]
  simp only [TemplateRecord.encode, putU16, List.append_assoc]

theorem fits_parseRecords {clock : Nat → Instant} {domain : UInt32} {id : UInt16}
    {input rest : List UInt8} {w w' : World} {records : List Record}
    (run : parseRecords clock domain id input w = (some (rest, records), w'))
    (still : NeverGrows records) : (records.map Record.size).sum ≤ input.length := by
  unfold parseRecords at run
  split at run
  · obtain ⟨left, templates, _, read, run⟩ := bindM_eq_some.mp run
    obtain ⟨_, _, _, _, run⟩ := bindM_eq_some.mp run
    cases run
    have spelled :=
      congrArg List.length
        (Parser.many0_spelled templateRecord_spelled _ _ _ (congrArg Prod.fst read))
    rw [List.length_append, List.length_flatMap] at spelled
    have sizes : (templates.map .template).map Record.size = templates.map fun t =>
        t.encode.length := by
      rw [List.map_map]
      exact List.map_congr_left fun t _ => (Record.length_encode (.template t)).symm
    rw [sizes]
    omega
  · split at run
    · obtain ⟨left, templates, _, read, run⟩ := bindM_eq_some.mp run
      obtain ⟨_, _, _, _, run⟩ := bindM_eq_some.mp run
      cases run
      have spelled :=
        congrArg List.length (Parser.many0_spelled optionsTemplateRecord_spelled
          _ _ _ (congrArg Prod.fst read))
      rw [List.length_append, List.length_flatMap] at spelled
      have sizes : (templates.map .optionsTemplate).map Record.size = templates.map fun t =>
          t.onWire.length := by
        rw [List.map_map]
        refine List.map_congr_left fun t mem => ?_
        rw [t.onWire_definition (still.1 t (List.mem_map_of_mem mem))]
        exact (Record.length_encode (.optionsTemplate t)).symm
      rw [sizes]
      omega
    · split at run
      · obtain ⟨left, found, _, read, run⟩ := bindM_eq_some.mp run
        obtain ⟨_, _, _, _, run⟩ := bindM_eq_some.mp run
        cases run
        have parsed :
            (parseTemplatedRecords clock w.parser
              (parseFieldValue clock w.parser domain MAX_LIST_DEPTH) domain id
            input w.ticks).1 = some (_, records) := congrArg Prod.fst read
        have fits :=
          fits_parseTemplatedRecords (exact_parseFieldValue clock w.parser domain MAX_LIST_DEPTH)
          (readsShort_parseFieldValue clock w.parser domain MAX_LIST_DEPTH)
          (Prod.ext parsed rfl) still.2
        omega
      · cases run
        exact Nat.zero_le _

/-- A packet without what grows fits the message it was read from. -/
theorem fits_parse {clock : Nat → Instant} {input rest : List UInt8} {w w' : World}
    {packet : IpfixPacket} (run : parse clock input w = (some (rest, packet), w'))
    (still : ∀ set ∈ packet.sets, NeverGrows set.records) :
    packet.size ≤ max IPFIX_HEADER_SIZE packet.header.length.toNat := by
  obtain ⟨_, header, _, _, run⟩ := bindM_eq_some.mp run
  obtain ⟨_, sets, _, read, run⟩ := bindM_eq_some.mp run
  cases run
  obtain ⟨slice, left, sliced, read⟩ := mapParser_eq_some.mp read
  have whole := (take_spelled sliced).2
  have fits : (sets.map Set.size).sum + left.length ≤ slice.length := by
    refine many0_sum (Q := fun set : Set => NeverGrows set.records) ?_ read still
    intro input w rest set w' framed still
    obtain ⟨mid, id, _, first, framed⟩ := bindM_eq_some.mp framed
    obtain ⟨mid', length, _, second, framed⟩ := bindM_eq_some.mp framed
    split at framed
    · cases framed
    · obtain ⟨_, records, _, sliced, framed⟩ := bindM_eq_some.mp framed
      cases framed
      obtain ⟨content, _, part, contents⟩ := mapParser_eq_some.mp sliced
      have two := congrArg List.length (beU16_spelled _ _ _ (congrArg Prod.fst first))
      have four := congrArg List.length (beU16_spelled _ _ _ (congrArg Prod.fst second))
      have body := congrArg List.length (take_spelled part).1
      have fits := fits_parseRecords contents still
      rw [List.length_append, length_bytes] at two four
      rw [List.length_append] at body
      rw [Set.size, SET_HEADER_SIZE]
      dsimp only
      omega
  rw [IpfixPacket.size]
  dsimp only
  omega

/-! ### Main result -/

/-- A packet that was read is encoded safely exactly when it is not too long and has no early
timestamp. It is too long only if something in it grows. -/
theorem encodes_safely_iff {clock : Nat → Instant} {input rest : List UInt8} {w w' : World}
    {packet : IpfixPacket} (run : parse clock input w = (some (rest, packet), w')) :
    (packet.EncodesSafely input ↔ packet.NoEarlyNtp ∧ packet.size ≤ 65535) ∧
      ((∀ set ∈ packet.sets, NeverGrows set.records) → packet.size ≤ 65535) := by
  refine ⟨encodesSafely_iff run, fun still => ?_⟩
  have fits := fits_parse run still
  have length := packet.header.length.toNat_lt
  exact Nat.le_trans fits (Nat.max_le.mpr ⟨by decide, by omega⟩)

def microsRegistry : IERegistry :=
  IERegistry.new.addElement 154 none "flowStartMicroseconds" .dateTimeMicroseconds

/-- Template 256 with a timestamp, and a record of it, of a second since 1900. -/
def timestampMessage (seconds : UInt32) : List UInt8 :=
  [0, 10, 0, 40, 0, 0, 0, 0, 0, 0, 0, 1, 0, 0, 0, 7, 0, 2, 0, 12, 1, 0, 0, 1, 0, 154, 0, 8, 1,
    0, 0, 12] ++
    bytes 4 seconds.toNat ++ [0, 0, 0, 0]

/-- The first second of 1900 wraps. -/
theorem first_second_wraps :
    ¬ ∀ (clock : Nat → Instant) (w : World) (input rest : List
      UInt8) (packet : IpfixPacket) (w' : World),
      input.length ≤ 65535 → parse clock input w = (some (rest, packet), w') →
        packet.EncodesSafely input := by
  intro claim
  have shape :
      (parse (fun _ => 0) (timestampMessage 0) (World.new (fun _ => 0) microsRegistry 1)).1.map
      (fun r => r.2.entries.map fun entry => entry.2.ntpTime?) =
        some [some ⟨-2208988800000000000⟩] := by decide +kernel
  rcases run : parse (fun _ => 0) (timestampMessage 0) (World.new (fun _ => 0) microsRegistry 1)
    with
    ⟨_ | ⟨rest, packet⟩, w'⟩ <;> rw [run] at shape
  · cases shape
  · obtain ⟨⟨fieldLength, value⟩, _, found, time, -⟩ :=
      List.map_eq_cons_iff.mp (Option.some.inj shape)
    have fits :=
      (claim _ _ _ _ _ _ (by decide) run).ntpSums fieldLength value
        _ (.top (found ▸ List.mem_cons_self)) time
    revert fits
    unfold NtpSumFits
    decide

/-- A second of 2019 does not. -/
theorem later_second_is_safe :
    ∃ rest packet, (parse (fun _ => 0) (timestampMessage 0xe0000000)
      (World.new (fun _ => 0) microsRegistry 1)).1 =
      some (rest, packet) ∧ packet.EncodesSafely (timestampMessage 0xe0000000) := by
  have shape :
      (parse (fun _ => 0) (timestampMessage 0xe0000000)
        (World.new (fun _ => 0) microsRegistry 1)).1.map
      (fun r => (r.2.entries.map fun entry => (entry.2.isList, entry.2.ntpTime?), r.2.size)) =
        some ([(false, some ⟨1549107584000000000⟩)], 40) := by decide +kernel
  rcases run : parse (fun _ => 0) (timestampMessage 0xe0000000) (World.new
    (fun _ => 0) microsRegistry 1) with
    ⟨_ | ⟨rest, packet⟩, w'⟩ <;> rw [run] at shape
  · cases shape
  · obtain ⟨entries, size⟩ := Prod.mk.inj (Option.some.inj shape)
    obtain ⟨⟨fieldLength, value⟩, others, found, same, none⟩ := List.map_eq_cons_iff.mp entries
    obtain rfl := List.map_eq_nil_iff.mp none
    obtain ⟨scalar, time⟩ := Prod.mk.inj same
    refine ⟨rest, packet, rfl,
      (encodes_safely_iff run).1.mpr ⟨fun fieldLength' value' t within time' =>
        ?_, by rw [size]; decide⟩⟩
    rw [found] at within
    obtain mem | ⟨_, _, mem, deep⟩ := within.cases_top
    · cases List.mem_singleton.mp mem
      cases time.symm.trans time'
      decide
    · cases List.mem_singleton.mp mem
      rw [children_of_scalar scalar] at deep
      obtain mem | ⟨_, _, mem, _⟩ := deep.cases_top <;> cases mem

end Rustflow.Ipfix
