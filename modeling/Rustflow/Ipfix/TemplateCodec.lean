import Rustflow.Ipfix.RoundTrip

/-!
# Re-encoding templates

What a template set spells, beside what the encoder writes for the records read from it. The two
differ on withdrawals of options templates: such a record ends at its field count, and the encoder
goes on to a scope field count.
-/

namespace Rustflow.Ipfix
open Combinator BigEndian

/-- The enterprise bit and the ID together are the word that they were read from. -/
theorem join_bits (bits : UInt16) :
    (if bits &&& 0x8000 != 0 then (bits &&& 0x7fff) ||| 0x8000 else bits &&& 0x7fff) = bits := by
  have whole : (bits &&& 0x7fff) ||| (bits &&& 0x8000) = bits := by
    rw [← UInt16.toNat_inj, UInt16.toNat_or, UInt16.toNat_and, UInt16.toNat_and]
    refine (Nat.and_or_distrib_left ..).symm.trans ?_
    exact Nat.and_two_pow_sub_one_of_lt_two_pow (n := 16) bits.toNat_lt
  have top : bits &&& 0x8000 = 0 ∨ bits &&& 0x8000 = 0x8000 := by
    have word : (bits &&& 0x8000).toNat = (bits.toNat.testBit 15).toNat * 2 ^ 15 := by
      rw [UInt16.toNat_and]
      exact Nat.and_two_pow bits.toNat 15
    cases bit : bits.toNat.testBit 15 with
    | false => left; exact UInt16.toNat_inj.mp (by rw [word, bit]; rfl)
    | true => right; exact UInt16.toNat_inj.mp (by rw [word, bit]; rfl)
  rcases top with clear | set
  · rw [clear, UInt16.or_zero] at whole
    simp [clear, whole]
  · rw [set] at whole
    simp [set, whole]

theorem fieldSpecifier_spelled : Spelled parseFieldSpecifier FieldSpecifier.encode := by
  intro input rest spec run
  obtain ⟨_, bits, first, run⟩ := beU16_spelled.bind run
  obtain ⟨_, fieldLength, second, run⟩ := beU16_spelled.bind run
  obtain ⟨_, enterpriseNumber, third, run⟩ := (Spelled.cond _ beU32_spelled).bind run
  cases run
  simp only [FieldSpecifier.encode, join_bits, putU16, List.append_assoc]
  rw [first, second, third]
  rfl

theorem local_parseFieldSpecifier : Local parseFieldSpecifier :=
  local_beU16.bind fun _ => local_beU16.bind fun _ => (local_cond _ local_beU32).bind fun _ =>
    local_pure _

/-! ### Options templates -/

/-- The scope field count of a record as it stands in a set: a withdrawal has none. -/
def OptionsTemplateRecord.scopeOnWire (self : OptionsTemplateRecord) : List UInt8 :=
  if self.fieldCount = 0 then [] else putU16 self.scopeFieldCount

def OptionsTemplateRecord.onWire (self : OptionsTemplateRecord) : List UInt8 :=
  putU16 self.templateId ++ putU16 self.fieldCount ++ self.scopeOnWire ++
    self.fields.flatMap FieldSpecifier.encode

theorem optionsTemplateRecord_spelled :
    Spelled parseOptionsTemplateRecord OptionsTemplateRecord.onWire := by
  intro input rest record run
  obtain ⟨_, templateId, first, run⟩ := beU16_spelled.bind run
  obtain ⟨_, fieldCount, second, run⟩ := beU16_spelled.bind run
  obtain ⟨_, scopeFieldCount, third, run⟩ := bind_eq_some.mp run
  obtain ⟨_, fields, fourth, run⟩ := (fieldSpecifier_spelled.count _).bind run
  cases run
  rw [OptionsTemplateRecord.onWire, OptionsTemplateRecord.scopeOnWire, first, second]
  unfold parseScopeFieldCount at third
  split at third
  next withdrawal =>
    cases third
    rw [if_pos withdrawal, fourth]
    simp only [putU16, List.append_assoc, List.nil_append]
  next definition =>
    rw [if_neg definition, beU16_spelled _ _ _ third, fourth]
    simp only [putU16, List.append_assoc]

theorem local_parseOptionsTemplateRecord : Local parseOptionsTemplateRecord := by
  refine local_beU16.bind fun _ => local_beU16.bind fun fieldCount => Local.bind ?_ fun _ =>
    (local_count local_parseFieldSpecifier _).bind fun _ => local_pure _
  unfold parseScopeFieldCount
  split
  · exact local_pure _
  · exact local_beU16

theorem OptionsTemplateRecord.onWire_definition {record : OptionsTemplateRecord}
    (definition : record.fieldCount ≠ 0) :
    record.onWire = record.encode := by
  rw [OptionsTemplateRecord.onWire, OptionsTemplateRecord.scopeOnWire, if_neg definition,
    OptionsTemplateRecord.encode]

/-- The encoder writes two bytes too many for a withdrawal. -/
theorem OptionsTemplateRecord.length_encode_withdrawal {record : OptionsTemplateRecord}
    (withdrawal : record.fieldCount = 0) :
    record.encode.length = record.onWire.length + 2 := by
  simp only [OptionsTemplateRecord.onWire, OptionsTemplateRecord.scopeOnWire, if_pos withdrawal,
    OptionsTemplateRecord.encode, putU16, List.length_append, length_bytes, List.length_nil]
  omega

theorem OptionsTemplateRecord.length_onWire_le (record : OptionsTemplateRecord) :
    record.onWire.length ≤ record.encode.length := by
  by_cases withdrawal : record.fieldCount = 0
  · rw [record.length_encode_withdrawal withdrawal]
    omega
  · rw [record.onWire_definition withdrawal]

theorem length_onWire_lt {records : List OptionsTemplateRecord}
    (withdrawal : ∃ record ∈ records, record.fieldCount = 0) :
    (records.flatMap OptionsTemplateRecord.onWire).length <
      (records.flatMap OptionsTemplateRecord.encode).length := by
  rw [List.length_flatMap, List.length_flatMap]
  obtain ⟨record, mem, zero⟩ := withdrawal
  apply List.sum_lt_sum
  · intro other _
    exact other.length_onWire_le
  · refine ⟨record, mem, ?_⟩
    rw [record.length_encode_withdrawal zero]
    omega

/-- The records of an options template set are read back from their encodings exactly when none of
them withdraws a template. -/
theorem options_templates_survive_iff {input rest : List UInt8}
    {records : List OptionsTemplateRecord}
    (parsed : parseOptionsTemplateRecord.many0 input = some (rest, records)) :
    parseOptionsTemplateRecord.many0 (records.flatMap OptionsTemplateRecord.encode) =
      some ([], records) ↔
      ∀ record ∈ records, record.fieldCount ≠ 0 := by
  constructor
  · intro survives record mem withdrawal
    have spelled := Parser.many0_spelled optionsTemplateRecord_spelled _ _ _ survives
    have longer := length_onWire_lt ⟨record, mem, withdrawal⟩
    rw [List.append_nil] at spelled
    rw [spelled] at longer
    exact Nat.lt_irrefl _ longer
  · intro definitions
    have read : ∀ record ∈ records, Reads parseOptionsTemplateRecord record.onWire record :=
      Parser.many0_forall (fun _ _ _ run =>
        optionsTemplateRecord_spelled.reads local_parseOptionsTemplateRecord run) parsed
    have encoded : ∀ record ∈ records, Reads parseOptionsTemplateRecord record.encode record := by
      intro record mem
      have reads := read record mem
      rwa [record.onWire_definition (definitions record mem)] at reads
    have nonempty : ∀ record ∈ records, record.encode ≠ [] := by
      intro record _ empty
      have header := congrArg List.length empty
      simp [OptionsTemplateRecord.encode, putU16] at header
    have ended : parseOptionsTemplateRecord [] = none := rfl
    simpa only [List.append_nil] using Parser.many0_reads encoded nonempty ended

/-- A withdrawal of template 256 before a definition of template 257. -/
def withdrawalThenDefinition : List UInt8 := [1, 0, 0, 0, 1, 1, 0, 1, 0, 1, 0, 1, 0, 4]

def withdrawn : OptionsTemplateRecord := ⟨256, 0, 0, []⟩

def defined : OptionsTemplateRecord := ⟨257, 1, 1, [FieldSpecifier.iana 1 4]⟩

/-- The two spare bytes and the definition after them are no record. -/
theorem withdrawal_hides_definition :
    parseOptionsTemplateRecord.many0 withdrawalThenDefinition = some ([], [withdrawn, defined]) ∧
      parseOptionsTemplateRecord.many0 ([withdrawn, defined].flatMap OptionsTemplateRecord.encode) =
        some ([0, 0, 1, 1, 0, 1, 0, 1, 0, 1, 0, 4], [withdrawn]) := by
  decide +kernel

theorem definition_survives :
    parseOptionsTemplateRecord.many0 ([defined].flatMap OptionsTemplateRecord.encode) =
      some ([], [defined]) :=
  have parsed : parseOptionsTemplateRecord.many0 defined.encode = some ([], [defined]) := by
    decide +kernel
  (options_templates_survive_iff parsed).mpr (by decide)

end Rustflow.Ipfix
