import Rustflow.Ipfix.ListFraming
import Rustflow.NetflowV9.Steps

/-!
# A field takes exactly its length

So where the records of a set begin and end depends on the lengths that a template gives, and not
on what is known of its elements.
-/

namespace Rustflow
open Combinator

namespace NetflowV9

/-- A value that is read takes its length; one that is not is too short. -/
def ReadsItsLength (dataType : DataType) (length : Nat) (input : List UInt8) : Prop :=
  match parseFieldValue dataType length input with
  | some (rest, _) => length ≤ input.length ∧ rest = input.drop length
  | none => input.length < length

theorem readsItsLength (dataType : DataType) (length : Nat) (input : List UInt8) :
    ReadsItsLength dataType length input := by
  unfold ReadsItsLength
  split
  next rest value read => exact (takes_parseFieldValue dataType length).eq_some read
  next failed => exact (takes_parseFieldValue dataType length).eq_none failed

theorem parseDataRecord_boundary {fields fields' : List ResolvedField}
    (same : fields.map (·.spec) = fields'.map (·.spec)) {input rest rest' : List UInt8}
    {values values' : List FieldValue} (run : parseDataRecord fields input = some (rest, values))
    (run' : parseDataRecord fields' input = some (rest', values')) : rest = rest' := by
  induction fields generalizing fields' input values values' with
  | nil =>
    obtain rfl : fields' = [] := List.map_eq_nil_iff.mp same.symm
    cases run
    cases run'
    rfl
  | cons field fields ih =>
    obtain ⟨field', others, rfl, sameSpec, sameSpecs⟩ := List.map_eq_cons_iff.mp same.symm
    obtain ⟨_, value, first, run⟩ := bind_eq_some.mp run
    obtain ⟨_, value', first', run'⟩ := bind_eq_some.mp run'
    rw [sameSpec] at first'
    obtain ⟨-, rfl⟩ := (takes_parseFieldValue _ _).eq_some first
    obtain ⟨-, rfl⟩ := (takes_parseFieldValue _ _).eq_some first'
    obtain ⟨_, values, second, last⟩ := bind_eq_some.mp run
    obtain ⟨_, values', second', last'⟩ := bind_eq_some.mp run'
    cases last
    cases last'
    exact ih sameSpecs.symm second second'

theorem sameRest_records {fields fields' : List ResolvedField}
    (same : fields.map (·.spec) = fields'.map (·.spec)) :
    SameRest (parseRecordFromFields fields) (parseRecordFromFields fields') := by
  intro input s s' t t' rest rest' record record' run run'
  obtain ⟨_, values, u, first, last⟩ := bindM_eq_some.mp run
  obtain ⟨_, values', u', first', last'⟩ := bindM_eq_some.mp run'
  cases last
  cases last'
  exact parseDataRecord_boundary same (congrArg Prod.fst first) (congrArg Prod.fst first')

end NetflowV9

/-! ### Main result -/

/-- A value takes exactly its length or is too short or broken, exactly when no list read in it
names a zero-width template; NetFlow v9 has no lists. And two resolutions of a template agree on
where the records end. -/
theorem fields_take_their_lengths (self : Ipfix.IpfixParser) (domain : UInt32) (levels : Nat)
    (dataType : DataType) (length : Nat) (input : List UInt8) :
    ((∀ clock, Monotone clock → ∀ ticks,
      Ipfix.ReadsItsLength clock self domain levels dataType length input ticks) ↔
      (length ≤ input.length → Ipfix.Intact self domain levels dataType (input.take length) →
        Ipfix.Framed self domain (Ipfix.ZeroWidthAtSomeTime self domain) levels dataType
          (input.take length))) ∧
    (∀ (clock clock' : Nat → Instant) (self' : Ipfix.IpfixParser) (domain' : UInt32)
      (fields fields' : List Ipfix.ResolvedField), fields.map (·.spec) = fields'.map (·.spec) → ∀ n,
      SameRest
        (countM (Ipfix.parseRecordFromFields (Ipfix.parseFieldValue clock self domain levels)
          fields) n)
        (countM (Ipfix.parseRecordFromFields (Ipfix.parseFieldValue clock' self' domain' levels)
          fields') n)) ∧
    NetflowV9.ReadsItsLength dataType length input ∧
    ∀ fields fields' : List NetflowV9.ResolvedField, fields.map (·.spec) =
      fields'.map (·.spec) → ∀ n,
      SameRest (countM (NetflowV9.parseRecordFromFields fields) n)
        (countM (NetflowV9.parseRecordFromFields fields') n) := by
  refine ⟨Ipfix.readsItsLength_iff levels dataType length input, ?_,
    NetflowV9.readsItsLength dataType length input, ?_⟩
  · intro clock clock' self' domain' fields fields' same n
    exact (Ipfix.sameRest_records (Ipfix.exact_parseFieldValue clock self domain levels)
      (Ipfix.exact_parseFieldValue clock' self' domain' levels) same).countM n
  · intro fields fields' same n
    exact (NetflowV9.sameRest_records same).countM n

/-- A parser that has read the template set of domain 7 with template 256, whose one field is of
length zero. -/
def zeroWidthParser : Ipfix.IpfixParser :=
  (Ipfix.parseRecords (fun _ => 0) 7 Ipfix.IPFIX_TEMPLATE_SET_ID [1, 0, 0, 1, 0, 1, 0, 0]
    (Ipfix.World.new (fun _ => 0) IERegistry.new 600)).2.parser

/-- The list of no records of that template is whole, and is not read. -/
theorem empty_list_fails :
    (Ipfix.parseFieldValue (fun _ => 0) zeroWidthParser 7 Ipfix.MAX_LIST_DEPTH .subTemplateList 3
      [3, 1, 0] 0).1 = none ∧
      Ipfix.Intact zeroWidthParser 7 Ipfix.MAX_LIST_DEPTH .subTemplateList [3, 1, 0] := by
  constructor
  · decide +kernel
  · exact ⟨[], 256, by decide, id⟩

/-- A count of two bytes is read as such, and a record of it ends where one of two octets does. -/
theorem fields_take_their_lengths_of_a_count :
    Ipfix.ReadsItsLength id zeroWidthParser 7 Ipfix.MAX_LIST_DEPTH .unsigned 2 [1, 2, 3] 0 ∧
      SameRest
        (countM (Ipfix.parseRecordFromFields
          (Ipfix.parseFieldValue id zeroWidthParser 7 Ipfix.MAX_LIST_DEPTH)
          [⟨Ipfix.FieldSpecifier.iana 1 2, .unsigned, ""⟩]) 3)
        (countM (Ipfix.parseRecordFromFields
          (Ipfix.parseFieldValue id zeroWidthParser 7 Ipfix.MAX_LIST_DEPTH)
          [⟨Ipfix.FieldSpecifier.iana 1 2, .octetArray, ""⟩]) 3) :=
  ⟨(fields_take_their_lengths zeroWidthParser 7 Ipfix.MAX_LIST_DEPTH .unsigned 2 [1, 2, 3]).1.mpr
      (fun _ _ => trivial) id monotone_id 0,
    (fields_take_their_lengths zeroWidthParser 7 Ipfix.MAX_LIST_DEPTH .unsigned 2 [1, 2, 3]).2.1 id
      id zeroWidthParser 7
      [⟨Ipfix.FieldSpecifier.iana 1 2, .unsigned, ""⟩] [⟨Ipfix.FieldSpecifier.iana 1 2,
        .octetArray, ""⟩] rfl 3⟩

end Rustflow
