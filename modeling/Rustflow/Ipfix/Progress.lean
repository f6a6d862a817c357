import Rustflow.Ipfix.Parser

/-!
# How much input a record takes

A value of a fixed length takes at least that many bytes, so the record parser makes progress
unless every field of the template is of length zero. It fails where such a field is a list, and
otherwise succeeds on nothing at all.
-/

namespace Rustflow.Ipfix
open Combinator

theorem takes_parseScalar (dataType : DataType) (length : Nat) :
    Takes (parseScalar dataType length) length := by
  unfold parseScalar
  split
  · exact takes_boolean.map _
  · exact takes_beU8.map _
  · exact takes_beU16.map _
  · exact takes_beU32.map _
  · exact takes_beU64.map _
  · exact takes_beU24.map _
  iterate 3 exact (takes_beUint64 _).map _
  · exact ((takes_beUint 1).map _).map _
  · exact ((takes_beUint 2).map _).map _
  · exact ((takes_beUint 4).map _).map _
  · exact ((takes_beUint 8).map _).map _
  · exact (takes_beU24.map _).map _
  iterate 3 exact (takes_beInt _).map _
  · exact takes_beU32.map _
  · exact takes_beU64.map _
  · exact takes_macaddr6.map _
  · exact takes_beU32.map _
  · exact takes_ipv6Addr.map _
  · exact (takes_string _).map _
  · exact takes_timestampSecs.map _
  · exact takes_timestampMillis.map _
  · exact takes_timestampMicros.map _
  · exact takes_timestampNanos.map _
  · exact (takes_take _).map _

theorem shrinks_parseScalar (dataType : DataType) (length : Nat) :
    Shrinks (parseScalar dataType length) length :=
  (takes_parseScalar dataType length).shrinks

theorem shrinks_parseFieldSpecifier : Shrinks parseFieldSpecifier 4 := by
  refine shrinks_beU16.bind (k := 2) fun bits => shrinks_beU16.bind (k := 0) fun length => ?_
  refine Shrinks.bind (j := 0) ?_ fun _ => shrinks_pure _
  unfold Combinator.cond
  split
  · exact (shrinks_beU32.bind fun _ => shrinks_pure _).mono (Nat.zero_le _)
  · exact shrinks_pure _

theorem shrinks_parseTemplateRecord : Shrinks parseTemplateRecord 4 := by
  refine shrinks_beU16.bind (k := 2) fun id => shrinks_beU16.bind (k := 0) fun fieldCount => ?_
  exact ((shrinks_count shrinks_parseFieldSpecifier _).mono (Nat.zero_le _)).bind fun _ =>
    shrinks_pure _

theorem shrinks_parseOptionsTemplateRecord : Shrinks parseOptionsTemplateRecord 4 := by
  refine shrinks_beU16.bind (k := 2) fun id => shrinks_beU16.bind (k := 0) fun fieldCount => ?_
  refine Shrinks.bind (j := 0) ?_ fun _ =>
    ((shrinks_count shrinks_parseFieldSpecifier _).mono (Nat.zero_le _)).bind fun _ =>
      shrinks_pure _
  unfold parseScopeFieldCount
  split
  · exact shrinks_pure _
  · exact shrinks_beU16.mono (Nat.zero_le _)

/-- Every field of the template is of length zero and none is a list: its records use nothing up. -/
def zeroWidth (fields : List ResolvedField) : Bool :=
  fields.all fun field => field.spec.fieldLength = 0 ∧ !field.dataType.isList

/-- The same with `levels` of lists left to decode: without any, a list is kept as it is. -/
def zeroWidthAt (levels : Nat) (fields : List ResolvedField) : Bool :=
  fields.all fun field => field.spec.fieldLength = 0 ∧ (levels = 0 ∨ !field.dataType.isList)

theorem zeroWidthAt_succ (levels : Nat) (fields : List ResolvedField) :
    zeroWidthAt (levels + 1) fields = zeroWidth fields := by
  simp [zeroWidthAt, zeroWidth]

section
variable {clock : Nat → Instant} {self : IpfixParser} {domain : UInt32}

theorem shrinksM_parseFieldValue (levels : Nat) (dataType : DataType) (length : Nat) :
    ShrinksM (parseFieldValue clock self domain levels dataType length) length := by
  unfold parseFieldValue
  split
  · exact shrinksM_lift (shrinks_parseScalar _ _)
  · exact shrinksM_mapParser (shrinks_take _)
  · exact shrinksM_mapParser (shrinks_take _)
  · exact shrinksM_mapParser (shrinks_take _)
  · exact shrinksM_lift (shrinks_parseScalar _ _)

theorem shrinks_parseFieldLength {fieldLength : UInt16} :
    Shrinks (parseFieldLength fieldLength) (if fieldLength = IPFIX_VARIABLE_LENGTH then 1
      else 0) := by
  unfold parseFieldLength
  split
  · exact shrinks_pure _
  · rename_i variable_
    rw [if_pos (not_not.mp variable_)]
    refine shrinks_beU8.bind (k := 0) fun b => ?_
    split
    · exact shrinks_pure _
    · exact (shrinks_beU16.bind fun _ => shrinks_pure _).mono (Nat.zero_le _)

variable (clock self domain) in
/-- A list takes at least its semantic, so it cannot be of length zero. -/
theorem parseFieldValue_list_zero (levels : Nat) {dataType : DataType}
    (list : dataType.isList = true) (input : List UInt8) (ticks : Nat) :
    (parseFieldValue clock self domain (levels + 1) dataType 0 input ticks).1 = none := by
  have nothing : take 0 input = some (input, []) := by simp [take]
  cases dataType <;> simp only [DataType.isList, Bool.false_eq_true] at list
  all_goals
    simp only [parseFieldValue, parseBasicList, parseSubTemplateList, parseSubTemplateMultiList]
    rw [mapParser_of_some nothing]
    rfl

variable (clock self domain) in
theorem parseFieldValue_zero (levels : Nat) {dataType : DataType}
    (still : levels = 0 ∨ dataType.isList = false) (input : List UInt8) (ticks : Nat) :
    ∃ value, parseFieldValue clock self domain levels dataType 0 input ticks =
      (some (input, value), ticks) := by
  cases levels with
  | zero => cases dataType <;> exact ⟨_, rfl⟩
  | succ levels =>
    have scalar : dataType.isList = false := still.resolve_left (Nat.succ_ne_zero levels)
    cases dataType <;> simp only [DataType.isList, Bool.true_eq_false] at scalar
    all_goals exact ⟨_, rfl⟩

variable {levels : Nat}

variable (clock self domain levels) in
theorem parseFields_zeroWidth {fields : List ResolvedField}
    (zero : zeroWidthAt levels fields = true) (input : List UInt8) (ticks : Nat) :
    ∃ values, parseFields (parseFieldValue clock self domain levels) fields input ticks =
      (some (input, values), ticks) := by
  induction fields with
  | nil => exact ⟨[], rfl⟩
  | cons field fields ih =>
    simp only [zeroWidthAt, List.all_cons, Bool.and_eq_true, decide_eq_true_eq] at zero
    obtain ⟨⟨length, still⟩, rest⟩ := zero
    obtain ⟨values, more⟩ := ih rest
    have still : levels = 0 ∨ field.dataType.isList = false := by simpa using still
    obtain ⟨value, one⟩ := parseFieldValue_zero clock self domain levels still input ticks
    refine ⟨value :: values, ?_⟩
    rw [parseFields, length]
    rw [bindM_of_some (show (liftM (parseFieldLength 0) : ParserM Nat Nat) input ticks =
      (some (input, 0), ticks) from rfl),
      bindM_of_some one, bindM_of_some more]
    rfl

theorem parseFields_progress {fields : List ResolvedField}
    (wide : zeroWidthAt levels fields = false) (input rest : List UInt8) (ticks ticks' : Nat)
    (values : List FieldValue)
    (run : parseFields (parseFieldValue clock self domain levels) fields input ticks =
      (some (rest, values), ticks')) : rest.length < input.length := by
  have any : ∀ (fields : List ResolvedField),
      ShrinksM (parseFields (parseFieldValue clock self domain levels) fields) 0 := by
    intro fields
    induction fields with
    | nil => exact shrinksM_pure []
    | cons field fields ih =>
      exact ((shrinksM_lift shrinks_parseFieldLength).bind (k := 0) fun length =>
        ((shrinksM_parseFieldValue levels field.dataType length).mono (Nat.zero_le _)).bind (k := 0)
          fun value =>
          ih.bind (k := 0) fun values => shrinksM_pure _).mono (Nat.zero_le _)
  induction fields generalizing input ticks values with
  | nil => cases wide
  | cons field fields ih =>
    rw [parseFields] at run
    obtain ⟨mid, length, t, first, run⟩ := bindM_eq_some.mp run
    obtain ⟨mid', value, t', second, run⟩ := bindM_eq_some.mp run
    obtain ⟨mid'', values', t'', third, run⟩ := bindM_eq_some.mp run
    cases run
    have used := shrinksM_lift (σ := Nat) shrinks_parseFieldLength input ticks mid length t first
    have used' := shrinksM_parseFieldValue _ _ _ mid t mid' value t' second
    by_cases here : field.spec.fieldLength = 0
    · -- A list of length zero has failed, so the width is in a later field.
      rw [here] at first
      cases first
      have still : levels = 0 ∨ field.dataType.isList = false := by
        cases levels with
        | zero => exact .inl rfl
        | succ levels =>
          refine .inr (Bool.eq_false_iff.mpr fun list => ?_)
          have failed := parseFieldValue_list_zero clock self domain levels list input ticks
          rw [show UInt16.toNat 0 = 0 from rfl] at second
          rw [second] at failed
          cases failed
      have later : zeroWidthAt levels fields = false := by
        have ends : (levels = 0 ∨ (!field.dataType.isList) = true) := still.imp_right (by simp)
        simpa only [zeroWidthAt, List.all_cons, here, ends, and_self, decide_true,
          Bool.true_and] using wide
      have := ih later mid' t' _ third
      omega
    · have more := any fields mid' t' _ _ _ third
      by_cases var : field.spec.fieldLength = IPFIX_VARIABLE_LENGTH
      · rw [if_pos var] at used
        omega
      · have fixed : parseFieldLength field.spec.fieldLength input =
            some (input, field.spec.fieldLength.toNat) :=
          congrFun (if_pos var) input
        have same : (parseFieldLength field.spec.fieldLength input, ticks) =
            (some (mid, length), t) := first
        rw [fixed] at same
        cases same
        have positive : 0 < field.spec.fieldLength.toNat := by
          refine Nat.pos_of_ne_zero fun zero => here (UInt16.toNat_inj.mp zero)
        omega

variable (clock self domain levels) in
/-- Reading the records of a set fails exactly where a zero-width template with fields is in
effect. -/
theorem parseTemplatedRecords_isSome (domain' : UInt32) (id : UInt16) (input : List UInt8)
    (ticks : Nat) :
    (parseTemplatedRecords clock self (parseFieldValue clock self domain levels) domain' id input
      ticks).1.isSome ↔
      ¬ ∃ kind fields, effective clock self.templates self.optionsTemplates (domain', id) ticks =
        some (kind, fields) ∧
        fields ≠ [] ∧ zeroWidthAt levels fields = true := by
  refine parseDescribedRecords_isSome ?_ ?_ input ticks
  · intro fields zero input ticks
    obtain ⟨values, run⟩ := parseFields_zeroWidth clock self domain levels zero input ticks
    exact ⟨_, bindM_of_some run⟩
  · intro fields wide input ticks rest record ticks' run
    obtain ⟨mid, values, t, first, second⟩ := bindM_eq_some.mp run
    cases second
    exact parseFields_progress (Bool.not_eq_true _ ▸ wide) input _ ticks _ values first

end

end Rustflow.Ipfix
