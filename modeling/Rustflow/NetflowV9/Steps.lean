import Rustflow.NetflowV9.Parser

/-!
# What a FlowSet does

How much input the NetFlow v9 parsers take, and everything that reading the contents of a FlowSet
can do to the world.
-/

namespace Rustflow.NetflowV9
open Combinator

/-! ### Progress -/

theorem shrinks_parseTemplateField : Shrinks parseTemplateField 4 :=
  shrinks_beU16.bind (k := 2) fun _ => shrinks_beU16.bind fun _ => shrinks_pure _

theorem shrinks_parseTemplateRecord : Shrinks parseTemplateRecord 4 := by
  refine shrinks_beU16.bind (k := 2) fun id => shrinks_beU16.bind (k := 0) fun fieldCount => ?_
  exact ((shrinks_count shrinks_parseTemplateField _).mono (Nat.zero_le _)).bind fun _ =>
    shrinks_pure _

theorem shrinks_parseSlice {α : Type} {slice : Parser (List UInt8)} {p : Parser α} {k : Nat}
    (h : Shrinks slice k) :
    Shrinks (parseSlice slice p) k := by
  intro input rest a run
  obtain ⟨⟨mid, data⟩, first, second⟩ := Option.bind_eq_some_iff.mp run
  obtain ⟨_, _, same⟩ := Option.map_eq_some_iff.mp second
  cases same
  exact h input _ data first

theorem shrinks_parseOptionsTemplateRecord : Shrinks parseOptionsTemplateRecord 4 := by
  refine shrinks_beU16.bind (k := 2) fun id => shrinks_beU16.bind (k := 0) fun scopeLength => ?_
  refine (shrinks_beU16.mono (Nat.zero_le _)).bind (k := 0) fun optionLength => ?_
  refine ((shrinks_parseSlice (shrinks_take _)).mono (Nat.zero_le _)).bind (k := 0) fun scope => ?_
  exact ((shrinks_parseSlice (shrinks_take _)).mono (Nat.zero_le _)).bind fun options =>
    shrinks_pure _

theorem takes_parseFieldValue (dataType : DataType) (length : Nat) :
    Takes (parseFieldValue dataType length) length := by
  unfold parseFieldValue
  split
  · exact takes_pure _
  · exact takes_beU8.map _
  · exact takes_beU16.map _
  · exact takes_beU32.map _
  · exact takes_beU64.map _
  · exact takes_beU24.map _
  iterate 3 exact (takes_beUint64 _).map _
  · exact ((takes_beUint 1).map _).map _
  · exact ((takes_beUint 2).map _).map _
  · exact ((takes_beUint 4).map _).map _
  · exact ((takes_beUint 8).map _).map _
  · exact (takes_beU24.map _).map _
  iterate 3 exact (takes_beInt _).map _
  · exact takes_beU32.map _
  · exact takes_beU64.map _
  · exact takes_macaddr6.map _
  · exact takes_beU32.map _
  · exact takes_ipv6Addr.map _
  · exact (takes_string _).map _
  · exact takes_timestampSecs.map _
  · exact takes_timestampMillis.map _
  · exact takes_timestampMicros.map _
  · exact takes_timestampNanos.map _
  · exact (takes_take _).map _

theorem shrinks_parseFieldValue (dataType : DataType) (length : Nat) :
    Shrinks (parseFieldValue dataType length) length :=
  (takes_parseFieldValue dataType length).shrinks

/-- Every field of the template is of length zero: its records use nothing up. -/
def zeroWidth (fields : List ResolvedField) : Bool := fields.all fun field => field.spec.length = 0

theorem parseDataRecord_zeroWidth {fields : List ResolvedField} (zero : zeroWidth fields = true)
    (input : List UInt8) :
    ∃ values, parseDataRecord fields input = some (input, values) := by
  induction fields with
  | nil => exact ⟨[], rfl⟩
  | cons field fields ih =>
    simp only [zeroWidth, List.all_cons, Bool.and_eq_true, decide_eq_true_eq] at zero
    obtain ⟨values, more⟩ := ih zero.2
    refine ⟨.null :: values, ?_⟩
    have one : parseFieldValue field.dataType field.spec.length.toNat input =
        some (input, .null) := by
      rw [zero.1]
      cases field.dataType <;> rfl
    rw [parseDataRecord, bind_of_some one, bind_of_some more]
    rfl

theorem shrinks_parseDataRecord {fields : List ResolvedField} :
    Shrinks (parseDataRecord fields) (if zeroWidth fields then 0 else 1) := by
  induction fields with
  | nil => exact shrinks_pure []
  | cons field fields ih =>
    have step := (shrinks_parseFieldValue field.dataType field.spec.length.toNat).bind fun value =>
      ih.bind fun values => shrinks_pure (value :: values)
    refine step.mono ?_
    by_cases here : field.spec.length = 0
    · rw [here]
      have later : zeroWidth (field :: fields) = zeroWidth fields := by
        simp only [zeroWidth, List.all_cons, here, decide_true, Bool.true_and]
      rw [later]
      exact Nat.le_add_left _ _
    · have : field.spec.length.toNat ≠ 0 := fun zero => here (UInt16.toNat_inj.mp zero)
      split <;> omega

/-- Reading the records of a FlowSet fails exactly where a zero-width template with fields is in
effect. -/
theorem parseTemplatedRecords_isSome {clock : Nat → Instant} {self : NetflowV9Parser}
    {sourceId : UInt32} {templateId : UInt16} (input : List UInt8) (ticks : Nat) :
    (parseTemplatedRecords clock self sourceId templateId input ticks).1.isSome ↔
      ¬ ∃ kind fields, effective clock self.templates self.optionsTemplates
        (sourceId, templateId) ticks =
        some (kind, fields) ∧ fields ≠ [] ∧ zeroWidth fields = true := by
  refine parseDescribedRecords_isSome ?_ ?_ input ticks
  · intro fields zero input ticks
    obtain ⟨values, run⟩ := parseDataRecord_zeroWidth zero input
    exact ⟨_,
      bindM_of_some (Prod.ext run rfl : (liftM (parseDataRecord fields) : ParserM Nat _) input
        ticks = (_, _))⟩
  · intro fields wide input ticks rest record ticks' run
    obtain ⟨mid, values, t, first, second⟩ := bindM_eq_some.mp run
    cases second
    have used := shrinks_parseDataRecord input _ values (congrArg Prod.fst first)
    rw [if_neg wide] at used
    omega

/-! ### Steps -/

section
variable {clock : Nat → Instant} {sourceId : UInt32} {input : List UInt8} {w : World}

variable (clock sourceId) in
theorem parseTemplatedRecords_keeps (self : NetflowV9Parser) {I : Nat → Prop}
    (tick : ∀ n, I n → I (n + 1)) (id : UInt16) (input : List UInt8) (n : Nat) (h : I n) :
    I (parseTemplatedRecords clock self sourceId id input n).2 :=
  parseDescribedRecords_keeps tick (fun _ => bindM_keeps (fun _ _ h => h) fun _ _ _ h =>
    h) input n h

theorem cache_setCache (parser : NetflowV9Parser) (cache : Templates) (kind : TemplateKind) :
    (parser.setCache cache kind).cache = Function.update parser.cache kind cache := by
  funext kind'
  cases kind <;> cases kind' <;> rfl

variable (clock sourceId input w) in
theorem parseRecords_templates (kind : TemplateKind) :
    ∃ rest records templates, parseRecords clock sourceId (TemplateKind.flowSetId kind) input w =
      (some (rest, records), insertTemplates clock kind sourceId templates w) := by
  cases kind with
  | data =>
    obtain ⟨rest, templates, run⟩ := Parser.many0_ok (k := 3) shrinks_parseTemplateRecord input
    exact ⟨rest, templates.map .template, _,
      bindM_of_some (Prod.ext run rfl : (liftM parseTemplateRecord.many0 : ParserM World _) input
        w = (_, w))⟩
  | options =>
    obtain ⟨rest, templates, run⟩ :=
      Parser.many0_ok (k := 3) shrinks_parseOptionsTemplateRecord input
    exact ⟨rest, templates.map .optionsTemplate, _,
      bindM_of_some (Prod.ext run rfl : (liftM parseOptionsTemplateRecord.many0 : ParserM World _)
        input w = (_, w))⟩

theorem parseRecords_data {flowSetId : UInt16}
    (notTemplates : ∀ kind, flowSetId ≠ TemplateKind.flowSetId kind) :
    parseRecords clock sourceId flowSetId input w =
      ((parseTemplatedRecords clock w.parser sourceId flowSetId input w.ticks).1,
        { w with ticks := (parseTemplatedRecords clock w.parser sourceId flowSetId input
          w.ticks).2 }) := by
  have notData : flowSetId ≠ NETFLOW_V9_TEMPLATE_FLOW_SET_ID := notTemplates .data
  have notOptions : flowSetId ≠ NETFLOW_V9_OPTIONS_TEMPLATE_FLOW_SET_ID := notTemplates .options
  rw [parseRecords, if_neg notData, if_neg notOptions]
  rfl

theorem parse_keeps {I : World → Prop}
    (each : ∀ sourceId flowSetId content w, I w →
      I (parseRecords clock sourceId flowSetId content w).2) (message : List UInt8) (w : World)
        (h : I w) : I (parse clock message w).2 := by
  refine bindM_keeps (fun _ _ h => h) (fun header => ?_) message w h
  exact bindM_keeps (many0_keeps (parseFramedSet_keeps (each header.sourceId))) fun _ _ _ h => h

/-- Every history of messages leads through such states. -/
theorem reachable_run {registry : IERegistry} {timeout : Duration} (messages : List (List UInt8)) :
    Reachable clock registry timeout
      (World.run clock (World.new clock registry timeout) messages) := by
  have from_ : ∀ w, Reachable clock registry timeout w →
      Reachable clock registry timeout (World.run clock w messages) := by
    induction messages with
    | nil => exact fun w h => h
    | cons message messages ih =>
      exact fun w h => ih _ (parse_keeps (fun source setId content _ h =>
        h.flowSet source setId content) message w h)
  exact from_ _ .new

end

end Rustflow.NetflowV9
