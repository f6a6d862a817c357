import Rustflow.Lib.Consensus
import Rustflow.Ipfix.ElementTypes

/-!
# Type records in any order

What `ElementTypes` holds of an element is the verdict on the descriptions it was given, up to the
cap on how many elements it holds.
-/

namespace Rustflow.Ipfix

namespace Description

def key (self : Description) : ElementKey := (self.id, self.enterpriseNumber)

def definition (self : Description) (dataType : DataType) : IEDefinition where
  id := self.id
  enterpriseNumber := self.enterpriseNumber
  name := self.name.getD (unknownElementName self.id self.enterpriseNumber)
  dataType := dataType

/-- The description in a record, of an element the registry does not define and with a type that
can be decoded. -/
def usable (registry : IERegistry) (record : DataRecord) : Option Description :=
  (read record).filter fun description =>
    (registry.lookup description.id description.enterpriseNumber).isNone &&
      description.toDataType.isSome

theorem usable_eq_some {registry : IERegistry} {record : DataRecord} {description : Description} :
    usable registry record = some description ↔
      read record = some description ∧
        registry.lookup description.id description.enterpriseNumber = none ∧
        description.toDataType.isSome := by
  simp [usable, Option.filter_eq_some_iff]

end Description

def Learned.verdict : Learned → Verdict Description
  | .defined description _ => .agreed description
  | .conflicting => .conflicting

def Learned.definition? : Learned → Option IEDefinition
  | .defined _ definition => some definition
  | .conflicting => none

namespace ElementTypes
open Description

theorem lookup_eq (self : ElementTypes) (domain : UInt32) (id : UInt16)
    (enterpriseNumber : Option UInt32) :
    self.lookup domain id enterpriseNumber =
      (self.find domain (id, enterpriseNumber)).bind Learned.definition? := by
  unfold lookup
  rcases self.find domain (id, enterpriseNumber) with _ | ⟨_, _⟩ | _ <;> rfl

/-- What is held of an element, as a verdict. -/
def verdict (self : ElementTypes) (domain : UInt32) (key : ElementKey) : Verdict Description :=
  (self.find domain key).elim .unknown Learned.verdict

theorem verdict_eq_unknown {self : ElementTypes} {domain : UInt32} {key : ElementKey} :
    self.verdict domain key = .unknown ↔ self.find domain key = none := by
  unfold verdict
  rcases self.find domain key with _ | ⟨_, _⟩ | _ <;> simp [Learned.verdict]

theorem find_put (self : ElementTypes) (domain domain' : UInt32) (key key' : ElementKey)
    (learned : Learned) (len : Nat) :
    find ⟨self.put domain key learned, len⟩ domain' key' =
      if (domain', key') = (domain, key) then some learned else self.find domain' key' := by
  unfold find put
  rw [Table.lookup_insert_eq]
  by_cases here : domain' = domain
  · subst here
    rw [if_pos rfl, Option.bind_some, Table.lookup_insert_eq]
    by_cases same : key' = key
    · simp [same]
    · rw [if_neg same, if_neg fun both => same (Prod.mk.inj both).2]
      cases self.domains.lookup domain' <;> rfl
  · rw [if_neg here, if_neg fun both => here (Prod.mk.inj both).1]

theorem verdict_put (self : ElementTypes) (domain domain' : UInt32) (key key' : ElementKey)
    (learned : Learned) (len : Nat) :
    verdict ⟨self.put domain key learned, len⟩ domain' key' =
      if (domain', key') = (domain, key) then learned.verdict else self.verdict domain' key' := by
  unfold verdict
  rw [find_put]
  split <;> rfl

def held (self : ElementTypes) : Table (UInt32 × ElementKey) Learned := self.domains.flatten

theorem lookup_held (self : ElementTypes) (pair : UInt32 × ElementKey) :
    self.held.lookup pair = self.find pair.1 pair.2 :=
  Table.lookup_flatten self.domains pair

theorem size_held_put (self : ElementTypes) (domain : UInt32) (key : ElementKey) (learned : Learned)
    (len : Nat) :
    (held ⟨self.put domain key learned, len⟩).size =
      if (self.find domain key).isSome then self.held.size else self.held.size + 1 := by
  have insert : ∀ pair, (held ⟨self.put domain key learned, len⟩).lookup pair =
      (AList.insert (domain, key) learned self.held : Table _ _).lookup pair := by
    intro pair
    rw [lookup_held, find_put, Table.lookup_insert_eq, lookup_held]
  have counted : ∀ t : Table (UInt32 × ElementKey) Learned, t.size = t.total fun _ _ => 1 := by
    intro t
    simp [Table.size, Table.total]
  have totals : (held ⟨self.put domain key learned, len⟩).total (fun _ _ => 1) =
      Table.total (fun _ _ => 1) (AList.insert (domain, key) learned self.held) :=
    Table.total_congr fun pair => congrArg (Option.elim · 0 fun _ => 1) (insert pair)
  rw [counted, totals, ← counted, Table.size_insert, lookup_held]

theorem learn_cases (self : ElementTypes) (domain : UInt32) (record : DataRecord)
    (registry : IERegistry) :
    (usable registry record = none ∧ self.learn domain record registry = (self, false)) ∨
      ∃ description, usable registry record = some description ∧
        ((∃ known definition, self.find domain description.key = some (.defined known definition) ∧
          known ≠ description ∧
            self.learn domain record registry =
              ({ self with domains := self.put domain description.key .conflicting }, true)) ∨
          ((self.verdict domain description.key).hear description =
            self.verdict domain description.key ∧
            self.find domain description.key ≠ none ∧ self.learn domain record registry =
              (self, false)) ∨
          (∃ dataType, description.toDataType = some dataType ∧
            self.find domain description.key = none ∧
            self.len < MAX_ELEMENTS ∧ self.learn domain record registry =
              (⟨self.put domain description.key
                (.defined description (description.definition dataType)), self.len + 1⟩,
                true)) ∨
          (self.find domain description.key = none ∧ MAX_ELEMENTS ≤ self.len ∧
            self.learn domain record registry = (self, false))) := by
  unfold learn usable
  cases read record with
  | none => exact Or.inl ⟨rfl, rfl⟩
  | some description =>
    rw [Option.filter_some]
    dsimp only
    cases defined : registry.lookup description.id description.enterpriseNumber with
    | some _ => exact Or.inl ⟨rfl, rfl⟩
    | none =>
      cases usable : description.toDataType with
      | none => exact Or.inl ⟨rfl, rfl⟩
      | some dataType =>
        refine Or.inr ⟨description, rfl, ?_⟩
        dsimp only
        cases found : self.find domain description.key with
        | none =>
          rw [show self.find domain (description.id, description.enterpriseNumber) =
            none from found]
          by_cases room : self.len < MAX_ELEMENTS
          · exact Or.inr (Or.inr (Or.inl ⟨dataType, usable, rfl, room, if_pos room⟩))
          · exact Or.inr (Or.inr (Or.inr ⟨rfl, Nat.le_of_not_lt room, if_neg room⟩))
        | some learned =>
          rw [show self.find domain (description.id, description.enterpriseNumber) =
            some learned from found]
          cases learned with
          | defined known definition =>
            by_cases same : known = description
            · refine Or.inr (Or.inl ⟨?_, Option.some_ne_none _, if_pos same⟩)
              unfold verdict
              rw [found]
              exact if_pos same
            · exact Or.inl ⟨known, definition, rfl, same, if_neg same⟩
          | conflicting =>
            refine Or.inr (Or.inl ⟨?_, Option.some_ne_none _, rfl⟩)
            unfold verdict
            rw [found]
            rfl

/-- `learn` on one record after another, from nothing learned. -/
def learnEach (registry : IERegistry) (history : List (UInt32 × DataRecord)) : ElementTypes :=
  history.foldl (fun types entry => (types.learn entry.1 entry.2 registry).1) default

/-- The usable descriptions of an element among the records of a domain. -/
def told (registry : IERegistry) (history : List (UInt32 × DataRecord)) (domain : UInt32)
    (key : ElementKey) :
    List Description :=
  history.filterMap fun entry =>
    (usable registry entry.2).filter fun description => (entry.1, description.key) = (domain, key)

def describedPairs (registry : IERegistry) (history : List (UInt32 × DataRecord)) :
    Finset (UInt32 × ElementKey) :=
  (history.filterMap fun entry => (usable registry entry.2).map fun description =>
    (entry.1, description.key)).toFinset

variable {registry : IERegistry} {history : List (UInt32 × DataRecord)}

theorem mem_told {domain : UInt32} {key : ElementKey} {description : Description} :
    description ∈ told registry history domain key ↔
      ∃ record, (domain, record) ∈ history ∧ usable registry record = some description ∧
        description.key = key := by
  simp only [told, List.mem_filterMap, Option.filter_eq_some_iff, decide_eq_true_eq, Prod.mk.injEq,
    Prod.exists]
  constructor
  · rintro ⟨_, record, mem, usable, rfl, same⟩
    exact ⟨record, mem, usable, same⟩
  · rintro ⟨record, mem, usable, same⟩
    exact ⟨domain, record, mem, usable, rfl, same⟩

theorem mem_describedPairs {domain : UInt32} {key : ElementKey} :
    (domain, key) ∈ describedPairs registry history ↔ told registry history domain key ≠ [] := by
  rw [Ne, List.eq_nil_iff_forall_not_mem, not_forall_not]
  simp only [mem_told, describedPairs, List.mem_toFinset, List.mem_filterMap,
    Option.map_eq_some_iff, Prod.mk.injEq, Prod.exists]
  constructor
  · rintro ⟨_, record, mem, description, usable, rfl, same⟩
    exact ⟨description, record, mem, usable, same⟩
  · rintro ⟨description, record, mem, usable, same⟩
    exact ⟨domain, record, mem, description, usable, rfl, same⟩

theorem told_snoc (domain domain' : UInt32) (record : DataRecord) (key : ElementKey) :
    told registry (history ++ [(domain, record)]) domain' key =
      told registry history domain' key ++
        ((usable registry record).filter fun description => (domain, description.key) =
          (domain', key)).toList := by
  unfold told
  rw [List.filterMap_append, List.filterMap_cons, List.filterMap_nil]
  cases (usable registry record).filter fun description => (domain, description.key) =
    (domain', key) <;> rfl

theorem setOf_mem_nil : {description | description ∈ ([] : List Description)} = ∅ :=
  Set.eq_empty_of_forall_notMem fun _ mem => nomatch mem

/-- What holds of the types learned from a history: each element has the verdict on its
descriptions or came after the cap, and what is defined is as its description has it. -/
structure Heard (registry : IERegistry) (history : List (UInt32 × DataRecord))
    (types : ElementTypes) : Prop where
  counted : types.len = types.held.size
  capped : types.len ≤ MAX_ELEMENTS
  verdict : ∀ domain key, (types.verdict domain key).On
    {description | description ∈ told registry history domain key} ∨
    types.find domain key = none ∧ MAX_ELEMENTS ≤ types.len
  definition : ∀ domain key description definition,
    types.find domain key = some (.defined description definition) →
      description.toDataType.map description.definition = some definition

theorem Heard.default : Heard registry [] ElementTypes.default where
  counted := rfl
  capped := Nat.zero_le _
  verdict _ _ := Or.inl setOf_mem_nil
  definition _ _ _ _ found := nomatch found

theorem setOf_told_snoc (domain domain' : UInt32) (record : DataRecord) (key : ElementKey) :
    {description | description ∈ told registry (history ++ [(domain, record)]) domain' key} =
      {description | description ∈ told registry history domain' key} ∪
        {description | usable registry record = some description ∧ (domain, description.key) =
          (domain', key)} := by
  ext description
  rw [told_snoc]
  simp only [Set.mem_ofPred_eq, List.mem_append, Option.mem_toList, Option.filter_eq_some_iff,
    decide_eq_true_eq, Set.mem_union]

theorem setOf_told_unusable {record : DataRecord} (none : usable registry record = none)
    (domain domain' : UInt32) (key : ElementKey) :
    {description | description ∈ told registry (history ++ [(domain, record)]) domain' key} =
      {description | description ∈ told registry history domain' key} := by
  rw [setOf_told_snoc, none]
  simp

theorem setOf_told_usable {record : DataRecord} {description : Description}
    (usable : usable registry record = some description) (domain domain' : UInt32)
    (key : ElementKey) :
    {d | d ∈ told registry (history ++ [(domain, record)]) domain' key} =
      if (domain', key) = (domain, description.key) then
        insert description {d | d ∈ told registry history domain' key}
      else {d | d ∈ told registry history domain' key} := by
  rw [setOf_told_snoc, usable]
  split
  · next here =>
    ext d
    simp only [Set.mem_union, Set.mem_ofPred_eq, Option.some.injEq, Set.mem_insert_iff]
    constructor
    · rintro (before | ⟨rfl, _⟩)
      · exact Or.inr before
      · exact Or.inl rfl
    · rintro (rfl | before)
      · exact Or.inr ⟨rfl, here.symm⟩
      · exact Or.inl before
  · next elsewhere =>
    ext d
    simp only [Set.mem_union, Set.mem_ofPred_eq, Option.some.injEq, or_iff_left_iff_imp]
    rintro ⟨rfl, here⟩
    exact absurd here.symm elsewhere

/-- A record that changes nothing of what is held is heard where its verdict is as before. -/
theorem Heard.quiet {types : ElementTypes} (heard : Heard registry history types) {domain : UInt32}
    {record : DataRecord} {description : Description}
    (usable : usable registry record = some description)
    (same : (types.verdict domain description.key).hear description =
      types.verdict domain description.key ∧
        types.find domain description.key ≠ none ∨
      types.find domain description.key = none ∧ MAX_ELEMENTS ≤ types.len) :
    Heard registry (history ++ [(domain, record)]) types where
  counted := heard.counted
  capped := heard.capped
  definition := heard.definition
  verdict domain' key := by
    rw [setOf_told_usable usable]
    split
    · next here =>
      cases here
      obtain ⟨verdict, present⟩ | full := same
      · obtain on | ⟨absent, _⟩ := heard.verdict domain description.key
        · have heardToo := on.hear description
          rw [verdict] at heardToo
          exact Or.inl heardToo
        · exact absurd absent present
      · exact Or.inr full
    · exact heard.verdict domain' key

/-- A record that changes what is held of its element is heard where the element gets the verdict
on all it was told. -/
theorem Heard.put {types : ElementTypes} (heard : Heard registry history types) {domain : UInt32}
    {record : DataRecord} {description : Description}
    (usable : usable registry record = some description) {learned : Learned} {len : Nat}
    (on : learned.verdict = (types.verdict domain description.key).hear description)
    (known : (types.verdict domain description.key).On
      {d | d ∈ told registry history domain description.key}) (definition : ∀ d definition,
        learned = .defined d definition → d.toDataType.map d.definition = some definition)
    (counted : len = (held ⟨types.put domain description.key learned, len⟩).size)
    (more : types.len ≤ len)
    (capped : len ≤ MAX_ELEMENTS) :
    Heard registry (history ++ [(domain, record)]) ⟨types.put domain description.key learned,
      len⟩ where
  counted := counted
  capped := capped
  definition := by
    intro domain' key d definition' found
    rw [find_put] at found
    split at found
    · exact definition d definition' (Option.some.inj found)
    · exact heard.definition domain' key d definition' found
  verdict domain' key := by
    rw [setOf_told_usable usable, verdict_put, find_put]
    split
    · next here =>
      cases here
      rw [on]
      exact Or.inl (known.hear description)
    · exact (heard.verdict domain' key).imp id fun ⟨absent, full⟩ =>
        ⟨absent, Nat.le_trans full more⟩

theorem Heard.learn {types : ElementTypes} (heard : Heard registry history types) (domain : UInt32)
    (record : DataRecord) :
    Heard registry (history ++ [(domain, record)]) (types.learn domain record registry).1 := by
  obtain ⟨unusable, step⟩ | ⟨description, usable, cases⟩ := types.learn_cases domain record registry
  · rw [step]
    exact { heard with
      verdict := fun domain' key => by
        rw [setOf_told_unusable unusable]
        exact heard.verdict domain' key }
  obtain ⟨known, definition, found, differ, step⟩ | ⟨same, present, step⟩ | ⟨dataType, typed,
    absent, room, step⟩ |
    ⟨absent, full, step⟩ := cases
  · rw [step]
    have agreed : types.verdict domain description.key = .agreed known := by
      unfold ElementTypes.verdict
      rw [found]
      rfl
    obtain on | ⟨absent, _⟩ := heard.verdict domain description.key
    · refine heard.put usable ?_ on (fun _ _ same => nomatch same) ?_ (Nat.le_refl _) heard.capped
      · rw [agreed]
        exact (if_neg differ).symm
      · rw [size_held_put, found]
        exact heard.counted
    · rw [found] at absent
      cases absent
  · rw [step]
    exact heard.quiet usable (Or.inl ⟨same, present⟩)
  · rw [step]
    obtain on | ⟨_, full⟩ := heard.verdict domain description.key
    · refine heard.put usable ?_ on ?_ ?_ (Nat.le_succ _) room
      · rw [verdict_eq_unknown.mpr absent]
        rfl
      · intro d definition same
        cases same
        rw [typed]
        rfl
      · rw [size_held_put, absent]
        exact congrArg Nat.succ heard.counted
    · exact absurd room (Nat.not_lt.mpr full)
  · rw [step]
    exact heard.quiet usable (Or.inr ⟨absent, full⟩)

theorem heard_learnEach (registry : IERegistry) (history : List (UInt32 × DataRecord)) :
    Heard registry history (learnEach registry history) := by
  induction history using List.reverseRecOn with
  | nil => exact Heard.default
  | append_singleton history entry ih =>
    unfold learnEach
    rw [List.foldl_append]
    exact ih.learn entry.1 entry.2

/-! ### What a run gives -/

theorem Heard.verdict_of_few {types : ElementTypes} (heard : Heard registry history types)
    (few : (describedPairs registry history).card ≤ MAX_ELEMENTS) (domain : UInt32)
    (key : ElementKey) :
    (types.verdict domain key).On
      {description | description ∈ told registry history domain key} := by
  obtain on | ⟨absent, full⟩ := heard.verdict domain key
  · exact on
  by_cases silent : told registry history domain key = []
  · rw [verdict_eq_unknown.mpr absent, silent]
    exact setOf_mem_nil
  -- The elements held and this one are all described, and together they are too many.
  have held : types.held.keys.toFinset ⊆ describedPairs registry history := by
    rintro ⟨domain', key'⟩ mem
    have present : types.find domain' key' ≠ none := by
      rw [← lookup_held types (domain', key'), Ne, AList.lookup_eq_none, not_not]
      exact AList.mem_keys.mpr (List.mem_toFinset.mp mem)
    obtain on | ⟨absent, _⟩ := heard.verdict domain' key'
    · rw [mem_describedPairs]
      intro silent
      rw [silent] at on
      exact present (verdict_eq_unknown.mp (on.unique (w := .unknown) setOf_mem_nil))
    · exact absurd absent present
  have fresh : (domain, key) ∉ types.held.keys.toFinset := by
    rw [List.mem_toFinset, ← AList.mem_keys, ← AList.lookup_eq_none, lookup_held]
    exact absent
  have all : insert (domain, key) types.held.keys.toFinset ⊆ describedPairs registry history :=
    Finset.insert_subset (mem_describedPairs.mpr silent) held
  have size : types.held.keys.toFinset.card = types.len := by
    rw [List.toFinset_card_of_nodup types.held.keys_nodup, heard.counted]
    exact List.length_map _
  have many := Finset.card_le_card all
  rw [Finset.card_insert_of_notMem fresh, size] at many
  omega

theorem Heard.lookup_eq {types : ElementTypes} (heard : Heard registry history types)
    (domain : UInt32) (id : UInt16) (enterpriseNumber : Option UInt32) :
    types.lookup domain id enterpriseNumber =
      (types.verdict domain (id, enterpriseNumber)).agreed?.bind fun description =>
        description.toDataType.map description.definition := by
  rw [ElementTypes.lookup_eq]
  unfold ElementTypes.verdict
  rcases found : types.find domain (id, enterpriseNumber) with _ | ⟨description, definition⟩ | _
  · rfl
  · exact (heard.definition domain _ description definition found).symm
  · rfl

/-- A record is reported as a change exactly where `lookup` changes. -/
theorem learn_reports (types : ElementTypes) (domain : UInt32) (record : DataRecord)
    (registry : IERegistry) :
    (types.learn domain record registry).2 = true ↔
      ∃ domain' id enterpriseNumber,
        (types.learn domain record registry).1.lookup domain' id enterpriseNumber ≠
          types.lookup domain' id enterpriseNumber := by
  obtain ⟨_, step⟩ | ⟨description, _, cases⟩ := types.learn_cases domain record registry
  · rw [step]
    simp
  obtain ⟨known, definition, found, _, step⟩ | ⟨_, _, step⟩ | ⟨dataType, _,
    absent, _, step⟩ | ⟨_, _, step⟩ := cases
  · rw [step]
    refine ⟨fun _ => ⟨domain, description.id, description.enterpriseNumber, ?_⟩, fun _ => rfl⟩
    rw [lookup_eq, lookup_eq, show (description.id, description.enterpriseNumber) =
      description.key from rfl, find_put,
      if_pos rfl, found]
    exact (Option.some_ne_none definition).symm
  · rw [step]
    simp
  · rw [step]
    refine ⟨fun _ => ⟨domain, description.id, description.enterpriseNumber, ?_⟩, fun _ => rfl⟩
    rw [lookup_eq, lookup_eq, show (description.id, description.enterpriseNumber) =
      description.key from rfl, find_put,
      if_pos rfl, absent]
    exact Option.some_ne_none (description.definition dataType)
  · rw [step]
    simp

theorem setOf_told_congr {history' : List (UInt32 × DataRecord)}
    (same : ∀ entry, entry ∈ history' ↔ entry ∈ history) (domain : UInt32) (key : ElementKey) :
    {description | description ∈ told registry history' domain key} =
      {description | description ∈ told registry history domain key} := by
  ext description
  simp only [Set.mem_ofPred_eq, mem_told, same]

theorem lookup_congr {history' : List (UInt32 × DataRecord)}
    (same : ∀ entry, entry ∈ history' ↔ entry ∈ history)
    (few : (describedPairs registry history).card ≤ MAX_ELEMENTS) :
    (learnEach registry history').lookup = (learnEach registry history).lookup := by
  have pairs : describedPairs registry history' = describedPairs registry history := by
    ext ⟨domain, key⟩
    simp only [describedPairs, List.mem_toFinset, List.mem_filterMap, same]
  have heard := heard_learnEach registry history
  have heard' := heard_learnEach registry history'
  have verdicts : ∀ domain key, (learnEach registry history').verdict domain key =
      (learnEach registry history).verdict domain key := by
    intro domain key
    have on := heard'.verdict_of_few (pairs ▸ few) domain key
    rw [setOf_told_congr same] at on
    exact on.unique (heard.verdict_of_few few domain key)
  funext domain id enterpriseNumber
  rw [heard.lookup_eq, heard'.lookup_eq, verdicts]

theorem told_of_defined {id : UInt16} {enterpriseNumber : Option UInt32}
    (defined : registry.lookup id enterpriseNumber ≠ none) (domain : UInt32) :
    told registry history domain (id, enterpriseNumber) = [] := by
  refine List.eq_nil_iff_forall_not_mem.mpr fun description mem => ?_
  obtain ⟨record, _, usable, same⟩ := mem_told.mp mem
  obtain ⟨_, unknown, _⟩ := usable_eq_some.mp usable
  cases same
  exact defined unknown

/-- Types learned from any records in any order: with at most `MAX_ELEMENTS` elements described,
`lookup` gives the definition of an element whose usable descriptions are all one, and none of
another element, so histories with the same records teach the same. At any time `learn` reports
exactly the changes of `lookup`, nothing is held of an element of the registry, at most
`MAX_ELEMENTS` elements are held, and what is held of one is the verdict on all its descriptions,
those past the cap too. -/
theorem learnEach_any_order (registry : IERegistry) (history : List (UInt32 × DataRecord)) :
    ((describedPairs registry history).card ≤ MAX_ELEMENTS →
      (∀ domain description, told registry history domain description.key ≠ [] →
        (∀ d ∈ told registry history domain description.key, d = description) →
          ∃ dataType, description.toDataType = some dataType ∧
            (learnEach registry history).lookup domain description.id description.enterpriseNumber =
              some (description.definition dataType)) ∧
      (∀ domain id enterpriseNumber,
        (told registry history domain (id, enterpriseNumber) = [] ∨
            ∃ d ∈ told registry history domain (id, enterpriseNumber),
              ∃ d' ∈ told registry history domain (id, enterpriseNumber), d ≠ d') →
          (learnEach registry history).lookup domain id enterpriseNumber = none) ∧
      ∀ history', (∀ entry, entry ∈ history' ↔ entry ∈ history) →
        (learnEach registry history').lookup = (learnEach registry history).lookup) ∧
    (∀ domain record,
      ((learnEach registry history).learn domain record registry).2 = true ↔
        ∃ domain' id enterpriseNumber,
          ((learnEach registry history).learn domain record registry).1.lookup domain' id
            enterpriseNumber ≠
            (learnEach registry history).lookup domain' id enterpriseNumber) ∧
    (∀ domain id enterpriseNumber, registry.lookup id enterpriseNumber ≠ none →
      (learnEach registry history).find domain (id, enterpriseNumber) = none) ∧
    (learnEach registry history).held.size ≤ MAX_ELEMENTS ∧
    ∀ domain key, (learnEach registry history).find domain key ≠ none →
      ((learnEach registry history).verdict domain key).On
        {description | description ∈ told registry history domain key} := by
  have heard := heard_learnEach registry history
  refine ⟨fun few => ⟨?_, ?_, ?_⟩, fun domain record => learn_reports _ domain record registry,
    ?_, ?_, ?_⟩
  · intro domain description some all
    obtain ⟨first, mem⟩ := List.exists_mem_of_ne_nil _ some
    have agreed := (heard.verdict_of_few few domain description.key).agreed_of_all
      (Set.eq_singleton_iff_unique_mem.mpr ⟨all first mem ▸ mem, all⟩)
    obtain ⟨_, _, usable, _⟩ := mem_told.mp (all first mem ▸ mem)
    obtain ⟨dataType, typed⟩ := Option.isSome_iff_exists.mp (usable_eq_some.mp usable).2.2
    rw [heard.lookup_eq, show (description.id, description.enterpriseNumber) =
      description.key from rfl, agreed,
      Option.bind_some, typed]
    exact ⟨dataType, rfl, rfl⟩
  · intro domain id enterpriseNumber split
    rw [heard.lookup_eq, (heard.verdict_of_few few domain _).agreed_of_split (split.imp ?_ ?_)]
    · rfl
    · intro silent
      rw [silent]
      exact setOf_mem_nil
    · rintro ⟨d, mem, d', mem', differ⟩
      exact ⟨d, mem, d', mem', differ⟩
  · intro history' same
    exact lookup_congr same few
  · intro domain id enterpriseNumber defined
    have on := heard.verdict domain (id, enterpriseNumber)
    rw [told_of_defined defined] at on
    obtain on | ⟨absent, _⟩ := on
    · exact verdict_eq_unknown.mp (on.unique (w := .unknown) setOf_mem_nil)
    · exact absent
  · rw [← heard.counted]
    exact heard.capped
  · intro domain key present
    exact (heard.verdict domain key).resolve_right fun ⟨absent, _⟩ => present absent

/-- The record that an element of enterprise 9 has a data type. -/
def typeRecord (id : UInt16) (dataType : UInt8) : DataRecord where
  fields := [⟨.iana 303 2, .unsigned, "informationElementId"⟩,
    ⟨.iana 346 4, .unsigned, "privateEnterpriseNumber"⟩, ⟨.iana 339 1, .unsigned,
      "informationElementDataType"⟩]
  values := [.unsigned16 id, .unsigned32 9, .unsigned8 dataType]

/-- Element 1 described twice alike and element 2 as two types. -/
def twoTypes : List (UInt32 × DataRecord) :=
  [(1, typeRecord 1 3), (1, typeRecord 2 3), (1, typeRecord 1 3), (1, typeRecord 2 13)]

theorem learnEach_twoTypes :
    (∃ dataType, (learnEach .new twoTypes).lookup 1 1 (some 9) =
      some ⟨1, some 9, "9.1", dataType⟩) ∧
      (learnEach .new twoTypes).lookup 1 2 (some 9) = none := by
  obtain ⟨agreed, split, _⟩ := (learnEach_any_order .new twoTypes).1 (by decide)
  obtain ⟨dataType, _, found⟩ := agreed 1 ⟨1, some 9, 3, 0, none⟩ (by decide) (by decide)
  refine ⟨⟨dataType, found⟩, split 1 2 (some 9) (Or.inr ?_)⟩
  exact ⟨⟨2, some 9, 3, 0, none⟩, by decide, ⟨2, some 9, 13, 0, none⟩, by decide, by decide⟩

end ElementTypes

end Rustflow.Ipfix
