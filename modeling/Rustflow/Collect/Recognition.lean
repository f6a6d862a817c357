import Rustflow.Collect.CalendarLaws
import Rustflow.Collect.OwnNames

/-!
# A layout and its own names

A layout reads the window back out of every name that it makes. A layout with another prefix or
another extension reads nothing out of them.
-/

namespace Rustflow.Collect
open Text Gregorian

/-- The prefix and the extension make one name out of a stamp, and not a temporary one. -/
structure Layout.Nameable (layout : Layout) : Prop where
  separator : '/' ∉ layout.namePrefix.toList
  dot : '.' ∉ layout.extension.toList
  final : layout.extension ≠ "tmp"

/-- A whole second of a year with four digits, as windows start at. -/
structure StartsWindow (stamp : DateTime) : Prop where
  digits : FourDigits stamp
  whole : stamp.nanos % 1000000000 = 0

/-- The text is a final name for the window: with the stamp, and perhaps a number, between prefix
and extension. -/
def Layout.Spells (self : Layout) (stamp : DateTime) (text : List Char) : Prop :=
  ∃ rest, Numbered rest ∧ text = self.namePrefix.toList ++ '-' ::
    (stampText stamp ++ rest ++ '.' :: self.extension.toList)

section
variable {calendar : Calendar} {layout other : Layout} {stamp window : DateTime} {temporary : Bool}
  {text name : List Char}

/-! ### Stamps in names -/

theorem byteLength_stampText (digits : FourDigits stamp) :
    byteLength (stampText stamp) = STAMP_LEN := by
  have months := (civil_valid stamp).month_le
  have days := (civil_valid stamp).day_lt
  have day := secondOfDay_lt stamp
  obtain ⟨low, high⟩ := digits
  have two : ∀ n < 100, byteLength (padded 2 n) = 2 := fun n short =>
    (byteLength_of_isDigit fun c => isDigit_of_mem_padded).trans (length_padded (by decide) short)
  have four : byteLength (padded 4 (civil stamp).year.toNat) = 4 :=
    (byteLength_of_isDigit fun c => isDigit_of_mem_padded).trans
      (length_padded (by decide) (by omega))
  rw [stampText_eq]
  simp only [byteLength_append, four, two (civil stamp).month (by omega),
    two (civil stamp).day (by omega), two (secondOfDay stamp / 3600) (by omega),
    two (secondOfDay stamp / 60 % 60) (by omega), two (secondOfDay stamp % 60) (by omega)]
  rfl

theorem format_stamp (counts : calendar.CountsGregorian) (digits : FourDigits stamp) :
    (calendar.format STAMP_FORMAT stamp).toList = stampText stamp := by
  rw [counts.format stamp digits STAMP_FORMAT (by simp [layoutPatterns])]
  rfl

theorem stampText_concat (stamp : DateTime) : ∃ front, stampText stamp = front ++ ['Z'] :=
  ⟨_, stampText_eq stamp⟩

theorem Numbered.notMem {rest : List Char} (numbered : Numbered rest) : 'Z' ∉ rest := by
  rcases numbered with rfl | ⟨n, rfl, number⟩
  · exact List.not_mem_nil
  · simp only [isNumber, Bool.and_eq_true, List.all_eq_true] at number
    intro inside
    rcases List.mem_cons.mp inside with dash | digit
    · exact absurd dash (by decide)
    · exact absurd (number.2 _ digit) (by decide)

/-! ### The names that are made -/

theorem splitFileAtDot_append {before after : List Char} (absent : '.' ∉ after)
    (named : '-' ∈ before) :
    splitFileAtDot (before ++ '.' :: after) = (before, some after) := by
  have dots : before ++ '.' :: after ≠ ['.', '.'] := by
    intro same
    have inside : '-' ∈ ['.', '.'] := same ▸ List.mem_append_left _ named
    exact absurd inside (by decide)
  have filled : before.isEmpty = false := List.isEmpty_eq_false_iff.mpr (List.ne_nil_of_mem named)
  rw [splitFileAtDot, if_neg dots, rsplitOnce_append absent]
  dsimp only
  rw [filled]
  rfl

theorem candidates_eq {wanted : PathBuf} {stem extension : List Char}
    (split : splitFileAtDot (fileNameText wanted).toList = (stem, some extension)) :
    candidates wanted = wanted :: (List.range' 1 (MAX_NAME_ATTEMPTS - 1)).map fun n =>
      withFileName wanted (String.ofList stem ++ "-" ++ toString n ++
        ("." ++ String.ofList extension)) := by
  unfold candidates
  rw [split]

theorem spells_candidate (counts : calendar.CountsGregorian) (nameable : layout.Nameable)
    (digits : FourDigits stamp) {path : PathBuf}
    (inside : path ∈ candidates (layout.pathFor calendar stamp)) :
    layout.Spells stamp (fileNameText path).toList := by
  have spelled := fileName_toList layout calendar stamp
  rw [format_stamp counts digits] at spelled
  have split :=
    @splitFileAtDot_append (layout.namePrefix.toList ++ '-' :: stampText stamp)
      _ nameable.dot (by simp)
  rw [List.append_assoc, List.cons_append, ← spelled, ← fileNameText_pathFor] at split
  rw [candidates_eq split] at inside
  rcases List.mem_cons.mp inside with rfl | later
  · refine ⟨[], .inl rfl, ?_⟩
    rw [fileNameText_pathFor, spelled, List.append_nil]
  · obtain ⟨n, -, rfl⟩ := List.mem_map.mp later
    refine ⟨'-' :: Nat.toDigits 10 n, .inr ⟨_, rfl, isNumber_toDigits n⟩, ?_⟩
    simp [fileNameText, withFileName, OsStr.toStringLossy]

theorem tmp_toList (pid : Nat) (path : PathBuf) :
    (fileNameText (tempPath pid path)).toList =
      '.' :: ((fileNameText path).toList ++ '.' :: Nat.toDigits 10 pid) ++ ".tmp".toList := by
  simp [fileNameText, tempPath, withFileName, OsStr.toStringLossy]

/-! ### What is read out of them -/

theorem withoutTemporary_final {front extension : List Char}
    (final : ¬ (['.'] <+: front ∧ ".tmp".toList <:+ '.' :: extension)) (named : front ≠ []) :
    Layout.withoutTemporary (front ++ '.' :: extension) =
      some (front ++ '.' :: extension, false) := by
  have absent : (stripPrefix ['.'] (front ++ '.' :: extension)).bind (stripSuffix ".tmp".toList) =
      none := by
    rw [Option.eq_none_iff_forall_ne_some]
    intro stem read
    obtain ⟨undotted, dotted, ended⟩ := Option.bind_eq_some_iff.mp read
    rw [stripPrefix_eq_some] at dotted
    rw [stripSuffix_eq_some] at ended
    rw [ended] at dotted
    refine final ⟨?_, ?_⟩
    · obtain ⟨c, cs, rfl⟩ := List.exists_cons_of_ne_nil named
      obtain ⟨rfl, -⟩ := List.cons.inj dotted
      exact ⟨cs, rfl⟩
    · have marked : ".tmp".toList <:+ ['.'] ++ (stem ++ ".tmp".toList) :=
        (List.suffix_append _ _).trans (List.suffix_append _ _)
      have extended : '.' :: extension <:+ ['.'] ++ (stem ++ ".tmp".toList) := by
        rw [← dotted]
        exact List.suffix_append _ _
      rcases List.suffix_or_suffix_of_suffix marked extended with inside | ⟨before, same⟩
      · exact inside
      · -- A shorter suffix of `.tmp` has no dot.
        have letters : ".tmp".toList = ['.', 't', 'm', 'p'] := rfl
        rw [letters] at same ⊢
        cases before with
        | nil => exact ⟨[], same.symm⟩
        | cons c before =>
          obtain ⟨-, rest⟩ : c = '.' ∧ before ++ '.' :: extension = ['t', 'm', 'p'] :=
            List.cons.inj same
          have inside : '.' ∈ before ++ '.' :: extension := by simp
          rw [rest] at inside
          exact absurd inside (by decide)
  rw [Layout.withoutTemporary, absent]

theorem Layout.Nameable.notTmp (nameable : layout.Nameable) :
    ¬ ".tmp".toList <:+ '.' :: layout.extension.toList := by
  rintro ⟨front, same⟩
  have dots : front ++ '.' :: "tmp".toList = [] ++ '.' :: layout.extension.toList := same
  exact nameable.final (String.toList_inj.mp (append_cons_inj (by decide) nameable.dot dots).2.symm)

theorem name_of_spells (counts : calendar.CountsGregorian) (digits : FourDigits stamp)
    (without : Layout.withoutTemporary text = some (name, temporary))
    (spells : layout.Spells stamp name) :
    layout.name calendar text = some (⟨stamp.timestamp * 1000000000⟩, temporary) := by
  obtain ⟨rest, numbered, made⟩ := spells
  refine name_eq_some.mpr ⟨name, stampText stamp, rest, without, made, byteLength_stampText digits,
    numbered, ?_⟩
  rw [stampText, String.ofList_toList, counts.readsBack stamp digits]

theorem StartsWindow.seconds (starts : StartsWindow stamp) :
    stamp.timestamp * 1000000000 = stamp.nanos := by
  have whole := starts.whole
  unfold DateTime.timestamp
  omega

/-- Where a name ends in an extension that both have no dot in, and the last `Z` ends the stamp, the
prefix is the rest. -/
theorem spells_inj (digits : FourDigits stamp) (dot : '.' ∉ layout.extension.toList)
    (dot' : '.' ∉ other.extension.toList) (spells : layout.Spells stamp name)
    {head rest : List Char} (stamped : byteLength head = STAMP_LEN)
    (ends : ∃ front, head = front ++ ['Z']) (numbered : Numbered rest)
    (made : name = other.namePrefix.toList ++ '-' ::
      (head ++ rest ++ '.' :: other.extension.toList)) :
    other.namePrefix = layout.namePrefix ∧ other.extension = layout.extension := by
  obtain ⟨rest', numbered', made'⟩ := spells
  obtain ⟨front, rfl⟩ := ends
  obtain ⟨front', stampEnds⟩ := stampText_concat stamp
  have stamped' := byteLength_stampText digits
  rw [stampEnds] at made' stamped'
  have same :
      (other.namePrefix.toList ++ '-' :: (front ++ 'Z' :: rest)) ++ '.' :: other.extension.toList =
      (layout.namePrefix.toList ++ '-' :: (front' ++ 'Z' :: rest')) ++ '.' ::
        layout.extension.toList := by
    have whole := made.symm.trans made'
    simpa only [List.append_assoc, List.cons_append, List.nil_append] using whole
  obtain ⟨stems, extensions⟩ := append_cons_inj dot' dot same
  have zs : (other.namePrefix.toList ++ '-' :: front) ++ 'Z' :: rest =
      (layout.namePrefix.toList ++ '-' :: front') ++ 'Z' :: rest' := by
    simpa only [List.append_assoc, List.cons_append] using stems
  obtain ⟨fronts, -⟩ := append_cons_inj numbered.notMem numbered'.notMem zs
  have lengths : byteLength ('-' :: front) = byteLength ('-' :: front') := by
    rw [byteLength_append] at stamped stamped'
    show byteLength (['-'] ++ front) = byteLength (['-'] ++ front')
    rw [byteLength_append, byteLength_append]
    omega
  obtain ⟨prefixes, -⟩ := append_inj_of_byteLength fronts lengths
  exact ⟨String.toList_inj.mp prefixes, String.toList_inj.mp extensions⟩

theorem name_eq_none_of_spells (counts : calendar.CountsGregorian) (digits : FourDigits stamp)
    (nameable : layout.Nameable) (nameable' : other.Nameable)
    (different : other.namePrefix ≠ layout.namePrefix ∨ other.extension ≠ layout.extension)
    (without : Layout.withoutTemporary text = some (name, temporary))
    (spells : layout.Spells stamp name) :
    other.name calendar text = none := by
  rw [Option.eq_none_iff_forall_ne_some]
  rintro ⟨window, temporary'⟩ read
  obtain ⟨name', head, rest, without', made, stamped, numbered, parsed⟩ := name_eq_some.mp read
  rw [without] at without'
  cases without'
  have ends := counts.readsStamps _ _ parsed
  rw [String.toList_ofList] at ends
  obtain ⟨prefixes, extensions⟩ :=
    spells_inj digits nameable.dot nameable'.dot spells stamped ends numbered made
  rcases different with apart | apart
  · exact apart prefixes
  · exact apart extensions

end

/-! ### Main result -/

/-- A layout reads the window in the names of a window's file: all the final names and the
temporary one. A layout with another prefix or extension reads none there, and does not list the
files. -/
theorem recognises_its_own (calendar : Calendar) (counts : calendar.CountsGregorian)
    (layout : Layout) (nameable : layout.Nameable) (stamp : DateTime) (starts : StartsWindow stamp)
    (pid : Nat) (path : PathBuf) (made : path ∈ candidates (layout.pathFor calendar stamp)) :
    layout.name calendar (fileNameText path).toList = some (stamp, false) ∧
    layout.name calendar (fileNameText (tempPath pid path)).toList = some (stamp, true) ∧
    ∀ other : Layout, other.Nameable → other.namePrefix ≠ layout.namePrefix ∨
    other.extension ≠ layout.extension →
      other.name calendar (fileNameText path).toList = none ∧
      other.name calendar (fileNameText (tempPath pid path)).toList = none ∧
      ∀ fs : FileSystem OsStr, fs.WellFormed → ∀ range, ∀ entry ∈ other.files calendar fs range,
        entry.path ≠ path ∧ entry.path ≠ tempPath pid path := by
  have spells := spells_candidate counts nameable starts.digits made
  have final : Layout.withoutTemporary (fileNameText path).toList =
      some ((fileNameText path).toList, false) := by
    obtain ⟨rest, -, spelled⟩ := spells
    rw [spelled, ← List.cons_append, ← List.append_assoc]
    exact withoutTemporary_final (fun hidden => nameable.notTmp hidden.2) (by simp)
  have temporary : Layout.withoutTemporary (fileNameText (tempPath pid path)).toList =
      some ((fileNameText path).toList, true) := by
    rw [tmp_toList]
    exact withoutTemporary_tmp _ pid
  have own := name_of_spells counts starts.digits final spells
  have own' := name_of_spells counts starts.digits temporary spells
  rw [starts.seconds] at own own'
  refine ⟨own, own', ?_⟩
  intro other nameable' different
  have unread :=
    name_eq_none_of_spells counts starts.digits nameable nameable' different final spells
  have unread' :=
    name_eq_none_of_spells counts starts.digits nameable nameable' different temporary spells
  refine ⟨unread, unread', fun fs whole range entry listed => ?_⟩
  obtain ⟨-, dir, -, name, inode, here, -, read⟩ := (Layout.mem_files whole).mp listed
  have text : fileNameText entry.path = name.toStringLossy := by
    rw [here, fileNameText, List.getLast?_concat]
    rfl
  rw [OsStr.text, ← text] at read
  constructor
  · intro same
    rw [same, unread] at read
    cases read
  · intro same
    rw [same, unread'] at read
    cases read

/-- A file of the default tree is not taken for one of a tree whose prefix looks like a stamp. -/
theorem flows_recognised :
    (outTree 3 .plain).name calendar
      (fileNameText ((outTree 3 .plain).pathFor calendar ⟨1787832180 * 1000000000⟩)).toList =
      some (⟨1787832180 * 1000000000⟩, false) ∧
    ({ outTree 3 .plain with namePrefix := "flows-20260827T120300Z" } : Layout).name calendar
      (fileNameText ((outTree 3 .plain).pathFor calendar ⟨1787832180 * 1000000000⟩)).toList =
        none := by
  obtain ⟨own, -, others⟩ :=
    recognises_its_own calendar countsGregorian (outTree 3 .plain) ⟨by decide, by decide, by decide⟩
    ⟨1787832180 * 1000000000⟩ ⟨⟨by decide, by decide⟩, by decide⟩ 4242 _ List.mem_cons_self
  exact ⟨own,
    (others
      { outTree 3 .plain with namePrefix := "flows-20260827T120300Z" }
      ⟨by decide, by decide, by decide⟩
    (.inl (by decide))).1⟩

end Rustflow.Collect
