import Rustflow.Collect.PartitionNames
import Rustflow.Collect.Recognition

/-!
# The files of a range

A listing leaves out directories whose period does not overlap the range. Every directory on the
way to a file has the instant of the file in its period, so no file of the range is missed.
-/

namespace Rustflow.Collect
open FileSystem Relation Text Gregorian

/-! ### Ranges of 64-bit timestamps -/

def Bound.IsI64 : Bound → Prop
  | .included t | .excluded t => -2 ^ 63 ≤ t ∧ t < 2 ^ 63
  | .unbounded => True

def TimeRange.IsI64 (range : TimeRange) : Prop := range.startBound.IsI64 ∧ range.endBound.IsI64

theorem Period.overlaps_of_mem {period : Period} {range : TimeRange} {t : Int}
    (bounds : range.IsI64) (small : t < 2 ^ 63) (mem : t ∈ period)
    (inside : range.contains t = true) : period.overlaps range = true := by
  obtain ⟨start, stop⟩ := range
  obtain ⟨low, high⟩ := mem
  obtain ⟨bounds, -⟩ := bounds
  simp only [TimeRange.contains, Bool.and_eq_true] at inside
  simp only [overlaps, Bool.and_eq_true]
  obtain ⟨after, before⟩ := inside
  constructor
  · cases start with
    | included first =>
      rw [decide_eq_true_eq] at after ⊢
      omega
    | excluded first =>
      -- An instant after the bound leaves room for the sum.
      rw [decide_eq_true_eq] at after ⊢
      have room : Int.bmod (first + 1) (2 ^ 64) = first + 1 := by
        have least : -2 ^ 63 ≤ first := bounds.1
        rw [Int.bmod_eq_of_le (by omega) (by omega)]
      omega
    | unbounded => rfl
  · cases stop with
    | included last =>
      rw [decide_eq_true_eq] at before ⊢
      omega
    | excluded last =>
      rw [decide_eq_true_eq] at before ⊢
      omega
    | unbounded => rfl

section
variable {calendar : Calendar} {layout : Layout} {stamp : DateTime} {fs : FileSystem OsStr}
  {range : TimeRange}

theorem timestamp_lt (digits : FourDigits stamp) : stamp.timestamp < 2 ^ 63 := by
  have days := (days_fourDigits (civil_valid stamp) digits.1 digits.2).2
  rw [civil, daysFromCivil_civilFromDays] at days
  omega

/-! ### Directories on the way to a file -/

theorem period_on_way (counts : calendar.CountsGregorian) (digits : FourDigits stamp)
    {above below : List String} {name : String}
    (way : layout.partitions calendar stamp = above ++ name :: below) :
    ∃ (span : Span) (period : Period), (above ++ [name]).map String.toList =
      layout.partitioning.spell (span.numbersOf stamp) ∧
      layout.period calendar (layout.root ++ above.map .utf8) name.toList = some period ∧
      period.Spans ((span.numbersOf stamp).map (↑)) := by
  have front : (above ++ [name]).map String.toList <+:
      layout.partitioning.spell (Span.bucket.numbersOf stamp) := by
    refine List.IsPrefix.trans ?_ (partitions_isPrefix counts digits)
    rw [way, List.append_cons above name below]
    exact (List.prefix_append _ _).map _
  obtain ⟨span, spelled⟩ := exists_span layout.partitioning (by simp) front
  have names : (above.map OsStr.utf8).map OsStr.text ++ [name.toList] =
      layout.partitioning.spell (span.numbersOf stamp) := by
    rw [← spelled, List.map_append, List.map_map]
    rfl
  obtain ⟨period, read, spans⟩ := period_of_stamp counts digits names
  exact ⟨span, period, spelled, read, spans⟩

theorem Period.Spans.mem_stamp {period : Period} {span : Span} (digits : FourDigits stamp)
    (spans : period.Spans ((span.numbersOf stamp).map (↑))) : stamp.timestamp ∈ period :=
  (spans.mem_iff _).mpr (numbersOf_fieldsOf digits span)

/-- Every directory lies in the period of the one above it. -/
theorem period_within (counts : calendar.CountsGregorian) (digits : FourDigits stamp)
    {before below : List String} {last name : String}
    (way : layout.partitions calendar stamp = before ++ last :: name :: below) {period : Period}
    (read : layout.period calendar (layout.root ++ (before ++ [last]).map .utf8) name.toList =
      some period) :
    ∃ outer, layout.period calendar (layout.root ++ before.map .utf8) last.toList = some outer ∧
      outer.start ≤ period.start ∧ period.stop ≤ outer.stop := by
  obtain ⟨span, outer, spelled, read', spans⟩ := period_on_way counts digits way
  obtain ⟨span', period', spelled', same, spans'⟩ :=
    period_on_way counts digits (way.trans (List.append_cons _ _ _))
  rw [read] at same
  cases same
  refine ⟨outer, read', spans.within spans' ?_⟩
  have lengths :=
    @length_spell span layout.partitioning _ _ _ _ _ (by rw [← Span.numbersOf, ← spelled]; simp)
  have lengths' :=
    @length_spell span' layout.partitioning _ _ _ _ _ (by rw [← Span.numbersOf, ← spelled']; simp)
  rw [← Span.numbersOf, ← spelled, List.length_map, List.length_append,
    List.length_singleton] at lengths
  rw [← Span.numbersOf, ← spelled', List.length_map, List.length_append, List.length_append,
    List.length_singleton] at lengths'
  refine List.prefix_of_prefix_length_le (numbersOf_fieldsOf digits span)
    (numbersOf_fieldsOf digits span') ?_
  rw [List.length_map, List.length_map]
  omega

/-- Two directories of one depth have no instant in common. -/
theorem periods_apart (counts : calendar.CountsGregorian) {dir dir' : PathBuf}
    {name name' : List Char} {period period' : Period}
    (read : layout.period calendar dir name = some period)
    (read' : layout.period calendar dir' name' = some period') (depth : dir.length = dir'.length)
    (different : dir.map OsStr.text ++ [name] ≠ dir'.map OsStr.text ++ [name']) :
    period.stop ≤ period'.start ∨ period'.stop ≤ period.start := by
  obtain ⟨relative, span, year, month, day, hour, minute, rfl, spelled, spans⟩ :=
    period_eq_some counts read
  obtain ⟨relative', span', year', month', day', hour', minute', rfl, spelled', spans'⟩ :=
    period_eq_some counts read'
  have lengths := length_spell layout.partitioning (by rw [← spelled]; simp)
  have lengths' := length_spell layout.partitioning (by rw [← spelled']; simp)
  rw [← spelled] at lengths
  rw [← spelled'] at lengths'
  simp only [List.length_append, List.length_map, List.length_singleton] at depth lengths lengths'
  refine spans.apart spans' ?_ fun same => different ?_
  · rw [List.length_map, List.length_map]
    omega
  · have numbers := List.map_injective_iff.mpr (fun a b => Int.ofNat.inj) same
    rw [List.map_append, List.map_append, List.append_assoc, List.append_assoc, spelled,
      spelled', numbers]

/-! ### Files -/

/-- A file name is one component, and does not look like that of a file being written. -/
structure Layout.NamesFiles (layout : Layout) : Prop where
  separator : '/' ∉ layout.namePrefix.toList ∧ '/' ∉ layout.extension.toList
  final : ¬ (['.'] <+: layout.namePrefix.toList ∧ ".tmp".toList <:+ '.' :: layout.extension.toList)

theorem separator_notMem_stampText (stamp : DateTime) : '/' ∉ stampText stamp := by
  have digits : ∀ width n, '/' ∉ padded width n := fun _ _ inside =>
    absurd (isDigit_of_mem_padded inside) (by decide)
  rw [stampText_eq]
  simp [digits]

theorem pushedPathFor_eq (counts : calendar.CountsGregorian) (names : layout.NamesFiles)
    (digits : FourDigits stamp) :
    layout.pushedPathFor calendar stamp = layout.pathFor calendar stamp := by
  have spelled := fileName_toList layout calendar stamp
  rw [format_stamp counts digits] at spelled
  have whole : '/' ∉ (layout.fileName calendar stamp).toList := by
    rw [spelled]
    simp [names.separator, separator_notMem_stampText]
  have dashed : '-' ∈ (layout.fileName calendar stamp).toList := by
    rw [spelled]
    simp
  have relative : (layout.fileName calendar stamp).toList.head? ≠ some '/' := fun first =>
    whole (List.mem_of_head? first)
  unfold Layout.pushedPathFor PathBuf.push Layout.pathFor
  dsimp only
  have named : (layout.fileName calendar stamp).toList ≠ [] ∧
      (layout.fileName calendar stamp).toList ≠ ['.'] := by
    refine ⟨List.ne_nil_of_mem dashed, fun dot => ?_⟩
    rw [dot] at dashed
    exact absurd dashed (by decide)
  rw [if_neg relative, List.splitOn_eq_singleton whole, List.filter_singleton, decide_eq_true named,
    cond_true, List.map_singleton, String.ofList_toList]

theorem name_pathFor (counts : calendar.CountsGregorian) (names : layout.NamesFiles)
    (digits : FourDigits stamp) :
    layout.name calendar (layout.fileName calendar stamp).toList =
      some (⟨stamp.timestamp * 1000000000⟩, false) := by
  have spelled := fileName_toList layout calendar stamp
  rw [format_stamp counts digits] at spelled
  have without : Layout.withoutTemporary (layout.fileName calendar stamp).toList =
      some ((layout.fileName calendar stamp).toList, false) := by
    rw [spelled, ← List.cons_append, ← List.append_assoc]
    refine withoutTemporary_final (fun hidden => names.final ⟨?_, hidden.2⟩) (by simp)
    obtain ⟨dotted, -⟩ := hidden
    cases first : layout.namePrefix.toList with
    | nil =>
      rw [first] at dotted
      exact absurd (List.cons_prefix_cons.mp dotted).1 (by decide)
    | cons c cs =>
      rw [first] at dotted
      rw [(List.cons_prefix_cons.mp dotted).1]
      exact ⟨cs, rfl⟩
  refine name_of_spells counts digits without ⟨[], .inl rfl, ?_⟩
  rw [spelled, List.append_nil]

theorem reached_way (counts : calendar.CountsGregorian) (digits : FourDigits stamp)
    (whole : fs.WellFormed) (bounds : range.IsI64) (inside : range.contains stamp.timestamp = true)
    (there : fs.lookup (layout.pathFor calendar stamp) ≠ none) {above below : List String}
    (way : layout.partitions calendar stamp = above ++ below) :
    Layout.Reached calendar layout fs range (layout.root ++ above.map .utf8) := by
  induction above using List.reverseRecOn generalizing below with
  | nil =>
    rw [List.map_nil, List.append_nil]
    exact .refl
  | append_singleton above name ih =>
    rw [List.append_assoc] at way
    obtain ⟨span, period, -, read, spans⟩ := period_on_way counts digits way
    have dir : fs.lookup (layout.root ++ (above ++ [name]).map .utf8) = some .dir := by
      refine whole.above (show below.map OsStr.utf8 ++ [.utf8 (layout.fileName calendar stamp)] ≠
        [] by simp) ?_
      rw [Layout.pathFor, way, ← List.append_assoc, List.map_append, ← List.append_assoc,
        List.append_assoc] at there
      exact there
    refine (ih way).tail ⟨.utf8 name, period, ?_, dir, read, ?_⟩
    · simp
    · exact Period.overlaps_of_mem bounds (timestamp_lt digits) (spans.mem_stamp digits) inside

theorem mem_files_pathFor (counts : calendar.CountsGregorian) (names : layout.NamesFiles)
    (digits : FourDigits stamp) (whole : fs.WellFormed) (bounds : range.IsI64) {inode : Nat}
    (there : fs.lookup (layout.pathFor calendar stamp) = some (.file inode)) {entry : Entry}
    (here : entry.path = layout.pathFor calendar stamp) :
    entry ∈ layout.files calendar fs range ↔ range.contains stamp.timestamp = true ∧
      entry = ⟨layout.pathFor calendar stamp, ⟨stamp.timestamp * 1000000000⟩, false⟩ := by
  have read := name_pathFor counts names digits
  rw [Layout.mem_files whole]
  constructor
  · rintro ⟨inside, dir, -, name, inode', same, -, read'⟩
    have last : name = .utf8 (layout.fileName calendar stamp) :=
      (List.cons.inj (List.append_inj' (same.symm.trans here) rfl).2).1
    rw [last] at read'
    obtain ⟨ofWindow, ofTemporary⟩ := Prod.mk.inj (Option.some.inj (read.symm.trans read'))
    rw [← ofWindow, timestamp_seconds] at inside
    refine ⟨inside, ?_⟩
    obtain ⟨path, window, temporary⟩ := entry
    dsimp only at here ofWindow ofTemporary
    rw [here, ofWindow, ofTemporary]
  · rintro ⟨inside, rfl⟩
    refine ⟨?_, layout.root ++ (layout.partitions calendar stamp).map .utf8, ?_,
      .utf8 (layout.fileName calendar stamp), inode, rfl, there, read⟩
    · rw [timestamp_seconds]
      exact inside
    · exact reached_way counts digits whole bounds
        inside (by rw [there]; exact Option.some_ne_none _) (List.append_nil _).symm

theorem reached_inside {dir : PathBuf} (reached : Layout.Reached calendar layout fs range dir) :
    layout.root <+: dir := by
  induction reached with
  | refl => exact List.prefix_rfl
  | tail _ enters ih =>
    obtain ⟨name, _, rfl, _⟩ := enters
    exact ih.trans (List.prefix_append _ _)

end

/-- Where the files below the root are those of the stamps, a listing has the ones whose stamp is in
the range, each once. -/
def Layout.ListsExactly (calendar : Calendar) (layout : Layout) : Prop :=
  ∀ fs : FileSystem OsStr, fs.WellFormed → ∀ stamps : Set DateTime,
    (∀ stamp ∈ stamps, FourDigits stamp) →
    (∀ path, layout.root <+: path → ((∃ inode, fs.lookup path = some (.file inode)) ↔
      ∃ stamp ∈ stamps, path = layout.pushedPathFor calendar stamp)) →
    ∀ range : TimeRange, range.IsI64 →
      (layout.files calendar fs range).Pairwise (·.path ≠ ·.path) ∧
      ∀ entry, entry ∈ layout.files calendar fs range ↔
        ∃ stamp ∈ stamps, range.contains stamp.timestamp = true ∧
          entry = ⟨layout.pushedPathFor calendar stamp, ⟨stamp.timestamp * 1000000000⟩, false⟩

theorem listsExactly {calendar : Calendar} {layout : Layout} (counts : calendar.CountsGregorian)
    (names : layout.NamesFiles) :
    layout.ListsExactly calendar := by
  intro fs whole stamps digits placed range bounds
  have pushed :
      ∀ stamp ∈ stamps, layout.pushedPathFor calendar stamp = layout.pathFor calendar stamp :=
    fun stamp chosen => pushedPathFor_eq counts names (digits stamp chosen)
  refine ⟨Layout.files_distinct, fun entry => ⟨fun listed => ?_, ?_⟩⟩
  · obtain ⟨-, dir, reached, name, inode, here, there, -⟩ := (Layout.mem_files whole).mp listed
    have below : layout.root <+: entry.path := by
      rw [here]
      exact (reached_inside reached).trans (List.prefix_append _ _)
    obtain ⟨stamp, chosen, at_⟩ := (placed entry.path below).mp ⟨inode, there⟩
    rw [pushed stamp chosen] at at_
    rw [at_] at there
    obtain ⟨inside, same⟩ :=
      (mem_files_pathFor counts names (digits stamp chosen) whole bounds there at_).mp listed
    rw [← pushed stamp chosen] at same
    exact ⟨stamp, chosen, inside, same⟩
  · rintro ⟨stamp, chosen, inside, rfl⟩
    have below : layout.root <+: layout.pushedPathFor calendar stamp := by
      rw [pushed stamp chosen, Layout.pathFor, List.append_assoc]
      exact List.prefix_append _ _
    obtain ⟨inode, there⟩ := (placed _ below).mpr ⟨stamp, chosen, rfl⟩
    rw [pushed stamp chosen] at there ⊢
    exact (mem_files_pathFor counts names (digits stamp chosen) whole bounds there rfl).mpr
      ⟨inside, rfl⟩

/-! ### Main result -/

/-- Every directory on the way to the file of a stamp has a period with the stamp in it, inside the
period of the directory above; siblings have periods apart. So a listing, which leaves out what does
not overlap the range, misses no file and has no other. -/
theorem pruning_misses_nothing (calendar : Calendar) (counts : calendar.CountsGregorian)
    (layout : Layout) :
    (∀ stamp, FourDigits stamp → ∀ above name below, layout.partitions calendar stamp =
      above ++ name :: below →
      ∃ period, layout.period calendar (layout.root ++ above.map .utf8) name.toList = some period ∧
        stamp.timestamp ∈ period ∧
        ∀ before last, above = before ++ [last] →
          ∃ outer, layout.period calendar (layout.root ++ before.map .utf8) last.toList =
            some outer ∧
            outer.start ≤ period.start ∧ period.stop ≤ outer.stop) ∧
    (∀ dir name name' period period', layout.period calendar dir name = some period →
      layout.period calendar dir name' = some period' → name ≠ name' →
      period.stop ≤ period'.start ∨ period'.stop ≤ period.start) ∧
    (layout.NamesFiles → layout.ListsExactly calendar) := by
  refine ⟨fun stamp digits above name below way => ?_, ?_, listsExactly counts⟩
  · obtain ⟨span, period, -, read, spans⟩ := period_on_way counts digits way
    refine ⟨period, read, spans.mem_stamp digits, ?_⟩
    rintro before last rfl
    rw [List.append_assoc] at way
    exact period_within counts digits way read
  · intro dir name name' period period' read read' different
    refine periods_apart counts read read' rfl fun same => different ?_
    exact List.singleton_injective (List.append_cancel_left same)

/-- A tree with these directories and files. -/
def treeOf (dirs files : List PathBuf) : FileSystem OsStr :=
  files.foldl (fun fs path => AList.insert path (.file 1) fs)
    (dirs.foldl (fun fs path => AList.insert path .dir fs) emptyTree)

theorem lookup_foldl_insert {node : Node} (paths : List PathBuf) (fs : FileSystem OsStr)
    (p : PathBuf) :
    (paths.foldl (fun fs path => AList.insert path node fs) fs).lookup p =
      if p ∈ paths then some node else fs.lookup p := by
  induction paths generalizing fs with
  | nil => rfl
  | cons path paths ih =>
    rw [List.foldl_cons, ih, Table.lookup_insert_eq]
    by_cases here : p = path <;> by_cases later : p ∈ paths <;> simp [here, later]

theorem treeOf_file {dirs files : List PathBuf} {p : PathBuf} :
    (∃ inode, (treeOf dirs files).lookup p = some (.file inode)) ↔ p ∈ files := by
  unfold treeOf emptyTree
  rw [lookup_foldl_insert, lookup_foldl_insert, Table.lookup_insert_eq, Table.lookup_insert_eq]
  constructor
  · rintro ⟨inode, there⟩
    split_ifs at there with file
    · exact file
    all_goals cases there
  · intro file
    exact ⟨1, if_pos file⟩

/-- A tree whose file names have a separator in their prefix. -/
def slashTree : Layout := { outTree 0 .plain with namePrefix := "a/b" }

/-- A tree of hidden files with the extension of temporary ones. -/
def hiddenTree : Layout := { outTree 0 .plain with namePrefix := ".flows", extension := "tmp" }

theorem not_listsExactly {layout : Layout} {dirs : List PathBuf}
    (whole : (treeOf dirs [layout.pushedPathFor calendar ⟨0⟩]).WellFormed)
    (unlisted : (layout.files calendar (treeOf dirs [layout.pushedPathFor calendar ⟨0⟩])
      ⟨.unbounded, .unbounded⟩).length = 0) : ¬ layout.ListsExactly calendar := by
  intro lists
  have file := lists _ whole {⟨0⟩}
    (by
      rintro stamp rfl
      exact ⟨by decide, by decide⟩)
    (by
      intro path _
      rw [treeOf_file]
      simp)
    ⟨.unbounded, .unbounded⟩ ⟨trivial, trivial⟩
  have listed := (file.2 _).mpr ⟨⟨0⟩, rfl, rfl, rfl⟩
  rw [List.length_eq_zero_iff.mp unlisted] at listed
  cases listed

/-- The file of the one tree is in a directory that is no partition, that of the other looks like
one being written. -/
theorem hidden_missed : slashTree.period calendar slashTree.root "a".toList = none ∧
    ¬ slashTree.ListsExactly calendar ∧ ¬ hiddenTree.ListsExactly calendar := by
  refine ⟨by decide +kernel, ?_, ?_⟩
  · refine @not_listsExactly slashTree [["out", "a"].map .utf8] ?_ (by decide +kernel)
    exact (emptyTree_wellFormed.insert (by decide +kernel) (by decide +kernel)).insert
      (by decide +kernel) (by decide +kernel)
  · refine @not_listsExactly hiddenTree [] ?_ (by decide +kernel)
    exact emptyTree_wellFormed.insert (by decide +kernel) (by decide +kernel)

/-! ### Two buckets -/

def hiveTree : Layout := outTree 3 .hive

/-- Two windows of one bucket, and one of the next. -/
def windows : List DateTime :=
  [⟨1787832180 * 1000000000⟩, ⟨1787832240 * 1000000000⟩, ⟨1787832480 * 1000000000⟩]

theorem mem_windows {stamp : DateTime} : stamp ∈ windows ↔ stamp = ⟨1787832180 * 1000000000⟩ ∨
    stamp = ⟨1787832240 * 1000000000⟩ ∨ stamp = ⟨1787832480 * 1000000000⟩ := by
  simp [windows]

def twoBuckets : FileSystem OsStr :=
  treeOf [["out", "date=2026-08-27"].map .utf8, ["out", "date=2026-08-27", "hour=12"].map .utf8,
    ["out", "date=2026-08-27", "hour=12", "minute=00"].map .utf8,
    ["out", "date=2026-08-27", "hour=12", "minute=05"].map .utf8]
      (windows.map (hiveTree.pushedPathFor calendar))

theorem twoBuckets_wellFormed : twoBuckets.WellFormed := by
  have step : ∀ {fs : FileSystem OsStr} {path : PathBuf} {node : Node}, fs.WellFormed →
      fs.lookup path = none → fs.lookup path.dropLast = some .dir →
      FileSystem.WellFormed (AList.insert path node fs) :=
    fun whole absent above => whole.insert absent above
  refine step
    (step (step (step (step (step (step emptyTree_wellFormed ?_ ?_) ?_ ?_) ?_ ?_) ?_ ?_) ?_ ?_)
      ?_ ?_) ?_ ?_
  all_goals decide +kernel

/-- A listing has the two files of the range and leaves out the directory of the third. -/
theorem window_listed :
    (∃ period, hiveTree.period calendar (["out", "date=2026-08-27", "hour=12"].map .utf8)
      "minute=00".toList =
      some period ∧ 1787832180 ∈ period) ∧
    (∀ period, hiveTree.period calendar (["out", "date=2026-08-27", "hour=12"].map .utf8)
      "minute=05".toList =
      some period → period.overlaps ⟨.included 1787832180, .excluded 1787832300⟩ = false) ∧
    ∀ entry, entry ∈ hiveTree.files calendar twoBuckets ⟨.included 1787832180,
      .excluded 1787832300⟩ ↔
      entry = ⟨hiveTree.pushedPathFor calendar ⟨1787832180 * 1000000000⟩,
        ⟨1787832180 * 1000000000⟩, false⟩ ∨
      entry = ⟨hiveTree.pushedPathFor calendar ⟨1787832240 * 1000000000⟩,
        ⟨1787832240 * 1000000000⟩, false⟩ := by
  obtain ⟨onWay, -, lists⟩ := pruning_misses_nothing calendar countsGregorian hiveTree
  obtain ⟨period, read, mem, -⟩ := onWay ⟨1787832180 * 1000000000⟩ ⟨by decide, by decide⟩
    ["date=2026-08-27", "hour=12"] "minute=00" [] (by decide +kernel)
  have pruned :
      hiveTree.period calendar (["out", "date=2026-08-27", "hour=12"].map .utf8)
        "minute=05".toList =
      some ⟨1787832300, 1787832600⟩ := by decide +kernel
  refine ⟨⟨period, read, mem⟩, fun period read => ?_, fun entry => ?_⟩
  · rw [pruned] at read
    cases read
    rfl
  have listed :=
    lists ⟨by decide, by decide⟩ twoBuckets twoBuckets_wellFormed {stamp | stamp ∈ windows}
    (by
      intro stamp chosen
      obtain rfl | rfl | rfl := mem_windows.mp chosen
      all_goals exact ⟨by decide, by decide⟩)
    (by
      intro path _
      unfold twoBuckets
      rw [treeOf_file, List.mem_map]
      exact exists_congr fun _ => and_congr_right fun _ => eq_comm)
    ⟨.included 1787832180, .excluded 1787832300⟩ ⟨⟨by decide, by decide⟩, ⟨by decide, by decide⟩⟩
  rw [listed.2 entry]
  constructor
  · rintro ⟨stamp, chosen, inside, rfl⟩
    obtain rfl | rfl | rfl := mem_windows.mp chosen
    · exact .inl rfl
    · exact .inr rfl
    · cases inside
  · rintro (rfl | rfl)
    · exact ⟨_, mem_windows.mpr (.inl rfl), by decide, rfl⟩
    · exact ⟨_, mem_windows.mpr (.inr (.inl rfl)), by decide, rfl⟩

end Rustflow.Collect
