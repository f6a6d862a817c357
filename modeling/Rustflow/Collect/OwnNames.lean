import Rustflow.Collect.FinalNames
import Rustflow.Collect.Walk

/-!
# Names of the files of one window

The temporary name of a window's file and all its candidates carry the stamp of the window, so
that nothing reads another window out of them.
-/

namespace Rustflow.Collect
open Text

/-- The date library reads the second back that it wrote as a stamp, or reads nothing where the
year does not have four digits. -/
def Calendar.ReadsBack (calendar : Calendar) (stamp : DateTime) : Prop :=
  ∀ rest head tail window, splitAtChecked STAMP_LEN ((calendar.format STAMP_FORMAT stamp).toList ++
    rest) = some (head, tail) →
    calendar.parseFromStr (String.ofList head) STAMP_FORMAT = some window →
    window.timestamp = stamp.timestamp

theorem splitAtChecked_append {n : Nat} {text head tail : List Char}
    (split : splitAtChecked n text = some (head, tail)) (more : List Char) :
    splitAtChecked n (text ++ more) = some (head, tail ++ more) := by
  rw [splitAtChecked_eq_some] at split ⊢
  exact ⟨by rw [split.1, List.append_assoc], split.2⟩

/-- No text that goes on with a dash is itself with a dot before it. -/
theorem dot_shift {before after after' : List Char}
    (same : before ++ '-' :: after = '.' :: (before ++ '-' :: after')) : False := by
  induction before with
  | nil =>
    have first := (List.cons.inj same).1
    exact absurd first (by decide)
  | cons c before ih =>
    obtain ⟨rfl, rest⟩ := List.cons.inj same
    exact ih rest

def Numbered (rest : List Char) : Prop := rest = [] ∨ ∃ n, rest = '-' :: n ∧ isNumber n = true

section
variable {calendar : Calendar} {layout : Layout} {stamp window : DateTime} {temporary : Bool}
  {text : List Char}

/-- What a name is made of in which a window is read. -/
theorem name_eq_some :
    layout.name calendar text = some (window, temporary) ↔
      ∃ name head rest, Layout.withoutTemporary text = some (name, temporary) ∧
        name = layout.namePrefix.toList ++ '-' :: (head ++ rest ++ '.' :: layout.extension.toList) ∧
        byteLength head = STAMP_LEN ∧ Numbered rest ∧
        calendar.parseFromStr (String.ofList head) STAMP_FORMAT = some window := by
  constructor
  · intro read
    unfold Layout.name at read
    obtain ⟨⟨name, temporary'⟩, without, read⟩ := Option.bind_eq_some_iff.mp read
    obtain ⟨afterPrefix, prefixed, read⟩ := Option.bind_eq_some_iff.mp read
    obtain ⟨afterDash, dashed, read⟩ := Option.bind_eq_some_iff.mp read
    obtain ⟨beforeExtension, extended, read⟩ := Option.bind_eq_some_iff.mp read
    obtain ⟨middle, dotted, read⟩ := Option.bind_eq_some_iff.mp read
    obtain ⟨⟨head, rest⟩, split, read⟩ := Option.bind_eq_some_iff.mp read
    rw [stripPrefix_eq_some] at prefixed dashed
    rw [stripSuffix_eq_some] at extended dotted
    obtain ⟨whole, stamped⟩ := splitAtChecked_eq_some.mp split
    have parses : Numbered rest ∧
        (calendar.parseFromStr (String.ofList head) STAMP_FORMAT).bind
          (fun window => some (window, temporary')) =
          some (window, temporary) := by
      dsimp only at read
      split at read
      · rename_i n digits
        split at read
        · rename_i number
          exact ⟨.inr ⟨n, stripPrefix_eq_some.mp digits, number⟩, read⟩
        · cases read
      · split at read
        · rename_i none empty
          exact ⟨.inl (List.isEmpty_iff.mp empty), read⟩
        · cases read
    obtain ⟨numbered, parses⟩ := parses
    obtain ⟨window', parsed, same⟩ := Option.bind_eq_some_iff.mp parses
    cases same
    refine ⟨name, head, rest, without, ?_, stamped, numbered, parsed⟩
    rw [prefixed, dashed, extended, dotted, whole, List.append_assoc]
    simp
  · rintro ⟨_, head, rest, without, rfl, stamped, numbered, parsed⟩
    have middle :
        layout.namePrefix.toList ++ '-' :: (head ++ rest ++ '.' :: layout.extension.toList) =
        layout.namePrefix.toList ++ (['-'] ++
          (head ++ rest ++ ['.'] ++ layout.extension.toList)) := by simp
    have split : splitAtChecked STAMP_LEN (head ++ rest) = some (head, rest) :=
      splitAtChecked_eq_some.mpr ⟨rfl, stamped⟩
    rw [middle] at without
    simp only [Layout.name, without, Option.bind_eq_bind, Option.bind_some, stripPrefix_append,
      stripSuffix_append, split]
    rcases numbered with rfl | ⟨n, rfl, number⟩
    · rw [parsed]
      rfl
    · rw [show stripPrefix ['-'] ('-' :: n) = some n from stripPrefix_append ['-'] n]
      simp [number, parsed]

theorem name_parts (read : layout.name calendar text = some (window, temporary)) :
    ∃ name middle head rest, Layout.withoutTemporary text = some (name, temporary) ∧
      name = layout.namePrefix.toList ++ '-' :: (middle ++ '.' :: layout.extension.toList) ∧
      splitAtChecked STAMP_LEN middle = some (head, rest) ∧
      calendar.parseFromStr (String.ofList head) STAMP_FORMAT = some window := by
  obtain ⟨name, head, rest, without, made, stamped, -, parsed⟩ := name_eq_some.mp read
  exact ⟨name, head ++ rest, head, rest, without, made,
    splitAtChecked_eq_some.mpr ⟨rfl, stamped⟩, parsed⟩

/-- A name with the stamp of a window after the prefix is read as of that window. -/
theorem window_of_stamp (reads : calendar.ReadsBack stamp)
    (read : layout.name calendar text = some (window, temporary)) {name rest : List Char}
    (without : Layout.withoutTemporary text = some (name, temporary))
    (stamped : name = layout.namePrefix.toList ++ '-' ::
      ((calendar.format STAMP_FORMAT stamp).toList ++ rest)) :
    window.timestamp = stamp.timestamp := by
  obtain ⟨name', middle, head, rest', without', made, split, parsed⟩ := name_parts read
  rw [without] at without'
  cases without'
  rw [stamped] at made
  have same := (List.cons.inj (List.append_cancel_left made)).2
  have whole := splitAtChecked_append split ('.' :: layout.extension.toList)
  rw [← same] at whole
  exact reads rest head _ window whole parsed

theorem window_of_final (reads : calendar.ReadsBack stamp)
    (read : layout.name calendar text = some (window, temporary)) {rest : List Char}
    (stamped : text = layout.namePrefix.toList ++ '-' ::
      ((calendar.format STAMP_FORMAT stamp).toList ++ rest)) :
    window.timestamp = stamp.timestamp := by
  obtain ⟨name, middle, head, rest', without, made, -, -⟩ := name_parts read
  have without' := without
  unfold Layout.withoutTemporary at without
  split at without
  · rename_i tmp stripped
    obtain ⟨undotted, dotted, ended⟩ := Option.bind_eq_some_iff.mp stripped
    obtain ⟨⟨name', pid⟩, parts, numbered⟩ := Option.bind_eq_some_iff.mp without
    rw [stripPrefix_eq_some] at dotted
    rw [stripSuffix_eq_some] at ended
    obtain ⟨parted, -⟩ := rsplitOnce_eq_some parts
    dsimp only at numbered
    split at numbered
    · cases numbered
      -- With a temporary name the prefix would start one character later, too.
      rw [stamped, ended, parted, made] at dotted
      simp only [List.append_assoc, List.cons_append] at dotted
      exact (dot_shift dotted).elim
    · cases numbered
  · cases without
    exact window_of_stamp reads read without' stamped

theorem isNumber_toDigits (n : Nat) : isNumber (Nat.toDigits 10 n) = true := by
  unfold isNumber
  rw [Bool.and_eq_true, Bool.not_eq_true', List.isEmpty_eq_false_iff, List.all_eq_true]
  exact ⟨Nat.toDigits_ne_nil, fun c inside => isDigit_of_mem_toDigits inside⟩

theorem withoutTemporary_tmp (name : List Char) (pid : Nat) :
    Layout.withoutTemporary ('.' :: (name ++ '.' :: Nat.toDigits 10 pid) ++ ".tmp".toList) =
      some (name, true) := by
  have stripped :
      (stripPrefix ['.'] ('.' :: (name ++ '.' :: Nat.toDigits 10 pid) ++ ".tmp".toList)).bind
      (stripSuffix ".tmp".toList) = some (name ++ '.' :: Nat.toDigits 10 pid) := by
    have dotted :
        stripPrefix ['.'] ('.' :: (name ++ '.' :: Nat.toDigits 10 pid) ++ ".tmp".toList) = _ :=
      stripPrefix_append ['.'] (name ++ '.' :: Nat.toDigits 10 pid ++ ".tmp".toList)
    rw [dotted, Option.bind_some, stripSuffix_append]
  unfold Layout.withoutTemporary
  rw [stripped]
  dsimp only
  rw [rsplitOnce_append (dot_notMem_toDigits pid), Option.bind_eq_bind, Option.bind_some]
  exact if_pos (isNumber_toDigits pid)

theorem fileName_toList (layout : Layout) (calendar : Calendar) (stamp : DateTime) :
    (layout.fileName calendar stamp).toList = layout.namePrefix.toList ++
      '-' :: ((calendar.format STAMP_FORMAT stamp).toList ++ '.' :: layout.extension.toList) := by
  simp only [Layout.fileName, String.toList_append, List.append_assoc]
  rfl

theorem fileNameText_pathFor :
    fileNameText (layout.pathFor calendar stamp) = layout.fileName calendar stamp := by
  rw [fileNameText, Layout.pathFor, List.getLast?_concat]
  rfl

/-- Whatever window is read in the last component of the path, it is the one of the stamp. -/
def Carries (calendar : Calendar) (layout : Layout) (stamp : DateTime) (path : PathBuf) : Prop :=
  ∀ dir name window temporary, path = dir ++ [name] → layout.name calendar name.text =
    some (window, temporary) →
    window.timestamp = stamp.timestamp

theorem carries_withFileName {path : PathBuf} {s : String}
    (read : ∀ window temporary, layout.name calendar s.toList = some (window, temporary) →
      window.timestamp = stamp.timestamp) :
    Carries calendar layout stamp (withFileName path s) := by
  intro dir name window temporary same named
  obtain ⟨-, last⟩ := List.append_inj' same rfl
  rw [← (List.cons.inj last).1] at named
  exact read window temporary named

theorem carries_tempPath (reads : calendar.ReadsBack stamp) (pid : Nat) :
    Carries calendar layout stamp (tempPath pid (layout.pathFor calendar stamp)) := by
  refine carries_withFileName fun window temporary read => ?_
  rw [fileNameText_pathFor] at read
  have spelled : ("." ++ layout.fileName calendar stamp ++ "." ++ toString pid ++ ".tmp").toList =
      '.' :: ((layout.fileName calendar stamp).toList ++ '.' :: Nat.toDigits 10 pid) ++
        ".tmp".toList := by
    simp only [String.toList_append, Nat.toString_eq_repr, Nat.toList_repr, List.append_assoc,
      List.cons_append]
    rfl
  rw [spelled] at read
  obtain ⟨name, _, _, _, without, _⟩ := name_parts read
  have temporary' := without
  rw [withoutTemporary_tmp] at temporary'
  cases temporary'
  exact window_of_stamp reads read without (fileName_toList layout calendar stamp)

/-- What comes before the last dot has all that comes before another. -/
theorem splitFileAtDot_stem (before after : List Char) :
    ∃ more, (splitFileAtDot (before ++ '.' :: after)).1 = before ++ more := by
  unfold splitFileAtDot
  split
  · exact ⟨_, rfl⟩
  split
  · rename_i stem extension found
    split
    · exact ⟨_, rfl⟩
    · obtain ⟨same, absent⟩ := rsplitOnce_eq_some found
      rcases List.append_eq_append_iff.mp same with ⟨more, rfl, -⟩ | ⟨more, rfl, last⟩
      · exact ⟨more, rfl⟩
      · cases more with
        | nil => exact ⟨[], by rw [List.append_nil, List.append_nil]⟩
        | cons c more =>
          have inside : '.' ∈ extension := by
            rw [(List.cons.inj last).2]
            exact List.mem_append_right _ List.mem_cons_self
          exact absurd inside absent
  · exact ⟨_, rfl⟩

theorem mem_candidates {wanted path : PathBuf} (inside : path ∈ candidates wanted) :
    path = wanted ∨ ∃ rest : String,
      path = withFileName wanted (String.ofList (splitFileAtDot (fileNameText wanted).toList).1 ++
        rest) := by
  rcases List.mem_cons.mp inside with same | later
  · exact .inl same
  · obtain ⟨n, -, rfl⟩ := List.mem_map.mp later
    exact .inr ⟨_, congrArg (withFileName wanted) (String.append_assoc.trans String.append_assoc)⟩

/-- A candidate is called by the prefix, a dash and the stamp, and goes on from there. -/
theorem candidate_name {path : PathBuf}
    (inside : path ∈ candidates (layout.pathFor calendar stamp)) :
    ∃ (dir : PathBuf) (name : String) (rest : List Char), path = dir ++ [.utf8 name] ∧
      name.toList = layout.namePrefix.toList ++ '-' ::
        ((calendar.format STAMP_FORMAT stamp).toList ++ rest) := by
  rcases mem_candidates inside with rfl | ⟨rest, rfl⟩
  · exact ⟨_, _, _, rfl, fileName_toList layout calendar stamp⟩
  · obtain ⟨more, stem⟩ := splitFileAtDot_stem
      (layout.namePrefix.toList ++ '-' :: (calendar.format STAMP_FORMAT stamp).toList)
      layout.extension.toList
    rw [List.append_assoc, List.cons_append, ← fileName_toList, ← fileNameText_pathFor] at stem
    refine ⟨_, _, more ++ rest.toList, rfl, ?_⟩
    rw [String.toList_append, String.toList_ofList, stem]
    simp only [List.append_assoc, List.cons_append]

theorem carries_candidate (reads : calendar.ReadsBack stamp) {path : PathBuf}
    (inside : path ∈ candidates (layout.pathFor calendar stamp)) :
    Carries calendar layout stamp path := by
  obtain ⟨dir, name, rest, rfl, spelled⟩ := candidate_name inside
  intro dir' name' window temporary same named
  obtain ⟨-, last⟩ := List.append_inj' same rfl
  rw [← (List.cons.inj last).1] at named
  exact window_of_final reads named spelled

theorem candidate_ne_tempPath {path : PathBuf}
    (inside : path ∈ candidates (layout.pathFor calendar stamp)) (pid : Nat) (other : DateTime) :
    path ≠ tempPath pid (layout.pathFor calendar other) := by
  obtain ⟨dir, name, rest, rfl, spelled⟩ := candidate_name inside
  intro same
  obtain ⟨-, last⟩ := List.append_inj' same rfl
  have names := congrArg String.toList (OsStr.utf8.inj (List.cons.inj last).1)
  rw [spelled, fileNameText_pathFor] at names
  simp only [String.toList_append, fileName_toList, List.append_assoc, List.cons_append,
    show ".".toList = ['.'] from rfl] at names
  exact dot_shift names

end

end Rustflow.Collect
