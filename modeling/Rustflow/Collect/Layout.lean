import Rustflow.Common.DateTime
import Rustflow.Lib.FileSystem
import Rustflow.Lib.Text
import Rustflow.Lib.Utf8

/-!
# The layout of an output tree

`sink/layout.rs` of the collector: where the file of a window goes, which files are the collector's
own, and which of them fall in a time range. What it uses of the date library is a parameter.
-/

namespace Rustflow.Collect
open Text

/-- A file name as the operating system has it, which need not be a string. -/
inductive OsStr where
  | utf8 (s : String)
  | raw (bytes : List UInt8) (ill : Utf8.read bytes = none)
  deriving DecidableEq

def OsStr.toStringLossy : OsStr → String
  | .utf8 s => s
  | .raw bytes _ => Utf8.readLossy bytes

def OsStr.text (name : OsStr) : List Char := name.toStringLossy.toList

abbrev PathBuf : Type := EntryPath OsStr

/-- `PathBuf::push` of a string: what is between separators is a component of its own, and a string
that starts with one takes the place of the path. -/
def PathBuf.push (path : PathBuf) (s : String) : PathBuf :=
  let names := (s.toList.splitOn '/').filter fun name => name ≠ [] ∧ name ≠ ['.']
  (if s.toList.head? = some '/' then [] else path) ++ names.map fun name =>
    .utf8 (String.ofList name)

/-- The date library: formatting and parsing by a pattern, and the fields of a date. -/
structure Calendar where
  format : String → DateTime → String
  parseFromStr : String → String → Option DateTime
  minute : DateTime → Nat
  month : DateTime → Nat
  year : DateTime → Int
  withMonth : DateTime → Nat → Option DateTime
  withYear : DateTime → Int → Option DateTime
  /-- Year, month, day, hour, minute and second, where they name one instant. -/
  withYmdAndHms : Int → Nat → Nat → Nat → Nat → Nat → Option DateTime

inductive Partitioning where
  | plain | hive
  deriving DecidableEq

/-- Directories below the root at the deepest level. -/
def Partitioning.maxDepth : Partitioning → Nat
  | .plain => 5
  | .hive => 3

def LEVEL_3_MINUTES : Nat := 5
def STAMP_FORMAT : String := "%Y%m%dT%H%M%SZ"
def STAMP_LEN : Nat := 16

structure Layout where
  root : PathBuf
  namePrefix : String
  extension : String
  level : UInt8
  partitioning : Partitioning

inductive Span where
  | year | month | day | hour | bucket

structure Entry where
  path : PathBuf
  window : DateTime
  temporary : Bool

/-! ### Ranges of timestamps -/

inductive Bound where
  | included (t : Int)
  | excluded (t : Int)
  | unbounded

structure TimeRange where
  startBound : Bound
  endBound : Bound

def TimeRange.before (t : Int) : TimeRange := { startBound := .unbounded, endBound := .excluded t }

def TimeRange.contains (range : TimeRange) (t : Int) : Bool :=
  (match range.startBound with
    | .included start => decide (start ≤ t)
    | .excluded start => decide (start < t)
    | .unbounded => true) &&
  (match range.endBound with
    | .included stop => decide (t ≤ stop)
    | .excluded stop => decide (t < stop)
    | .unbounded => true)

structure Period where
  start : Int
  stop : Int
  deriving DecidableEq

/-- The sum is that of a release build, where it wraps at the last timestamp. -/
def Period.overlaps (self : Period) (range : TimeRange) : Bool :=
  (match range.startBound with
    | .included start => decide (self.stop > start)
    | .excluded start => decide (self.stop > Int.bmod (start + 1) (2 ^ 64))
    | .unbounded => true) &&
  (match range.endBound with
    | .included stop => decide (self.start ≤ stop)
    | .excluded stop => decide (self.start < stop)
    | .unbounded => true)

/-! ### Names of partitions -/

/-- Digits of exactly `width`. -/
def partitionNumber (name : List Char) (width : Nat) : Option Nat :=
  if name.length = width ∧ isNumber name then some (parseNumber name) else none

/-- The numbers of plain partition names, the first of four digits and the others of two. -/
def plainNumbers : Nat → List (List Char) → Option (List Nat)
  | _, [] => some []
  | depth, name :: names => do
    let part ← partitionNumber name (if depth = 0 then 4 else 2)
    return part :: (← plainNumbers (depth + 1) names)

section
variable (calendar : Calendar)

def plainPeriod (names : List (List Char)) : Option (DateTime × Span) := do
  let parts ← plainNumbers 0 names
  let span : Span := match parts.length with
    | 1 => .year
    | 2 => .month
    | 3 => .day
    | 4 => .hour
    | _ => .bucket
  if 5 ≤ parts.length ∧ (parts[4]?).getD 0 % LEVEL_3_MINUTES ≠ 0 then none
  else
    let part := fun (i default : Nat) => (parts[i]?).getD default
    let start ← calendar.withYmdAndHms (part 0 1970) (part 1 1) (part 2 1) (part 3 0) (part 4 0) 0
    return (start, span)

def hivePeriod (names : List (List Char)) : Option (DateTime × Span) := do
  let date ← stripPrefix "date=".toList (← names.head?)
  let (year, rest) ← splitOnce '-' date
  let (month, day) ← splitOnce '-' rest
  let year ← partitionNumber year 4
  let month ← partitionNumber month 2
  let day ← partitionNumber day 2
  let hour ← match names[1]? with
    | some name => partitionNumber (← stripPrefix "hour=".toList name) 2
    | none => some 0
  let minute ← match names[2]? with
    | some name => do
      let bucket ← partitionNumber (← stripPrefix "minute=".toList name) 2
      if bucket % LEVEL_3_MINUTES ≠ 0 then none else some bucket
    | none => some 0
  let span : Span := match names.length with
    | 1 => .day
    | 2 => .hour
    | _ => .bucket
  let start ← calendar.withYmdAndHms year month day hour minute 0
  return (start, span)

/-- The first instant after a span. -/
def spanEnd (start : DateTime) : Span → Option DateTime
  | .year => calendar.withYear start (calendar.year start + 1)
  | .month =>
    if calendar.month start = 12 then do
      calendar.withMonth (← calendar.withYear start (calendar.year start + 1)) 1
    else calendar.withMonth start (calendar.month start + 1)
  | .day => some ⟨start.nanos + 86400 * 1000000000⟩
  | .hour => some ⟨start.nanos + 3600 * 1000000000⟩
  | .bucket => some ⟨start.nanos + LEVEL_3_MINUTES * 60 * 1000000000⟩

namespace Layout
variable (self : Layout)

def twoDigits (n : Nat) : String := if n < 10 then "0" ++ toString n else toString n

/-- The directories of a window below the root. -/
def partitions (stamp : DateTime) : List String :=
  let bucket := calendar.minute stamp / LEVEL_3_MINUTES * LEVEL_3_MINUTES
  match self.partitioning with
  | .plain =>
    (if self.level ≥ 1 then [calendar.format "%Y" stamp, calendar.format "%m" stamp,
      calendar.format "%d" stamp]
      else []) ++
    (if self.level ≥ 2 then [calendar.format "%H" stamp] else []) ++
    (if self.level ≥ 3 then [twoDigits bucket] else [])
  | .hive =>
    (if self.level ≥ 1 then [calendar.format "date=%Y-%m-%d" stamp] else []) ++
    (if self.level ≥ 2 then [calendar.format "hour=%H" stamp] else []) ++
    (if self.level ≥ 3 then ["minute=" ++ twoDigits bucket] else [])

def fileName (stamp : DateTime) : String :=
  self.namePrefix ++ "-" ++ calendar.format STAMP_FORMAT stamp ++ "." ++ self.extension

/-- The file that holds the window that starts at `stamp`, by a file name without separators. -/
def pathFor (stamp : DateTime) : PathBuf :=
  self.root ++ (self.partitions calendar stamp).map .utf8 ++ [.utf8 (self.fileName calendar stamp)]

/-- The same by any file name. -/
def pushedPathFor (stamp : DateTime) : PathBuf :=
  PathBuf.push (self.root ++ (self.partitions calendar stamp).map .utf8)
    (self.fileName calendar stamp)

/-- The part of a name before the process and the temporary mark, if it has them. -/
def withoutTemporary (name : List Char) : Option (List Char × Bool) :=
  match (stripPrefix ['.'] name).bind (stripSuffix ".tmp".toList) with
  | some tmp => do
    let (name, pid) ← rsplitOnce '.' tmp
    if isNumber pid then some (name, true) else none
  | none => some (name, false)

/-- The window in the name of a file this collector wrote, and whether the name is temporary. -/
def name (text : List Char) : Option (DateTime × Bool) := do
  let (name, temporary) ← withoutTemporary text
  let afterPrefix ← stripPrefix self.namePrefix.toList name
  let afterDash ← stripPrefix ['-'] afterPrefix
  let beforeExtension ← stripSuffix self.extension.toList afterDash
  let middle ← stripSuffix ['.'] beforeExtension
  let (stamp, rest) ← splitAtChecked STAMP_LEN middle
  match stripPrefix ['-'] rest with
  | some n => if isNumber n then some () else none
  | none => if rest.isEmpty then some () else none
  let window ← calendar.parseFromStr (String.ofList stamp) STAMP_FORMAT
  return (window, temporary)

def period (parent : PathBuf) (name : List Char) : Option Period := do
  let relative ← stripPrefix self.root parent
  let names := relative.map OsStr.text ++ [name]
  if names.length > self.partitioning.maxDepth then none
  else
    let (start, span) ← match self.partitioning with
      | .plain => plainPeriod calendar names
      | .hive => hivePeriod calendar names
    let stop ← spanEnd calendar start span
    return { start := start.timestamp, stop := stop.timestamp }

inductive Visit where
  | file (entry : Entry)
  /-- A partition directory, after everything in it. -/
  | leaveDir (path : PathBuf)

/-- One entry of `dir`, given what is visited below a directory. -/
def visitEntry (range : TimeRange) (below : PathBuf → List Visit) (dir : PathBuf) (name : OsStr) :
    Node → List Visit
  | .dir =>
    match self.period calendar dir name.text with
    | some period =>
      if period.overlaps range then below (dir ++ [name]) ++ [.leaveDir (dir ++ [name])] else []
    | none => []
  | .file _ =>
    match self.name calendar name.text with
    | some (window, temporary) => [.file { path := dir ++ [name], window, temporary }]
    | none => []
  | .other => []

/-- A directory that is not there is skipped. The fuel is for the directories that can be nested,
since a name too deep has no period. -/
def walk (fs : FileSystem OsStr) (range : TimeRange) : Nat → PathBuf → List Visit
  | 0, _ => []
  | fuel + 1, dir =>
    ((fs.readDir dir).getD []).flatMap fun (name, node) =>
      self.visitEntry calendar range (walk fs range fuel) dir name node

def visits (fs : FileSystem OsStr) (range : TimeRange) : List Visit :=
  self.walk calendar fs range (self.partitioning.maxDepth + 1) self.root

/-- Every file of this tree whose window starts inside the range. -/
def files (fs : FileSystem OsStr) (range : TimeRange) : List Entry :=
  (self.visits calendar fs range).filterMap fun
    | .file entry => if range.contains entry.window.timestamp then some entry else none
    | .leaveDir _ => none

/-- The partition directories whose period overlaps the range, deepest first. -/
def dirs (fs : FileSystem OsStr) (range : TimeRange) : List PathBuf :=
  (self.visits calendar fs range).filterMap fun
    | .file _ => none
    | .leaveDir path => some path

end Layout
end

end Rustflow.Collect
