import Rustflow.Collect.Layout

/-!
# Destinations

`sink/destination.rs` of the collector: where the bytes of a window go, under which name a file is
written, and how it gets its final name. Every call on the file system is a step of its own
(`ClaimStep`), since other processes may act between any two.
-/

namespace Rustflow.Collect
open Text

inductive Destination where
  | stdout
  | file (path : PathBuf)
  /-- One file per interval window, named by the layout. -/
  | partitioned (layout : Layout) (intervalSecs : Int)
  | null

structure PendingRename where
  tmp : PathBuf
  finalPath : PathBuf
  /-- Start of the window the file holds. -/
  window : DateTime
  deriving DecidableEq

structure Opened where
  /-- The file that is created to be written to. -/
  creates : Option PathBuf
  pending : Option PendingRename
  /-- Unix timestamp of the next rotation; `none` when never. -/
  rotateAt : Option Int

def fileNameText (path : PathBuf) : String := (path.getLast?.map OsStr.toStringLossy).getD "output"

def withFileName (path : PathBuf) (name : String) : PathBuf := path.dropLast ++ [.utf8 name]

/-- The name a file is written under: `.<name>.<pid>.tmp` in the same directory. -/
def tempPath (pid : Nat) (finalPath : PathBuf) : PathBuf :=
  withFileName finalPath ("." ++ fileNameText finalPath ++ "." ++ toString pid ++ ".tmp")

namespace Destination

/-- The start of the window that holds a timestamp: windows are aligned to the epoch. -/
def windowStart (intervalSecs timestamp : Int) : Int := timestamp / intervalSecs * intervalSecs

/-- The start of the window containing `now`, or `now` itself where no date can represent it. -/
def windowStamp (intervalSecs : Int) (now : DateTime) : DateTime :=
  (DateTime.fromTimestamp (windowStart intervalSecs now.timestamp) 0).getD now

def pendingFor (calendar : Calendar) (pid : Nat) (layout : Layout) (stamp : DateTime) :
    PendingRename :=
  let finalPath := layout.pathFor calendar stamp
  { tmp := tempPath pid finalPath, finalPath, window := stamp }

/-- The stream for the window containing `now`. -/
def openFor (calendar : Calendar) (pid : Nat) (now : DateTime) : Destination → Opened
  | .stdout | .null => { creates := none, pending := none, rotateAt := none }
  | .file path => { creates := some path, pending := none, rotateAt := none }
  | .partitioned layout intervalSecs =>
    let pending := pendingFor calendar pid layout (windowStamp intervalSecs now)
    { creates := some pending.tmp, pending := some pending,
      rotateAt := some (windowStart intervalSecs now.timestamp + intervalSecs) }

end Destination

/-! ### Final names -/

/-- How many names to try before giving up on a window. -/
def MAX_NAME_ATTEMPTS : Nat := 1000

/-- A file name before and after its last dot. A dot that starts the name does not count. -/
def splitFileAtDot (name : List Char) : List Char × Option (List Char) :=
  if name = ['.', '.'] then (name, none)
  else
    match rsplitOnce '.' name with
    | some (stem, extension) => if stem.isEmpty then (name, none) else (stem, some extension)
    | none => (name, none)

/-- `wanted`, then `wanted-1`, `wanted-2` and so on, the number before the extension. -/
def candidates (wanted : PathBuf) : List PathBuf :=
  let (stem, extension) := splitFileAtDot (fileNameText wanted).toList
  let extension := match extension with
    | some extension => "." ++ String.ofList extension
    | none => ""
  wanted :: (List.range' 1 (MAX_NAME_ATTEMPTS - 1)).map fun n =>
    withFileName wanted (String.ofList stem ++ "-" ++ toString n ++ extension)

/-- Where a claim of a final name is. -/
inductive Claim where
  /-- The names still to be tried with a hard link. -/
  | link (left : List PathBuf)
  /-- The name is taken and the temporary one still there. -/
  | unlink (claimed : PathBuf)
  /-- The file system has no hard links: the names still to be looked at. -/
  | look (left : List PathBuf)
  /-- The name was free when it was looked at. -/
  | rename (target : PathBuf)
  | done (result : Except Errno PathBuf)

def Claim.start (wanted : PathBuf) : Claim := .link (candidates wanted)

/-- One call of `claim_final_name`, or of `claim_by_rename` after it. `broken` is a failure of the
file system on a call that only removes or renames. -/
def Claim.step (tmp wanted : PathBuf) (broken : Bool) (fs : FileSystem OsStr) :
    Claim → FileSystem OsStr × Claim
  | .link [] => (fs, .done (.error .other))
  | .link (candidate :: left) =>
    match fs.hardLink tmp candidate with
    | .ok fs' => (fs', .unlink candidate)
    | .error .alreadyExists => (fs, .link left)
    | .error _ => (fs, .look (candidates wanted))
  | .unlink claimed =>
    if broken then (fs, .done (.error .other))
    else
      match fs.unlink tmp with
      | .ok fs' => (fs', .done (.ok claimed))
      | .error e => (fs, .done (.error e))
  | .look [] => (fs, .done (.error .other))
  | .look (candidate :: left) =>
    if fs.lookup candidate ≠ none then (fs, .look left) else (fs, .rename candidate)
  | .rename target =>
    if broken then (fs, .done (.error .other))
    else
      match fs.rename tmp target with
      | .ok fs' => (fs', .done (.ok target))
      | .error e => (fs, .done (.error e))
  | .done result => (fs, .done result)

end Rustflow.Collect
