import Rustflow.Collect.Destination
import Rustflow.Collect.Pipeline

/-!
# The rotating sink

`sink/rotating.rs` of the collector: a destination and the encoder of its current window. What the
file system and the encoder answer comes with each call. `files` and `jobs` are records that
nothing reads: the files that left their temporary name behind, and what the `-x` command was told.
-/

namespace Rustflow.Collect

/-- What an encoder is handed: a flow with what enrichment added to it, or lines of JSON. -/
inductive SinkRecord (F X : Type) where
  | flow (flow : F) (enriched : X)
  | raw (lines : List UInt8)

structure Opening where
  /-- The file could be created. -/
  created : Bool
  /-- The encoder could write its header. -/
  encoderOpens : Bool
  /-- The name that the file gets when it is dropped because the encoder could not. -/
  dropped : Option PathBuf

/-- What closing a window comes to: whether the encoder could finish, and the name of the file. -/
structure Closing where
  finished : Bool
  claimed : Option PathBuf

structure Window (F X : Type) where
  /-- What its encoder was handed, in order. -/
  handed : List (SinkRecord F X)
  pending : Option PendingRename
  rotateAt : Option Int

def Window.due {F X : Type} (window : Window F X) (now : DateTime) : Bool :=
  match window.rotateAt with
  | some rotateAt => decide (rotateAt ≤ now.timestamp)
  | none => false

structure ClosedFile (F X : Type) where
  pending : PendingRename
  handed : List (SinkRecord F X)
  /-- Its final name, unless it keeps the temporary one. -/
  name : Option PathBuf

/-- What the `-x` command is told about. -/
structure Job where
  path : PathBuf
  window : DateTime

structure RotatingSink (F X : Type) where
  destination : Destination
  pid : Nat
  /-- `none` after a rotation until the next write. -/
  current : Option (Window F X)
  hook : Bool
  /-- The sink is gone. -/
  ended : Bool
  files : List (ClosedFile F X)
  jobs : List Job

namespace RotatingSink
variable {F X : Type}

/-- A file that is finished with, if the window has one. -/
def leave (self : RotatingSink F X) (window : Window F X) (name : Option PathBuf) :
    RotatingSink F X :=
  { self with files := self.files ++ window.pending.toList.map fun pending =>
    ⟨pending, window.handed, name⟩ }

/-- Opens the window of `now`. A file whose encoder does not open is dropped, which gives it its
final name. -/
def openWindow (calendar : Calendar) (self : RotatingSink F X) (now : DateTime) (io : Opening) :
    RotatingSink F X :=
  let opened := self.destination.openFor calendar self.pid now
  let window : Window F X :=
    { handed := [], pending := opened.pending, rotateAt := opened.rotateAt }
  if opened.creates.isSome ∧ io.created = false then self
  else if io.encoderOpens = false then self.leave window io.dropped
  else { self with current := some window }

def unopened (destination : Destination) (pid : Nat) (hook : Bool) : RotatingSink F X :=
  { destination, pid, current := none, hook, ended := false, files := [], jobs := [] }

/-- The first window is opened right away. -/
def openAt (calendar : Calendar) (destination : Destination) (pid : Nat) (hook : Bool)
    (now : DateTime) (io : Opening) : RotatingSink F X :=
  let self := (unopened destination pid hook).openWindow calendar now io
  { self with ended := self.current.isNone }

/-- Gives the file its final name, also where the encoder could not finish, and hands a complete
file to the command. -/
def close (self : RotatingSink F X) (window : Window F X) (io : Closing) : RotatingSink F X :=
  let job : Option Job := do
    let pending ← window.pending
    let path ← io.claimed
    if self.hook && io.finished then some { path, window := pending.window } else none
  { (self.leave window io.claimed) with current := none, jobs := self.jobs ++ job.toList }

/-- The calls on a sink, with the reading of the clock and the answers that each may need. -/
inductive Call (F X : Type) where
  | write (record : SinkRecord F X) (now : DateTime) (io : Opening)
  | rotateIfDue (now : DateTime) (io : Closing)
  | flush
  | finish (io : Closing)
  /-- The thread that owns the sink panics. -/
  | drop (name : Option PathBuf)

/-- Hands a record to the current window, which is opened if there is none. -/
def write (calendar : Calendar) (self : RotatingSink F X) (record : SinkRecord F X) (now : DateTime)
    (io : Opening) :
    RotatingSink F X :=
  let self := match self.current with
    | some _ => self
    | none => self.openWindow calendar now io
  { self with current := self.current.map fun window =>
    { window with handed := window.handed ++ [record] } }

def rotateIfDue (self : RotatingSink F X) (now : DateTime) (io : Closing) : RotatingSink F X :=
  match self.current with
  | some window => if window.due now then self.close window io else self
  | none => self

def finish (self : RotatingSink F X) (io : Closing) : RotatingSink F X :=
  let self := match self.current with
    | some window => self.close window io
    | none => self
  { self with ended := true }

def drop (self : RotatingSink F X) (name : Option PathBuf) : RotatingSink F X :=
  let self := match self.current with
    | some window => self.leave window name
    | none => self
  { self with current := none, ended := true }

def step (calendar : Calendar) (self : RotatingSink F X) (call : Call F X) : RotatingSink F X :=
  if self.ended then self
  else
    match call with
    | .write record now io => self.write calendar record now io
    | .rotateIfDue now io => self.rotateIfDue now io
    | .flush => self
    | .finish io => self.finish io
    | .drop name => self.drop name

def run (calendar : Calendar) (self : RotatingSink F X) (calls : List (Call F X)) :
    RotatingSink F X :=
  calls.foldl (step calendar) self

end RotatingSink
end Rustflow.Collect
