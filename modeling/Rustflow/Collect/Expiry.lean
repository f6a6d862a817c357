import Rustflow.Collect.Args
import Rustflow.Collect.RotatingSink
import Rustflow.Lib.Pruning

/-!
# Expiry

`sink/expire.rs` of the collector: one sweep over the tree for files that are too old. The sweep
sees the tree as no one else changes it, and a removal fails only where the tree does not allow it.
-/

namespace Rustflow.Collect
open FileSystem

structure Expiry where
  layout : Layout
  maxAge : Interval
  /-- There is a command that is told about removed files. -/
  hook : Bool

structure Outcome where
  removed : Nat
  failures : Nat
  firstFailure : Option (PathBuf × Errno)

/-- The tree after a sweep, its outcome, and what the command was told. -/
structure Swept where
  fs : FileSystem OsStr
  outcome : Outcome
  jobs : List Job

/-- A file that is not there counts as removed. -/
def removeFile (fs : FileSystem OsStr) (path : PathBuf) : FileSystem OsStr × Except Errno Unit :=
  match fs.unlink path with
  | .ok fs => (fs, .ok ())
  | .error .notFound => (fs, .ok ())
  | .error e => (fs, .error e)

namespace Expiry

/-- Seconds in 64 bits, which wrap around. -/
def cutoff (self : Expiry) (now : DateTime) : Int :=
  (Int64.ofInt now.timestamp - self.maxAge.secs.toInt64).toInt

def expire (self : Expiry) (swept : Swept) (entry : Entry) : Swept :=
  let outcome := swept.outcome
  match removeFile swept.fs entry.path with
  | (fs, .ok ()) =>
    { fs
      outcome := { outcome with removed := outcome.removed + 1 }
      -- A temporary file was never anyone's to know about.
      jobs := if self.hook && !entry.temporary then
        swept.jobs ++ [{ path := entry.path, window := entry.window }]
        else swept.jobs }
  | (fs, .error e) =>
    { swept with
      fs
      outcome := { outcome with
        failures := outcome.failures + 1
        firstFailure := outcome.firstFailure.or (some (entry.path, e)) } }

/-- Removes every file whose window started before the cutoff, then the partition directories that
are empty, deepest first. -/
def sweep (calendar : Calendar) (self : Expiry) (cutoff : Int) (fs : FileSystem OsStr) : Swept :=
  let range := TimeRange.before cutoff
  let swept := (self.layout.files calendar fs range).foldl self.expire
    { fs, outcome := { removed := 0, failures := 0, firstFailure := none }, jobs := [] }
  { swept with fs := (self.layout.dirs calendar swept.fs range).foldl prune swept.fs }

def run (calendar : Calendar) (self : Expiry) (now : DateTime) (fs : FileSystem OsStr) : Swept :=
  self.sweep calendar (self.cutoff now) fs

end Expiry
end Rustflow.Collect
