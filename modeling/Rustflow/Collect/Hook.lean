import Rustflow.Collect.RotatingSink
import Rustflow.Lib.Table

/-!
# Commands for files

`sink/hook.rs` of the collector: a command that runs for every file handed to it. One thread starts
the commands and reaps them. Where it is between two calls is part of its state; what a call comes
to, the start of a child or a look at one, comes with the step. The hooks of a collector count in
the same metrics.
-/

namespace Rustflow.Collect

/-- Commands running at once; the rest wait in order. -/
def MAX_RUNNING : Nat := 8

/-- The option a command was given on. -/
inductive Hook where
  /-- Runs for every completed file. -/
  | exec
  /-- Runs for every file expiry removed. -/
  | expireExec
  deriving DecidableEq

def Hook.toString : Hook → String
  | .exec => "-x"
  | .expireExec => "--expire-exec"

/-! ### Arguments -/

def placeholders : List Char := ['f', 'p', 't', 'u', '%']

def isExpandable : List Char → Bool
  | [] => true
  | '%' :: c :: cs => decide (c ∈ placeholders) && isExpandable cs
  | ['%'] => false
  | _ :: cs => isExpandable cs

def checkPlaceholders (hook : Hook) (word : List Char) : Except String Unit :=
  if isExpandable word then .ok ()
  else .error (hook.toString ++ ": unknown placeholder in '" ++ String.ofList word ++
    "', use %f, %p, %t, %u or %%")

/-- The words of a command, of which there is one at least. -/
structure HookCommand where
  words : List (List Char)
  root : PathBuf
  nonempty : words ≠ []

def HookCommand.spawn (hook : Hook) (command : List Char) (root : PathBuf) :
    Except String HookCommand :=
  let words := (command.splitOnP Text.isWhitespace).filter (· ≠ [])
  if nonempty : words = [] then .error (hook.toString ++ " command is empty")
  else do
    words.forM (checkPlaceholders hook)
    return { words, root, nonempty }

/-! ### The launcher -/

structure HookMetrics where
  hookRunning : Int
  hookCompleted : UInt64
  hookErrors : UInt64
  deriving DecidableEq

/-- Where the thread is. `closing` says that `run` is in its second loop. -/
inductive LauncherPhase where
  | recv
  /-- The commands before `seen` were still running. -/
  | reap (closing : Bool) (seen : Nat)
  | startPending (closing : Bool)
  /-- At the condition of the second loop. -/
  | shutdown
  | returned
  deriving DecidableEq

/-- A job that was taken from the queue, and the child unless it could not run. -/
structure Attempt (C : Type) where
  job : Job
  child : Option C

/-- `sent`, `received`, `attempts` and `reaped` are records that nothing reads: the jobs handed over
and those received, what was tried for them, and the commands that ended, each with whether it
succeeded. -/
structure Launcher (C : Type) where
  command : HookCommand
  /-- The channel. -/
  queue : List Job
  /-- The sender is gone. -/
  closed : Bool
  pending : List Job
  running : List (C × PathBuf)
  phase : LauncherPhase
  sent : List Job
  received : List Job
  attempts : List (Attempt C)
  reaped : List ((C × PathBuf) × Bool)

/-- What `try_wait` says of a child. -/
inductive TryWait where
  | running
  | exited (success : Bool)
  | lost

inductive LauncherStep (C : Type) where
  | sends (job : Job)
  | closes
  | receives
  | timesOut
  | disconnects
  /-- `reap` looks at the next command. -/
  | waits (answer : TryWait)
  /-- `start_pending` runs the next job, or fails to. -/
  | spawns (child : Option C)
  /-- A function returns, or the condition of a loop is looked at. -/
  | goesOn

namespace Launcher
variable {C : Type}

def new (command : HookCommand) : Launcher C where
  command := command
  queue := []
  closed := false
  pending := []
  running := []
  phase := .recv
  sent := []
  received := []
  attempts := []
  reaped := []

def startNext (self : Launcher C) (metrics : HookMetrics) (child : Option C) :
    Option (Launcher C × HookMetrics) :=
  match self.pending with
  | [] => none
  | job :: pending =>
    if self.running.length < MAX_RUNNING then
      let self := { self with pending, attempts := self.attempts ++ [{ job, child }] }
      match child with
      | some child =>
        some ({ self with running := self.running ++ [(child, job.path)] },
          { metrics with hookRunning := metrics.hookRunning + 1 })
      | none => some (self, { metrics with hookErrors := metrics.hookErrors + 1 })
    else none

def reapNext (self : Launcher C) (metrics : HookMetrics) (closing : Bool) (seen : Nat)
    (answer : TryWait) :
    Option (Launcher C × HookMetrics) :=
  match self.running[seen]? with
  | none => none
  | some command =>
    let metrics' := { metrics with hookRunning := metrics.hookRunning - 1 }
    let ended (success : Bool) : Launcher C :=
      { self with
        running := self.running.eraseIdx seen
        reaped := self.reaped ++ [(command, success)] }
    match answer with
    | .running => some ({ self with phase := .reap closing (seen + 1) }, metrics)
    | .exited true =>
      some (ended true, { metrics' with hookCompleted := metrics.hookCompleted + 1 })
    | .exited false | .lost =>
      some (ended false, { metrics' with hookErrors := metrics.hookErrors + 1 })

/-- `none` where the step cannot be taken. -/
def step (self : Launcher C) (metrics : HookMetrics) :
    LauncherStep C → Option (Launcher C × HookMetrics)
  | .sends job =>
    if self.closed then none else some ({ self with
      queue := self.queue ++ [job]
      sent := self.sent ++ [job] }, metrics)
  | .closes => if self.closed then none else some ({ self with closed := true }, metrics)
  | .receives =>
    match self.phase, self.queue with
    | .recv, job :: queue =>
      some ({ self with
        queue
        pending := self.pending ++ [job]
        received := self.received ++ [job]
        phase := .reap false 0 }, metrics)
    | _, _ => none
  | .timesOut =>
    if self.phase = .recv then some ({ self with phase := .reap false 0 }, metrics) else none
  | .disconnects =>
    if self.phase = .recv ∧ self.queue = [] ∧ self.closed then
      some ({ self with phase := .shutdown }, metrics) else none
  | .waits answer =>
    match self.phase with
    | .reap closing seen => self.reapNext metrics closing seen answer
    | _ => none
  | .spawns child =>
    match self.phase with
    | .startPending _ => self.startNext metrics child
    | _ => none
  | .goesOn =>
    match self.phase with
    | .reap closing seen =>
      if seen < self.running.length then none
      else some ({ self with phase := if closing then .shutdown else .startPending false }, metrics)
    | .startPending closing =>
      if self.running.length < MAX_RUNNING ∧ self.pending ≠ [] then none
      else some ({ self with phase := if closing then .reap true 0 else .recv }, metrics)
    | .shutdown =>
      some ({ self with phase := if self.pending ≠ [] ∨ self.running ≠ [] then .startPending true
        else .returned }, metrics)
    | .recv | .returned => none

end Launcher

/-! ### The hooks of a collector -/

structure Hooks (C : Type) where
  launchers : Table Hook (Launcher C)
  metrics : HookMetrics

inductive HooksStep (C : Type) where
  | spawn (hook : Hook) (command : List Char) (root : PathBuf)
  | launcher (hook : Hook) (step : LauncherStep C)

namespace Hooks
variable {C : Type}

def new (metrics : HookMetrics) : Hooks C := { launchers := ∅, metrics }

def step (self : Hooks C) : HooksStep C → Option (Hooks C)
  | .spawn hook command root =>
    match self.launchers.lookup hook, HookCommand.spawn hook command root with
    | none, .ok command => some { self with launchers := self.launchers.insert hook (.new command) }
    | _, _ => none
  | .launcher hook step => do
    let launcher ← self.launchers.lookup hook
    let (launcher, metrics) ← launcher.step self.metrics step
    return { launchers := self.launchers.insert hook launcher, metrics }

def run (self : Hooks C) (steps : List (HooksStep C)) : Option (Hooks C) := steps.foldlM step self

end Hooks

end Rustflow.Collect
