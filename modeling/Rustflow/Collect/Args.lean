import Rustflow.Collect.Layout

/-!
# Arguments

What `args.rs` of the collector asks of the interval of a rotated output.
-/

namespace Rustflow.Collect

/-- A duration as the command line gives it. -/
structure Interval where
  secs : UInt64
  subsecNanos : Nat

/-- The seconds of an interval as the destination has them, `as i64`. -/
def Interval.intervalSecs (self : Interval) : Int := self.secs.toInt64.toInt

/-- A few intervals dividing `period`, largest first. -/
def examples (period : Nat) : String :=
  let fitting := ([3600, 1800, 600, 300, 60, 30, 10].filter fun candidate =>
    period % candidate = 0 && candidate ≤ period).take 3
  ", ".intercalate (fitting.map fun secs =>
    if secs ≥ 3600 then toString (secs / 3600) ++ "h"
    else if secs ≥ 60 then toString (secs / 60) ++ "m"
    else toString secs ++ "s")

/-- A window must be whole seconds and sit inside one partition directory. -/
def checkInterval (interval : Interval) (level : Option UInt8) : Except String Unit :=
  if interval.secs = 0 ∧ interval.subsecNanos = 0 ∨ interval.subsecNanos ≠ 0 then
    .error "--interval must be whole seconds"
  else
    match level with
    | none => .ok ()
    | some level =>
      let (period, name) : Nat × String :=
        if level = 1 then (86400, "a day")
        else if level = 2 then (3600, "an hour")
        else (LEVEL_3_MINUTES * 60, "5 minutes")
      if period % interval.secs.toNat = 0 then .ok ()
      else .error ("--interval must divide " ++ name ++ " at --level " ++ toString level ++
        ", e.g. " ++ examples period)

example : checkInterval ⟨7 * 60, 0⟩ (some 2) =
    .error "--interval must divide an hour at --level 2, e.g. 1h, 30m, 10m" := by decide +kernel

theorem checkInterval_positive {interval : Interval} {level : Option UInt8}
    (accepted : checkInterval interval level = .ok ()) :
    interval.secs ≠ 0 := by
  intro zero
  unfold checkInterval at accepted
  split at accepted
  · cases accepted
  · rename_i whole
    rw [not_or, not_and, not_not] at whole
    exact absurd whole.2 (whole.1 zero)

/-- What the destination divides by is not zero and no larger than the interval. -/
theorem Interval.intervalSecs_bounds {interval : Interval} (positive : interval.secs ≠ 0) :
    interval.intervalSecs ≠ 0 ∧ interval.intervalSecs.natAbs ≤ interval.secs.toNat := by
  have small := interval.secs.toNat_lt
  have nonzero : interval.secs.toNat ≠ 0 := fun zero => positive (UInt64.toNat_inj.mp zero)
  have cast : interval.intervalSecs = Int.bmod interval.secs.toNat (2 ^ 64) :=
    BitVec.toInt_eq_toNat_bmod interval.secs.toBitVec
  rw [cast, Int.bmod_def]
  omega

end Rustflow.Collect
