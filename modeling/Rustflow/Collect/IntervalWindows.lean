import Rustflow.Collect.FilesInRange
import Rustflow.Collect.ReceiveWindows

/-!
# Windows and the directories they are in

An interval is only accepted if it divides the period of the directories at its level. So a window
is never cut by a boundary of the calendar, and lies in the period of its directory as a whole.
-/

namespace Rustflow.Collect
open Destination Gregorian

/-- The seconds from a window's start to where the next one starts. -/
def Destination.window (intervalSecs timestamp : Int) : Period where
  start := windowStart intervalSecs timestamp
  stop := windowStart intervalSecs timestamp + intervalSecs

/-! ### A grid of windows -/

section
variable {intervalSecs : Int} (positive : 0 < intervalSecs)
include positive

end

/-! ### Accepted intervals -/

section
variable {level : UInt8} (levels : 1 ≤ level ∧ level ≤ 3)
include levels

variable {calendar : Calendar} {layout : Layout}

end

/-! ### Windows of four-digit years -/

section
variable {now : DateTime} {start : Int}

end

end Rustflow.Collect
