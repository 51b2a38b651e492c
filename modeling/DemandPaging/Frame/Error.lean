/-!
# Errors of frame bookkeeping

The ways in which a request about a physical frame can be refused, and the
sentence each of them is reported with.
-/

namespace DemandPaging

/-- Why a request about a physical frame was refused. -/
inductive FrameError where
  | outOfFrames
  | invalidFrame (frame : Nat)
  | notAllocated (frame : Nat)
  /-- A lease of the frame is outstanding. -/
  | alreadyPinned (frame : Nat)
  deriving DecidableEq, Repr

namespace FrameError

def message : FrameError → String
  | outOfFrames => "no free or evictable frame"
  | invalidFrame frame => s!"frame {frame} is out of range"
  | notAllocated frame => s!"frame {frame} is not allocated"
  | alreadyPinned frame => s!"frame {frame} is already pinned"

end FrameError

end DemandPaging
