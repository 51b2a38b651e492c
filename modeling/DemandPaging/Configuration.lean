/-!
# Configuration

The settings of a memory manager, fixed when it starts.
-/

namespace DemandPaging

/-- The settings a memory manager is started with. -/
structure Configuration where
  numFrames : Nat := 16
  swapName : String := "swapFile"
  /-- Whether paging events are kept until they are asked for. -/
  recordEvents : Bool := false
  deriving DecidableEq, Repr

end DemandPaging
