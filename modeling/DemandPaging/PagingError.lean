import DemandPaging.Frame.Error
import DemandPaging.PhysicalMemory
import DemandPaging.Program.Image
import DemandPaging.Storage.SwapArea

/-!
# Errors of virtual memory

Everything that can go wrong with an operation on virtual memory, with the
sentence it is reported with and the chain of errors behind it.
-/

namespace DemandPaging

/-- Why an operation on virtual memory failed. -/
inductive PagingError where
  | invalidAddress (vpn : Nat)
  | outOfFrames
  | swap (error : SwapError)
  /-- A read-only page cannot be written. -/
  | readOnlyPage (vpn : Nat)
  /-- The page is in no frame; looking an address up never brings it into
  one. -/
  | notResident (vpn : Nat)
  | unknownSpace
  | image (error : SectionError)
  | frame (error : FrameError)
  | memory (error : MemoryError)
  /-- A section does not start where the one before it ends. -/
  | fragmentedExecutable (index : Nat)
  /-- The arguments of a process do not fit into one page. -/
  | argumentsTooLong (size : Nat)
  deriving DecidableEq, Repr

namespace PagingError

/-- The sentence an error is reported with. -/
def message : PagingError → String
  | invalidAddress vpn => s!"virtual page {vpn} is out of range"
  | outOfFrames => "insufficient physical memory"
  | swap error => s!"swap I/O failed: {error.message}"
  | readOnlyPage vpn => s!"virtual page {vpn} is read-only"
  | notResident vpn => s!"virtual page {vpn} is not resident"
  | unknownSpace => "address space no longer exists"
  | image error => error.message
  | frame error => error.message
  | memory error => error.message
  | fragmentedExecutable index => s!"section {index} does not follow the previous one"
  | argumentsTooLong size => s!"arguments need {size} bytes, more than one page"

/-- The sentences of the errors that caused this one, nearest first. -/
def causes : PagingError → List String
  | swap error => error.message :: error.causes
  | image error => [error.message]
  | frame error => [error.message]
  | memory error => [error.message]
  | _ => []

/-- A refusal by the bookkeeping of frames, as an error of virtual memory:
running out of frames is one and the same error on both levels. -/
def ofFrame : FrameError → PagingError
  | .outOfFrames => outOfFrames
  | error => frame error

end PagingError

end DemandPaging
