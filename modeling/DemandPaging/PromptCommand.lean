import DemandPaging.Manager.Basic
import DemandPaging.Text.Digits

/-!
# Prompt commands

The commands that are about the prompt itself and not about a process.  They
start with a dot.
-/

namespace DemandPaging

/-- A command about the prompt. -/
inductive PromptCommand where
  | exit
  | stats
  | frames
  deriving DecidableEq, Repr

namespace PromptCommand

/-- The command that a line is. -/
def ofLine? (line : String) : Option PromptCommand :=
  if line = ".exit" then some exit
  else if line = ".stats" then some stats
  else if line = ".frames" then some frames
  else none

end PromptCommand

namespace Manager

variable {pageSize : Nat}

def frameLine (frame : Nat) (owner : Option PageId) : String :=
  let holder :=
    match owner with
    | some page => s!"space {page.space} vpn {page.vpn}"
    | none => "free"
  s!"frame {Text.padLeft 3 frame}: " ++ holder

def framesReport (manager : Manager pageSize) : String :=
  let lines := manager.frameOwners.toList.mapIdx frameLine
  "\n".intercalate
    (lines ++ [s!"{manager.freeFrames} of {manager.numFrames} frames free"])

end Manager

end DemandPaging
