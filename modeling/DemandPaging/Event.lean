import DemandPaging.Address

/-!
# Paging events

What happens while pages come and go, as values that can be shown and kept in a
log.
-/

namespace DemandPaging

inductive ContentSource where
  | swap (slot : Nat)
  | executable (index page : Nat)
  | zeroFill
  deriving DecidableEq, Repr

namespace ContentSource

def text : ContentSource → String
  | swap slot => s!"FromSwap \x7b slot: {slot} \x7d"
  | executable index page =>
    s!"FromExecutableSection \x7b section: {index}, page: {page} \x7d"
  | zeroFill => "ZeroFill"

end ContentSource

/-- Something that happened to a page. -/
inductive Event where
  | faultStarted (page : PageId)
  /-- The page is in a frame now; there is no source if it was there already. -/
  | faultResolved (page : PageId) (frame : Nat) (source : Option ContentSource)
  | faultFailed (page : PageId) (error : String)
  | evictionChosen (frame : Nat) (victim : PageId) (dirty : Bool)
  | swapWrite (page : PageId) (slot : Nat)
  | swapRead (page : PageId) (slot : Nat)
  | swapSkippedClean (page : PageId)
  | sectionLoad (page : PageId) (index : Nat)
  | zeroFill (page : PageId)
  deriving DecidableEq, Repr

inductive EventLevel where
  | warn
  | debug
  | trace
  deriving DecidableEq, Repr

namespace EventLevel

def text : EventLevel → String
  | warn => "WARN"
  | debug => "DEBUG"
  | trace => "TRACE"

end EventLevel

namespace Event

/-- Failures deserve most attention, the frame of a fault least. -/
def level : Event → EventLevel
  | faultFailed .. => .warn
  | faultStarted .. | faultResolved .. => .trace
  | _ => .debug

def text : Event → String
  | faultStarted page => s!"fault on {page.text}"
  | faultResolved page frame (some source) =>
    s!"fault on {page.text} resolved in frame {frame} ({source.text})"
  | faultResolved page frame none =>
    s!"fault on {page.text} already resident in frame {frame}"
  | faultFailed page error => s!"fault on {page.text} failed: {error}"
  | evictionChosen frame victim dirty =>
    s!"evicting {victim.text} from frame {frame} (dirty: {dirty})"
  | swapWrite page slot => s!"swapped out {page.text} to slot {slot}"
  | swapRead page slot => s!"swapped in {page.text} from slot {slot}"
  | swapSkippedClean page => s!"dropped clean page {page.text}"
  | sectionLoad page index => s!"loaded {page.text} from section {index}"
  | zeroFill page => s!"zero-filled {page.text}"

end Event

/-- The events recorded since they were last taken, oldest first.  A log that
is not enabled stays empty. -/
structure EventLog where
  enabled : Bool := false
  events : Array Event := #[]
  deriving DecidableEq, Repr

namespace EventLog

def size (log : EventLog) : Nat :=
  log.events.size

def record (log : EventLog) (event : Event) : EventLog :=
  if log.enabled then { log with events := log.events.push event } else log

def drain (log : EventLog) : Array Event × EventLog :=
  (log.events, { log with events := #[] })

end EventLog

end DemandPaging
