import DemandPaging.Manager.Fault

/-!
# Access to one page

Bytes are read from and written to a page in its frame.  A page in no frame is
faulted in first and then looked at again; it is looked at until it is found in
a frame or a fault fails.
-/

namespace DemandPaging

/-- What is to be done with the bytes of a page. -/
inductive Access where
  | read (count : Nat)
  | write (data : Bytes)
  deriving DecidableEq, Repr

namespace Manager

variable {pageSize : Nat}

/-- The number of times that a page is looked at before an access gives up.  As
long as nothing else goes on, a page is found in a frame at the second look at
the latest. -/
def maxLooks : Nat := 64

def touch (manager : Manager pageSize) (page : PageId) (frame : Nat) (wrote : Bool) :
    Except PagingError Unit × Manager pageSize :=
  let marked := manager.modifyEntry page fun entry =>
    { entry with used := true, dirty := entry.dirty || wrote }
  match marked.frames.markUsed frame with
  | .error error => (.error (.ofFrame error), marked)
  | .ok frames => (.ok (), { marked with frames := frames })

/-- Read `count` bytes at `offset` of a page that is in the frame of `entry`. -/
def readResident (manager : Manager pageSize) (page : PageId) (entry : PageEntry)
    (offset count : Nat) : Except PagingError Bytes × Manager pageSize :=
  match manager.memory.read (entry.frame * pageSize + offset) count with
  | .error error => (.error (.memory error), manager)
  | .ok bytes =>
    let (outcome, touched) := manager.touch page entry.frame false
    (outcome.map fun _ => bytes, touched)

/-- Write bytes at `offset` of a page that is in the frame of `entry`. -/
def writeResident (manager : Manager pageSize) (page : PageId) (entry : PageEntry)
    (offset : Nat) (data : Bytes) : Except PagingError Bytes × Manager pageSize :=
  if entry.readOnly then
    (.error (.readOnlyPage page.vpn), manager)
  else
    match manager.memory.write (entry.frame * pageSize + offset) data with
    | .error error => (.error (.memory error), manager)
    | .ok memory =>
      let (outcome, touched) :=
        { manager with memory := memory }.touch page entry.frame true
      (outcome.map fun _ => #[], touched)

/-- Carry out an access if the page is in a frame, or fail if there is no such
page; none if the page has to be faulted in first.  A write returns no
bytes. -/
def accessResident? (manager : Manager pageSize) (page : PageId) (offset : Nat)
    (access : Access) : Option (Except PagingError Bytes × Manager pageSize) :=
  match manager.entry page with
  | .error error => some (.error error, manager)
  | .ok entry =>
    if entry.valid then
      match access with
      | .read count => some (manager.readResident page entry offset count)
      | .write data => some (manager.writeResident page entry offset data)
    else
      none

/-- Carry out an access, looking at the page at most `looks` times. -/
def accessWithin (manager : Manager pageSize) (page : PageId) (offset : Nat)
    (access : Access) : Nat → Except PagingError Bytes × Manager pageSize
  | 0 => (.error (.notResident page.vpn), manager)
  | looks + 1 =>
    match manager.accessResident? page offset access with
    | some outcome => outcome
    | none =>
      match manager.fault page with
      | (.error error, faulted) => (.error error, faulted)
      | (.ok _, faulted) => faulted.accessWithin page offset access looks

/-- Read or write bytes of one page, faulting the page in if necessary. -/
def access (manager : Manager pageSize) (page : PageId) (offset : Nat)
    (access : Access) : Except PagingError Bytes × Manager pageSize :=
  manager.accessWithin page offset access maxLooks

end Manager

end DemandPaging
