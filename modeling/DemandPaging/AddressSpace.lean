import DemandPaging.Manager.Access
import DemandPaging.Manager.Space
import DemandPaging.Text.Utf8

/-!
# Address spaces

The virtual memory of one process, with transfers of any length between it and
a caller's bytes.  A transfer walks over the range page by page and stops at
the first page that cannot be accessed; it reports how far it came.
-/

namespace DemandPaging

/-- When the pages of an address space get frames. -/
inductive PagingStrategy where
  /-- All pages at creation; this takes a free frame for each. -/
  | eager
  /-- Each page when it is first accessed. -/
  | demand
  deriving DecidableEq, Repr

/-- What came of a transfer. -/
structure Transfer where
  moved : Nat
  /-- Why the transfer ended early, if it did. -/
  stopped : Option PagingError
  deriving DecidableEq, Repr

namespace Transfer

def isComplete (transfer : Transfer) : Bool :=
  transfer.stopped.isNone

end Transfer

/-- The part of a transfer that lies inside one page. -/
structure Chunk where
  vpn : Nat
  /-- The offset inside the page. -/
  offset : Nat
  /-- The number of bytes of the transfer that come before. -/
  start : Nat
  count : Nat
  deriving DecidableEq, Repr

namespace Chunk

/-- The next part of a transfer of `length` bytes at `address`, of which the
first `done` bytes are dealt with. -/
def next (pageSize address length done : Nat) : Chunk :=
  let (vpn, offset) := splitAddress pageSize (address + done)
  { vpn := vpn
    offset := offset
    start := done
    count := min (pageSize - offset) (length - done) }

/-- Each part of an unfinished transfer holds some bytes. -/
theorem next_count_pos {pageSize : Nat} (positive : 0 < pageSize) (address : Nat)
    {length done : Nat} (unfinished : done < length) :
    0 < (next pageSize address length done).count := by
  have inside : (address + done) % pageSize < pageSize := Nat.mod_lt _ positive
  simp only [next, splitAddress]
  omega

end Chunk

/-- Walk over `length` bytes from `address` on, part by part, and let `copy`
deal with each part; `done` bytes are dealt with already.  The walk stops
where `copy` fails and at the end of the addresses. -/
def walkFrom {State : Type} {pageSize : Nat} (positive : 0 < pageSize)
    (address length : Nat) (copy : Chunk → State → Except PagingError Unit × State)
    (done : Nat) (state : State) : Transfer × State :=
  if unfinished : done < length then
    if addressLimit ≤ address + done then
      (⟨done, some (.invalidAddress (addressLimit - 1))⟩, state)
    else
      let chunk := Chunk.next pageSize address length done
      have : 0 < chunk.count := Chunk.next_count_pos positive address unfinished
      match copy chunk state with
      | (.error error, failed) => (⟨done, some error⟩, failed)
      | (.ok (), moved) => walkFrom positive address length copy (done + chunk.count) moved
  else
    (⟨done, none⟩, state)
termination_by length - done
decreasing_by exact Nat.sub_lt_sub_left unfinished (Nat.lt_add_of_pos_right this)

def walk {State : Type} {pageSize : Nat} (positive : 0 < pageSize) (address length : Nat)
    (copy : Chunk → State → Except PagingError Unit × State) (state : State) :
    Transfer × State :=
  walkFrom positive address length copy 0 state

/-- A handle on an address space. -/
structure AddressSpace where
  id : SpaceId
  numPages : Nat
  strategy : PagingStrategy
  /-- Whether the space was destroyed through this handle. -/
  destroyed : Bool := false
  deriving DecidableEq, Repr

namespace AddressSpace

variable {pageSize : Nat}

def page (space : AddressSpace) (vpn : Nat) : PageId where
  space := space.id
  vpn := vpn

/-- Bring pages of a space into frames, one after the other, until a fault
fails. -/
def faultEach (space : AddressSpace) (manager : Manager pageSize) :
    List Nat → Except PagingError Unit × Manager pageSize
  | [] => (.ok (), manager)
  | vpn :: rest =>
    match manager.fault (space.page vpn) with
    | (.error error, failed) => (.error error, failed)
    | (.ok _, faulted) => space.faultEach faulted rest

/-- Create an address space of `numPages` pages.  An eager space that there are
too few free frames for is not created; one whose pages cannot all be brought
in is destroyed again. -/
def create (manager : Manager pageSize) (numPages : Nat) (image : Image pageSize)
    (strategy : PagingStrategy) : Except PagingError AddressSpace × Manager pageSize :=
  match strategy with
  | .demand =>
    let (id, created) := manager.createSpace numPages image
    (.ok { id := id, numPages := numPages, strategy := .demand }, created)
  | .eager =>
    if manager.freeFrames < numPages then
      (.error .outOfFrames, manager)
    else
      let (id, created) := manager.createSpace numPages image
      let space : AddressSpace := { id := id, numPages := numPages, strategy := .eager }
      match space.faultEach created (List.range numPages) with
      | (.ok (), filled) => (.ok space, filled)
      | (.error error, failed) => (.error error, (failed.destroySpace id).2)

def entry (space : AddressSpace) (manager : Manager pageSize) (vpn : Nat) :
    Except PagingError PageEntry :=
  manager.entry (space.page vpn)

/-- The frame behind an address and the offset inside it.  This brings no page
into a frame. -/
def locate (space : AddressSpace) (manager : Manager pageSize) (address : Nat) :
    Except PagingError (Nat × Nat) :=
  let (vpn, offset) := splitAddress pageSize address
  match space.entry manager vpn with
  | .error error => .error error
  | .ok entry => if entry.valid then .ok (entry.frame, offset) else .error (.notResident vpn)

def fault (space : AddressSpace) (manager : Manager pageSize) (vpn : Nat) :
    Except PagingError Resolution × Manager pageSize :=
  manager.fault (space.page vpn)

/-- Read one part of a transfer and append its bytes to those read before. -/
def readChunk (space : AddressSpace) (chunk : Chunk) (state : Bytes × Manager pageSize) :
    Except PagingError Unit × Bytes × Manager pageSize :=
  let (bytes, manager) := state
  match manager.access (space.page chunk.vpn) chunk.offset (.read chunk.count) with
  | (.error error, failed) => (.error error, bytes, failed)
  | (.ok more, accessed) => (.ok (), bytes ++ more, accessed)

/-- Write the bytes of `data` that belong to one part of a transfer. -/
def writeChunk (space : AddressSpace) (data : Bytes) (chunk : Chunk)
    (manager : Manager pageSize) : Except PagingError Unit × Manager pageSize :=
  let part : Bytes := Bytes.slice data chunk.start chunk.count
  match manager.access (space.page chunk.vpn) chunk.offset (.write part) with
  | (.error error, failed) => (.error error, failed)
  | (.ok _, accessed) => (.ok (), accessed)

/-- Read `length` bytes from `address` on.  The bytes returned are those that
were moved. -/
def readBytes (space : AddressSpace) (manager : Manager pageSize) (address length : Nat) :
    Transfer × Bytes × Manager pageSize :=
  walk manager.memory.pageSize_pos address length space.readChunk (#[], manager)

/-- Write `data` from `address` on.  The transfer stops before the first byte
of a read-only page. -/
def writeBytes (space : AddressSpace) (manager : Manager pageSize) (address : Nat)
    (data : Bytes) : Transfer × Manager pageSize :=
  walk manager.memory.pageSize_pos address data.size (space.writeChunk data) manager

/-- Read a text of at most `maxLength` bytes that ends with a zero byte; none
if no zero byte is found among the bytes that can be read. -/
def readText (space : AddressSpace) (manager : Manager pageSize) (address maxLength : Nat) :
    Option String × Manager pageSize :=
  let (_, bytes, read) := space.readBytes manager address (maxLength + 1)
  match bytes.findIdx? (· == 0) with
  | some length => (some (Utf8.decodeLossy (Bytes.slice bytes 0 length)), read)
  | none => (none, read)

/-- Destroy the space: its frames and swap slots become free.  Destroying it
again through the same handle does nothing. -/
def destroy (space : AddressSpace) (manager : Manager pageSize) :
    Except PagingError Unit × AddressSpace × Manager pageSize :=
  if space.destroyed then
    (.ok (), space, manager)
  else
    let (outcome, left) := manager.destroySpace space.id
    (outcome, { space with destroyed := true }, left)

end AddressSpace

end DemandPaging
