import DemandPaging.Manager.Fault

/-!
# Creation and destruction of address spaces

An address space is created without frames.  When it is destroyed, its frames
and its swap slots become free; this waits for its pages in transit to land.
-/

namespace DemandPaging

namespace Manager

variable {pageSize : Nat}

/-- Create an address space of `numPages` pages and return its number.  Numbers
never run out; see `SpaceId` for what that leaves aside. -/
def createSpace (manager : Manager pageSize) (numPages : Nat) (image : Image pageSize) :
    SpaceId × Manager pageSize :=
  let space := manager.nextSpace
  (space,
    { manager with
      nextSpace := space + 1
      spaces := manager.spaces.set space
        { table := PageTable.empty numPages, image := image } })

/-- Whether some page of `space` is in transit, so that the space cannot be
destroyed yet. -/
def inTransitOf (manager : Manager pageSize) (space : SpaceId) : Bool :=
  manager.inTransit.keys.any fun page => page.space == space

/-- Free frames that belonged to a destroyed space. -/
def freeAll (manager : Manager pageSize) : List Nat → Except PagingError Unit × Manager pageSize
  | [] => (.ok (), manager)
  | frame :: rest =>
    match manager.frames.evict frame with
    | .error error => (.error (.ofFrame error), manager)
    | .ok (_, frames) =>
      match manager.pool.free frame with
      | .error error => (.error (.ofFrame error), { manager with frames := frames })
      | .ok pool => { manager with frames := frames, pool := pool }.freeAll rest

/-- Remove an address space and free its frames. -/
def detachSpace (manager : Manager pageSize) (space : SpaceId) :
    Except PagingError Unit × Manager pageSize :=
  match manager.spaces.find? space with
  | none => (.error .unknownSpace, manager)
  | some record =>
    { manager with spaces := manager.spaces.erase space }.freeAll record.table.residentFrames

/-- Free the swap slots of an address space. -/
def releaseSlots (manager : Manager pageSize) (space : SpaceId) : Manager pageSize :=
  let (_, swap) := manager.swap.releaseWhere fun page => page.space == space
  { manager with swap := swap }

/-- Destroy an address space: free its frames first and its swap slots
second. -/
def destroySpace (manager : Manager pageSize) (space : SpaceId) :
    Except PagingError Unit × Manager pageSize :=
  match manager.detachSpace space with
  | (.error error, detached) => (.error error, detached)
  | (.ok (), detached) => (.ok (), detached.releaseSlots space)

end Manager

end DemandPaging
