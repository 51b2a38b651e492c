import DemandPaging.Manager.Basic

/-!
# Page faults

A fault brings a page into a frame.  It runs in stages.  Each stage works on
the manager's state as a whole, except that the swap area is read and written
in stages of their own; between two stages other work may go on.  Throughout,
the frame involved is pinned and the pages involved are in transit, and both
end with the fault.
-/

namespace DemandPaging

/-- How a page came to be in its frame. -/
inductive Resolution where
  | alreadyResident (frame : Nat)
  | loaded (frame : Nat) (source : ContentSource)
  deriving DecidableEq, Repr

namespace Resolution

def frame : Resolution → Nat
  | alreadyResident frame => frame
  | loaded frame _ => frame

/-- Where the content came from, if the page had to be loaded. -/
def source? : Resolution → Option ContentSource
  | alreadyResident _ => none
  | loaded _ source => some source

end Resolution

/-- How far a fault has come. -/
inductive FaultStage where
  /-- The page is still to be examined. -/
  | arriving
  /-- The victim is unmapped and its content is to be written to swap. -/
  | savingVictim (lease : FrameLease) (victim : PageId) (content : Bytes)
  /-- The victim was written to swap, or could not be. -/
  | victimSaved (lease : FrameLease) (victim : PageId) (outcome : Except SwapError Nat)
  /-- The content of the page is to be read from its swap slot. -/
  | fetching (lease : FrameLease) (slot : Nat)
  /-- The content is in the frame, or could not be read. -/
  | fetched (lease : FrameLease) (slot : Nat) (outcome : Except PagingError Unit)
  | finished (outcome : Except PagingError Resolution)

namespace FaultStage

/-- The number of stages that a fault can still pass through. -/
def remaining : FaultStage → Nat
  | arriving => 5
  | savingVictim .. => 4
  | victimSaved .. => 3
  | fetching .. => 2
  | fetched .. => 1
  | finished _ => 0

end FaultStage

namespace Manager

variable {pageSize : Nat}

/-- The frame that the clock chooses, pinned and without owner, and the page
that occupied it.  The page's entry is still valid. -/
def takeVictim (manager : Manager pageSize) :
    Except PagingError (FrameLease × PageId) × Manager pageSize :=
  let selection := manager.clock.selectVictim manager.frames
  let swept := { manager with clock := selection.clock, frames := selection.table }
  match selection.victim with
  | none => (.error .outOfFrames, swept)
  | some frame =>
    let synced := swept.syncUsedMarks
    match synced.frames.evict frame with
    | .error error => (.error (.ofFrame error), synced)
    | .ok (none, frames) =>
      (.error (.frame (.notAllocated frame)), { synced with frames := frames })
    | .ok (some victim, frames) =>
      match frames.pin frame with
      | .error error => (.error (.ofFrame error), { synced with frames := frames })
      | .ok (lease, frames) => (.ok (lease, victim), { synced with frames := frames })

/-- A pinned frame without owner: the lowest free one, or else one that the
clock chooses.  In the second case the page that has to leave is returned,
too. -/
def obtainFrame (manager : Manager pageSize) :
    Except PagingError (FrameLease × Option PageId) × Manager pageSize :=
  match manager.pool.allocate with
  | .ok (frame, pool) =>
    match manager.frames.pin frame with
    | .error error => (.error (.ofFrame error), manager)
    | .ok (lease, frames) =>
      (.ok (lease, none), { manager with pool := pool, frames := frames })
  | .error _ =>
    match manager.takeVictim with
    | (.error error, searched) => (.error error, searched)
    | (.ok (lease, victim), taken) => (.ok (lease, some victim), taken)

/-- End the transit of `page` and the lease of its frame. -/
def settle (manager : Manager pageSize) (page : PageId) (lease : FrameLease) :
    Manager pageSize :=
  { manager with
    inTransit := manager.inTransit.erase page
    frames := manager.frames.unpin lease }

/-- Give up a fault whose frame holds another page again. -/
def withdraw (manager : Manager pageSize) (page : PageId) (lease : FrameLease)
    (error : PagingError) : FaultStage × Manager pageSize :=
  (.finished (.error error), manager.settle page lease)

/-- Give up a fault whose frame belongs to no page: the frame becomes free. -/
def abandon (manager : Manager pageSize) (page : PageId) (lease : FrameLease)
    (error : PagingError) : FaultStage × Manager pageSize :=
  let frames :=
    match manager.frames.evict lease.frame with
    | .ok (_, frames) => frames
    | .error _ => manager.frames
  let settled := { manager with frames := frames }.settle page lease
  let pool :=
    match settled.pool.free lease.frame with
    | .ok pool => pool
    | .error _ => settled.pool
  (.finished (.error error), { settled with pool := pool })

/-- End a fault once the content of its page is in the frame, or could not be
obtained. -/
def conclude (manager : Manager pageSize) (page : PageId) (lease : FrameLease) :
    Except PagingError ContentSource → FaultStage × Manager pageSize
  | .error error => manager.abandon page lease error
  | .ok source =>
    match manager.frames.install lease.frame page with
    | .error error => manager.abandon page lease (.ofFrame error)
    | .ok frames =>
      let owned := { manager with frames := frames }
      match owned.entry page with
      | .error error => owned.abandon page lease error
      | .ok _ =>
        let mapped := owned.modifyEntry page fun entry => entry.install lease.frame
        (.finished (.ok (.loaded lease.frame source)), mapped.settle page lease)

def setReadOnly (manager : Manager pageSize) (page : PageId) (readOnly : Bool) :
    Except PagingError (Manager pageSize) :=
  match manager.entry page with
  | .error error => .error error
  | .ok _ => .ok (manager.modifyEntry page fun entry => { entry with readOnly := readOnly })

/-- Fill `frame` with the page of a section. -/
def fillFromSection (manager : Manager pageSize) (image : Image pageSize) (page : PageId)
    (frame index number : Nat) : Except PagingError ContentSource × Manager pageSize :=
  match image.loadPage index number with
  | .error error => (.error (.image error), manager)
  | .ok content =>
    match manager.memory.writeFrame frame content.toArray with
    | .error error => (.error (.memory error), manager)
    | .ok memory =>
      let filled := { manager with memory := memory }
      match filled.setReadOnly page (image.readOnly index) with
      | .error error => (.error error, filled)
      | .ok marked =>
        (.ok (.executable index number),
          (marked.bump .sectionLoad).record (.sectionLoad page index))

def fillWithZeros (manager : Manager pageSize) (page : PageId) (frame : Nat) :
    Except PagingError ContentSource × Manager pageSize :=
  match manager.memory.zeroFrame frame with
  | .error error => (.error (.memory error), manager)
  | .ok memory =>
    let filled := { manager with memory := memory }
    match filled.setReadOnly page false with
    | .error error => (.error error, filled)
    | .ok marked => (.ok .zeroFill, (marked.bump .zeroFill).record (.zeroFill page))

/-- Fill `frame` with the initial content of `page`: what its section shows,
or zeros where no section covers it. -/
def fillFromImage (manager : Manager pageSize) (page : PageId) (frame : Nat) :
    Except PagingError ContentSource × Manager pageSize :=
  match manager.spaces.find? page.space with
  | none => (.error .unknownSpace, manager)
  | some record =>
    match record.image.findSection page.vpn with
    | some (index, number) => manager.fillFromSection record.image page frame index number
    | none => manager.fillWithZeros page frame

/-- Obtain the content of `page`: from its swap slot, if it has one, and from
its image otherwise. -/
def startLoading (manager : Manager pageSize) (page : PageId) (lease : FrameLease) :
    FaultStage × Manager pageSize :=
  match manager.swap.slotOf? page with
  | some slot => (.fetching lease slot, manager)
  | none =>
    let (loaded, filled) := manager.fillFromImage page lease.frame
    filled.conclude page lease loaded

/-- Map a victim that could not be saved into its frame again, as dirty as it
was. -/
def restoreVictim (manager : Manager pageSize) (frame : Nat) (victim : PageId) :
    Manager pageSize :=
  let mapped := manager.modifyEntry victim fun entry =>
    { entry.install frame with dirty := true }
  match mapped.frames.install frame victim with
  | .ok frames => { mapped with frames := frames }
  | .error _ => mapped

/-- Take a dirty victim's content out of its frame, to be written to swap. -/
def startSaving (manager : Manager pageSize) (page : PageId) (lease : FrameLease)
    (victim : PageId) : FaultStage × Manager pageSize :=
  match manager.memory.readFrame lease.frame pageSize with
  | .error error =>
    (manager.restoreVictim lease.frame victim).withdraw page lease (.memory error)
  | .ok content =>
    (.savingVictim lease victim content,
      { manager with inTransit := manager.inTransit.set victim lease.frame })

/-- Unmap the victim.  A clean one is dropped at once, since its slot or its
image still has its content. -/
def startEviction (manager : Manager pageSize) (page : PageId) (lease : FrameLease)
    (victim : PageId) : FaultStage × Manager pageSize :=
  match manager.entry victim with
  | .error error => manager.withdraw page lease error
  | .ok entry =>
    let unmapped := ((manager.modifyEntry victim PageEntry.invalidate).bump .eviction).record
      (.evictionChosen lease.frame victim entry.dirty)
    if entry.dirty then
      unmapped.startSaving page lease victim
    else
      ((unmapped.bump .swapSkippedClean).record (.swapSkippedClean victim)).startLoading page lease

/-- Whether a fault on `page` has to wait because the page is in transit. -/
def awaits (manager : Manager pageSize) (page : PageId) : Bool :=
  match manager.entry page with
  | .ok entry => !entry.valid && manager.inTransit.contains page
  | .error _ => false

/-- Examine the page and, unless it is in a frame already, obtain a frame for
it. -/
def arrive (manager : Manager pageSize) (page : PageId) : FaultStage × Manager pageSize :=
  match manager.entry page with
  | .error error => (.finished (.error error), manager)
  | .ok entry =>
    if entry.valid then
      (.finished (.ok (.alreadyResident entry.frame)), manager)
    else
      match manager.obtainFrame with
      | (.error error, searched) => (.finished (.error error), searched)
      | (.ok (lease, victim?), leased) =>
        let moving := { leased with inTransit := leased.inTransit.set page lease.frame }
        match victim? with
        | some victim => moving.startEviction page lease victim
        | none => moving.startLoading page lease

def saveVictim (manager : Manager pageSize) (lease : FrameLease) (victim : PageId)
    (content : Bytes) : FaultStage × Manager pageSize :=
  let (trouble, volume) := manager.volume.takeTrouble
  let (outcome, swap, volume) := manager.swap.write volume victim content trouble
  (.victimSaved lease victim outcome, { manager with swap := swap, volume := volume })

/-- Go on after the victim was written to swap, or give the frame back to it. -/
def afterSaving (manager : Manager pageSize) (page : PageId) (lease : FrameLease)
    (victim : PageId) : Except SwapError Nat → FaultStage × Manager pageSize
  | .ok slot =>
    let landed := { manager with inTransit := manager.inTransit.erase victim }
    ((landed.bump .swapWrite).record (.swapWrite victim slot)).startLoading page lease
  | .error error =>
    let landed := { manager with inTransit := manager.inTransit.erase victim }
    (landed.restoreVictim lease.frame victim).withdraw page lease (.swap error)

def fetch (manager : Manager pageSize) (lease : FrameLease) (slot : Nat) :
    FaultStage × Manager pageSize :=
  let (trouble, volume) := manager.volume.takeTrouble
  let waited := { manager with volume := volume }
  match manager.swap.read volume slot pageSize trouble with
  | .error error => (.fetched lease slot (.error (.swap error)), waited)
  | .ok content =>
    match manager.memory.writeFrame lease.frame content with
    | .error error => (.fetched lease slot (.error (.memory error)), waited)
    | .ok memory => (.fetched lease slot (.ok ()), { waited with memory := memory })

/-- Go on after the content was read from swap, or could not be. -/
def afterFetching (manager : Manager pageSize) (page : PageId) (lease : FrameLease)
    (slot : Nat) : Except PagingError Unit → FaultStage × Manager pageSize
  | .ok () =>
    ((manager.bump .swapRead).record (.swapRead page slot)).conclude page lease (.ok (.swap slot))
  | .error error => manager.conclude page lease (.error error)

/-- Pass from one stage of a fault on `page` to the next. -/
def advance (manager : Manager pageSize) (page : PageId) :
    FaultStage → FaultStage × Manager pageSize
  | .arriving => manager.arrive page
  | .savingVictim lease victim content => manager.saveVictim lease victim content
  | .victimSaved lease victim outcome => manager.afterSaving page lease victim outcome
  | .fetching lease slot => manager.fetch lease slot
  | .fetched lease slot outcome => manager.afterFetching page lease slot outcome
  | .finished outcome => (.finished outcome, manager)

/-- Pass through up to `stages` further stages of a fault, with nothing going
on in between.  A fault that is not over by then has not brought its page
in. -/
def passStages (manager : Manager pageSize) (page : PageId) :
    Nat → FaultStage → Except PagingError Resolution × Manager pageSize
  | _, .finished outcome => (outcome, manager)
  | 0, _ => (.error (.notResident page.vpn), manager)
  | stages + 1, stage =>
    let (next, advanced) := manager.advance page stage
    advanced.passStages page stages next

/-- Bring `page` into a frame, without a record of the fault. -/
def resolve (manager : Manager pageSize) (page : PageId) :
    Except PagingError Resolution × Manager pageSize :=
  manager.passStages page FaultStage.arriving.remaining .arriving

/-- Count a fault on `page` and record that it started. -/
def recordStart (manager : Manager pageSize) (page : PageId) : Manager pageSize :=
  (manager.bump .pageFault).record (.faultStarted page)

/-- Record how a fault on `page` ended. -/
def recordOutcome (manager : Manager pageSize) (page : PageId) :
    Except PagingError Resolution → Manager pageSize
  | .ok resolution => manager.record (.faultResolved page resolution.frame resolution.source?)
  | .error error => manager.record (.faultFailed page error.message)

/-- Bring `page` into a frame.  Afterwards the page is in its frame or an error
is reported; either way nothing is in transit and no frame is pinned that was
not before. -/
def fault (manager : Manager pageSize) (page : PageId) :
    Except PagingError Resolution × Manager pageSize :=
  let (outcome, resolved) := (manager.recordStart page).resolve page
  (outcome, resolved.recordOutcome page outcome)

end Manager

end DemandPaging
