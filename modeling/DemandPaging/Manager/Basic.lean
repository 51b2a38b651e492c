import DemandPaging.Configuration
import DemandPaging.Event
import DemandPaging.Frame.Clock
import DemandPaging.Frame.Pool
import DemandPaging.PageTable
import DemandPaging.Statistics

/-!
# The memory manager

One value holds everything that address spaces share: the physical memory and
the bookkeeping of its frames, the swap area and the volume it lies on, and the
page tables of all address spaces.
-/

namespace DemandPaging

/-- What the manager keeps for one address space. -/
structure SpaceRecord (pageSize : Nat) where
  table : PageTable
  image : Image pageSize

/-- The state shared by all address spaces. -/
structure Manager (pageSize : Nat) where
  config : Configuration
  memory : PhysicalMemory pageSize
  pool : FramePool
  frames : FrameTable PageId
  clock : Clock := {}
  volume : Volume
  swap : SwapArea PageId pageSize
  spaces : KeyedTable SpaceId (SpaceRecord pageSize) := {}
  /-- The pages on their way into a frame or into the swap area, each with the
  frame involved. -/
  inTransit : KeyedTable PageId Nat := {}
  nextSpace : SpaceId := 1
  log : EventLog
  statistics : Statistics := {}

/-- Why a manager could not be started. -/
inductive StartError where
  /-- The page size is not a power of two. -/
  | pageSize (size : Nat)
  /-- The swap area could not be opened. -/
  | paging (error : PagingError)
  deriving DecidableEq, Repr

namespace Manager

variable {pageSize : Nat}

/-- A manager with every frame free and an empty swap area on `volume`. -/
def start (config : Configuration) (volume : Volume) :
    Except StartError (Manager pageSize) :=
  match PhysicalMemory.create? config.numFrames with
  | none => .error (.pageSize pageSize)
  | some memory =>
    match SwapArea.openNamed volume config.swapName with
    | .error error => .error (.paging (.swap error))
    | .ok (swap, volume) =>
      .ok {
        config := config
        memory := memory
        pool := FramePool.allFree config.numFrames
        frames := FrameTable.empty config.numFrames
        volume := volume
        swap := swap
        log := { enabled := config.recordEvents } }

def numFrames (manager : Manager pageSize) : Nat :=
  manager.pool.numFrames

def freeFrames (manager : Manager pageSize) : Nat :=
  manager.pool.freeCount

/-- The page in each frame, in the order of the frames. -/
def frameOwners (manager : Manager pageSize) : Array (Option PageId) :=
  manager.frames.owners

def bump (manager : Manager pageSize) (counter : Counter) : Manager pageSize :=
  { manager with statistics := manager.statistics.bump counter }

def record (manager : Manager pageSize) (event : Event) : Manager pageSize :=
  { manager with log := manager.log.record event }

/-- Take all recorded events out of the log. -/
def drainEvents (manager : Manager pageSize) : Array Event × Manager pageSize :=
  let (events, log) := manager.log.drain
  (events, { manager with log := log })

def entry (manager : Manager pageSize) (page : PageId) : Except PagingError PageEntry :=
  match manager.spaces.find? page.space with
  | some record => record.table.get page.vpn
  | none => .error .unknownSpace

/-- Replace the entry of a page, if there is one, by its image under
`change`. -/
def modifyEntry (manager : Manager pageSize) (page : PageId)
    (change : PageEntry → PageEntry) : Manager pageSize :=
  { manager with
    spaces := manager.spaces.modify page.space fun record =>
      { record with table := record.table.modify page.vpn change } }

/-- Copy the used mark of every occupied frame into the entry of the page that
occupies it. -/
def syncUsedMarks (manager : Manager pageSize) : Manager pageSize :=
  manager.frames.frames.foldl
    (fun manager frame =>
      match frame.owner with
      | some page => manager.modifyEntry page fun entry => { entry with used := frame.used }
      | none => manager)
    manager

def shutdown (manager : Manager pageSize) : Except PagingError Unit × Manager pageSize :=
  let (trouble, volume) := manager.volume.takeTrouble
  let (outcome, swap, volume) := manager.swap.close volume trouble
  (outcome.mapError PagingError.swap, { manager with swap := swap, volume := volume })

section Changes

variable {manager : Manager pageSize} {page other : PageId} {change : PageEntry → PageEntry}

def image? (manager : Manager pageSize) (space : SpaceId) : Option (Image pageSize) :=
  (manager.spaces.find? space).map SpaceRecord.image

def numPages? (manager : Manager pageSize) (space : SpaceId) : Option Nat :=
  (manager.spaces.find? space).map fun record => record.table.size

@[simp]
theorem frames_modifyEntry : (manager.modifyEntry page change).frames = manager.frames :=
  rfl

theorem entry_eq_ok_iff {entry : PageEntry} :
    manager.entry page = .ok entry ↔
      ∃ record, manager.spaces.find? page.space = some record ∧
        record.table.get page.vpn = .ok entry := by
  rw [Manager.entry]
  cases manager.spaces.find? page.space with
  | none => simp
  | some record => simp

/-- A page has an entry if its space is alive and the page lies inside it. -/
theorem exists_entry_eq_ok_iff :
    (∃ entry, manager.entry page = .ok entry) ↔
      ∃ numPages, manager.numPages? page.space = some numPages ∧ page.vpn < numPages := by
  simp only [entry_eq_ok_iff, numPages?, Option.map_eq_some_iff]
  constructor
  · rintro ⟨entry, record, found, get⟩
    exact ⟨_, ⟨record, found, rfl⟩, PageTable.exists_get_eq_ok_iff.mp ⟨entry, get⟩⟩
  · rintro ⟨numPages, ⟨record, found, rfl⟩, inside⟩
    obtain ⟨entry, get⟩ := PageTable.exists_get_eq_ok_iff.mpr inside
    exact ⟨entry, record, found, get⟩

theorem entry_modifyEntry :
    (manager.modifyEntry page change).entry other =
      if other = page then (manager.entry other).map change else manager.entry other := by
  simp only [Manager.entry, modifyEntry, KeyedTable.find?_modify]
  by_cases sameSpace : other.space = page.space
  · rw [if_pos sameSpace]
    cases manager.spaces.find? other.space with
    | none => simp [Except.map]
    | some record =>
      simp only [Option.map_some, PageTable.get_modify]
      by_cases sameVpn : other.vpn = page.vpn
      · have same : other = page := by
          cases other
          cases page
          simp_all
        rw [if_pos sameVpn, if_pos same]
      · have differs : other ≠ page := fun same => sameVpn (congrArg PageId.vpn same)
        rw [if_neg sameVpn, if_neg differs]
  · have differs : other ≠ page := fun same => sameSpace (congrArg PageId.space same)
    rw [if_neg sameSpace, if_neg differs]

@[simp]
theorem image?_modifyEntry (space : SpaceId) :
    (manager.modifyEntry page change).image? space = manager.image? space := by
  simp only [image?, modifyEntry, KeyedTable.find?_modify]
  split
  · rw [Option.map_map]
    rfl
  · rfl

@[simp]
theorem numPages?_modifyEntry (space : SpaceId) :
    (manager.modifyEntry page change).numPages? space = manager.numPages? space := by
  simp only [numPages?, modifyEntry, KeyedTable.find?_modify]
  split
  · rw [Option.map_map]
    congr 1
    funext record
    exact PageTable.size_modify record.table page.vpn change
  · rfl

/-- The marks are copied frame by frame, in order. -/
theorem syncUsedMarks_inductionUpTo (holds : Nat → Manager pageSize → Prop)
    (start : holds 0 manager)
    (skip : ∀ frame current, manager.frames.owner? frame = none → holds frame current →
      holds (frame + 1) current)
    (mark : ∀ frame page current, manager.frames.owner? frame = some page → holds frame current →
      holds (frame + 1)
        (current.modifyEntry page fun entry =>
          { entry with used := manager.frames.isUsed frame })) :
    holds manager.frames.size manager.syncUsedMarks := by
  refine Array.foldl_induction holds start ?_
  intro index current kept
  have owned : manager.frames.owner? index.val = manager.frames.frames[index].owner := by
    simp [FrameTable.owner?]
  have used : manager.frames.isUsed index.val = manager.frames.frames[index].used := by
    simp [FrameTable.isUsed]
  cases occupant : manager.frames.frames[index].owner with
  | none => simpa [occupant] using skip index current (owned.trans occupant) kept
  | some page =>
    have marked := mark index page current (owned.trans occupant) kept
    rw [used] at marked
    simpa [occupant] using marked

/-- Copying the used marks keeps whatever is kept when the used mark of some
occupant's entry is set. -/
theorem syncUsedMarks_induction (holds : Manager pageSize → Prop) (start : holds manager)
    (mark : ∀ (current : Manager pageSize) (page : PageId) (used : Bool),
      (∃ frame, manager.frames.owner? frame = some page) → holds current →
      holds (current.modifyEntry page fun entry => { entry with used := used })) :
    holds manager.syncUsedMarks :=
  syncUsedMarks_inductionUpTo (fun _ => holds) start (fun _ _ _ kept => kept)
    fun frame page current owned kept => mark current page _ ⟨frame, owned⟩ kept

end Changes

end Manager

end DemandPaging
