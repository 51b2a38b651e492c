import DemandPaging.Proofs.FrameAccounting

/-!
# The phases of a fault

A stage of a fault does several things at once: it may unmap a victim, choose
where the content of the page comes from, fill the frame and map the page.
Here a fault is taken apart into phases, and `Passes` lists everything that can
take it from one phase to the next, together with the manager that results.
What has to be shown about faults is shown once for each of these steps.
-/

namespace DemandPaging

/-- How far a fault has come, told more finely than by its stage. -/
inductive FaultPhase where
  | arriving
  /-- The frame is held and its content no longer needed. -/
  | leased (frame : Nat)
  /-- The content of the victim is to be written to swap. -/
  | saving (frame : Nat) (victim : PageId) (content : Bytes)
  /-- The victim was written to swap, or could not be. -/
  | saved (frame : Nat) (victim : PageId) (outcome : Except SwapError Nat)
  /-- The content of the page is to be read from its slot. -/
  | fetching (frame slot : Nat)
  | fetched (frame slot : Nat) (outcome : Except PagingError Unit)
  /-- The content of the page is in the frame. -/
  | filled (frame : Nat) (source : ContentSource)
  | finished (outcome : Except PagingError Resolution)

namespace FaultPhase

/-- What a fault on `page` holds in a phase. -/
def holding? (page : PageId) : FaultPhase → Option Holding
  | arriving => none
  | leased frame => some { frame := frame, page := page }
  | saving frame victim _ => some { frame := frame, page := page, victim := victim }
  | saved frame victim _ => some { frame := frame, page := page, victim := victim }
  | fetching frame _ => some { frame := frame, page := page }
  | fetched frame _ _ => some { frame := frame, page := page }
  | filled frame _ => some { frame := frame, page := page }
  | finished _ => none

end FaultPhase

namespace FaultStage

def phase : FaultStage → FaultPhase
  | arriving => .arriving
  | savingVictim lease victim content => .saving lease.frame victim content
  | victimSaved lease victim outcome => .saved lease.frame victim outcome
  | fetching lease slot => .fetching lease.frame slot
  | fetched lease slot outcome => .fetched lease.frame slot outcome
  | finished outcome => .finished outcome

end FaultStage

namespace Manager

variable {pageSize : Nat}

def frameContent (manager : Manager pageSize) (frame : Nat) : Bytes :=
  Bytes.slice manager.memory.content (frame * pageSize) pageSize

/-- The manager after the clock looked for a victim. -/
def swept (manager : Manager pageSize) : Manager pageSize :=
  let selection := manager.clock.selectVictim manager.frames
  { manager with clock := selection.clock, frames := selection.table }

/-- The manager after a fault on `page` took hold of a frame that the clock
chose; the page that was in the frame still has a valid entry. -/
def seized (manager : Manager pageSize) (page : PageId) (frame : Nat) : Manager pageSize :=
  let synced := manager.swept.syncUsedMarks
  { synced with
    frames := (synced.frames.alter frame Frame.vacate).alter frame Frame.pin
    inTransit := synced.inTransit.set page frame }

/-- The manager after a fault on `page` took `frame` away from `victim`. -/
def evicted (manager : Manager pageSize) (page : PageId) (frame : Nat) (victim : PageId)
    (dirty : Bool) : Manager pageSize :=
  (((manager.seized page frame).modifyEntry victim PageEntry.invalidate).bump .eviction).record
    (.evictionChosen frame victim dirty)

/-- The manager with another log and other counters, which is all that moving a
counter and recording an event can change. -/
def withBooks (manager : Manager pageSize) (log : EventLog) (statistics : Statistics) :
    Manager pageSize :=
  { manager with log := log, statistics := statistics }

def fillFrame (manager : Manager pageSize) (frame : Nat) (content : Bytes) : Manager pageSize :=
  { manager with memory := manager.memory.overwrite (frame * pageSize) content }

def markReadOnly (manager : Manager pageSize) (page : PageId) (readOnly : Bool) :
    Manager pageSize :=
  manager.modifyEntry page fun entry => { entry with readOnly := readOnly }

def landed (manager : Manager pageSize) (page : PageId) : Manager pageSize :=
  { manager with inTransit := manager.inTransit.erase page }

/-- The manager after `page` was mapped into `frame`. -/
def mapped (manager : Manager pageSize) (page : PageId) (frame : Nat) (dirty : Bool) :
    Manager pageSize :=
  ({ manager with frames := manager.frames.alter frame (Frame.occupy page) }).modifyEntry page
    fun entry => { entry.install frame with dirty := dirty }

/-- The manager after `frame`, in which there is no page, was given back. -/
def vacated (manager : Manager pageSize) (frame : Nat) (pool : FramePool) : Manager pageSize :=
  { manager with frames := manager.frames.alter frame Frame.vacate, pool := pool }

/-- The steps of a fault on `page`. -/
inductive Passes (page : PageId) :
    Manager pageSize → FaultPhase → Manager pageSize → FaultPhase → Prop where
  | missing {manager error} :
      manager.entry page = .error error →
      Passes page manager .arriving manager (.finished (.error error))
  | resident {manager entry} :
      manager.entry page = .ok entry → entry.valid = true →
      Passes page manager .arriving manager (.finished (.ok (.alreadyResident entry.frame)))
  /-- No frame is free and none can be evicted. -/
  | exhausted {manager error} :
      manager.place page = .ok none →
      manager.pool.allocate = .error error →
      (manager.clock.selectVictim manager.frames).victim = none →
      Passes page manager .arriving manager.swept (.finished (.error .outOfFrames))
  | lease {manager frame pool} :
      manager.place page = .ok none →
      manager.inTransit.find? page = none →
      manager.pool.allocate = .ok (frame, pool) →
      Passes page manager .arriving
        { manager with
          pool := pool
          frames := manager.frames.alter frame Frame.pin
          inTransit := manager.inTransit.set page frame }
        (.leased frame)
  /-- A clean page loses its frame. -/
  | drop {manager error frame victim entry} :
      manager.place page = .ok none →
      manager.inTransit.find? page = none →
      manager.pool.allocate = .error error →
      (manager.clock.selectVictim manager.frames).victim = some frame →
      manager.frames.owner? frame = some victim →
      manager.entry victim = .ok entry → entry.dirty = false →
      Passes page manager .arriving
        (((manager.evicted page frame victim false).bump .swapSkippedClean).record
          (.swapSkippedClean victim))
        (.leased frame)
  /-- A dirty page loses its frame and has to be written to swap. -/
  | unmap {manager error frame victim entry} :
      manager.place page = .ok none →
      manager.inTransit.find? page = none →
      manager.pool.allocate = .error error →
      (manager.clock.selectVictim manager.frames).victim = some frame →
      manager.frames.owner? frame = some victim →
      manager.entry victim = .ok entry → entry.dirty = true →
      Passes page manager .arriving
        { manager.evicted page frame victim true with
          inTransit := (manager.evicted page frame victim true).inTransit.set victim frame }
        (.saving frame victim (manager.frameContent frame))
  | save {manager frame victim content outcome swap volume} :
      manager.swap.write manager.volume.takeTrouble.2 victim content
        manager.volume.takeTrouble.1 = (outcome, swap, volume) →
      Passes page manager (.saving frame victim content)
        { manager with swap := swap, volume := volume } (.saved frame victim outcome)
  | land {manager frame victim slot} :
      Passes page manager (.saved frame victim (.ok slot))
        (((manager.landed victim).bump .swapWrite).record (.swapWrite victim slot)) (.leased frame)
  /-- The victim could not be saved and gets its frame back. -/
  | restore {manager frame victim error} :
      Passes page manager (.saved frame victim (.error error))
        (((manager.landed victim).mapped victim frame true).settle page ⟨frame⟩)
        (.finished (.error (.swap error)))
  | locate {manager frame slot} :
      manager.swap.slotOf? page = some slot →
      Passes page manager (.leased frame) manager (.fetching frame slot)
  /-- The page has no swap slot, but a section shows it. -/
  | show {manager frame image index number} {content : Page pageSize} :
      manager.swap.slotOf? page = none →
      manager.image? page.space = some image →
      image.findSection page.vpn = some (index, number) →
      image.loadPage index number = .ok content →
      Passes page manager (.leased frame)
        ((((manager.fillFrame frame content.toArray).markReadOnly page
          (image.readOnly index)).bump .sectionLoad).record (.sectionLoad page index))
        (.filled frame (.executable index number))
  /-- The page has no swap slot and no section shows it. -/
  | clear {manager frame image} :
      manager.swap.slotOf? page = none →
      manager.image? page.space = some image →
      image.findSection page.vpn = none →
      Passes page manager (.leased frame)
        ((((manager.fillFrame frame (Bytes.zeros pageSize)).markReadOnly page
          false).bump .zeroFill).record (.zeroFill page))
        (.filled frame .zeroFill)
  /-- The section cannot produce the page. -/
  | unshown {manager frame pool image index number error} :
      manager.swap.slotOf? page = none →
      manager.image? page.space = some image →
      image.findSection page.vpn = some (index, number) →
      image.loadPage index number = .error error →
      manager.pool.free frame = .ok pool →
      Passes page manager (.leased frame)
        ((manager.vacated frame pool).settle page ⟨frame⟩)
        (.finished (.error (.image error)))
  | fetch {manager frame slot content} :
      manager.swap.read manager.volume.takeTrouble.2 slot pageSize
        manager.volume.takeTrouble.1 = .ok content →
      Passes page manager (.fetching frame slot)
        ({ manager with volume := manager.volume.takeTrouble.2 }.fillFrame frame content)
        (.fetched frame slot (.ok ()))
  /-- The slot cannot be read. -/
  | miss {manager frame slot error} :
      manager.swap.read manager.volume.takeTrouble.2 slot pageSize
        manager.volume.takeTrouble.1 = .error error →
      Passes page manager (.fetching frame slot)
        { manager with volume := manager.volume.takeTrouble.2 }
        (.fetched frame slot (.error (.swap error)))
  /-- The content came from the slot. -/
  | receive {manager frame slot} :
      Passes page manager (.fetched frame slot (.ok ()))
        ((manager.bump .swapRead).record (.swapRead page slot)) (.filled frame (.swap slot))
  /-- The content did not come. -/
  | abandon {manager frame slot pool error} :
      manager.pool.free frame = .ok pool →
      Passes page manager (.fetched frame slot (.error error))
        ((manager.vacated frame pool).settle page ⟨frame⟩)
        (.finished (.error error))
  | map {manager frame source} :
      Passes page manager (.filled frame source)
        ((manager.mapped page frame false).settle page ⟨frame⟩)
        (.finished (.ok (.loaded frame source)))

theorem record_bump (manager : Manager pageSize) (counter : Counter) (event : Event) :
    (manager.bump counter).record event =
      manager.withBooks (manager.log.record event) (manager.statistics.bump counter) :=
  rfl

section Accounts

variable {manager : Manager pageSize}

theorem sameAccounts_withBooks (manager : Manager pageSize) (log : EventLog)
    (statistics : Statistics) : SameAccounts manager (manager.withBooks log statistics) :=
  ⟨⟨rfl, rfl, rfl, rfl, rfl⟩, fun _ => rfl, fun _ => rfl, fun _ => rfl, fun _ => rfl, fun _ => rfl⟩

theorem sameAccounts_modifyEntry (page : PageId) (change : PageEntry → PageEntry)
    (keeps : ∀ entry, (change entry).frame? = entry.frame?) :
    SameAccounts manager (manager.modifyEntry page change) where
  numFrames_pool := rfl
  size_frames := rfl
  numFrames_memory := rfl
  keys_spaces := KeyedTable.keys_modify _ _ _
  nextSpace_eq := rfl
  isAllocated_eq _ := rfl
  owner?_eq _ := rfl
  isPinned_eq _ := rfl
  inTransit_eq _ := rfl
  place_eq := place_modifyEntry_of_keeps keeps

theorem sameAccounts_swept (manager : Manager pageSize) : SameAccounts manager manager.swept :=
  have agrees := Clock.agreesButUsed_selectVictim manager.clock manager.frames
  { numFrames_pool := rfl
    size_frames := agrees.size_eq
    numFrames_memory := rfl
    keys_spaces := rfl
    nextSpace_eq := rfl
    isAllocated_eq := fun _ => rfl
    owner?_eq := agrees.owner?_eq
    isPinned_eq := agrees.isPinned_eq
    inTransit_eq := fun _ => rfl
    place_eq := fun _ => rfl }

theorem sameAccounts_syncUsedMarks (manager : Manager pageSize) :
    SameAccounts manager manager.syncUsedMarks :=
  syncUsedMarks_induction (SameAccounts manager) (.refl manager)
    fun _ page _ _ same => same.trans (sameAccounts_modifyEntry page _ fun _ => rfl)

theorem sameAccounts_synced (manager : Manager pageSize) :
    SameAccounts manager manager.swept.syncUsedMarks :=
  (sameAccounts_swept manager).trans (sameAccounts_syncUsedMarks _)

/-- Copying the used marks changes nothing but page tables. -/
theorem syncUsedMarks_eq (manager : Manager pageSize) :
    ∃ spaces, manager.syncUsedMarks = { manager with spaces := spaces } := by
  refine syncUsedMarks_induction (fun current => ∃ spaces, current = { manager with spaces })
    ⟨manager.spaces, rfl⟩ ?_
  rintro current page used - ⟨spaces, rfl⟩
  exact ⟨_, rfl⟩

theorem entry_seized {page other : PageId} {frame : Nat} :
    (manager.seized page frame).entry other = manager.swept.syncUsedMarks.entry other := by
  unfold seized
  generalize manager.swept.syncUsedMarks = synced
  rfl

/-- Taking a frame away from a page changes page tables and frames only. -/
theorem evicted_eq (manager : Manager pageSize) (page : PageId) (frame : Nat) (victim : PageId)
    (dirty : Bool) :
    (manager.evicted page frame victim dirty).memory = manager.memory ∧
      (manager.evicted page frame victim dirty).swap = manager.swap ∧
      (manager.evicted page frame victim dirty).volume = manager.volume := by
  obtain ⟨spaces, synced⟩ := syncUsedMarks_eq manager.swept
  simp only [evicted, seized, synced, bump, record, modifyEntry]
  simp only [swept, and_self]

theorem sameAccounts_fillFrame (manager : Manager pageSize) (frame : Nat) (content : Bytes) :
    SameAccounts manager (manager.fillFrame frame content) :=
  ⟨⟨rfl, rfl, rfl, rfl, rfl⟩, fun _ => rfl, fun _ => rfl, fun _ => rfl, fun _ => rfl, fun _ => rfl⟩

theorem sameAccounts_markReadOnly (manager : Manager pageSize) (page : PageId)
    (readOnly : Bool) : SameAccounts manager (manager.markReadOnly page readOnly) :=
  sameAccounts_modifyEntry page _ fun _ => rfl

theorem takesHold_lease {holdings : Nat → Option Holding} {page : PageId} {frame : Nat}
    {pool : FramePool} (accounted : manager.Accounted holdings)
    (taken : manager.pool.allocate = .ok (frame, pool)) :
    TakesHold manager { manager with
        pool := pool
        frames := manager.frames.alter frame Frame.pin
        inTransit := manager.inTransit.set page frame }
      { frame := frame, page := page } := by
  obtain ⟨inside, free, -, numFrames, allocated⟩ := FramePool.of_allocate_eq_ok taken
  have present : frame < manager.frames.size := accounted.size_frames ▸ inside
  have unowned := (accounted.of_free free).1
  constructor
  case toSameShape => exact ⟨numFrames, FrameTable.size_alter, rfl, rfl, rfl⟩
  case isAllocated_iff => exact allocated
  case owner?_eq =>
    intro other
    rw [FrameTable.owner?_alter_of_keeps Frame.pin fun _ => rfl]
    grind
  case isPinned_eq => exact FrameTable.isPinned_alter_of_sets present Frame.pin fun _ => rfl
  case inTransit_eq =>
    intro other
    simp [KeyedTable.find?_set, Holding.Moves]
  case place_eq =>
    intro other
    rw [unowned]
    simp [place, entry]

theorem takesHold_evicted {holdings : Nat → Option Holding} {frame : Nat} {victim : PageId}
    (accounted : manager.Accounted holdings) (owned : manager.frames.owner? frame = some victim)
    (page : PageId) (dirty : Bool) :
    TakesHold manager.swept.syncUsedMarks (manager.evicted page frame victim dirty)
      { frame := frame, page := page } := by
  have same := sameAccounts_synced manager
  have accountedStill := accounted.of_same same
  have ownedStill := (same.owner?_eq frame).trans owned
  -- From here on the used marks play no part, and any manager would do.
  generalize syncedEq : manager.swept.syncUsedMarks = synced at accountedStill ownedStill
  simp only [evicted, seized, syncedEq]
  have inside := FrameTable.lt_size_of_owner? ownedStill
  have placed := (accountedStill.owner_iff frame victim).mp ownedStill
  obtain ⟨entry, found, -⟩ := place_eq_ok_iff.mp placed
  constructor
  case toSameShape =>
    refine ⟨rfl, ?_, rfl, KeyedTable.keys_modify _ _ _, rfl⟩
    exact FrameTable.size_alter.trans FrameTable.size_alter
  case isAllocated_iff =>
    intro other
    have taken := (accountedStill.allocated_iff frame).mpr (.inl ⟨victim, ownedStill⟩)
    change synced.pool.isAllocated other = true ↔ _
    grind
  case owner?_eq =>
    intro other
    change ((synced.frames.alter frame Frame.vacate).alter frame Frame.pin).owner? other = _
    rw [FrameTable.owner?_alter_alter inside Frame.vacate Frame.pin (fun _ => rfl) fun _ => rfl]
  case isPinned_eq =>
    intro other
    change ((synced.frames.alter frame Frame.vacate).alter frame Frame.pin).isPinned other = _
    rw [FrameTable.isPinned_alter_alter inside Frame.vacate Frame.pin (fun _ => rfl) fun _ => rfl]
  case inTransit_eq =>
    intro other
    change (synced.inTransit.set page frame).find? other = _
    simp [KeyedTable.find?_set, Holding.Moves]
  case place_eq =>
    intro other
    apply (place_modifyEntry found).trans
    change _ = if synced.frames.owner? frame = some other then _ else _
    rw [ownedStill]
    by_cases same : other = victim
    · rw [if_pos same, if_pos (congrArg some same.symm), PageEntry.frame?_invalidate]
    · rw [if_neg same, if_neg fun equal => same (Option.some.inj equal).symm]

/-- A fault may take hold of the frame that the clock chose, for a page that is
in no frame and that no fault moves. -/
theorem Accounted.hold_swept {next : Manager pageSize} {holdings : Nat → Option Holding}
    {thread : Nat} {holding : Holding} {victim : PageId} (accounted : manager.Accounted holdings)
    (idle : holdings thread = none)
    (takes : TakesHold manager.swept.syncUsedMarks next holding)
    (owned : manager.frames.owner? holding.frame = some victim)
    (away : manager.place holding.page = .ok none)
    (still : manager.inTransit.find? holding.page = none)
    (leaves : ∀ other, holding.victim = some other → other = victim) :
    next.Accounted (Function.update holdings thread (some holding)) := by
  -- Neither the hand of the clock nor the used marks are part of the accounts.
  have same := sameAccounts_synced manager
  apply (accounted.of_same same).hold idle takes
  · rw [same.isPinned_eq]
    exact accounted.isPinned_eq_false owned
  · rw [same.place_eq, away]
  · rw [same.inTransit_eq, still]
  · intro other left
    rw [same.owner?_eq, owned, leaves other left]

theorem TakesHold.withVictim {next : Manager pageSize} {holding : Holding}
    (takes : TakesHold manager next holding) (victim : PageId)
    (alone : holding.victim = none) :
    TakesHold manager { next with inTransit := next.inTransit.set victim holding.frame }
      { holding with victim := victim } where
  toSameShape := { takes.toSameShape with }
  isAllocated_iff := takes.isAllocated_iff
  owner?_eq := takes.owner?_eq
  isPinned_eq := takes.isPinned_eq
  inTransit_eq other := by
    have before := takes.inTransit_eq other
    by_cases same : other = victim
    · rw [same, KeyedTable.find?_set_self, if_pos (.inr rfl)]
    · have alike : { holding with victim := some victim }.Moves other ↔ holding.Moves other := by
        simp [Holding.Moves, alone, Ne.symm same]
      simp only [KeyedTable.find?_set_of_ne _ _ same, before, alike]
  place_eq := takes.place_eq

/-- A page that a fault moves may be mapped into the frame of the fault. -/
theorem letsGo_mapped {holdings : Nat → Option Holding} {thread : Nat} {holding : Holding}
    {transit : KeyedTable PageId Nat} {page resident : PageId}
    (accounted : manager.Accounted holdings) (held : holdings thread = some holding)
    (moves : holding.Moves resident)
    (ended : ∀ other, (transit.erase page).find? other =
      if holding.Moves other then none else manager.inTransit.find? other) (dirty : Bool) :
    LetsGo manager
      ((mapped { manager with inTransit := transit } resident holding.frame dirty).settle page
        ⟨holding.frame⟩)
      holding (some resident) := by
  have pinned := (accounted.pinned_iff holding.frame).mpr ⟨thread, holding, held, rfl⟩
  have inside := FrameTable.lt_size_of_isPinned pinned
  obtain ⟨entry, found, -⟩ :=
    place_eq_ok_iff.mp (accounted.away thread holding resident held moves)
  constructor
  case toSameShape =>
    refine ⟨rfl, ?_, rfl, KeyedTable.keys_modify _ _ _, rfl⟩
    exact FrameTable.size_alter.trans FrameTable.size_alter
  case isAllocated_iff =>
    intro other
    exact ⟨fun taken => ⟨fun _ => rfl, taken⟩, And.right⟩
  case owner?_eq =>
    intro other
    change ((manager.frames.alter holding.frame (Frame.occupy resident)).alter holding.frame
      Frame.unpin).owner? other = _
    rw [FrameTable.owner?_alter_alter inside (Frame.occupy resident) Frame.unpin (fun _ => rfl)
      fun _ => rfl]
  case isPinned_eq =>
    intro other
    change ((manager.frames.alter holding.frame (Frame.occupy resident)).alter holding.frame
      Frame.unpin).isPinned other = _
    rw [FrameTable.isPinned_alter_alter inside (Frame.occupy resident) Frame.unpin (fun _ => rfl)
      fun _ => rfl]
  case inTransit_eq => exact ended
  case place_eq =>
    intro other
    apply (place_modifyEntry found).trans
    by_cases same : other = resident
    · rw [if_pos same, if_pos (congrArg some same.symm)]
      rfl
    · rw [if_neg same, if_neg fun equal => same (Option.some.inj equal).symm]

theorem letsGo_vacated {holdings : Nat → Option Holding} {thread frame : Nat} {page : PageId}
    {pool : FramePool} (accounted : manager.Accounted holdings)
    (held : holdings thread = some { frame := frame, page := page })
    (freed : manager.pool.free frame = .ok pool) :
    LetsGo manager ((manager.vacated frame pool).settle page ⟨frame⟩)
      { frame := frame, page := page } none := by
  have pinned := (accounted.pinned_iff frame).mpr ⟨thread, _, held, rfl⟩
  have inside := FrameTable.lt_size_of_isPinned pinned
  have taken := (accounted.allocated_iff frame).mpr (.inr pinned)
  obtain ⟨next, nextFreed, numFrames, allocated⟩ := FramePool.free_of_isAllocated taken
  rw [freed] at nextFreed
  obtain rfl := Except.ok.inj nextFreed
  constructor
  case toSameShape =>
    exact ⟨numFrames, FrameTable.size_alter.trans FrameTable.size_alter, rfl, rfl, rfl⟩
  case isAllocated_iff =>
    intro other
    apply (allocated other).trans
    simp
  case owner?_eq =>
    intro other
    change ((manager.frames.alter frame Frame.vacate).alter frame Frame.unpin).owner? other = _
    rw [FrameTable.owner?_alter_alter inside Frame.vacate Frame.unpin (fun _ => rfl) fun _ => rfl]
  case isPinned_eq =>
    intro other
    change ((manager.frames.alter frame Frame.vacate).alter frame Frame.unpin).isPinned other = _
    rw [FrameTable.isPinned_alter_alter inside Frame.vacate Frame.unpin (fun _ => rfl) fun _ => rfl]
  case inTransit_eq =>
    intro other
    change (manager.inTransit.erase page).find? other = _
    simp [KeyedTable.find?_erase, Holding.Moves]
  case place_eq => exact fun _ => rfl

/-- Every step of a fault keeps the accounts, whatever other faults hold. -/
theorem Passes.accounted {page : PageId} {next : Manager pageSize} {phase nextPhase : FaultPhase}
    (passes : Passes page manager phase next nextPhase) {holdings : Nat → Option Holding}
    {thread : Nat}
    (accounted : manager.Accounted (Function.update holdings thread (phase.holding? page))) :
    next.Accounted (Function.update holdings thread (nextPhase.holding? page)) := by
  have held : Function.update holdings thread (phase.holding? page) thread =
      phase.holding? page := Function.update_self ..
  cases passes with
  | missing | resident | locate => exact accounted
  | exhausted => exact accounted.of_same (sameAccounts_swept manager)
  | lease away still taken =>
    obtain ⟨inside, free, -⟩ := FramePool.of_allocate_eq_ok taken
    rw [← Function.update_idem]
    exact accounted.hold held (takesHold_lease accounted taken) (accounted.of_free free).2 away
      still (fun _ moved => by cases moved)
  | @drop _ frame victim _ away still _ chosen owned =>
    rw [← Function.update_idem]
    have takes := takesHold_evicted accounted owned page false
    have heldNow := accounted.hold_swept held takes owned away still
      (fun _ moved => by cases moved)
    rw [record_bump]
    exact heldNow.of_same (sameAccounts_withBooks _ _ _)
  | @unmap _ frame victim _ away still _ chosen owned =>
    rw [← Function.update_idem]
    have takes := takesHold_evicted accounted owned page true
    exact accounted.hold_swept held (takes.withVictim victim rfl) owned away still
      (fun _ moved => (Option.some.inj moved).symm)
  | save => exact accounted.of_same { SameAccounts.refl manager with }
  | land =>
    rw [← Function.update_idem]
    exact (accounted.land held rfl).of_same (sameAccounts_withBooks _ _ _)
  | restore =>
    rw [← Function.update_idem]
    refine accounted.letGo held (letsGo_mapped accounted held (.inr rfl) ?_ true) ?_
    · intro other
      simp only [KeyedTable.find?_erase, Holding.Moves, Option.some.injEq]
      grind
    · intro resident moved
      exact .inr moved
  | «show» | clear =>
    exact ((accounted.of_same (sameAccounts_fillFrame _ _ _)).of_same
      (sameAccounts_markReadOnly _ _ _)).of_same (sameAccounts_withBooks _ _ _)
  | unshown _ _ _ _ freed =>
    rw [← Function.update_idem]
    exact accounted.letGo held (letsGo_vacated accounted held freed) (fun _ moved => by cases moved)
  | fetch | miss => exact accounted.of_same { SameAccounts.refl manager with }
  | receive => exact accounted.of_same (sameAccounts_withBooks _ _ _)
  | abandon freed =>
    rw [← Function.update_idem]
    exact accounted.letGo held (letsGo_vacated accounted held freed) (fun _ moved => by cases moved)
  | map =>
    rw [← Function.update_idem]
    refine accounted.letGo held (letsGo_mapped accounted held (.inl rfl) ?_ false) ?_
    · intro other
      simp [KeyedTable.find?_erase, Holding.Moves]
    · intro resident moved
      exact .inl (Option.some.inj moved).symm

end Accounts

end Manager

end DemandPaging
