import DemandPaging.Proofs.FaultReach

/-!
# What a fault comes to

A fault either finds its page resident, brings it into a frame, or fails.
This module gives the rules: which frame a fault obtains, where the content of
a page comes from, and what can go wrong before and after there is a frame.
Every step of a fault follows the rules and undoes what has to be undone, so
that a whole fault ends as they say.
-/

namespace DemandPaging

namespace Manager

variable {pageSize : Nat}

/-- Every page in a frame could be brought in again: it has a slot, or its
image can produce it. -/
def Recoverable (manager : Manager pageSize) : Prop :=
  ∀ page frame, manager.place page = .ok (some frame) → manager.swap.slotOf? page = none →
    ∃ bytes, (manager.image? page.space).bind (·.initialContent? page.vpn) = some bytes

/-- No frame is free. -/
def Full (manager : Manager pageSize) : Prop :=
  ∀ frame, frame < manager.numFrames → manager.pool.isAllocated frame = true

/-- A fault has to take `frame` away from `victim`, which is `dirty` or not. -/
structure Evicts (manager : Manager pageSize) (frame : Nat) (victim : PageId) (dirty : Bool) :
    Prop where
  full : manager.Full
  chosen : (manager.clock.selectVictim manager.frames).victim = some frame
  owned : manager.frames.owner? frame = some victim
  marked : ∃ entry, manager.entry victim = .ok entry ∧ entry.dirty = dirty

/-- What becomes of the content of a victim when a fault writes it to swap. -/
def saveContent (manager : Manager pageSize) (frame : Nat) (victim : PageId) :
    Except SwapError Nat × SwapArea PageId pageSize × Volume :=
  manager.swap.write manager.volume.takeTrouble.2 victim (manager.frameContent frame)
    manager.volume.takeTrouble.1

/-- The frame that a fault obtains, and the page that had to leave it, with the
swap area and the volume at that time. -/
inductive Obtains (manager : Manager pageSize) :
    Nat → Option PageId → SwapArea PageId pageSize → Volume → Prop where
  /-- The lowest free frame. -/
  | free {frame} :
      frame < manager.numFrames → manager.pool.isAllocated frame = false →
      (∀ lower, lower < frame → manager.pool.isAllocated lower = true) →
      Obtains manager frame none manager.swap manager.volume
  | clean {frame victim} :
      manager.Evicts frame victim false →
      Obtains manager frame (some victim) manager.swap manager.volume
  | dirty {frame victim slot swap volume} :
      manager.Evicts frame victim true →
      manager.saveContent frame victim = (.ok slot, swap, volume) →
      Obtains manager frame (some victim) swap volume

/-- Where the content of a page comes from, what it is, and whether the page is
read-only then. -/
inductive Supplies (manager : Manager pageSize) (page : PageId) :
    ContentSource → Bytes → Bool → Prop where
  /-- A page with a slot comes from there, and keeps its mark. -/
  | swap {slot bytes entry} :
      manager.swap.slotOf? page = some slot → manager.stored? page = some bytes →
      manager.entry page = .ok entry →
      Supplies manager page (.swap slot) bytes entry.readOnly
  | executable {image index number} {content : Page pageSize} :
      manager.swap.slotOf? page = none →
      manager.image? page.space = some image →
      image.findSection page.vpn = some (index, number) →
      image.loadPage index number = .ok content →
      Supplies manager page (.executable index number) content.toArray (image.readOnly index)
  | zeroFill {image} :
      manager.swap.slotOf? page = none →
      manager.image? page.space = some image →
      image.findSection page.vpn = none →
      Supplies manager page .zeroFill (Bytes.zeros pageSize) false

/-- Why a fault on a page gets no frame for it. -/
inductive Refused (manager : Manager pageSize) (page : PageId) : PagingError → Prop where
  | missing {error} : manager.entry page = .error error → Refused manager page error
  /-- No frame is free and none can be taken away from its page. -/
  | exhausted :
      manager.place page = .ok none → manager.Full →
      (manager.clock.selectVictim manager.frames).victim = none →
      Refused manager page .outOfFrames
  /-- The page that has to leave cannot be written to swap. -/
  | unsaved {frame victim error swap volume} :
      manager.place page = .ok none → manager.Evicts frame victim true →
      manager.saveContent frame victim = (.error error, swap, volume) →
      Refused manager page (.swap error)

/-- Why a fault that obtained a frame cannot fill it. -/
inductive Unfilled (manager : Manager pageSize) (page : PageId) (frame : Nat)
    (victim? : Option PageId) : PagingError → Prop where
  /-- The slot of the page cannot be read. -/
  | unread {slot error swap volume} :
      manager.place page = .ok none → manager.Obtains frame victim? swap volume →
      manager.swap.slotOf? page = some slot →
      swap.read volume.takeTrouble.2 slot pageSize volume.takeTrouble.1 = .error error →
      Unfilled manager page frame victim? (.swap error)
  /-- The section of the page cannot produce it. -/
  | unshown {image index number error swap volume} :
      manager.place page = .ok none → manager.Obtains frame victim? swap volume →
      manager.swap.slotOf? page = none →
      manager.image? page.space = some image →
      image.findSection page.vpn = some (index, number) →
      image.loadPage index number = .error error →
      Unfilled manager page frame victim? (.image error)

/-- The page is in the frame that the fault obtained, with its content. -/
structure Loads (before after : Manager pageSize) (page : PageId) (frame : Nat)
    (victim? : Option PageId) (source : ContentSource) : Prop
    extends Confined before after page frame victim? where
  obtained : ∃ volume, before.Obtains frame victim? after.swap volume
  supplied : ∃ entry readOnly, before.entry page = .ok entry ∧ entry.valid = false ∧
    before.Supplies page source (after.frameContent frame) readOnly ∧
    after.entry page = .ok { entry.install frame with readOnly := readOnly }
  owner?_frame : after.frames.owner? frame = some page
  isAllocated_frame : after.pool.isAllocated frame = true

/-- Nothing has become of a fault: every page is where it was, with the same
bytes in every frame and the same slots. -/
structure Undone (before after : Manager pageSize) : Prop extends SameSpaces before after where
  unmarkedEntry_eq : ∀ page, after.unmarkedEntry page = before.unmarkedEntry page
  memory_eq : after.memory = before.memory
  pool_eq : after.pool = before.pool
  owner?_eq : ∀ frame, after.frames.owner? frame = before.frames.owner? frame
  slotOf?_eq : ∀ page, after.swap.slotOf? page = before.swap.slotOf? page

/-- The frame that a fault obtained is free, and the page is still not in a
frame. -/
structure GivenUp (before after : Manager pageSize) (page : PageId) (frame : Nat)
    (victim? : Option PageId) : Prop extends Confined before after page frame victim? where
  entry_page : ∃ entry, before.entry page = .ok entry ∧ entry.valid = false ∧
    after.entry page = .ok entry
  owner?_frame : after.frames.owner? frame = none
  isAllocated_frame : after.pool.isAllocated frame = false

/-- How a fault ends. -/
inductive Ends (before : Manager pageSize) (page : PageId) :
    Except PagingError Resolution → Manager pageSize → Prop where
  /-- A fault on a page in a frame changes nothing, but it is counted. -/
  | resident {frame after} :
      before.place page = .ok (some frame) →
      after = { before with
        log := after.log
        statistics := before.statistics.bump .pageFault } →
      Ends before page (.ok (.alreadyResident frame)) after
  | loaded {frame victim? source after} :
      Loads before after page frame victim? source →
      Ends before page (.ok (.loaded frame source)) after
  | refused {error after} :
      before.Refused page error → Undone before after → Ends before page (.error error) after
  | givenUp {frame victim? error after} :
      before.Unfilled page frame victim? error → GivenUp before after page frame victim? →
      Ends before page (.error error) after

/-- The manager after a fault on `page` unmapped a dirty `victim`. -/
def unmapped (manager : Manager pageSize) (page : PageId) (frame : Nat) (victim : PageId) :
    Manager pageSize :=
  { manager.evicted page frame victim true with
    inTransit := (manager.evicted page frame victim true).inTransit.set victim frame }

/-- A fault holds a frame for its page, which is still not in a frame. -/
structure Leases (before current : Manager pageSize) (page : PageId) (frame : Nat)
    (victim? : Option PageId) : Prop extends Confined before current page frame victim? where
  entry_page : ∃ entry, before.entry page = .ok entry ∧ entry.valid = false ∧
    current.entry page = .ok entry

/-- What a fault on `page` that began with `before` has come to in a phase. -/
def Progress (before current : Manager pageSize) (page : PageId) : FaultPhase → Prop
  | .arriving => current = before.recordStart page
  | .saving frame victim bytes =>
    before.place page = .ok none ∧ before.Evicts frame victim true ∧
      bytes = before.frameContent frame ∧
      current = (before.recordStart page).unmapped page frame victim
  | .saved frame victim outcome =>
    before.place page = .ok none ∧ before.Evicts frame victim true ∧
      ∃ swap volume, before.saveContent frame victim = (outcome, swap, volume) ∧
        current = { (before.recordStart page).unmapped page frame victim with
          swap := swap, volume := volume }
  | .leased frame =>
    ∃ victim?, before.Obtains frame victim? current.swap current.volume ∧
      Leases before current page frame victim?
  | .fetching frame slot =>
    ∃ victim?, before.Obtains frame victim? current.swap current.volume ∧
      Leases before current page frame victim? ∧ before.swap.slotOf? page = some slot
  | .fetched frame slot outcome =>
    ∃ victim? volume, before.Obtains frame victim? current.swap volume ∧
      Leases before current page frame victim? ∧ before.swap.slotOf? page = some slot ∧
      (outcome = .ok () → before.stored? page = some (current.frameContent frame)) ∧
      ∀ error, outcome = .error error → before.Unfilled page frame victim? error
  | .filled frame source =>
    ∃ victim? volume, before.Obtains frame victim? current.swap volume ∧
      Confined before current page frame victim? ∧
      ∃ entry readOnly, before.entry page = .ok entry ∧ entry.valid = false ∧
        before.Supplies page source (current.frameContent frame) readOnly ∧
        current.entry page = .ok { entry with readOnly := readOnly }
  | .finished outcome => before.Ends page outcome current

section Eviction

variable {manager : Manager pageSize} {content : PageId → Bytes} {page victim : PageId}
  {frame : Nat} {dirty : Bool}

theorem full_of_allocate_eq_error {error : FrameError}
    (failed : manager.pool.allocate = .error error) : manager.Full :=
  fun _ inside => FramePool.isAllocated_of_allocate_eq_error failed inside

theorem Recoverable.exists_backing? (recoverable : manager.Recoverable)
    (placed : manager.place page = .ok (some frame)) :
    ∃ bytes, manager.backing? page = some bytes := by
  rw [backing?]
  cases stored : manager.stored? page with
  | some bytes => exact ⟨bytes, rfl⟩
  | none => exact recoverable page frame placed (Option.map_eq_none_iff.mp stored)

/-- The page that has to leave is in the frame. -/
theorem Evicts.exists_entry (evicts : manager.Evicts frame victim dirty)
    (settled : manager.Settled) :
    ∃ entry, manager.entry victim = .ok entry ∧ entry.valid = true ∧ entry.frame = frame ∧
      entry.dirty = dirty := by
  obtain ⟨entry, found, marked⟩ := evicts.marked
  obtain ⟨_, foundAgain, placed⟩ :=
    place_eq_ok_iff.mp ((settled.owner_iff frame victim).mp evicts.owned)
  obtain rfl := Except.ok.inj (found.symm.trans foundAgain)
  obtain ⟨valid, same⟩ := PageEntry.frame?_eq_some_iff.mp placed
  exact ⟨entry, found, valid, same, marked⟩

theorem Evicts.ne_page (evicts : manager.Evicts frame victim dirty) (settled : manager.Settled)
    (away : manager.place page = .ok none) : victim ≠ page := by
  rintro rfl
  have placed := (settled.owner_iff frame victim).mp evicts.owned
  cases away.symm.trans placed

theorem Evicts.size_frameContent (evicts : manager.Evicts frame victim dirty)
    (settled : manager.Settled) : (manager.frameContent frame).size = pageSize := by
  have inside := FrameTable.lt_size_of_owner? evicts.owned
  rw [settled.size_frames, ← settled.numFrames_memory] at inside
  apply Bytes.size_slice
  rw [← Nat.succ_mul, PhysicalMemory.size_content]
  exact Nat.mul_le_mul_right _ inside

/-- The content of a clean victim is in its slot or its image, too. -/
theorem Evicts.backing?_eq (evicts : manager.Evicts frame victim false)
    (mirrors : manager.Mirrors content) (recoverable : manager.Recoverable) :
    manager.backing? victim = some (manager.frameContent frame) := by
  obtain ⟨entry, found, valid, rfl, clean⟩ := evicts.exists_entry mirrors.settled
  have placed := (mirrors.settled.owner_iff _ victim).mp evicts.owned
  obtain ⟨bytes, backed⟩ := recoverable.exists_backing? placed
  have kept := mirrors.contains.backed victim entry bytes found clean nofun backed
  rw [backed, kept, mirrors.contains.resident victim entry found valid]

theorem Evicts.writes {outcome : Except SwapError Nat} {swap : SwapArea PageId pageSize}
    {volume : Volume} (evicts : manager.Evicts frame victim dirty)
    (mirrors : manager.Mirrors content)
    (done : manager.saveContent frame victim = (outcome, swap, volume)) :
    SwapArea.Writes manager.swap manager.volume.takeTrouble.2 victim (manager.frameContent frame)
      outcome swap volume := by
  have waited := mirrors.contains.of_same (SameContents.takeTrouble manager)
  exact SwapArea.writes_write waited.intact manager.memory.pageSize_pos
    (evicts.size_frameContent mirrors.settled) done

theorem Confined.of_recordStart {before after : Manager pageSize}
    (confined : Confined (before.recordStart page) after page frame (some victim)) :
    Confined before after page frame (some victim) :=
  { confined with
    toSameSpaces := { confined.toSameSpaces with }
    evictions_eq := nofun }

theorem Evicts.confined_drop (evicts : manager.Evicts frame victim false)
    (mirrors : manager.Mirrors content) (recoverable : manager.Recoverable)
    (away : manager.place page = .ok none) :
    Confined manager ((manager.recordStart page).evicted page frame victim false) page frame
      (some victim) := by
  obtain ⟨-, swap, volume⟩ := evicted_eq (manager.recordStart page) page frame victim false
  have accounted := mirrors.settled.of_same (sameAccounts_recordStart manager page)
  have confined := @Confined.evicted _ (manager.recordStart page) page frame victim false _
    manager.swap manager.volume accounted evicts.owned
    (evicts.ne_page mirrors.settled away) (evicts.backing?_eq mirrors recoverable)
    (fun _ _ => rfl) (fun _ _ => rfl)
    ((manager.recordStart page).evicted page frame victim false).inTransit
  generalize (manager.recordStart page).evicted page frame victim false = evicted at *
  rw [show manager.swap = evicted.swap from swap.symm,
    show manager.volume = evicted.volume from volume.symm] at confined
  exact confined.of_recordStart

theorem Evicts.confined_save {slot : Nat} {swap : SwapArea PageId pageSize} {volume : Volume}
    (evicts : manager.Evicts frame victim true) (mirrors : manager.Mirrors content)
    (away : manager.place page = .ok none)
    (done : manager.saveContent frame victim = (.ok slot, swap, volume))
    (transit : KeyedTable PageId Nat) :
    Confined manager { (manager.recordStart page).evicted page frame victim true with
      swap := swap, volume := volume, inTransit := transit } page frame (some victim) := by
  have writes := evicts.writes mirrors done
  have kept : backing? { manager with swap := swap, volume := volume } victim =
      some (manager.frameContent frame) := by
    have stored : stored? { manager with swap := swap, volume := volume } victim =
        some (manager.frameContent frame) := writes.stored slot rfl
    rw [backing?, stored]
  have accounted := mirrors.settled.of_same (sameAccounts_recordStart manager page)
  exact (Confined.evicted accounted evicts.owned (evicts.ne_page mirrors.settled away) kept
    writes.slotOf?_other writes.stored?_other transit).of_recordStart

/-- The page of the fault is not affected when another one has to leave. -/
theorem Evicts.leases {current : Manager pageSize}
    (evicts : manager.Evicts frame victim dirty) (settled : manager.Settled)
    (away : manager.place page = .ok none)
    (spaces : current.spaces = ((manager.recordStart page).evicted page frame victim dirty).spaces)
    (confined : Confined manager current page frame (some victim)) :
    Leases manager current page frame (some victim) := by
  obtain ⟨entry, found, invalid⟩ := place_eq_ok_iff.mp away
  have invalid := PageEntry.frame?_eq_none_iff.mp invalid
  have accounted := settled.of_same (sameAccounts_recordStart manager page)
  have kept := @entry_evicted_of_away _ (manager.recordStart page) page frame victim page dirty _ _
    accounted found invalid (evicts.ne_page settled away).symm
  refine ⟨confined, entry, found, invalid, ?_⟩
  rw [Manager.entry] at kept
  rw [Manager.entry, spaces, kept]

theorem Evicts.progress_drop (evicts : manager.Evicts frame victim false)
    (mirrors : manager.Mirrors content) (recoverable : manager.Recoverable)
    (away : manager.place page = .ok none) :
    Progress manager ((((manager.recordStart page).evicted page frame victim
      false).bump .swapSkippedClean).record (.swapSkippedClean victim)) page (.leased frame) := by
  obtain ⟨-, swap, volume⟩ := evicted_eq (manager.recordStart page) page frame victim false
  have obtained : manager.Obtains frame victim
      ((manager.recordStart page).evicted page frame victim false).swap
      ((manager.recordStart page).evicted page frame victim false).volume := by
    rw [swap, volume]
    exact .clean evicts
  have dropped := evicts.confined_drop mirrors recoverable away
  have leases := fun current => @Evicts.leases _ manager page victim frame false current evicts
    mirrors.settled away
  generalize (manager.recordStart page).evicted page frame victim false = evicted at *
  exact ⟨victim, obtained, leases _ rfl (dropped.trans (.withBooks _ _ _ _ rfl))⟩

theorem Evicts.progress_save {slot : Nat} {swap : SwapArea PageId pageSize} {volume : Volume}
    (evicts : manager.Evicts frame victim true) (mirrors : manager.Mirrors content)
    (away : manager.place page = .ok none)
    (done : manager.saveContent frame victim = (.ok slot, swap, volume)) :
    Progress manager (((landed { (manager.recordStart page).unmapped page frame victim with
      swap := swap, volume := volume } victim).bump .swapWrite).record (.swapWrite victim slot))
      page (.leased frame) := by
  have saved := evicts.confined_save mirrors away done
    (((manager.recordStart page).unmapped page frame victim).inTransit.erase victim)
  have leases := fun current => @Evicts.leases _ manager page victim frame true current evicts
    mirrors.settled away
  unfold unmapped at saved ⊢
  generalize (manager.recordStart page).evicted page frame victim true = evicted at *
  exact ⟨victim, .dirty evicts done, leases _ rfl (saved.trans (.withBooks _ _ _ _ rfl))⟩

theorem unmapped_eq (manager : Manager pageSize) (page : PageId) (frame : Nat)
    (victim : PageId) :
    (manager.unmapped page frame victim).swap = manager.swap ∧
      (manager.unmapped page frame victim).volume = manager.volume := by
  obtain ⟨-, swap, volume⟩ := evicted_eq manager page frame victim true
  unfold unmapped
  generalize manager.evicted page frame victim true = evicted at *
  exact ⟨swap, volume⟩

/-- A victim that could not be saved is back in its frame, as dirty as it
was. -/
theorem Evicts.undone {error : SwapError} {swap : SwapArea PageId pageSize} {volume : Volume}
    (evicts : manager.Evicts frame victim true) (mirrors : manager.Mirrors content)
    (done : manager.saveContent frame victim = (.error error, swap, volume)) :
    Undone manager (((landed { (manager.recordStart page).unmapped page frame victim with
      swap := swap, volume := volume } victim).mapped victim frame true).settle page ⟨frame⟩) := by
  have writes := evicts.writes mirrors done
  obtain ⟨entry, found, valid, inFrame, dirty⟩ := evicts.exists_entry mirrors.settled
  have accounted := mirrors.settled.of_same (sameAccounts_recordStart manager page)
  have spaces := sameSpaces_evicted (manager.recordStart page) page frame victim true
  have memory := (evicted_eq (manager.recordStart page) page frame victim true).1
  have pool := @pool_evicted _ (manager.recordStart page) page frame victim true
  have sizes := (takesHold_evicted accounted evicts.owned page true).size_frames
  have owners := @owner?_evicted _ (manager.recordStart page) page frame victim true _ accounted
    evicts.owned
  have entries := fun other => @unmarkedEntry_evicted _ (manager.recordStart page) page frame victim
    other true
  have left := @entry_evicted_victim _ (manager.recordStart page) page frame victim true
  rw [(sameAccounts_synced _).size_frames] at sizes
  unfold unmapped
  generalize (manager.recordStart page).evicted page frame victim true = evicted at *
  constructor
  case toSameSpaces =>
    have same : SameSpaces manager evicted := { spaces with }
    exact same.trans ⟨image?_modifyEntry, numPages?_modifyEntry, rfl⟩
  case unmarkedEntry_eq =>
    intro other
    by_cases isVictim : other = victim
    · subst isVictim
      have leftEntry : evicted.entry other = .ok entry.invalidate := by
        rw [left]
        exact congrArg _ found
      have mapped : Except.map _ (evicted.entry other) = _ :=
        congrArg (Except.map fun entry : PageEntry =>
          { entry.install frame with dirty := true }) leftEntry
      rw [unmarkedEntry, unmarkedEntry, found]
      refine congrArg (Except.map PageEntry.unmarked)
        ((entry_modifyEntry.trans (if_pos rfl)).trans mapped) |>.trans ?_
      exact congrArg Except.ok (inFrame ▸ PageEntry.unmarked_install_invalidate valid dirty)
    · refine Eq.trans (congrArg (Except.map PageEntry.unmarked) ?_) (entries other isVictim)
      exact entry_modifyEntry.trans (if_neg isVictim)
  case memory_eq => exact memory
  case pool_eq => exact pool
  case owner?_eq =>
    intro other
    have inside : frame < evicted.frames.size := sizes ▸ FrameTable.lt_size_of_owner? evicts.owned
    change ((evicted.frames.alter frame (Frame.occupy victim)).alter frame
      Frame.unpin).owner? other = _
    rw [FrameTable.owner?_alter_alter inside (Frame.occupy victim) Frame.unpin (fun _ => rfl)
      fun _ => rfl, owners]
    by_cases same : other = frame
    · rw [if_pos same, same, evicts.owned]
    · rw [if_neg same, if_neg same]
      rfl
  case slotOf?_eq =>
    intro other
    by_cases isVictim : other = victim
    · exact isVictim ▸ writes.failed error rfl
    · exact writes.slotOf?_other other isVictim

end Eviction

section Steps

variable {before manager next : Manager pageSize} {content : PageId → Bytes} {page : PageId}
  {phase nextPhase : FaultPhase} {frame : Nat} {victim? : Option PageId}

theorem Undone.withBooks (manager : Manager pageSize) (log : EventLog) (statistics : Statistics) :
    Undone manager (manager.withBooks log statistics) where
  toSameSpaces := (SameContents.withBooks _ _ _).toSameSpaces
  unmarkedEntry_eq _ := rfl
  memory_eq := rfl
  pool_eq := rfl
  owner?_eq _ := rfl
  slotOf?_eq _ := rfl

theorem Undone.swept (manager : Manager pageSize) (page : PageId) :
    Undone manager (manager.recordStart page).swept where
  toSameSpaces := { SameSpaces.refl manager with }
  unmarkedEntry_eq _ := rfl
  memory_eq := rfl
  pool_eq := rfl
  owner?_eq := (Clock.agreesButUsed_selectVictim manager.clock manager.frames).owner?_eq
  slotOf?_eq _ := rfl

namespace Leases

theorem place_eq (leases : Leases before manager page frame victim?) :
    before.place page = .ok none := by
  obtain ⟨entry, found, away, -⟩ := leases.entry_page
  exact place_of_away found away

/-- The lowest free frame is obtained without reaching anything else. -/
theorem lease {pool : FramePool} {transit : KeyedTable PageId Nat}
    (away : manager.place page = .ok none)
    (taken : manager.pool.allocate = .ok (frame, pool)) :
    Leases manager { manager.recordStart page with
      pool := pool
      frames := manager.frames.alter frame Frame.pin
      inTransit := transit } page frame none := by
  obtain ⟨-, -, -, numFrames, allocated⟩ := FramePool.of_allocate_eq_ok taken
  obtain ⟨entry, found, invalid⟩ := place_eq_ok_iff.mp away
  refine ⟨{ Confined.refl manager page frame with
    toSameSpaces := { SameSpaces.refl manager with }
    numFrames_eq := numFrames
    owner?_eq := fun other _ => FrameTable.owner?_alter_of_keeps Frame.pin (fun _ => rfl) other
    isAllocated_eq := fun other differs => ?_ }, entry, found, ?_, found⟩
  · rw [Bool.eq_iff_iff, allocated]
    exact or_iff_right differs
  · exact PageEntry.frame?_eq_none_iff.mp invalid

theorem step (leases : Leases before manager page frame victim?)
    (confined : Confined manager next page frame none)
    (same : next.entry page = manager.entry page) : Leases before next page frame victim? := by
  obtain ⟨entry, found, away, kept⟩ := leases.entry_page
  exact ⟨leases.toConfined.trans confined, entry, found, away, same.trans kept⟩

theorem slotOf?_page (leases : Leases before manager page frame victim?) :
    manager.swap.slotOf? page = before.swap.slotOf? page :=
  leases.slotOf?_eq page leases.apart

theorem givenUp {pool : FramePool} (leases : Leases before manager page frame victim?)
    (represents : manager.Represents content page phase) (holds : phase.frame? = some frame)
    (passes : Passes page manager phase ((manager.vacated frame pool).settle page ⟨frame⟩)
      nextPhase)
    (freed : manager.pool.free frame = .ok pool) :
    GivenUp before ((manager.vacated frame pool).settle page ⟨frame⟩) page frame victim? := by
  have held := Represents.held (FaultPhase.holding?_of_frame?_eq_some holds page)
  have lets := letsGo_vacated represents.accounted held freed
  obtain ⟨entry, found, away, kept⟩ := leases.entry_page
  constructor
  case toConfined => exact leases.toConfined.trans (passes.confined represents holds)
  case entry_page => exact ⟨entry, found, away, kept⟩
  case owner?_frame => exact (lets.owner?_eq frame).trans (if_pos rfl)
  case isAllocated_frame =>
    rw [← Bool.not_eq_true, lets.isAllocated_iff]
    exact fun taken => Bool.false_ne_true (taken.1 rfl)

/-- What is supplied for the page fills the frame. -/
theorem fill {volume : Volume} {source : ContentSource}
    {bytes : Bytes} {readOnly : Bool} {log : EventLog} {statistics : Statistics}
    (leases : Leases before manager page frame victim?)
    (represents : manager.Represents content page (.leased frame))
    (obtained : before.Obtains frame victim? manager.swap volume) (fits : bytes.size = pageSize)
    (supplies : before.Supplies page source bytes readOnly)
    (confined : Confined manager
      (((manager.fillFrame frame bytes).markReadOnly page readOnly).withBooks log statistics)
      page frame none) :
    Progress before
      (((manager.fillFrame frame bytes).markReadOnly page readOnly).withBooks log statistics)
      page (.filled frame source) := by
  obtain ⟨entry, found, away, kept⟩ := leases.entry_page
  have filled : (manager.fillFrame frame bytes).frameContent frame = bytes :=
    represents.frameContent_fillFrame rfl fits
  refine ⟨victim?, volume, obtained, leases.toConfined.trans confined, entry, readOnly, found, away,
    ?_, ?_⟩
  · exact filled.symm ▸ supplies
  · exact entry_modifyEntry_eq_ok_iff.mpr ⟨entry, kept, (if_pos rfl).symm⟩

end Leases

/-- Every step of a fault follows the rules. -/
theorem Passes.progress (passes : Passes page manager phase next nextPhase)
    (represents : manager.Represents content page phase) (mirrors : before.Mirrors content)
    (recoverable : before.Recoverable) (progress : Progress before manager page phase) :
    Progress before next page nextPhase := by
  have accounted := represents.accounted
  have confined : ∀ frame, phase.frame? = some frame → Confined manager next page frame none :=
    fun _ => passes.confined represents
  have again := passes
  cases passes with
  | missing missing =>
    obtain rfl := progress
    exact .refused (.missing missing) (.withBooks _ _ _)
  | resident found valid =>
    obtain rfl := progress
    exact .resident (place_of_valid found valid) rfl
  | exhausted away failed none =>
    obtain rfl := progress
    exact .refused (.exhausted away (full_of_allocate_eq_error failed) none) (.swept _ _)
  | lease away still taken =>
    obtain rfl := progress
    obtain ⟨inside, free, lowest, -⟩ := FramePool.of_allocate_eq_ok taken
    exact ⟨none, .free inside free lowest, .lease away taken⟩
  | @drop _ frame victim _ away still failed chosen owned found clean =>
    obtain rfl := progress
    have evicts : before.Evicts frame victim false :=
      ⟨full_of_allocate_eq_error failed, chosen, owned, _, found, clean⟩
    exact evicts.progress_drop mirrors recoverable away
  | unmap away still failed chosen owned found dirty =>
    obtain rfl := progress
    exact ⟨away, ⟨full_of_allocate_eq_error failed, chosen, owned, _, found, dirty⟩, rfl, rfl⟩
  | @save frame victim bytes outcome swap volume done =>
    obtain ⟨away, evicts, rfl, rfl⟩ := progress
    obtain ⟨sameSwap, sameVolume⟩ :=
      unmapped_eq (before.recordStart page) page frame victim
    refine ⟨away, evicts, swap, volume, ?_, rfl⟩
    rw [saveContent, ← done, sameSwap, sameVolume]
    rfl
  | @land frame victim slot =>
    obtain ⟨away, evicts, swap, volume, done, rfl⟩ := progress
    exact evicts.progress_save mirrors away done
  | @restore frame victim error =>
    obtain ⟨away, evicts, swap, volume, done, rfl⟩ := progress
    exact .refused (.unsaved away evicts done) (evicts.undone mirrors done)
  | locate slotted =>
    obtain ⟨victim?, obtained, leases⟩ := progress
    exact ⟨victim?, obtained, leases, leases.slotOf?_page.symm.trans slotted⟩
  | @«show» frame image index number bytes slotless alive located shown =>
    obtain ⟨victim?, obtained, leases⟩ := progress
    have supplies := Supplies.executable (leases.slotOf?_page.symm.trans slotless)
      ((leases.image?_eq page.space).symm.trans alive) located shown
    exact leases.fill represents obtained bytes.size_toArray supplies (confined frame rfl)
  | @clear frame image slotless alive located =>
    obtain ⟨victim?, obtained, leases⟩ := progress
    have supplies := Supplies.zeroFill (leases.slotOf?_page.symm.trans slotless)
      ((leases.image?_eq page.space).symm.trans alive) located
    exact leases.fill represents obtained Array.size_replicate supplies (confined frame rfl)
  | unshown slotless alive located shown freed =>
    obtain ⟨victim?, obtained, leases⟩ := progress
    refine .givenUp (.unshown leases.place_eq obtained
      (leases.slotOf?_page.symm.trans slotless) ((leases.image?_eq page.space).symm.trans alive)
      located shown) (leases.givenUp represents rfl again freed)
  | fetch done =>
    obtain ⟨victim?, obtained, leases, slotted⟩ := progress
    obtain ⟨fits, -, -, rfl⟩ := SwapArea.of_read_eq_ok done
    refine ⟨victim?, _, obtained, leases.step (confined _ rfl) rfl, slotted, fun _ => ?_, nofun⟩
    have filled := represents.frameContent_fillFrame rfl fits
    have stored : manager.stored? page = some _ :=
      congrArg (Option.map _) (leases.slotOf?_page.trans slotted)
    rw [← leases.stored?_eq page leases.apart, stored]
    exact congrArg some filled.symm
  | miss failed =>
    obtain ⟨victim?, obtained, leases, slotted⟩ := progress
    refine ⟨victim?, _, obtained, leases.step (confined _ rfl) rfl, slotted, nofun, ?_⟩
    rintro _ ⟨⟩
    exact .unread leases.place_eq obtained slotted failed
  | receive =>
    obtain ⟨victim?, volume, obtained, leases, slotted, received, -⟩ := progress
    obtain ⟨entry, found, away, kept⟩ := leases.entry_page
    exact ⟨victim?, volume, obtained, leases.toConfined.trans (confined _ rfl), entry,
      entry.readOnly, found, away, .swap slotted (received rfl) found, kept⟩
  | abandon freed =>
    obtain ⟨victim?, volume, obtained, leases, -, -, failed⟩ := progress
    exact .givenUp (failed _ rfl) (leases.givenUp represents rfl again freed)
  | @map frame source =>
    obtain ⟨victim?, volume, obtained, confinedYet, entry, readOnly, found, away, supplies, kept⟩ :=
      progress
    have held := @Represents.held page (.filled frame source) _ rfl
    have lets := represents.letsGo_filled
    refine .loaded ⟨confinedYet.trans (confined frame rfl), ⟨volume, obtained⟩,
      ⟨entry, readOnly, found, away, supplies, ?_⟩, ?_, ?_⟩
    · exact entry_modifyEntry_eq_ok_iff.mpr ⟨_, kept, (if_pos rfl).symm⟩
    · exact (lets.owner?_eq frame).trans (if_pos rfl)
    · have pinned := (accounted.pinned_iff frame).mpr ⟨0, _, held, rfl⟩
      exact (lets.isAllocated_iff frame).mpr
        ⟨fun _ => rfl, (accounted.allocated_iff frame).mpr (.inr pinned)⟩

end Steps

end Manager

end DemandPaging
