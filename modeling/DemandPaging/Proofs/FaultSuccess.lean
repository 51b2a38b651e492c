import DemandPaging.Proofs.AccessContents
import DemandPaging.Proofs.SlotBalance
import DemandPaging.Proofs.VictimSelection

/-!
# Faults that cannot fail

As long as the swap area is open and its device runs into no trouble, a fault
on a page that its image can show brings the page in: the clock finds a victim,
the victim gets a slot, the slot of the page can be read, and no step of the
bookkeeping is refused.
-/

namespace DemandPaging

namespace Manager

variable {pageSize : Nat}

/-- What keeps faults from failing.  Nothing is said about the swap area once
it is closed. -/
structure Ready (manager : Manager pageSize) : Prop where
  numFrames_pos : 0 < manager.memory.numFrames
  available : manager.swap.closed = false →
    manager.volume.troubles = [] ∧ manager.swap.Balanced manager.volume ∅
  /-- Only pages of read-only sections are marked read-only. -/
  shown : ∀ page entry, manager.entry page = .ok entry → entry.readOnly = true →
    manager.ShownReadOnly page

/-- A fault on `page` has not failed so far, and the page is in its frame when
it is over. -/
def OnCourse (manager : Manager pageSize) (page : PageId) : FaultPhase → Prop
  | .saved _ _ outcome => ∃ slot, outcome = .ok slot
  | .fetched _ _ outcome => outcome = .ok ()
  | .finished outcome => (∃ resolution, outcome = .ok resolution) ∧
    ∃ entry, manager.entry page = .ok entry ∧ entry.valid = true
  | _ => True

section Steps

variable {manager next : Manager pageSize} {page : PageId} {phase nextPhase : FaultPhase}

namespace Ready

theorem of_entries (ready : manager.Ready) (spaces : SameSpaces manager next)
    (memory : next.memory.numFrames = manager.memory.numFrames)
    (swap : next.swap = manager.swap) (volume : next.volume = manager.volume)
    (entries : ∀ other after, next.entry other = .ok after → after.readOnly = true →
      manager.ShownReadOnly other ∨
        ∃ before, manager.entry other = .ok before ∧ before.readOnly = true) :
    next.Ready := by
  constructor
  case numFrames_pos => exact memory ▸ ready.numFrames_pos
  case available =>
    rw [swap, volume]
    exact ready.available
  case shown =>
    intro other after found readOnly
    rw [shownReadOnly_congr (spaces.image?_eq _)]
    rcases entries other after found readOnly with shown | ⟨before, beforeFound, marked⟩
    · exact shown
    · exact ready.shown other before beforeFound marked

theorem modifyEntry {change : PageEntry → PageEntry} (ready : manager.Ready)
    (keeps : ∀ entry, (change entry).readOnly = true →
      manager.ShownReadOnly page ∨ entry.readOnly = true) :
    (manager.modifyEntry page change).Ready := by
  refine ready.of_entries (sameSpaces_modifyEntry manager page change) rfl rfl rfl ?_
  intro other after found readOnly
  obtain ⟨before, beforeFound, rfl⟩ := entry_modifyEntry_eq_ok_iff.mp found
  split at readOnly
  · rename_i same
    rcases keeps before readOnly with shown | marked
    · exact .inl (same ▸ shown)
    · exact .inr ⟨before, beforeFound, marked⟩
  · exact .inr ⟨before, beforeFound, readOnly⟩

theorem withBooks (ready : manager.Ready) (log : EventLog) (statistics : Statistics) :
    (manager.withBooks log statistics).Ready :=
  { ready with }

theorem settle (ready : manager.Ready) (page : PageId) (lease : FrameLease) :
    (manager.settle page lease).Ready :=
  { ready with }

theorem transit (ready : manager.Ready) (transit : KeyedTable PageId Nat) :
    Ready { manager with inTransit := transit } :=
  { ready with }

theorem evicted {holdings : Nat → Option Holding} (ready : manager.Ready)
    (accounted : manager.Accounted holdings) (page : PageId) (frame : Nat) (victim : PageId)
    (dirty : Bool) : (manager.evicted page frame victim dirty).Ready := by
  obtain ⟨memory, swap, volume⟩ := evicted_eq manager page frame victim dirty
  refine ready.of_entries (sameSpaces_evicted manager page frame victim dirty) (memory ▸ rfl) swap
    volume ?_
  intro other after found readOnly
  obtain ⟨before, used, beforeFound, -, rfl⟩ := entry_of_evicted accounted found
  refine .inr ⟨before, beforeFound, ?_⟩
  split at readOnly <;> exact readOnly

theorem mapped (ready : manager.Ready) (page : PageId) (frame : Nat) (dirty : Bool) :
    (manager.mapped page frame dirty).Ready := by
  have occupied : Ready { manager with
      frames := manager.frames.alter frame (Frame.occupy page) } := { ready with }
  exact occupied.modifyEntry fun _ readOnly => .inr readOnly

theorem takeTrouble (ready : manager.Ready) :
    Ready { manager with volume := manager.volume.takeTrouble.2 } :=
  { ready with
    available := fun isOpen => by
      obtain ⟨calm, balanced⟩ := ready.available isOpen
      refine ⟨?_, balanced.of_files_eq rfl⟩
      rw [Volume.takeTrouble, calm]
      rfl }

/-- No request runs into trouble as long as the swap area is open. -/
theorem takeTrouble_eq (ready : manager.Ready) (isOpen : manager.swap.closed = false) :
    manager.volume.takeTrouble.1 = none := by
  rw [Volume.takeTrouble, (ready.available isOpen).1]
  rfl

theorem saved {victim : PageId} {data : Bytes} {outcome : Except SwapError Nat}
    {swap : SwapArea PageId pageSize} {volume : Volume} (ready : manager.Ready)
    (done : manager.swap.write manager.volume.takeTrouble.2 victim data
      manager.volume.takeTrouble.1 = (outcome, swap, volume)) :
    Ready { manager with swap := swap, volume := volume } := by
  refine { ready with available := fun isOpen => ?_ }
  have same := manager.swap.closed_write manager.volume.takeTrouble.2 victim data
    manager.volume.takeTrouble.1
  rw [done] at same
  have wasOpen : manager.swap.closed = false := same.symm.trans isOpen
  obtain ⟨calm, balanced⟩ := ready.takeTrouble.available wasOpen
  rw [ready.takeTrouble_eq wasOpen] at done
  by_cases fits : data.size = pageSize
  · obtain ⟨slot, _, _, written, keeps⟩ :=
      balanced.exists_write manager.memory.pageSize_pos wasOpen victim fits
    obtain ⟨-, rfl, rfl⟩ := by simpa using written.symm.trans done
    exact ⟨keeps.troubles.trans calm, keeps.balanced⟩
  · rw [SwapArea.write, if_pos fits] at done
    obtain ⟨-, rfl, rfl⟩ := by simpa using done
    exact ⟨calm, balanced⟩

end Ready

/-- No step of a fault closes the swap area or opens it. -/
theorem Passes.closed_eq (passes : Passes page manager phase next nextPhase) :
    next.swap.closed = manager.swap.closed := by
  cases passes with
  | @drop _ frame victim =>
    obtain ⟨-, swap, -⟩ := evicted_eq manager page frame victim false
    generalize manager.evicted page frame victim false = evicted at *
    exact congrArg SwapArea.closed swap
  | @unmap _ frame victim =>
    obtain ⟨-, swap, -⟩ := evicted_eq manager page frame victim true
    simp only [swap]
  | @save _ victim content _ _ _ done =>
    have same := manager.swap.closed_write manager.volume.takeTrouble.2 victim content
      manager.volume.takeTrouble.1
    rwa [done] at same
  | _ => rfl

theorem Passes.ready {holdings : Nat → Option Holding}
    (passes : Passes page manager phase next nextPhase)
    (accounted : manager.Accounted holdings) (ready : manager.Ready) : next.Ready := by
  cases passes with
  | @drop _ frame victim =>
    rw [record_bump]
    exact (ready.evicted accounted page frame victim false).withBooks _ _
  | @unmap _ frame victim => exact (ready.evicted accounted page frame victim true).transit _
  | save done => exact ready.saved done
  | @restore frame victim =>
    have landed : (manager.landed victim).Ready := { ready with }
    exact (landed.mapped victim frame true).settle page ⟨frame⟩
  | @«show» frame image index number content slotless alive located =>
    have filled : (manager.fillFrame frame content.toArray).Ready := { ready with }
    have marked : ((manager.fillFrame frame content.toArray).markReadOnly page
        (image.readOnly index)).Ready :=
      filled.modifyEntry fun _ readOnly => .inl ⟨image, index, number, alive, located, readOnly⟩
    exact marked.withBooks _ _
  | @clear frame =>
    have filled : (manager.fillFrame frame (Bytes.zeros pageSize)).Ready := { ready with }
    have marked : ((manager.fillFrame frame (Bytes.zeros pageSize)).markReadOnly page
        false).Ready := filled.modifyEntry fun _ readOnly => by cases readOnly
    exact marked.withBooks _ _
  | fetch => exact { ready.takeTrouble with }
  | miss => exact ready.takeTrouble
  | @map frame => exact (ready.mapped page frame false).settle page ⟨frame⟩
  | _ => exact { ready with }

/-- If no frame is free, some page is in one, and the clock finds a victim. -/
theorem Settled.exists_victim {error : FrameError} (settled : manager.Settled)
    (present : 0 < manager.memory.numFrames) (full : manager.pool.allocate = .error error) :
    ∃ victim, (manager.clock.selectVictim manager.frames).victim = some victim := by
  rw [settled.numFrames_memory] at present
  have loose : manager.frames.isPinned 0 = false := by
    rw [← Bool.not_eq_true, settled.pinned_iff]
    rintro ⟨_, _, held, -⟩
    cases held
  have taken := FramePool.isAllocated_of_allocate_eq_error full present
  rcases (settled.allocated_iff 0).mp taken with owned | pinned
  · exact Clock.exists_victim (FrameTable.isEvictable_iff.mpr ⟨loose, owned⟩)
  · rw [loose] at pinned
    cases pinned

/-- Every step of a fault stays on course. -/
theorem Passes.onCourse {content : PageId → Bytes} {image : Image pageSize} {bytes : Bytes}
    (passes : Passes page manager phase next nextPhase)
    (represents : manager.Represents content page phase) (ready : manager.Ready)
    (isOpen : manager.swap.closed = false) (alive : manager.image? page.space = some image)
    (initially : image.initialContent? page.vpn = some bytes)
    (found : ∃ entry, manager.entry page = .ok entry) (onCourse : manager.OnCourse page phase) :
    next.OnCourse page nextPhase := by
  have during := represents.during
  cases passes with
  | missing missing =>
    obtain ⟨entry, found⟩ := found
    rw [missing] at found
    cases found
  | resident found valid => exact ⟨⟨_, rfl⟩, _, found, valid⟩
  | exhausted away full none =>
    have settled : manager.Settled := by
      have accounted := represents.accounted
      rwa [FaultPhase.holding?, Function.update_eq_self] at accounted
    obtain ⟨victim, chosen⟩ := settled.exists_victim ready.numFrames_pos full
    rw [none] at chosen
    cases chosen
  | @save frame victim content outcome _ _ done =>
    obtain ⟨inFrame, rfl, -⟩ := during
    have fits := represents.size_frameContent rfl
    rw [inFrame] at fits
    obtain ⟨-, balanced⟩ := ready.takeTrouble.available isOpen
    obtain ⟨slot, _, _, written, -⟩ :=
      balanced.exists_write manager.memory.pageSize_pos isOpen victim fits
    rw [ready.takeTrouble_eq isOpen] at done
    obtain ⟨rfl, -⟩ := by simpa using written.symm.trans done
    exact ⟨slot, rfl⟩
  | restore =>
    obtain ⟨slot, failed⟩ := onCourse
    cases failed
  | unshown slotless sameAlive located failed =>
    obtain rfl := Option.some.inj (alive.symm.trans sameAlive)
    simp only [Image.initialContent?, located, failed] at initially
    cases initially
  | fetch => exact rfl
  | @miss frame slot error failed =>
    obtain ⟨-, balanced⟩ := ready.takeTrouble.available isOpen
    have known := (balanced.lt_slotCount_iff slot).mpr (.inl ⟨page, during⟩)
    rw [ready.takeTrouble_eq isOpen, balanced.read_eq_ok isOpen known] at failed
    cases failed
  | abandon => cases onCourse
  | @map frame source =>
    obtain ⟨entry, found⟩ := found
    exact ⟨⟨_, rfl⟩, _, entry_modifyEntry_eq_ok_iff.mpr ⟨entry, found, rfl⟩, by simp; rfl⟩
  | _ => exact trivial

theorem PassesThrough.closed_eq (path : PassesThrough page manager phase next nextPhase) :
    next.swap.closed = manager.swap.closed := by
  induction path with
  | stay => rfl
  | go _ step ih => exact step.closed_eq.trans ih

theorem PassesThrough.ready (path : PassesThrough page manager phase next nextPhase)
    (accounted : manager.Accounted (Function.update (fun _ => none) 0 (phase.holding? page)))
    (ready : manager.Ready) : next.Ready := by
  induction path with
  | stay => exact ready
  | go path step ih => exact step.ready (path.accounted accounted) ih

theorem PassesThrough.onCourse {content : PageId → Bytes} {image : Image pageSize} {bytes : Bytes}
    (path : PassesThrough page manager phase next nextPhase)
    (represents : manager.Represents content page phase) (ready : manager.Ready)
    (isOpen : manager.swap.closed = false) (alive : manager.image? page.space = some image)
    (initially : image.initialContent? page.vpn = some bytes)
    (found : ∃ entry, manager.entry page = .ok entry) (onCourse : manager.OnCourse page phase) :
    next.OnCourse page nextPhase := by
  induction path with
  | stay => exact onCourse
  | go path step ih =>
    have spaces := path.sameSpaces
    exact step.onCourse (path.represents represents) (path.ready represents.accounted ready)
      (path.closed_eq.trans isOpen) ((spaces.image?_eq _).trans alive) initially
      (spaces.exists_entry_iff.mpr found) ih

theorem Ready.recordOutcome (ready : manager.Ready) (page : PageId)
    (outcome : Except PagingError Resolution) : (manager.recordOutcome page outcome).Ready := by
  cases outcome with
  | ok resolution => exact ready.withBooks _ _
  | error error => exact ready.withBooks _ _

theorem Ready.fault (ready : manager.Ready) (settled : manager.Settled) (page : PageId) :
    (manager.fault page).2.Ready :=
  ((settled.path page).ready (settled.arriving page) (ready.withBooks _ _)).recordOutcome page _

theorem swap_recordOutcome (manager : Manager pageSize) (page : PageId)
    (outcome : Except PagingError Resolution) :
    (manager.recordOutcome page outcome).swap = manager.swap := by
  cases outcome <;> rfl

theorem Settled.closed_fault (settled : manager.Settled) (page : PageId) :
    (manager.fault page).2.swap.closed = manager.swap.closed := by
  change (recordOutcome _ page _).swap.closed = _
  rw [swap_recordOutcome]
  exact (settled.path page).closed_eq

/-- A fault on a page that exists brings it in. -/
theorem Mirrors.fault_ok {content : PageId → Bytes} {image : Image pageSize} {bytes : Bytes}
    (mirrors : manager.Mirrors content) (ready : manager.Ready)
    (isOpen : manager.swap.closed = false) (alive : manager.image? page.space = some image)
    (initially : image.initialContent? page.vpn = some bytes)
    (found : ∃ entry, manager.entry page = .ok entry) :
    (∃ resolution, (manager.fault page).1 = .ok resolution) ∧
      ∃ entry, (manager.fault page).2.entry page = .ok entry ∧ entry.valid = true := by
  obtain ⟨resolved, entry, resident, valid⟩ :=
    (mirrors.settled.path page).onCourse (mirrors.arriving page) (ready.withBooks _ _) isOpen
      alive initially found trivial
  refine ⟨resolved, entry, ?_, valid⟩
  exact ((SameContents.recordOutcome _ page _).entry_eq page).trans resident

end Steps

section Parts

variable {manager : Manager pageSize}

theorem Ready.touch (ready : manager.Ready) (page : PageId) (frame : Nat) (wrote : Bool) :
    (manager.touch page frame wrote).2.Ready := by
  have marked : (manager.modifyEntry page fun entry =>
      { entry with used := true, dirty := entry.dirty || wrote }).Ready :=
    ready.modifyEntry fun _ readOnly => .inr readOnly
  rw [Manager.touch]
  split
  · exact marked
  · exact { marked with }

theorem Ready.accessResident? {page : PageId} {offset : Nat} {access : Access}
    {outcome : Except PagingError Bytes × Manager pageSize} (ready : manager.Ready)
    (looked : manager.accessResident? page offset access = some outcome) : outcome.2.Ready := by
  rcases accessResident?_cases looked with same | ⟨memory, frame, wrote, numFrames, same⟩
  · rw [same]
    exact ready
  · rw [same]
    have changed : Ready { manager with memory := memory } :=
      { ready with numFrames_pos := by rw [numFrames]; exact ready.numFrames_pos }
    exact changed.touch page frame wrote

theorem Ready.createSpace (ready : manager.Ready) (numPages : Nat) (image : Image pageSize) :
    (manager.createSpace numPages image).2.Ready := by
  refine { ready with shown := fun page entry found readOnly => ?_ }
  rcases entry_createSpace_cases found with ⟨-, -, rfl⟩ | ⟨differs, before⟩
  · cases readOnly
  · rw [shownReadOnly_congr (image?_createSpace.trans (if_neg differs))]
    exact ready.shown page entry before readOnly

theorem Ready.destroySpace (ready : manager.Ready) (settled : manager.Settled)
    (space : SpaceId) : (manager.destroySpace space).2.Ready := by
  rcases settled.destroySpace_eq space with ⟨-, done⟩ | ⟨frames, pool, done⟩
  · rw [done]
    exact ready
  · rw [done]
    refine { ready with
      available := fun isOpen => ?_
      shown := fun page entry found readOnly => ?_ }
    · obtain ⟨calm, balanced⟩ := ready.available isOpen
      exact ⟨calm, balanced.releaseWhere fun page => page.space == space⟩
    · rw [@entry_of_spaces_eq_erase _ manager space page _ rfl] at found
      split at found
      · cases found
      · rename_i differs
        rw [shownReadOnly_congr]
        · exact ready.shown page entry found readOnly
        · rw [image?, image?, find?_spaces_without, if_neg differs]

theorem Ready.shutdown (ready : manager.Ready) : manager.shutdown.2.Ready :=
  { ready with
    available := fun isOpen => by
      have closed := manager.swap.closed_close manager.volume.takeTrouble.2
        manager.volume.takeTrouble.1
      exact Bool.noConfusion (closed.symm.trans isOpen) }

theorem keeps_ready :
    Keeps fun manager : Manager pageSize => manager.Settled ∧ manager.Ready := by
  rintro manager next part ⟨settled, ready⟩
  refine ⟨keeps_settled manager next part settled, ?_⟩
  cases part with
  | fault => exact ready.fault settled _
  | look _ looked => exact ready.accessResident? looked
  | createSpace => exact ready.createSpace _ _
  | destroySpace => exact ready.destroySpace settled _
  | shutdown => exact ready.shutdown

theorem ready_start {config : Configuration} {volume : Volume} (present : 0 < config.numFrames)
    (consistent : volume.Consistent) (calm : volume.troubles = [])
    (started : Manager.start config volume = .ok manager) : manager.Ready := by
  obtain ⟨memory, swap, opened, numFrames, done, rfl⟩ := of_start_eq_ok started
  obtain ⟨balanced, -, troubles⟩ := SwapArea.balanced_openNamed consistent done
  exact ⟨numFrames.symm ▸ present, fun _ => ⟨troubles.trans calm, balanced⟩,
    fun _ _ found => by cases found⟩

end Parts

end Manager

end DemandPaging
