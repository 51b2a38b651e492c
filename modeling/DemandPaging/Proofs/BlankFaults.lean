import DemandPaging.Proofs.BlankStorage
import DemandPaging.Proofs.FaultPhases

/-!
# Faults do not look at bytes

Wiping a manager turns every byte that it holds or will ever load into zero.
A fault takes the same course after a wipe as before it: the victim, the slot,
the frame and the outcome depend on no byte, and what is left is what would
have been left, wiped.
-/

namespace DemandPaging

namespace Image

variable {pageSize : Nat}

/-- The same image with zeros on all pages that it produces. -/
def blank (image : Image pageSize) : Image pageSize :=
  { image with loadPage := fun index number =>
      (image.loadPage index number).map fun _ => .replicate pageSize 0 }

end Image

namespace SpaceRecord

def blank {pageSize : Nat} (record : SpaceRecord pageSize) : SpaceRecord pageSize :=
  { record with image := record.image.blank }

end SpaceRecord

namespace FaultStage

def blank : FaultStage → FaultStage
  | savingVictim lease victim content => savingVictim lease victim content.blank
  | stage => stage

end FaultStage

namespace Manager

variable {pageSize : Nat}

/-- The same manager with all bytes wiped: those in frames, those in files and
those that images produce. -/
def blank (manager : Manager pageSize) : Manager pageSize :=
  { manager with
    memory := manager.memory.blank
    volume := manager.volume.blank
    spaces := manager.spaces.mapValues SpaceRecord.blank }

variable (manager : Manager pageSize) (page : PageId) (lease : FrameLease)

theorem blank_frames : manager.blank.frames = manager.frames :=
  rfl

@[simp]
theorem entry_blank : manager.blank.entry page = manager.entry page := by
  simp only [Manager.entry, blank, KeyedTable.find?_mapValues]
  cases manager.spaces.find? page.space <;> rfl

theorem modifyEntry_blank (change : PageEntry → PageEntry) :
    manager.blank.modifyEntry page change = (manager.modifyEntry page change).blank := by
  simp only [modifyEntry, blank]
  congr 1
  apply KeyedTable.modify_mapValues
  exact fun _ => rfl

theorem bump_blank (counter : Counter) :
    manager.blank.bump counter = (manager.bump counter).blank :=
  rfl

theorem record_blank (event : Event) :
    manager.blank.record event = (manager.record event).blank :=
  rfl

theorem syncUsedMarks_blank : manager.blank.syncUsedMarks = manager.syncUsedMarks.blank := by
  rw [syncUsedMarks, syncUsedMarks]
  apply Array.foldl_hom
  intro current frame
  cases frame.owner with
  | none => rfl
  | some page => exact current.modifyEntry_blank page _

theorem takeVictim_blank :
    manager.blank.takeVictim = Prod.map id blank manager.takeVictim := by
  -- The clock sweeps both managers alike, so that both copy the same used marks.
  obtain ⟨synced, same⟩ : ∃ synced, synced = manager.swept.syncUsedMarks := ⟨_, rfl⟩
  have wiped : manager.blank.swept.syncUsedMarks = synced.blank :=
    same ▸ manager.swept.syncUsedMarks_blank
  rw [swept] at same wiped
  have chosen : (manager.blank.clock.selectVictim manager.blank.frames).victim =
      (manager.clock.selectVictim manager.frames).victim := rfl
  simp only [takeVictim, wiped, ← same, chosen]
  cases (manager.clock.selectVictim manager.frames).victim with
  | none => rfl
  | some frame =>
    simp only [blank_frames]
    cases synced.frames.evict frame with
    | error error => rfl
    | ok left =>
      obtain ⟨_ | victim, frames⟩ := left
      · rfl
      · simp only
        cases frames.pin frame <;> rfl

theorem obtainFrame_blank :
    manager.blank.obtainFrame = Prod.map id blank manager.obtainFrame := by
  have lowest : manager.blank.pool.allocate = manager.pool.allocate := rfl
  simp only [obtainFrame, lowest, takeVictim_blank, blank_frames]
  cases manager.pool.allocate with
  | ok taken =>
    obtain ⟨frame, pool⟩ := taken
    simp only
    cases manager.frames.pin frame <;> rfl
  | error error =>
    simp only
    obtain ⟨error | ⟨lease, victim⟩, taken⟩ := manager.takeVictim <;> rfl

theorem conclude_blank (outcome : Except PagingError ContentSource) :
    manager.blank.conclude page lease outcome =
      Prod.map FaultStage.blank blank (manager.conclude page lease outcome) := by
  cases outcome with
  | error error => rfl
  | ok source =>
    simp only [conclude, blank_frames]
    cases manager.frames.install lease.frame page with
    | error error => rfl
    | ok frames =>
      let owned := { manager with frames := frames }
      have same : Manager.entry { manager.blank with frames := frames } page = owned.entry page :=
        owned.entry_blank page
      simp only [same]
      cases owned.entry page with
      | error error => rfl
      | ok entry =>
        have mapped := owned.modifyEntry_blank page fun entry => entry.install lease.frame
        exact congrArg (fun current => (FaultStage.finished (.ok (.loaded lease.frame source)),
          current.settle page lease)) mapped

theorem setReadOnly_blank (readOnly : Bool) :
    manager.blank.setReadOnly page readOnly = (manager.setReadOnly page readOnly).map blank := by
  rw [setReadOnly, setReadOnly, entry_blank, modifyEntry_blank]
  cases manager.entry page <;> rfl

theorem fillFromSection_blank (image : Image pageSize) (frame index number : Nat) :
    manager.blank.fillFromSection image.blank page frame index number =
      Prod.map id blank (manager.fillFromSection image page frame index number) := by
  have loaded : image.blank.loadPage index number =
      (image.loadPage index number).map fun _ => .replicate pageSize 0 := rfl
  rw [fillFromSection, fillFromSection, loaded]
  cases image.loadPage index number with
  | error error => rfl
  | ok content =>
    have written : manager.blank.memory.writeFrame frame (Vector.replicate pageSize 0).toArray =
        (manager.memory.writeFrame frame content.toArray).map PhysicalMemory.blank :=
      manager.memory.writeFrame_zeros frame content
    simp only [Except.map, written]
    cases manager.memory.writeFrame frame content.toArray with
    | error error => rfl
    | ok memory =>
      have marked : setReadOnly { manager.blank with memory := memory.blank } page
          (image.blank.readOnly index) =
            (setReadOnly { manager with memory := memory } page (image.readOnly index)).map blank :=
        setReadOnly_blank { manager with memory := memory } page (image.readOnly index)
      simp only [marked]
      cases setReadOnly { manager with memory := memory } page (image.readOnly index) <;> rfl

theorem fillWithZeros_blank (frame : Nat) :
    manager.blank.fillWithZeros page frame =
      Prod.map id blank (manager.fillWithZeros page frame) := by
  have zeroed : manager.blank.memory.zeroFrame frame =
      (manager.memory.zeroFrame frame).map PhysicalMemory.blank :=
    manager.memory.zeroFrame_blank frame
  simp only [fillWithZeros, zeroed]
  cases manager.memory.zeroFrame frame with
  | error error => rfl
  | ok memory =>
    have marked : setReadOnly { manager.blank with memory := memory.blank } page false =
        (setReadOnly { manager with memory := memory } page false).map blank :=
      setReadOnly_blank { manager with memory := memory } page false
    simp only [Except.map, marked]
    cases setReadOnly { manager with memory := memory } page false <;> rfl

theorem fillFromImage_blank (frame : Nat) :
    manager.blank.fillFromImage page frame =
      Prod.map id blank (manager.fillFromImage page frame) := by
  have found : manager.blank.spaces.find? page.space =
      (manager.spaces.find? page.space).map SpaceRecord.blank := KeyedTable.find?_mapValues _ _ _
  simp only [fillFromImage, found]
  cases manager.spaces.find? page.space with
  | none => rfl
  | some record =>
    have sameSection : record.blank.image.findSection page.vpn =
        record.image.findSection page.vpn := rfl
    simp only [Option.map_some, sameSection]
    cases record.image.findSection page.vpn with
    | none => exact manager.fillWithZeros_blank page frame
    | some place => exact manager.fillFromSection_blank page record.image frame place.1 place.2

theorem startLoading_blank :
    manager.blank.startLoading page lease =
      Prod.map FaultStage.blank blank (manager.startLoading page lease) := by
  have sameSlot : manager.blank.swap.slotOf? page = manager.swap.slotOf? page := rfl
  simp only [startLoading, sameSlot, fillFromImage_blank]
  cases manager.swap.slotOf? page with
  | some slot => rfl
  | none => exact conclude_blank _ page lease _

theorem restoreVictim_blank (frame : Nat) (victim : PageId) :
    manager.blank.restoreVictim frame victim = (manager.restoreVictim frame victim).blank := by
  simp only [restoreVictim, modifyEntry_blank, blank_frames]
  split <;> rfl

theorem startSaving_blank (victim : PageId) :
    manager.blank.startSaving page lease victim =
      Prod.map FaultStage.blank blank (manager.startSaving page lease victim) := by
  have taken : manager.blank.memory.readFrame lease.frame pageSize =
      (manager.memory.readFrame lease.frame pageSize).map Bytes.blank :=
    manager.memory.readFrame_blank lease.frame pageSize
  simp only [startSaving, taken, restoreVictim_blank]
  cases manager.memory.readFrame lease.frame pageSize <;> rfl

theorem startEviction_blank (victim : PageId) :
    manager.blank.startEviction page lease victim =
      Prod.map FaultStage.blank blank (manager.startEviction page lease victim) := by
  simp only [startEviction, entry_blank, modifyEntry_blank, bump_blank, record_blank]
  cases manager.entry victim with
  | error error => rfl
  | ok entry =>
    simp only
    split
    · exact startSaving_blank _ page lease victim
    · exact startLoading_blank _ page lease

theorem arrive_blank :
    manager.blank.arrive page = Prod.map FaultStage.blank blank (manager.arrive page) := by
  simp only [arrive, entry_blank, obtainFrame_blank]
  cases manager.entry page with
  | error error => rfl
  | ok entry =>
    simp only
    split
    · rfl
    · obtain ⟨error | ⟨lease, _ | victim⟩, leased⟩ := manager.obtainFrame
      · rfl
      · exact startLoading_blank
          { leased with inTransit := leased.inTransit.set page lease.frame } page lease
      · exact startEviction_blank
          { leased with inTransit := leased.inTransit.set page lease.frame } page lease victim

theorem saveVictim_blank (victim : PageId) (content : Bytes) :
    manager.blank.saveVictim lease victim content.blank =
      Prod.map FaultStage.blank blank (manager.saveVictim lease victim content) := by
  have wrote : manager.blank.swap.write manager.blank.volume.takeTrouble.2 victim content.blank
      manager.blank.volume.takeTrouble.1 = Prod.map id (Prod.map id Volume.blank)
        (manager.swap.write manager.volume.takeTrouble.2 victim content
          manager.volume.takeTrouble.1) :=
    manager.swap.write_blank manager.volume.takeTrouble.2 victim content _
  simp only [saveVictim, wrote]
  rfl

theorem afterSaving_blank (victim : PageId) (outcome : Except SwapError Nat) :
    manager.blank.afterSaving page lease victim outcome =
      Prod.map FaultStage.blank blank (manager.afterSaving page lease victim outcome) := by
  cases outcome with
  | ok slot =>
    exact startLoading_blank
      ((bump { manager with inTransit := manager.inTransit.erase victim } .swapWrite).record
        (.swapWrite victim slot)) page lease
  | error error =>
    have restored := restoreVictim_blank
      { manager with inTransit := manager.inTransit.erase victim } lease.frame victim
    exact congrArg (fun current => withdraw current page lease (.swap error)) restored

theorem fetch_blank (slot : Nat) :
    manager.blank.fetch lease slot =
      Prod.map FaultStage.blank blank (manager.fetch lease slot) := by
  have read : manager.blank.swap.read manager.blank.volume.takeTrouble.2 slot pageSize
      manager.blank.volume.takeTrouble.1 =
        (manager.swap.read manager.volume.takeTrouble.2 slot pageSize
          manager.volume.takeTrouble.1).map Bytes.blank :=
    manager.swap.read_blank manager.volume.takeTrouble.2 slot pageSize _
  simp only [fetch, read]
  cases manager.swap.read manager.volume.takeTrouble.2 slot pageSize
      manager.volume.takeTrouble.1 with
  | error error => rfl
  | ok content =>
    have written : manager.blank.memory.writeFrame lease.frame content.blank =
        (manager.memory.writeFrame lease.frame content).map PhysicalMemory.blank :=
      manager.memory.writeFrame_blank lease.frame content
    simp only [Except.map, written]
    cases manager.memory.writeFrame lease.frame content <;> rfl

theorem afterFetching_blank (slot : Nat) (outcome : Except PagingError Unit) :
    manager.blank.afterFetching page lease slot outcome =
      Prod.map FaultStage.blank blank (manager.afterFetching page lease slot outcome) := by
  cases outcome with
  | ok =>
    simp only [afterFetching, bump_blank, record_blank]
    exact conclude_blank _ page lease (.ok (.swap slot))
  | error error => exact manager.conclude_blank page lease (.error error)

theorem advance_blank (stage : FaultStage) :
    manager.blank.advance page stage.blank =
      Prod.map FaultStage.blank blank (manager.advance page stage) := by
  cases stage with
  | arriving => exact manager.arrive_blank page
  | savingVictim lease victim content => exact manager.saveVictim_blank lease victim content
  | victimSaved lease victim outcome => exact manager.afterSaving_blank page lease victim outcome
  | fetching lease slot => exact manager.fetch_blank lease slot
  | fetched lease slot outcome => exact manager.afterFetching_blank page lease slot outcome
  | finished outcome => rfl

theorem passStages_succ (stages : Nat) (stage : FaultStage) :
    manager.passStages page (stages + 1) stage =
      (manager.advance page stage).2.passStages page stages (manager.advance page stage).1 := by
  cases stage with
  | finished outcome => cases stages <;> rfl
  | _ => rfl

theorem passStages_blank (stages : Nat) (stage : FaultStage) :
    manager.blank.passStages page stages stage.blank =
      Prod.map id blank (manager.passStages page stages stage) := by
  induction stages generalizing manager stage with
  | zero => cases stage <;> rfl
  | succ stages ih =>
    rw [passStages_succ, passStages_succ, advance_blank]
    exact ih _ _

theorem recordOutcome_blank (outcome : Except PagingError Resolution) :
    manager.blank.recordOutcome page outcome = (manager.recordOutcome page outcome).blank := by
  cases outcome <;> rfl

/-- A fault takes the same course after a wipe. -/
theorem fault_blank : manager.blank.fault page = Prod.map id blank (manager.fault page) := by
  have resolved : (manager.blank.recordStart page).resolve page =
      Prod.map id blank ((manager.recordStart page).resolve page) :=
    passStages_blank (manager.recordStart page) page _ .arriving
  simp only [fault, resolved, Prod.map, id, recordOutcome_blank]

end Manager

end DemandPaging
