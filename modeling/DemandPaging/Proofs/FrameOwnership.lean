import DemandPaging.Program.Sections
import DemandPaging.Proofs.FaultPaths
import DemandPaging.Proofs.Runs
import DemandPaging.Proofs.SpaceLifetime
import Mathlib.Algebra.GroupWithZero.Nat
import Mathlib.Data.List.Nodup

/-!
# Ownership of frames between operations

Between two operations nothing is held, so that the valid entries of all spaces
and the frames with an owner correspond to each other one to one, and every
frame is either free or has an owner.  No sequence of operations loses a frame,
however many of them fail.
-/

namespace DemandPaging

namespace Manager

variable {pageSize : Nat}

/-- The accounts between two operations: no fault is under way. -/
def Settled (manager : Manager pageSize) : Prop :=
  manager.Accounted fun _ => none

section Operations

variable {manager : Manager pageSize}

theorem sameAccounts_touch (manager : Manager pageSize) (page : PageId) (frame : Nat)
    (wrote : Bool) : SameAccounts manager (manager.touch page frame wrote).2 := by
  have marked := @sameAccounts_modifyEntry _ manager page
    (fun entry => { entry with used := true, dirty := entry.dirty || wrote }) fun _ => rfl
  rw [touch]
  split
  · exact marked
  · rename_i frames done
    rw [frames_modifyEntry, FrameTable.markUsed] at done
    have agrees := FrameTable.agreesButUsed_mark manager.frames frame true
    rw [← FrameTable.eq_of_update_eq_ok done] at agrees
    exact { marked with
      size_frames := agrees.size_eq
      owner?_eq := agrees.owner?_eq
      isPinned_eq := agrees.isPinned_eq }

theorem sameAccounts_accessResident? {page : PageId} {offset : Nat} {access : Access}
    {outcome : Except PagingError Bytes × Manager pageSize}
    (looked : manager.accessResident? page offset access = some outcome) :
    SameAccounts manager outcome.2 := by
  rcases accessResident?_cases looked with same | ⟨memory, frame, wrote, numFrames, same⟩
  · rw [same]
    exact .refl manager
  · rw [same]
    have changed : SameAccounts manager { manager with memory := memory } :=
      { SameAccounts.refl manager with numFrames_memory := numFrames }
    exact changed.trans (sameAccounts_touch _ page frame wrote)

theorem Settled.of_same {next : Manager pageSize} (settled : manager.Settled)
    (same : SameAccounts manager next) : next.Settled :=
  Accounted.of_same settled same

theorem sameAccounts_recordStart (manager : Manager pageSize) (page : PageId) :
    SameAccounts manager (manager.recordStart page) :=
  sameAccounts_withBooks _ _ _

theorem sameAccounts_recordOutcome (manager : Manager pageSize) (page : PageId)
    (outcome : Except PagingError Resolution) :
    SameAccounts manager (manager.recordOutcome page outcome) := by
  cases outcome with
  | ok resolution => exact sameAccounts_withBooks _ _ _
  | error error => exact sameAccounts_withBooks _ _ _

theorem Settled.arriving (settled : manager.Settled) (page : PageId) :
    Accounted (manager.recordStart page)
      (Function.update (fun _ => none) 0 (FaultPhase.holding? page .arriving)) := by
  rw [FaultPhase.holding?, Function.update_eq_self]
  exact settled.of_same (sameAccounts_recordStart manager page)

/-- Between its first and its last record, a fault is a sequence of steps. -/
theorem Settled.path (settled : manager.Settled) (page : PageId) :
    PassesThrough page (manager.recordStart page) .arriving
      ((manager.recordStart page).resolve page).2
      (.finished ((manager.recordStart page).resolve page).1) :=
  passesThrough_resolve (settled.of_same (sameAccounts_recordStart manager page))

/-- When a fault is over, nothing is held, whatever became of it. -/
theorem Settled.fault (settled : manager.Settled) (page : PageId) :
    (manager.fault page).2.Settled := by
  have resolved := (settled.path page).accounted (settled.arriving page)
  rw [FaultPhase.holding?, Function.update_eq_self] at resolved
  exact Settled.of_same resolved (sameAccounts_recordOutcome _ page _)

theorem Settled.find?_inTransit (settled : manager.Settled) (page : PageId) :
    manager.inTransit.find? page = none :=
  settled.not_inTransit fun _ _ held => by cases held

theorem Settled.destroySpace (settled : manager.Settled) (space : SpaceId) :
    (manager.destroySpace space).2.Settled := by
  have still : manager.inTransitOf space = false := by
    rw [inTransitOf_eq_false_iff]
    intro page frame found
    rw [settled.find?_inTransit] at found
    cases found
  have detached : (manager.detachSpace space).2.Settled := Accounted.detachSpace settled still
  rw [Manager.destroySpace]
  split
  · rename_i equal
    rwa [equal] at detached
  · rename_i equal
    rw [equal] at detached
    exact detached.of_same (sameAccounts_releaseSlots _ space)

theorem entry_withImage (manager : Manager pageSize) (space : SpaceId) (image : Image pageSize)
    (page : PageId) : (manager.withImage space image).entry page = manager.entry page := by
  simp only [entry, withImage, KeyedTable.find?_modify]
  by_cases same : page.space = space
  · rw [if_pos same]
    cases manager.spaces.find? page.space <;> rfl
  · rw [if_neg same]

theorem sameAccounts_withImage (manager : Manager pageSize) (space : SpaceId)
    (image : Image pageSize) : SameAccounts manager (manager.withImage space image) where
  numFrames_pool := rfl
  size_frames := rfl
  numFrames_memory := rfl
  keys_spaces := KeyedTable.keys_modify _ _ _
  nextSpace_eq := rfl
  isAllocated_eq _ := rfl
  owner?_eq _ := rfl
  isPinned_eq _ := rfl
  inTransit_eq _ := rfl
  place_eq page := by rw [place, place, entry_withImage]

theorem keeps_settled : Keeps (Settled : Manager pageSize → Prop) := by
  intro manager next part settled
  cases part with
  | fault => exact settled.fault _
  | look _ looked => exact settled.of_same (sameAccounts_accessResident? looked)
  | createSpace => exact Accounted.createSpace settled _ _
  | destroySpace => exact settled.destroySpace _
  | shutdown => exact settled.of_same { SameAccounts.refl manager with }

theorem Settled.perform (settled : manager.Settled) (operation : Operation pageSize) :
    (manager.perform operation).2.Settled := by
  by_cases own : operation.isOwn = true
  · exact keeps_settled.perform own settled
  · cases operation with
    | disturb volume => exact settled.of_same { SameAccounts.refl manager with }
    | replace space image => exact settled.of_same (sameAccounts_withImage manager space image)
    | _ => exact absurd rfl own

theorem Settled.after (settled : manager.Settled) (operations : List (Operation pageSize)) :
    (manager.after operations).Settled := by
  induction operations generalizing manager with
  | nil => exact settled
  | cons operation rest ih => exact ih (settled.perform operation)

theorem settled_start {config : Configuration} {volume : Volume}
    (started : Manager.start config volume = .ok manager) : manager.Settled := by
  obtain ⟨memory, swap, opened, numFrames, -, rfl⟩ := of_start_eq_ok started
  constructor
  case size_frames => exact FrameTable.size_empty _
  case numFrames_memory => exact numFrames
  case nodup_spaces => exact List.nodup_nil
  case space_lt => exact fun _ member => absurd member List.not_mem_nil
  case owner_iff => simp [place, entry, Except.map]
  case allocated_iff => simp
  case pinned_iff => simp [Holds]
  case transit_iff => simp [Holds]
  case vacant => exact fun _ _ held => by cases held
  case away => exact fun _ _ _ held => by cases held
  case victim_ne => exact fun _ _ held => by cases held
  case exclusive => exact fun _ _ _ _ held => by cases held

end Operations

section Counting

variable {manager : Manager pageSize}

def validEntries (manager : Manager pageSize) : Nat :=
  (manager.spaces.values.map fun record => record.table.entries.countP PageEntry.valid).sum

def residentFrames (manager : Manager pageSize) : List Nat :=
  manager.spaces.entries.flatMap fun entry => entry.2.table.residentFrames

theorem length_residentFrames (manager : Manager pageSize) :
    manager.residentFrames.length = manager.validEntries := by
  simp only [residentFrames, validEntries, KeyedTable.values, List.length_flatMap, List.map_map]
  congr 2
  funext entry
  simp [PageTable.residentFrames, ← Array.countP_toList, List.countP_eq_length_filter]

theorem mem_residentFrames_iff (settled : manager.Settled) {frame : Nat} :
    frame ∈ manager.residentFrames ↔ manager.pool.isAllocated frame = true := by
  have loose : manager.frames.isPinned frame = false := by
    rw [← Bool.not_eq_true, settled.pinned_iff]
    rintro ⟨_, _, held, -⟩
    cases held
  simp only [settled.allocated_iff, settled.owner_iff, loose, residentFrames, List.mem_flatMap,
    Bool.false_eq_true, or_false]
  constructor
  · rintro ⟨⟨space, record⟩, member, resident⟩
    have found := (KeyedTable.mem_entries_iff settled.nodup_spaces space record).mp member
    obtain ⟨page, -, placed⟩ := (mem_residentFrames_iff_place found).mp resident
    exact ⟨page, placed⟩
  · rintro ⟨page, placed⟩
    obtain ⟨entry, found, -⟩ := place_eq_ok_iff.mp placed
    obtain ⟨record, alive, -⟩ := entry_eq_ok_iff.mp found
    exact ⟨(page.space, record),
      (KeyedTable.mem_entries_iff settled.nodup_spaces page.space record).mpr alive,
      (mem_residentFrames_iff_place alive).mpr ⟨page, rfl, placed⟩⟩

theorem nodup_residentFrames (settled : manager.Settled) : manager.residentFrames.Nodup := by
  have found : ∀ entry ∈ manager.spaces.entries, manager.spaces.find? entry.1 = some entry.2 :=
    fun entry => (KeyedTable.mem_entries_iff settled.nodup_spaces entry.1 entry.2).mp
  rw [residentFrames, List.nodup_flatMap]
  refine ⟨fun entry member => Accounted.nodup_residentFrames settled (found entry member), ?_⟩
  have distinct : manager.spaces.entries.Pairwise fun first second => first.1 ≠ second.1 :=
    List.pairwise_map.mp settled.nodup_spaces
  apply distinct.imp_of_mem
  intro first second firstMember secondMember differs frame firstResident secondResident
  obtain ⟨page, inFirst, placed⟩ :=
    (mem_residentFrames_iff_place (found first firstMember)).mp firstResident
  obtain ⟨other, inSecond, otherPlaced⟩ :=
    (mem_residentFrames_iff_place (found second secondMember)).mp secondResident
  have same := settled.eq_of_place_eq placed otherPlaced
  exact differs (inFirst.symm.trans (same ▸ inSecond))

theorem freeFrames_add_validEntries (settled : manager.Settled) :
    manager.freeFrames + manager.validEntries = manager.numFrames := by
  have listed : manager.residentFrames.Perm
      ((List.range manager.numFrames).filter manager.pool.isAllocated) := by
    rw [List.perm_ext_iff_of_nodup (nodup_residentFrames settled)
      (List.nodup_range.filter _)]
    intro frame
    rw [mem_residentFrames_iff settled, List.mem_filter, List.mem_range]
    exact ⟨fun taken => ⟨(FramePool.isAllocated_iff.mp taken).1, taken⟩, And.right⟩
  have free : manager.freeFrames =
      (List.range manager.numFrames).countP fun frame => ¬manager.pool.isAllocated frame :=
    manager.pool.freeCount_eq_countP
  calc
    manager.freeFrames + manager.validEntries =
        manager.freeFrames + (List.range manager.numFrames).countP manager.pool.isAllocated := by
      rw [← length_residentFrames, listed.length_eq, List.countP_eq_length_filter]
    _ = (List.range manager.numFrames).length := by
      rw [free, Nat.add_comm, ← List.length_eq_countP_add_countP]
    _ = manager.numFrames := List.length_range

end Counting

/-- Who owns which frame is written down without a contradiction and without a
gap. -/
structure OwnershipExact (manager : Manager pageSize) : Prop where
  entry_iff_owner : ∀ page frame,
    (∃ entry, manager.entry page = .ok entry ∧ entry.valid = true ∧ entry.frame = frame) ↔
      manager.frames.owner? frame = some page
  allocated_iff_owner : ∀ frame,
    manager.pool.isAllocated frame = true ↔ ∃ page, manager.frames.owner? frame = some page
  owner_inside : ∀ frame page, manager.frames.owner? frame = some page →
    ∃ numPages, manager.numPages? page.space = some numPages ∧ page.vpn < numPages
  pinnedCount_eq : manager.frames.pinnedCount = 0
  inTransit_eq : manager.inTransit.entries = []
  entries_apart : ∀ first second firstEntry secondEntry,
    manager.entry first = .ok firstEntry → manager.entry second = .ok secondEntry →
    firstEntry.valid = true → secondEntry.valid = true →
    firstEntry.frame = secondEntry.frame → first = second
  freeFrames_add_validEntries :
    manager.freeFrames + manager.validEntries = manager.numFrames

theorem Settled.ownershipExact {manager : Manager pageSize} (settled : manager.Settled) :
    manager.OwnershipExact := by
  have placed : ∀ page frame,
      (∃ entry, manager.entry page = .ok entry ∧ entry.valid = true ∧ entry.frame = frame) ↔
        manager.place page = .ok (some frame) := by
    intro page frame
    simp only [place_eq_ok_iff, PageEntry.frame?_eq_some_iff]
  have loose : ∀ frame, manager.frames.isPinned frame = false := by
    intro frame
    rw [← Bool.not_eq_true, settled.pinned_iff]
    rintro ⟨_, _, held, -⟩
    cases held
  constructor
  case entry_iff_owner =>
    intro page frame
    rw [placed, settled.owner_iff]
  case allocated_iff_owner =>
    intro frame
    simp [settled.allocated_iff, loose]
  case owner_inside =>
    intro frame page owned
    obtain ⟨entry, found, -⟩ := place_eq_ok_iff.mp ((settled.owner_iff frame page).mp owned)
    exact exists_entry_eq_ok_iff.mp ⟨entry, found⟩
  case pinnedCount_eq =>
    rw [FrameTable.pinnedCount, Array.countP_eq_zero]
    intro info member
    obtain ⟨frame, inside, rfl⟩ := Array.mem_iff_getElem.mp member
    simpa [FrameTable.isPinned, inside] using loose frame
  case inTransit_eq => exact KeyedTable.entries_eq_nil settled.find?_inTransit
  case entries_apart =>
    intro first second firstEntry secondEntry firstFound secondFound firstValid secondValid same
    exact settled.eq_of_place_eq ((placed first _).mp ⟨_, firstFound, firstValid, rfl⟩)
      ((placed second _).mp ⟨_, secondFound, secondValid, same.symm⟩)
  case freeFrames_add_validEntries => exact manager.freeFrames_add_validEntries settled

/-- No run loses a frame or gives one to two pages, whatever fails on the way:
requests to the swap area as its volume has it, and pages as their images have
it. -/
theorem ownershipExact_after {config : Configuration} {volume : Volume}
    {manager : Manager pageSize} (started : Manager.start config volume = .ok manager)
    (operations : List (Operation pageSize)) : (manager.after operations).OwnershipExact :=
  ((settled_start started).after operations).ownershipExact

/-- A space with more pages than there are frames, one of them written. -/
theorem ownershipExact_after_write :
    ∃ manager : Manager 4, Manager.start { numFrames := 2 } {} = .ok manager ∧
      (manager.after [
        .create 3 (Program.synthetic 1 1).image .demand,
        .write { id := 1, numPages := 3, strategy := .demand } 5 #[1, 2, 3, 4],
        .destroy { id := 1, numPages := 3, strategy := .demand }]).OwnershipExact := by
  obtain ⟨manager, started⟩ := exists_start_eq_ok { numFrames := 2 } {}
    (by decide : Nat.isPowerOfTwo 4) checkPath_swapFile
  exact ⟨manager, started, ownershipExact_after started _⟩

end Manager

end DemandPaging
