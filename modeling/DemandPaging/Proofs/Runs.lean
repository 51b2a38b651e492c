import DemandPaging.Proofs.Transfers
import Mathlib.Logic.Relation

/-!
# Runs of operations

A program works on a manager through operations on address spaces, one after
the other.  Between two of them the world outside may change: the volume, which
also knows the troubles of the requests to come, and what an image produces.
-/

namespace DemandPaging

/-- What a program can ask for, and what can happen outside in between.  A
handle is given by value, so every handle that there could be is covered. -/
inductive Operation (pageSize : Nat) where
  | create (numPages : Nat) (image : Image pageSize) (strategy : PagingStrategy)
  | load (image : Image pageSize) (arguments : List String) (strategy : PagingStrategy)
  | fault (space : AddressSpace) (vpn : Nat)
  | read (space : AddressSpace) (address length : Nat)
  | write (space : AddressSpace) (address : Nat) (data : Bytes)
  | destroy (space : AddressSpace)
  | shutdown
  /-- The volume becomes another one. -/
  | disturb (volume : Volume)
  /-- The image behind a space becomes another one. -/
  | replace (space : SpaceId) (image : Image pageSize)

/-- What an operation answers. -/
inductive Answer where
  | created (outcome : Except PagingError AddressSpace)
  | loaded (outcome : Except PagingError (AddressSpace × ProcessImage))
  | faulted (outcome : Except PagingError Resolution)
  | read (transfer : Transfer) (bytes : Bytes)
  | wrote (transfer : Transfer)
  | ended (outcome : Except PagingError Unit)
  | nothing

namespace Access

def length : Access → Nat
  | read count => count
  | write data => data.size

end Access

namespace Operation

def isOwn {pageSize : Nat} : Operation pageSize → Bool
  | disturb _ => false
  | replace _ _ => false
  | _ => true

end Operation

namespace Manager

variable {pageSize : Nat}

def onVolume (manager : Manager pageSize) (volume : Volume) : Manager pageSize :=
  { manager with volume := volume }

def withImage (manager : Manager pageSize) (space : SpaceId) (image : Image pageSize) :
    Manager pageSize :=
  { manager with
    spaces := manager.spaces.modify space fun record => { record with image := image } }

def perform (manager : Manager pageSize) : Operation pageSize → Answer × Manager pageSize
  | .create numPages image strategy =>
    let (outcome, next) := AddressSpace.create manager numPages image strategy
    (.created outcome, next)
  | .load image arguments strategy =>
    let (outcome, next) := ProcessImage.load manager image arguments strategy
    (.loaded outcome, next)
  | .fault space vpn =>
    let (outcome, next) := space.fault manager vpn
    (.faulted outcome, next)
  | .read space address length =>
    let (transfer, bytes, next) := space.readBytes manager address length
    (.read transfer bytes, next)
  | .write space address data =>
    let (transfer, next) := space.writeBytes manager address data
    (.wrote transfer, next)
  | .destroy space =>
    let (outcome, _, next) := space.destroy manager
    (.ended outcome, next)
  | .shutdown =>
    let (outcome, next) := manager.shutdown
    (.ended outcome, next)
  | .disturb volume => (.nothing, manager.onVolume volume)
  | .replace space image => (.nothing, manager.withImage space image)

def after (manager : Manager pageSize) (operations : List (Operation pageSize)) :
    Manager pageSize :=
  operations.foldl (fun manager operation => (manager.perform operation).2) manager

@[simp]
theorem after_nil (manager : Manager pageSize) : manager.after [] = manager :=
  rfl

@[simp]
theorem after_cons (manager : Manager pageSize) (operation : Operation pageSize)
    (rest : List (Operation pageSize)) :
    manager.after (operation :: rest) = (manager.perform operation).2.after rest :=
  rfl

/-- What a manager is when it starts. -/
theorem of_start_eq_ok {config : Configuration} {volume : Volume} {manager : Manager pageSize}
    (started : Manager.start config volume = .ok manager) :
    ∃ memory swap opened, memory.numFrames = config.numFrames ∧
      SwapArea.openNamed volume config.swapName = .ok (swap, opened) ∧
      manager = {
        config := config
        memory := memory
        pool := FramePool.allFree config.numFrames
        frames := FrameTable.empty config.numFrames
        volume := opened
        swap := swap
        log := { enabled := config.recordEvents } } := by
  rw [Manager.start] at started
  split at started
  · cases started
  split at started
  · cases started
  rename_i memory created _ swap opened done
  refine ⟨memory, swap, opened, ?_, done, (Except.ok.inj started).symm⟩
  rw [PhysicalMemory.create?] at created
  split at created
  · exact (Option.some.inj created) ▸ rfl
  · cases created

/-- A manager starts if pages come in a power of two and the swap area has a
name that a file can have. -/
theorem exists_start_eq_ok (config : Configuration) (volume : Volume)
    (power : pageSize.isPowerOfTwo)
    (named : volume.checkPath (Disk.imageName config.swapName) true = .ok ()) :
    ∃ manager : Manager pageSize, Manager.start config volume = .ok manager := by
  obtain ⟨memory, created⟩ :
      ∃ memory, (PhysicalMemory.create? config.numFrames : Option (PhysicalMemory pageSize)) =
        some memory := by
    rw [PhysicalMemory.create?, dif_pos power]
    exact ⟨_, rfl⟩
  obtain ⟨swap, opened, openedEq⟩ : ∃ (swap : SwapArea PageId pageSize) (opened : Volume),
      SwapArea.openNamed volume config.swapName = .ok (swap, opened) :=
    SwapArea.exists_openNamed_eq_ok named
  simp only [Manager.start, created, openedEq]
  exact ⟨_, rfl⟩

theorem checkPath_swapFile : Volume.checkPath {} (Disk.imageName "swapFile") true = .ok () := by
  have name : Disk.imageName "swapFile" = "DISK_IMAGE_swapFile" := by cbv
  rw [name]
  rfl

/-- What the program's own operations are made of.  No access reaches beyond the
page that it is for. -/
inductive Part : Manager pageSize → Manager pageSize → Prop where
  | fault (manager page) : Part manager (manager.fault page).2
  | look {manager page offset access outcome} :
      offset + access.length ≤ pageSize →
      manager.accessResident? page offset access = some outcome → Part manager outcome.2
  | createSpace (manager numPages image) : Part manager (manager.createSpace numPages image).2
  | destroySpace (manager space) : Part manager (manager.destroySpace space).2
  | shutdown (manager) : Part manager manager.shutdown.2

/-- The parts that operations on spaces are made of. -/
inductive SpacePart : Manager pageSize → Manager pageSize → Prop where
  | fault (manager page) : SpacePart manager (manager.fault page).2
  | look {manager page offset access outcome} :
      offset + access.length ≤ pageSize →
      manager.accessResident? page offset access = some outcome → SpacePart manager outcome.2
  | createSpace (manager numPages image) :
      SpacePart manager (manager.createSpace numPages image).2
  | destroySpace (manager space) : SpacePart manager (manager.destroySpace space).2

theorem SpacePart.part {manager next : Manager pageSize} (part : SpacePart manager next) :
    Part manager next := by
  cases part with
  | fault page => exact .fault _ page
  | look inside looked => exact .look inside looked
  | createSpace numPages image => exact .createSpace _ numPages image
  | destroySpace space => exact .destroySpace _ space

/-- Any number of parts of operations, one after the other. -/
def Works : Manager pageSize → Manager pageSize → Prop :=
  Relation.ReflTransGen Part

/-- Whatever holds before a part of an operation holds after it. -/
def Keeps (holds : Manager pageSize → Prop) : Prop :=
  ∀ manager next, Part manager next → holds manager → holds next

/-- Whatever holds before a part of an operation on a space holds after it. -/
def KeepsOnSpaces (holds : Manager pageSize → Prop) : Prop :=
  ∀ manager next, SpacePart manager next → holds manager → holds next

section Induction

variable {holds : Manager pageSize → Prop} {manager next : Manager pageSize}

namespace KeepsOnSpaces

theorem access (keeps : KeepsOnSpaces holds) (page : PageId) {offset : Nat} {access : Access}
    (inside : offset + access.length ≤ pageSize) (start : holds manager) :
    holds (manager.access page offset access).2 := by
  obtain ⟨last, lastHolds, found⟩ | ⟨error, -, ended⟩ :=
    accessWithin_cases holds (fun manager => keeps _ _ (.fault manager page)) start
  · exact keeps _ _ (.look inside found) lastHolds
  · exact ended

theorem readBytes (keeps : KeepsOnSpaces holds) (space : AddressSpace) (address length : Nat)
    (start : holds manager) : holds (space.readBytes manager address length).2.2 := by
  have positive := manager.memory.pageSize_pos
  apply walkFrom_keeps positive (fun state : Bytes × Manager pageSize => holds state.2) _ start
  rintro done ⟨bytes, current⟩ - kept
  have inside := Chunk.next_inside positive address length done
  generalize Chunk.next pageSize address length done = chunk at inside
  have fits : chunk.offset + (Access.read chunk.count).length ≤ pageSize := inside
  have accessed := keeps.access (space.page chunk.vpn) fits kept
  rw [AddressSpace.readChunk]
  split <;> simp_all

theorem writeBytes (keeps : KeepsOnSpaces holds) (space : AddressSpace) (address : Nat)
    (data : Bytes) (start : holds manager) : holds (space.writeBytes manager address data).2 := by
  have positive := manager.memory.pageSize_pos
  apply walkFrom_keeps positive holds _ start
  intro done current _ kept
  have inside := Chunk.next_inside positive address data.size done
  generalize Chunk.next pageSize address data.size done = chunk at inside
  have short := @Bytes.size_slice_le data chunk.start chunk.count
  have fits : chunk.offset +
      (Access.write (Bytes.slice data chunk.start chunk.count)).length ≤ pageSize := by
    rw [Access.length]
    omega
  have accessed := keeps.access (space.page chunk.vpn) fits kept
  rw [AddressSpace.writeChunk]
  split <;> simp_all

theorem create (keeps : KeepsOnSpaces holds) (numPages : Nat) (image : Image pageSize)
    (strategy : PagingStrategy) (start : holds manager) :
    holds (AddressSpace.create manager numPages image strategy).2 := by
  have created := keeps _ _ (.createSpace manager numPages image) start
  cases strategy with
  | demand => exact created
  | eager =>
    rw [AddressSpace.create]
    simp only
    split
    · exact start
    · have filled := AddressSpace.faultEach_induction holds
        { id := (manager.createSpace numPages image).1, numPages := numPages, strategy := .eager }
        (fun manager page => keeps _ _ (.fault manager page)) (List.range numPages) created
      split
      · rename_i equal
        rwa [equal] at filled
      · rename_i equal
        rw [equal] at filled
        exact keeps _ _ (.destroySpace _ _) filled

theorem writeAll (keeps : KeepsOnSpaces holds) (space : AddressSpace) (address : Nat) (data : Bytes)
    (start : holds manager) : holds (ProcessImage.writeAll space manager address data).2 := by
  have written := keeps.writeBytes space address data start
  rw [ProcessImage.writeAll]
  split
  · rename_i equal
    rwa [equal] at written
  · rename_i equal
    rwa [equal] at written

theorem writePieces (keeps : KeepsOnSpaces holds) (space : AddressSpace)
    (pieces : List (Nat × Bytes)) (start : holds manager) :
    holds (ProcessImage.writePieces space manager pieces).2 := by
  induction pieces generalizing manager with
  | nil => exact start
  | cons piece rest ih =>
    have written := keeps.writeAll space piece.1 piece.2 start
    rw [ProcessImage.writePieces]
    split
    · rename_i equal
      rwa [equal] at written
    · rename_i equal
      rw [equal] at written
      exact ih written

theorem load (keeps : KeepsOnSpaces holds) (image : Image pageSize) (arguments : List String)
    (strategy : PagingStrategy) (start : holds manager) :
    holds (ProcessImage.load manager image arguments strategy).2 := by
  rw [ProcessImage.load]
  split
  · exact start
  split
  · exact start
  rename_i sectionPages laidOut fits
  have created := keeps.create (sectionPages + stackPages + 1) image strategy start
  simp only
  split
  · rename_i equal
    rwa [equal] at created
  · rename_i space current equal
    rw [equal] at created
    have written := fun pieces => keeps.writePieces space pieces created
    split
    · rename_i error failed equal
      have kept := (congrArg (fun outcome => holds outcome.2) equal).mp (written _)
      exact keeps _ _ (.destroySpace failed space.id) kept
    · rename_i equal
      exact (congrArg (fun outcome => holds outcome.2) equal).mp (written _)

theorem destroy (keeps : KeepsOnSpaces holds) (space : AddressSpace) (start : holds manager) :
    holds (space.destroy manager).2.2 := by
  rw [AddressSpace.destroy]
  split
  · exact start
  · exact keeps _ _ (.destroySpace manager space.id) start

theorem readArguments (keeps : KeepsOnSpaces holds) (space : AddressSpace) (address count : Nat)
    (start : holds manager) :
    holds (ProcessImage.readArguments space manager address count).2 :=
  ProcessImage.readArguments_induction holds space
    (fun _ address length kept => keeps.readBytes space address length kept) address count start

/-- What operations on spaces keep lasts until the manager is shut down. -/
theorem perform (keeps : KeepsOnSpaces holds) {operation : Operation pageSize}
    (own : operation.isOwn = true) (running : operation ≠ .shutdown) (start : holds manager) :
    holds (manager.perform operation).2 := by
  cases operation with
  | create numPages image strategy => exact keeps.create numPages image strategy start
  | load image arguments strategy => exact keeps.load image arguments strategy start
  | fault space vpn => exact keeps _ _ (.fault manager _) start
  | read space address length => exact keeps.readBytes space address length start
  | write space address data => exact keeps.writeBytes space address data start
  | destroy space => exact keeps.destroy space start
  | shutdown => exact absurd rfl running
  | disturb volume => cases own
  | replace space image => cases own

theorem after (keeps : KeepsOnSpaces holds) {operations : List (Operation pageSize)}
    (own : ∀ operation ∈ operations, operation.isOwn = true)
    (running : ∀ operation ∈ operations, operation ≠ .shutdown) (start : holds manager) :
    holds (manager.after operations) := by
  induction operations generalizing manager with
  | nil => exact start
  | cons operation rest ih =>
    obtain ⟨firstOwn, restOwn⟩ := List.forall_mem_cons.mp own
    obtain ⟨firstRunning, restRunning⟩ := List.forall_mem_cons.mp running
    exact ih restOwn restRunning (keeps.perform firstOwn firstRunning start)

end KeepsOnSpaces

namespace Keeps

theorem onSpaces (keeps : Keeps holds) : KeepsOnSpaces holds :=
  fun manager next part => keeps manager next part.part

theorem works (keeps : Keeps holds) (works : Works manager next) (start : holds manager) :
    holds next := by
  induction works with
  | refl => exact start
  | tail _ part ih => exact keeps _ _ part ih

theorem perform (keeps : Keeps holds) {operation : Operation pageSize}
    (own : operation.isOwn = true) (start : holds manager) :
    holds (manager.perform operation).2 := by
  cases operation with
  | shutdown => exact keeps _ _ (.shutdown manager) start
  | _ => exact keeps.onSpaces.perform own nofun start

end Keeps

end Induction

theorem works_perform {manager : Manager pageSize} {operation : Operation pageSize}
    (own : operation.isOwn = true) : Works manager (manager.perform operation).2 := by
  have keeps : Keeps (Works manager) := fun _ _ part works => works.tail part
  exact keeps.perform own .refl

theorem works_after {manager : Manager pageSize} {operations : List (Operation pageSize)}
    (own : ∀ operation ∈ operations, operation.isOwn = true) :
    Works manager (manager.after operations) := by
  induction operations generalizing manager with
  | nil => exact .refl
  | cons operation rest ih =>
    obtain ⟨first, others⟩ := List.forall_mem_cons.mp own
    exact (works_perform first).trans (ih others)

end Manager

end DemandPaging
