import DemandPaging.Proofs.FaultOutcome
import DemandPaging.Proofs.SpaceDeparture

/-!
# Eager spaces

An eager space is created with all its pages in frames, or it is not created.
There is a free frame for each of its pages when the first one is brought in,
and every page takes one of them, so that no page of another space ever has to
leave.  When a page cannot be produced, the ones before it give their frames
back.
-/

namespace DemandPaging

theorem PageId.mk_ne {space : SpaceId} {first second : Nat} (differs : first ≠ second) :
    (⟨space, first⟩ : PageId) ≠ ⟨space, second⟩ :=
  fun same => differs (congrArg PageId.vpn same)

namespace Manager

variable {pageSize : Nat}

/-- What the creation of a space leaves alone. -/
structure Spares (before after : Manager pageSize) : Prop where
  numFrames_eq : after.numFrames = before.numFrames
  isAllocated_of : ∀ frame, before.pool.isAllocated frame = true →
    after.pool.isAllocated frame = true
  frameContent_eq : ∀ frame, before.pool.isAllocated frame = true →
    after.frameContent frame = before.frameContent frame
  numPages?_eq : ∀ space, space ≠ before.nextSpace →
    after.numPages? space = before.numPages? space
  entry_eq : ∀ page, page.space ≠ before.nextSpace → after.entry page = before.entry page
  slotOf?_eq : ∀ page, after.swap.slotOf? page = before.swap.slotOf? page
  evictions_eq : after.statistics.evictions = before.statistics.evictions

/-- The first `done` pages of the space that was created last are in frames
that were free before, and the others are in none. -/
structure Filling (before current : Manager pageSize) (numPages : Nat) (image : Image pageSize)
    (done : Nat) : Prop extends Spares before current where
  dependable : current.Dependable
  image?_new : current.image? before.nextSpace = some image
  numPages?_new : current.numPages? before.nextSpace = some numPages
  freeFrames_add : current.freeFrames + done = before.freeFrames
  loaded : ∀ vpn, vpn < done → ∃ frame,
    current.place ⟨before.nextSpace, vpn⟩ = .ok (some frame) ∧
      before.pool.isAllocated frame = false
  waiting : ∀ vpn, done ≤ vpn → vpn < numPages →
    current.place ⟨before.nextSpace, vpn⟩ = .ok none
  produced : ∀ vpn, vpn < done → image.failure? vpn = none

/-- How the attempt ends to bring in every page of a new space. -/
inductive Filled (before : Manager pageSize) (numPages : Nat) (image : Image pageSize) :
    Except PagingError Unit → Manager pageSize → Prop where
  | complete {after} :
      Filling before after numPages image numPages →
      Filled before numPages image (.ok ()) after
  | stopped {after vpn error} :
      vpn < numPages → image.failure? vpn = some error →
      Filling before after numPages image vpn →
      Filled before numPages image (.error (.image error)) after

section Filling

variable {before current next : Manager pageSize} {numPages done vpn frame : Nat}
  {image : Image pageSize}

theorem Dependable.filling (dependable : before.Dependable) (numPages : Nat)
    (image : Image pageSize) :
    Filling before (before.createSpace numPages image).2 numPages image 0 where
  numFrames_eq := rfl
  isAllocated_of _ := id
  frameContent_eq _ _ := rfl
  numPages?_eq _ differs := numPages?_createSpace.trans (if_neg differs)
  entry_eq _ differs := entry_createSpace.trans (if_neg differs)
  slotOf?_eq _ := rfl
  evictions_eq := rfl
  dependable := keeps_dependable _ _ (.createSpace _ numPages image) dependable
  image?_new := image?_createSpace.trans (if_pos rfl)
  numPages?_new := numPages?_createSpace.trans (if_pos rfl)
  freeFrames_add := rfl
  loaded _ := nofun
  waiting _ _ inside := place_createSpace_new inside
  produced _ := nofun

/-- A fault that takes a free frame leaves alone what the creation of its space
has to leave alone. -/
theorem Spares.trans_confined (spares : Spares before current)
    (confined : Confined current next ⟨before.nextSpace, vpn⟩ frame none)
    (free : current.pool.isAllocated frame = false) : Spares before next := by
  have apart : ∀ other, before.pool.isAllocated other = true → other ≠ frame := by
    rintro other taken rfl
    cases free.symm.trans (spares.isAllocated_of other taken)
  constructor
  case numFrames_eq => exact confined.numFrames_eq.trans spares.numFrames_eq
  case isAllocated_of =>
    intro other taken
    rw [confined.isAllocated_eq other (apart other taken)]
    exact spares.isAllocated_of other taken
  case frameContent_eq =>
    intro other taken
    rw [confined.frameContent_eq other (apart other taken)]
    exact spares.frameContent_eq other taken
  case numPages?_eq =>
    intro space differs
    exact (confined.numPages?_eq space).trans (spares.numPages?_eq space differs)
  case entry_eq =>
    intro page outside
    rw [confined.entry_eq rfl page fun same => outside (congrArg PageId.space same)]
    exact spares.entry_eq page outside
  case slotOf?_eq =>
    exact fun page => (confined.slotOf?_eq page nofun).trans (spares.slotOf?_eq page)
  case evictions_eq => exact (confined.evictions_eq rfl).trans spares.evictions_eq

/-- One more page is in a frame. -/
theorem Filling.loads {source : ContentSource}
    (filling : Filling before current numPages image done)
    (loads : Loads current next ⟨before.nextSpace, done⟩ frame none source)
    (free : current.pool.isAllocated frame = false) (produced : image.failure? done = none)
    (dependable : next.Dependable) : Filling before next numPages image (done + 1) := by
  refine { filling.toSpares.trans_confined loads.toConfined free with
    dependable := dependable
    image?_new := (loads.image?_eq _).trans filling.image?_new
    numPages?_new := (loads.numPages?_eq _).trans filling.numPages?_new
    freeFrames_add := ?freeFrames
    loaded := fun vpn below => ?loaded
    waiting := fun vpn above inside => ?waiting
    produced := fun vpn below => ?produced }
  case freeFrames =>
    have oneLess : next.freeFrames + 1 = current.freeFrames :=
      FramePool.freeCount_of_taken loads.numFrames_eq free loads.isAllocated_frame
        loads.isAllocated_eq
    rw [← filling.freeFrames_add, ← oneLess]
    omega
  case loaded =>
    rcases Nat.lt_succ_iff_lt_or_eq.mp below with earlier | rfl
    · rw [loads.toConfined.place_of_ne (PageId.mk_ne (Nat.ne_of_lt earlier))]
      exact filling.loaded vpn earlier
    · obtain ⟨entry, readOnly, -, -, -, installed⟩ := loads.supplied
      refine ⟨frame, place_eq_ok_iff.mpr ⟨_, installed, rfl⟩, ?_⟩
      rw [Bool.eq_false_iff]
      intro taken
      cases free.symm.trans (filling.isAllocated_of frame taken)
  case waiting =>
    rw [loads.toConfined.place_of_ne (PageId.mk_ne (Nat.ne_of_gt above))]
    exact filling.waiting vpn (Nat.le_of_succ_le above) inside
  case produced =>
    rcases Nat.lt_succ_iff_lt_or_eq.mp below with earlier | rfl
    · exact filling.produced vpn earlier
    · exact produced

/-- A page that cannot be brought in leaves the others in their frames. -/
theorem Filling.givenUp (filling : Filling before current numPages image done)
    (givenUp : GivenUp current next ⟨before.nextSpace, done⟩ frame none)
    (free : current.pool.isAllocated frame = false) (dependable : next.Dependable) :
    Filling before next numPages image done := by
  have places : ∀ vpn, next.place ⟨before.nextSpace, vpn⟩ =
      current.place ⟨before.nextSpace, vpn⟩ := by
    intro vpn
    by_cases same : vpn = done
    · subst same
      obtain ⟨entry, found, -, still⟩ := givenUp.entry_page
      rw [place, place, found, still]
    · exact givenUp.toConfined.place_of_ne (PageId.mk_ne same)
  refine { filling.toSpares.trans_confined givenUp.toConfined free with
    dependable := dependable
    image?_new := (givenUp.image?_eq _).trans filling.image?_new
    numPages?_new := (givenUp.numPages?_eq _).trans filling.numPages?_new
    freeFrames_add := ?freeFrames
    loaded := fun vpn below => ?loaded
    waiting := fun vpn above inside => ?waiting
    produced := filling.produced }
  case freeFrames =>
    have unchanged : next.freeFrames = current.freeFrames := by
      refine FramePool.freeCount_congr givenUp.numFrames_eq fun other => ?_
      by_cases same : other = frame
      · rw [same, givenUp.isAllocated_frame, free]
      · exact givenUp.isAllocated_eq other same
    rw [unchanged]
    exact filling.freeFrames_add
  case loaded =>
    rw [places]
    exact filling.loaded vpn below
  case waiting =>
    rw [places]
    exact filling.waiting vpn above inside

/-- The next page is brought in, or its section cannot produce it. -/
theorem Filling.fault (filling : Filling before current numPages image done)
    (dependable : before.Dependable) (inside : done < numPages)
    (enough : numPages ≤ before.freeFrames) :
    ((∃ resolution, (current.fault ⟨before.nextSpace, done⟩).1 = .ok resolution) ∧
        Filling before (current.fault ⟨before.nextSpace, done⟩).2 numPages image (done + 1)) ∨
      ∃ error, image.failure? done = some error ∧
        (current.fault ⟨before.nextSpace, done⟩).1 = .error (.image error) ∧
        Filling before (current.fault ⟨before.nextSpace, done⟩).2 numPages image done := by
  have slotless : current.swap.slotOf? ⟨before.nextSpace, done⟩ = none := by
    obtain ⟨content, mirrors⟩ := dependable.mirrors
    rw [filling.slotOf?_eq]
    exact mirrors.slotOf?_eq_none rfl
  -- Every page that is not brought in yet finds a frame free for it.
  obtain ⟨spare, spareInside, isFree⟩ : ∃ frame, frame < current.numFrames ∧
      current.pool.isAllocated frame = false := by
    apply FramePool.exists_free
    have counted := filling.freeFrames_add
    rw [freeFrames] at counted
    omega
  have ends := filling.dependable.ends_fault ⟨before.nextSpace, done⟩
  have kept := keeps_dependable _ _ (.fault current ⟨before.nextSpace, done⟩) filling.dependable
  rcases ends.of_free (filling.waiting done (Nat.le_refl _) inside) slotless filling.image?_new
      spareInside isFree with
    ⟨produced, frame, source, same, free, loads⟩ | ⟨error, frame, failed, same, free, givenUp⟩
  · exact .inl ⟨⟨_, same⟩, filling.loads loads free produced kept⟩
  · exact .inr ⟨error, failed, same, filling.givenUp givenUp free kept⟩

/-- Whatever is left to bring in, the attempt stops at the first page that
cannot be produced. -/
theorem Filling.faultEach {space : AddressSpace} (dependable : before.Dependable)
    (new : space.id = before.nextSpace) (enough : numPages ≤ before.freeFrames) {left : Nat}
    (filling : Filling before current numPages image done) (total : done + left = numPages) :
    Filled before numPages image (space.faultEach current (List.range' done left)).1
      (space.faultEach current (List.range' done left)).2 := by
  induction left generalizing current done with
  | zero => exact .complete (total ▸ filling)
  | succ left ih =>
    have inside : done < numPages := by omega
    have page : space.page done = ⟨before.nextSpace, done⟩ := congrArg (PageId.mk · done) new
    rw [List.range'_succ, AddressSpace.faultEach, page]
    rcases filling.fault dependable inside enough with
      ⟨⟨resolution, same⟩, filled⟩ | ⟨error, failed, same, kept⟩
    all_goals
      generalize current.fault ⟨before.nextSpace, done⟩ = result at *
      obtain ⟨outcome, after⟩ := result
      subst same
    · exact ih filled (by omega)
    · exact .stopped inside failed kept

end Filling

/-- A new space has every page in a frame of its own that was free before. -/
structure Populates (before after : Manager pageSize) (numPages : Nat) : Prop
    extends Spares before after where
  numPages?_new : after.numPages? before.nextSpace = some numPages
  freeFrames_add : after.freeFrames + numPages = before.freeFrames
  resident : ∀ vpn, vpn < numPages → ∃ entry,
    after.entry ⟨before.nextSpace, vpn⟩ = .ok entry ∧ entry.valid = true ∧
      entry.frame < before.numFrames ∧ before.pool.isAllocated entry.frame = false
  apart : ∀ first second firstEntry secondEntry, first < numPages → second < numPages →
    after.entry ⟨before.nextSpace, first⟩ = .ok firstEntry →
    after.entry ⟨before.nextSpace, second⟩ = .ok secondEntry →
    firstEntry.frame = secondEntry.frame → first = second

/-- There are the same spaces with the same pages in the same frames. -/
structure Restores (before after : Manager pageSize) : Prop where
  numPages?_eq : ∀ space, after.numPages? space = before.numPages? space
  entry_eq : ∀ page, after.entry page = before.entry page
  owner?_eq : ∀ frame, after.frames.owner? frame = before.frames.owner? frame
  isAllocated_eq : ∀ frame, after.pool.isAllocated frame = before.pool.isAllocated frame
  freeFrames_eq : after.freeFrames = before.freeFrames
  frameContent_eq : ∀ frame, before.pool.isAllocated frame = true →
    after.frameContent frame = before.frameContent frame
  slotOf?_eq : ∀ page, after.swap.slotOf? page = before.swap.slotOf? page
  evictions_eq : after.statistics.evictions = before.statistics.evictions

section Outcomes

variable {before current : Manager pageSize} {numPages done : Nat} {image : Image pageSize}

theorem Filling.populates (filling : Filling before current numPages image numPages) :
    Populates before current numPages := by
  obtain ⟨content, mirrors⟩ := filling.dependable.mirrors
  have exact := mirrors.settled.ownershipExact
  have resident : ∀ vpn, vpn < numPages → ∃ entry,
      current.entry ⟨before.nextSpace, vpn⟩ = .ok entry ∧ entry.valid = true ∧
        before.pool.isAllocated entry.frame = false := by
    intro vpn inside
    obtain ⟨frame, placed, free⟩ := filling.loaded vpn inside
    obtain ⟨entry, found, held⟩ := place_eq_ok_iff.mp placed
    obtain ⟨valid, rfl⟩ := PageEntry.frame?_eq_some_iff.mp held
    exact ⟨entry, found, valid, free⟩
  refine { filling.toSpares with
    numPages?_new := filling.numPages?_new
    freeFrames_add := filling.freeFrames_add
    resident := ?resident
    apart := ?apart }
  case resident =>
    intro vpn inside
    obtain ⟨entry, found, valid, free⟩ := resident vpn inside
    refine ⟨entry, found, valid, ?_, free⟩
    have owned := (exact.entry_iff_owner _ entry.frame).mp ⟨entry, found, valid, rfl⟩
    have taken := (exact.allocated_iff_owner entry.frame).mpr ⟨_, owned⟩
    exact filling.numFrames_eq ▸ (FramePool.isAllocated_iff.mp taken).1
  case apart =>
    intro first second firstEntry secondEntry firstInside secondInside firstFound secondFound same
    obtain ⟨_, firstAgain, firstValid, -⟩ := resident first firstInside
    obtain ⟨_, secondAgain, secondValid, -⟩ := resident second secondInside
    obtain rfl := Except.ok.inj (firstFound.symm.trans firstAgain)
    obtain rfl := Except.ok.inj (secondFound.symm.trans secondAgain)
    exact congrArg PageId.vpn
      (exact.entries_apart _ _ _ _ firstFound secondFound firstValid secondValid same)

/-- Destroying a space that was created in part undoes its creation. -/
theorem Filling.restores (filling : Filling before current numPages image done)
    (dependable : before.Dependable) :
    Restores before (current.destroySpace before.nextSpace).2 := by
  obtain ⟨_, mirrorsBefore⟩ := dependable.mirrors
  obtain ⟨_, mirrors⟩ := filling.dependable.mirrors
  obtain ⟨record, alive, -⟩ := Option.map_eq_some_iff.mp filling.numPages?_new
  have gives := mirrors.givesBack alive
  have settled := mirrors.settled.destroySpace before.nextSpace
  generalize (current.destroySpace before.nextSpace).2 = after at gives settled ⊢
  have absent : before.numPages? before.nextSpace = none := by
    rw [numPages?, spaces_eq_none_of_nextSpace_le mirrorsBefore.settled (Nat.le_refl _)]
    rfl
  have entries : ∀ page, after.entry page = before.entry page := by
    intro page
    by_cases new : page.space = before.nextSpace
    · rw [entry_of_absent (new ▸ gives.absent), entry_of_absent (new ▸ absent)]
    · exact (gives.entry_eq page new).trans (filling.entry_eq page new)
  have owners : ∀ frame, after.frames.owner? frame = before.frames.owner? frame := by
    intro frame
    ext page
    rw [settled.owner_iff, mirrorsBefore.settled.owner_iff, place, place, entries]
  have allocated : ∀ frame, after.pool.isAllocated frame = before.pool.isAllocated frame := by
    intro frame
    rw [Bool.eq_iff_iff, settled.ownershipExact.allocated_iff_owner,
      mirrorsBefore.settled.ownershipExact.allocated_iff_owner, owners]
  constructor
  case numPages?_eq =>
    intro space
    by_cases new : space = before.nextSpace
    · rw [new, gives.absent, absent]
    · exact (gives.numPages?_eq space new).trans (filling.numPages?_eq space new)
  case entry_eq => exact entries
  case owner?_eq => exact owners
  case isAllocated_eq => exact allocated
  case freeFrames_eq =>
    refine FramePool.freeCount_congr ?_ allocated
    rw [← settled.numFrames_memory, gives.memory_eq, mirrors.settled.numFrames_memory]
    exact filling.numFrames_eq
  case frameContent_eq =>
    intro frame taken
    rw [frameContent, gives.memory_eq]
    exact filling.frameContent_eq frame taken
  case slotOf?_eq =>
    intro page
    by_cases new : page.space = before.nextSpace
    · rw [gives.unbound page new, mirrorsBefore.slotOf?_eq_none new]
    · exact (gives.slotOf?_eq page new).trans (filling.slotOf?_eq page)
  case evictions_eq => rw [gives.statistics_eq, filling.evictions_eq]

end Outcomes

/-- The handle of the eager space that a manager creates next. -/
def nextEager (manager : Manager pageSize) (numPages : Nat) : AddressSpace where
  id := manager.nextSpace
  numPages := numPages
  strategy := .eager

/-- What the eager creation of a space comes to. -/
structure EagerExact (manager : Manager pageSize) (numPages : Nat) (image : Image pageSize) :
    Prop where
  refused_iff : (AddressSpace.create manager numPages image .eager).1 = .error .outOfFrames ↔
    manager.freeFrames < numPages
  refused : manager.freeFrames < numPages →
    (AddressSpace.create manager numPages image .eager).2 = manager
  complete : numPages ≤ manager.freeFrames →
    (∀ vpn, vpn < numPages → image.failure? vpn = none) →
      (AddressSpace.create manager numPages image .eager).1 =
          .ok (manager.nextEager numPages) ∧
        Populates manager (AddressSpace.create manager numPages image .eager).2 numPages
  undone : numPages ≤ manager.freeFrames → ∀ vpn error, vpn < numPages →
    image.failure? vpn = some error → (∀ lower, lower < vpn → image.failure? lower = none) →
      (AddressSpace.create manager numPages image .eager).1 = .error (.image error) ∧
        Restores manager (AddressSpace.create manager numPages image .eager).2

section Creating

variable {manager : Manager pageSize} {numPages : Nat} {image : Image pageSize}

theorem create_of_lt (few : manager.freeFrames < numPages) :
    AddressSpace.create manager numPages image .eager = (.error .outOfFrames, manager) :=
  if_pos few

/-- With enough free frames, what becomes of the attempt to bring in every page
decides what becomes of the space. -/
theorem create_of_le (enough : numPages ≤ manager.freeFrames) (image : Image pageSize) :
    AddressSpace.create manager numPages image .eager =
      match (manager.nextEager numPages).faultEach (manager.createSpace numPages image).2
        (List.range numPages) with
      | (.ok (), filled) => (.ok (manager.nextEager numPages), filled)
      | (.error error, failed) => (.error error, (failed.destroySpace manager.nextSpace).2) :=
  if_neg (Nat.not_lt.mpr enough)

theorem Dependable.filled (dependable : manager.Dependable)
    (enough : numPages ≤ manager.freeFrames) (image : Image pageSize) :
    ∃ outcome after, Filled manager numPages image outcome after ∧
      (manager.nextEager numPages).faultEach (manager.createSpace numPages image).2
        (List.range numPages) = (outcome, after) := by
  have new : (manager.nextEager numPages).id = manager.nextSpace := rfl
  have filled := (dependable.filling numPages image).faultEach dependable new enough
    (Nat.zero_add numPages)
  rw [← List.range_eq_range'] at filled
  exact ⟨_, _, filled, rfl⟩

theorem Dependable.eagerExact (dependable : manager.Dependable) (numPages : Nat)
    (image : Image pageSize) : manager.EagerExact numPages image := by
  rcases Nat.lt_or_ge manager.freeFrames numPages with few | enough
  · constructor
    case refused_iff => simp [create_of_lt few, few]
    case refused => simp [create_of_lt few]
    all_goals exact fun enough => absurd few (Nat.not_lt.mpr enough)
  · obtain ⟨outcome, after, filled, attempted⟩ := dependable.filled enough image
    have created := create_of_le enough image
    rw [attempted] at created
    have notFew : ¬manager.freeFrames < numPages := Nat.not_lt.mpr enough
    cases filled with
    | complete filling =>
      constructor
      case refused_iff => simp [created, notFew]
      case refused => exact fun few => absurd few notFew
      case complete =>
        intro _ _
        rw [created]
        exact ⟨rfl, filling.populates⟩
      case undone =>
        intro _ vpn error inside failed _
        cases failed.symm.trans (filling.produced vpn inside)
    | @stopped after vpn error inside failed filling =>
      constructor
      case refused_iff => simp [created, notFew]
      case refused => exact fun few => absurd few notFew
      case complete =>
        intro _ produced
        cases failed.symm.trans (produced vpn inside)
      case undone =>
        intro _ other otherError otherInside otherFailed first
        have same : other = vpn := by
          rcases Nat.lt_trichotomy other vpn with below | same | above
          · cases otherFailed.symm.trans (filling.produced other below)
          · exact same
          · cases failed.symm.trans (first vpn above)
        subst same
        obtain rfl := Option.some.inj (failed.symm.trans otherFailed)
        rw [created]
        exact ⟨rfl, filling.restores dependable⟩

end Creating

/-- After every run, an eager space gets a free frame for each of its pages, or
it is as if it had never been asked for. -/
theorem eagerExact_afterCalls {config : Configuration} {volume : Volume}
    {manager : Manager pageSize} (started : Manager.start config volume = .ok manager)
    (calls : List (ManagerCall pageSize)) (numPages : Nat) (image : Image pageSize) :
    (manager.afterCalls calls).EagerExact numPages image :=
  ((dependable_start started).afterCalls calls).eagerExact numPages image

/-- One of two frames is taken, and the only page of the new space cannot be
produced. -/
theorem eagerExact_afterCalls_unproducible :
    ∃ manager : Manager 4, Manager.start { numFrames := 2 } {} = .ok manager ∧
      (manager.afterCalls [
        .createSpace 1 (Program.synthetic 0 0).image,
        .fault ⟨1, 0⟩]).EagerExact 1 .unproducible := by
  obtain ⟨manager, started⟩ := exists_start_eq_ok { numFrames := 2 } {}
    (by decide : Nat.isPowerOfTwo 4) checkPath_swapFile
  exact ⟨manager, started, eagerExact_afterCalls started _ 1 .unproducible⟩

end Manager

end DemandPaging
