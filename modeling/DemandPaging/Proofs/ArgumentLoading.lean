import DemandPaging.Proofs.EagerCreation
import DemandPaging.Proofs.Loading

/-!
# Where the arguments of a program end up

While the swap area works, whether a program is loaded is decided by its layout,
the length of its arguments and, if it is to be loaded eagerly, the free frames.
A program that is loaded finds its arguments in its last page.  Its pointers are
narrower than addresses: in a space beyond four gibibytes they are written as if
they were not.
-/

namespace DemandPaging

theorem Image.Complete.failure?_eq_none {pageSize : Nat} {image : Image pageSize}
    (complete : image.Complete) (vpn : Nat) : image.failure? vpn = none := by
  cases located : image.findSection vpn with
  | none => exact Image.failure?_of_uncovered located
  | some place =>
    obtain ⟨content, loaded⟩ := complete vpn place.1 place.2 located
    rw [Image.failure?_of_loadPage located, loaded]

namespace Manager

variable {pageSize : Nat} {manager next : Manager pageSize} {memory : FlatMemory}
  {image : Image pageSize} {arguments : List String} {strategy : PagingStrategy}
  {space : AddressSpace} {process : ProcessImage} {numPages vpn : Nat}

/-- A page of the space is read as a whole. -/
theorem Serves.readBytes_page (serves : manager.Serves space.id image numPages)
    (complete : image.Complete) (present : vpn < numPages)
    (addressed : vpn * pageSize < addressLimit) :
    (space.readBytes manager (vpn * pageSize) pageSize).1 = ⟨pageSize, none⟩ := by
  have positive := manager.memory.pageSize_pos
  have inside : vpn * pageSize + 0 < numPages * pageSize :=
    Nat.mul_lt_mul_of_pos_right present positive
  obtain ⟨-, copied⟩ :=
    @Serves.readChunk _ _ _ _ space (vpn * pageSize) pageSize 0 serves complete #[]
  rw [readRefusal?_eq_none_iff.mpr inside] at copied
  rw [AddressSpace.readBytes, walk, walkFrom_inside positive positive addressed _
    (Prod.ext copied rfl)]
  rw [Nat.mul_mod_left, Nat.zero_add]

/-- Nothing keeps the operations on spaces from succeeding. -/
structure Operational (manager : Manager pageSize) : Prop where
  dependable : manager.Dependable
  ready : manager.Ready
  isOpen : manager.swap.closed = false

theorem Operational.settled (operational : manager.Operational) : manager.Settled := by
  obtain ⟨content, mirrors⟩ := operational.dependable.mirrors
  exact mirrors.settled

theorem keeps_operational : KeepsOnSpaces (Operational : Manager pageSize → Prop) := by
  intro manager next part operational
  have settled := operational.settled
  constructor
  case dependable => exact keeps_dependable _ _ part.part operational.dependable
  case ready => exact (keeps_ready _ _ part.part ⟨settled, operational.ready⟩).2
  case isOpen => exact (part.closed_eq settled).trans operational.isOpen

theorem operational_after {config : Configuration} {volume : Volume}
    {operations : List (Operation pageSize)}
    (started : Manager.start config volume = .ok manager) (present : 0 < config.numFrames)
    (consistent : volume.Consistent) (calm : volume.troubles = [])
    (own : ∀ operation ∈ operations, operation.isOwn = true)
    (isOpen : (manager.after operations).swap.closed = false) :
    (manager.after operations).Operational := by
  have works : Works manager (manager.after operations) := works_after own
  obtain ⟨-, ready⟩ := keeps_ready.works works
    ⟨settled_start started, ready_start present consistent calm started⟩
  exact ⟨keeps_dependable.works works (dependable_start started), ready, isOpen⟩

namespace Operational

theorem serves {id : SpaceId} (operational : manager.Operational) (shows : manager.Shows id image)
    (pages : manager.numPages? id = some numPages) : manager.Serves id image numPages :=
  ⟨operational.dependable.mirrors, operational.ready, operational.isOpen,
    shows.image?_eq (pages ▸ Option.some_ne_none _), pages⟩

theorem serves_create (operational : manager.Operational) (follows : manager.Follows memory)
    (done : AddressSpace.create manager numPages image strategy = (.ok space, next)) :
    next.Serves space.id image numPages := by
  have kept := keeps_operational.create numPages image strategy operational
  rw [done] at kept
  rcases follows.create numPages image strategy (fun _ _ => .replicate pageSize 0) done with
    ⟨_, failed, -⟩ | ⟨_, same, -, -, after⟩
  · cases failed
  · obtain rfl := Except.ok.inj same
    apply kept.serves (operational.settled.shows_create done)
    apply after.numPages?_eq
    simp [FlatMemory.create, FlatMemory.initially]

theorem serves_load (operational : manager.Operational) (follows : manager.Follows memory)
    (loaded : ProcessImage.load manager image arguments strategy = (.ok (space, process), next)) :
    next.Serves space.id image process.numPages := by
  have kept := keeps_operational.load image arguments strategy operational
  rw [loaded] at kept
  have after := (follows.load image arguments strategy
    (fun _ _ => .replicate pageSize 0) loaded).1
  exact kept.serves (operational.settled.shows_load loaded)
    (after.numPages?_eq FlatMemory.size_follow_load)

/-- Only the free frames can keep a space from being created whose pages can all
be produced. -/
theorem error_of_create {error : PagingError} (operational : manager.Operational)
    (complete : image.Complete)
    (failed : (AddressSpace.create manager numPages image strategy).1 = .error error) :
    error = .outOfFrames := by
  cases strategy with
  | demand => cases failed
  | eager =>
    rcases Nat.lt_or_ge manager.freeFrames numPages with few | enough
    · rw [create_of_lt few] at failed
      exact (Except.error.inj failed).symm
    · have exact := operational.dependable.eagerExact numPages image
      obtain ⟨created, -⟩ := exact.complete enough fun vpn _ => complete.failure?_eq_none vpn
      cases failed.symm.trans created

end Operational

end Manager

/-- The address of the page behind the sections and the stack. -/
def Image.argumentVector {pageSize : Nat} (image : Image pageSize) : Nat :=
  (image.totalPages + stackPages) * pageSize

namespace ProcessImage

variable {pageSize : Nat} {image : Image pageSize} {arguments : List String}

/-- Wherever the arguments of a program that can be loaded have addresses, they
have addresses that pointers reach. -/
def PointersReach (image : Image pageSize) (arguments : List String) : Prop :=
  image.Contiguous → argumentBytes arguments ≤ pageSize →
    image.argumentVector < addressLimit →
      ∀ index < arguments.length,
        argumentAddress image.argumentVector arguments index < pointerLimit

/-- Pointers reach all of a space of four gibibytes. -/
theorem pointersReach_of_le
    (small : (image.totalPages + stackPages + 1) * pageSize ≤ pointerLimit) :
    PointersReach image arguments := by
  intro _ fits _ index inside
  have before := argumentAddress_lt image.argumentVector inside
  rw [Nat.succ_mul] at small
  exact Nat.lt_of_lt_of_le before (Nat.le_trans (Nat.add_le_add_left fits _) small)

end ProcessImage

namespace Manager

variable {pageSize : Nat} {manager next : Manager pageSize} {memory : FlatMemory}
  {image : Image pageSize} {arguments : List String} {strategy : PagingStrategy}
  {space : AddressSpace} {process : ProcessImage}

/-- What a program that was loaded finds in its space. -/
structure LaidOut (next : Manager pageSize) (space : AddressSpace) (process : ProcessImage)
    (image : Image pageSize) (arguments : List String) : Prop where
  contiguous : image.Contiguous
  numPages_eq : process.numPages = image.totalPages + stackPages + 1
  initialStack_eq : process.initialStack = process.argumentVector
  argumentVector_eq : process.argumentVector = (process.numPages - 1) * pageSize
  argumentCount_eq : process.argumentCount = arguments.length
  /-- The last page is read as a whole, if it has an address. -/
  read_eq : process.argumentVector < addressLimit →
    (space.readBytes next process.argumentVector pageSize).1 = ⟨pageSize, none⟩
  size_eq : process.argumentVector < addressLimit →
    (space.readBytes next process.argumentVector pageSize).2.1.size = pageSize
  holds : process.argumentVector < addressLimit →
    ProcessImage.HoldsArguments (space.readBytes next process.argumentVector pageSize).2.1
      process.argumentVector arguments

/-- A program with gaps or too many arguments is refused for just that, and one
that is loaded finds its arguments through its pointers. -/
structure LoadsExactly (manager : Manager pageSize) (image : Image pageSize)
    (arguments : List String) : Prop where
  fragmented_iff : ∀ strategy index,
    (ProcessImage.load manager image arguments strategy).1 = .error (.fragmentedExecutable index) ↔
      image.FirstGap index
  tooLong_iff : image.Contiguous → ∀ strategy size,
    (ProcessImage.load manager image arguments strategy).1 = .error (.argumentsTooLong size) ↔
      size = ProcessImage.argumentBytes arguments ∧ pageSize < size
  laidOut : ∀ strategy space process next,
    ProcessImage.load manager image arguments strategy = (.ok (space, process), next) →
      next.LaidOut space process image arguments

theorem load_of_firstGap {index : Nat} (first : image.FirstGap index) :
    ProcessImage.load manager image arguments strategy =
      (.error (.fragmentedExecutable index), manager) := by
  rw [ProcessImage.load, ProcessImage.layOut_of_firstGap first]

theorem load_of_tooLong (contiguous : image.Contiguous)
    (long : pageSize < ProcessImage.argumentBytes arguments) :
    ProcessImage.load manager image arguments strategy =
      (.error (.argumentsTooLong (ProcessImage.argumentBytes arguments)), manager) := by
  rw [ProcessImage.load, ProcessImage.layOut_of_contiguous contiguous]
  simp only [if_pos long]

/-- Where the page of the arguments has no address, nothing is written. -/
theorem writePieces_beyond (manager : Manager pageSize) (space : AddressSpace) {vector : Nat}
    (beyond : addressLimit ≤ vector) (textAddress : Nat) (arguments : List String) :
    ProcessImage.writePieces space manager
        (ProcessImage.argumentPieces vector textAddress arguments) = (.ok (), manager) ∨
      ProcessImage.writePieces space manager
        (ProcessImage.argumentPieces vector textAddress arguments) =
          (.error (.invalidAddress (addressLimit - 1)), manager) := by
  cases arguments with
  | nil => exact .inl rfl
  | cons argument rest =>
    right
    have unfinished : 0 < (ProcessImage.encodePointer textAddress).size :=
      Nat.zero_lt_succ 3
    rw [ProcessImage.argumentPieces, ProcessImage.writePieces, ProcessImage.writeAll,
      AddressSpace.writeBytes, walk, walkFrom_beyond _ unfinished beyond]

namespace Operational

/-- What can keep a program from being loaded that has no gap and whose arguments
fit. -/
theorem error_of_load {error : PagingError} (operational : manager.Operational)
    (follows : manager.Follows memory) (complete : image.Complete)
    (contiguous : image.Contiguous) (fits : ProcessImage.argumentBytes arguments ≤ pageSize)
    (failed : (ProcessImage.load manager image arguments strategy).1 = .error error) :
    error = .outOfFrames ∨ error = .invalidAddress (addressLimit - 1) := by
  have laidOut := ProcessImage.layOut_of_contiguous contiguous
  rw [ProcessImage.load, laidOut] at failed
  simp only [if_neg (Nat.not_lt.mpr fits)] at failed
  cases created : AddressSpace.create manager (image.totalPages + stackPages + 1) image
    strategy with
  | mk outcome current =>
  rw [created] at failed
  cases outcome with
  | error other =>
    obtain rfl := Except.error.inj failed
    exact .inl (operational.error_of_create complete (congrArg Prod.fst created))
  | ok space =>
    have serves := operational.serves_create follows created
    rcases Nat.lt_or_ge ((image.totalPages + stackPages) * pageSize) addressLimit with
      addressed | beyond
    · obtain ⟨written, done⟩ := serves.writeArguments complete laidOut fits addressed
      simp only [done] at failed
      cases failed
    · right
      rcases writePieces_beyond current space beyond ((image.totalPages + stackPages) * pageSize +
          arguments.length * pointerBytes) arguments with done | stopped
      · simp only [done] at failed
        cases failed
      · simp only [stopped] at failed
        exact (Except.error.inj failed).symm

/-- Whatever comes of the pointers, the last page of a loaded program is the page
of its arguments. -/
theorem readBytes_of_load (operational : manager.Operational) (follows : manager.Follows memory)
    (complete : image.Complete)
    (loaded : ProcessImage.load manager image arguments strategy = (.ok (space, process), next))
    (addressed : process.argumentVector < addressLimit) :
    (space.readBytes next process.argumentVector pageSize).1 = ⟨pageSize, none⟩ ∧
      (space.readBytes next process.argumentVector pageSize).2.1 =
        ProcessImage.argumentPage pageSize process.argumentVector arguments := by
  let filler : SpaceId → Nat → Page pageSize := fun _ _ => .replicate pageSize 0
  have serves := operational.serves_load follows loaded
  have after := (follows.load image arguments strategy filler loaded).1
  have written := @FlatMemory.follow_load_self _ memory filler image arguments strategy space
    process
  obtain ⟨sectionPages, created, laidOut, fits, rfl, -, -⟩ := load_eq_ok_iff.mp loaded
  have read := serves.readBytes_page complete (Nat.lt_succ_self _) addressed
  obtain ⟨-, bytes, -⟩ := after.readBytes space ((sectionPages + stackPages) * pageSize) pageSize
  refine ⟨read, ?_⟩
  have blank : image.initialContent? (sectionPages + stackPages) =
      some (Bytes.zeros pageSize) := by
    rw [Image.initialContent?,
      ProcessImage.findSection_of_layOut laidOut (Nat.le_add_right _ _)]
  rw [read, FlatMemory.read, written, Option.getD_some] at bytes
  rw [bytes]
  apply ProcessImage.slice_overwriteEach_argumentPieces fits
  · rw [FlatMemory.initially, Array.size_ofFn, Nat.succ_mul]
  · exact FlatMemory.slice_initially (Nat.lt_succ_self _) blank

theorem laidOut (operational : manager.Operational) (follows : manager.Follows memory)
    (complete : image.Complete) (reach : ProcessImage.PointersReach image arguments)
    (loaded : ProcessImage.load manager image arguments strategy = (.ok (space, process), next)) :
    next.LaidOut space process image arguments := by
  have shown := operational.readBytes_of_load follows complete loaded
  obtain ⟨sectionPages, created, done, fits, same, -, -⟩ := load_eq_ok_iff.mp loaded
  obtain ⟨contiguous, total⟩ := ProcessImage.of_layOut_eq_ok done
  subst total
  have vector : process.argumentVector = image.argumentVector := by rw [same, Image.argumentVector]
  constructor
  case contiguous => exact contiguous
  case numPages_eq => rw [same]
  case initialStack_eq => rw [same]
  case argumentVector_eq => rw [same, Nat.add_sub_cancel]
  case argumentCount_eq => rw [same]
  case read_eq => exact fun addressed => (shown addressed).1
  case size_eq =>
    intro addressed
    rw [(shown addressed).2, ProcessImage.size_argumentPage _ fits]
  case holds =>
    intro addressed
    rw [(shown addressed).2, ProcessImage.holdsArguments_iff, vector]
    exact reach contiguous fits (vector ▸ addressed)

theorem loadsExactly (operational : manager.Operational) (follows : manager.Follows memory)
    (complete : image.Complete) (reach : ProcessImage.PointersReach image arguments) :
    manager.LoadsExactly image arguments := by
  constructor
  case fragmented_iff =>
    intro strategy index
    constructor
    · intro failed
      rcases ProcessImage.layOut_cases image with ⟨contiguous, -⟩ | ⟨other, first, -⟩
      · exfalso
        rcases Nat.lt_or_ge pageSize (ProcessImage.argumentBytes arguments) with long | fits
        · rw [load_of_tooLong contiguous long] at failed
          cases failed
        · rcases operational.error_of_load follows complete contiguous fits failed with
            same | same
          · cases same
          · cases same
      · rw [load_of_firstGap first] at failed
        cases failed
        exact first
    · exact fun first => congrArg Prod.fst (load_of_firstGap first)
  case tooLong_iff =>
    intro contiguous strategy size
    constructor
    · intro failed
      rcases Nat.lt_or_ge pageSize (ProcessImage.argumentBytes arguments) with long | fits
      · rw [load_of_tooLong contiguous long] at failed
        cases failed
        exact ⟨rfl, long⟩
      · rcases operational.error_of_load follows complete contiguous fits failed with same | same
        · cases same
        · cases same
    · rintro ⟨rfl, long⟩
      exact congrArg Prod.fst (load_of_tooLong contiguous long)
  case laidOut =>
    exact fun strategy space process next loaded =>
      operational.laidOut follows complete reach loaded

/-- A program that is always laid out as it should be has no pointer that does
not reach its text. -/
theorem pointersReach (operational : manager.Operational) (follows : manager.Follows memory)
    (complete : image.Complete) (exact : manager.LoadsExactly image arguments) :
    ProcessImage.PointersReach image arguments := by
  intro contiguous fits addressed
  obtain ⟨space, process, next, loaded⟩ := exists_load_eq_ok operational.dependable.mirrors
    operational.ready operational.isOpen complete (ProcessImage.layOut_of_contiguous contiguous)
    fits addressed
  have laidOut := exact.laidOut _ _ _ _ loaded
  have vector : process.argumentVector = image.argumentVector := by
    rw [laidOut.argumentVector_eq, laidOut.numPages_eq, Nat.add_sub_cancel, Image.argumentVector]
  rw [← vector] at addressed ⊢
  have holds := laidOut.holds addressed
  rw [(operational.readBytes_of_load follows complete loaded addressed).2] at holds
  exact (ProcessImage.holdsArguments_iff _ _ _).mp holds

end Operational

/-- After every run that leaves the swap area open, a program is loaded exactly as
it should be unless one of its arguments comes to lie where no pointer reaches. -/
theorem loadsExactly_iff_pointersReach {config : Configuration} {volume : Volume}
    (started : Manager.start config volume = .ok manager) (present : 0 < config.numFrames)
    (consistent : volume.Consistent) (calm : volume.troubles = [])
    {earlier : List (Operation pageSize)}
    (earlierOwn : ∀ operation ∈ earlier, operation.isOwn = true)
    (isOpen : (manager.after earlier).swap.closed = false) (complete : image.Complete)
    (arguments : List String) :
    (manager.after earlier).LoadsExactly image arguments ↔
      ProcessImage.PointersReach image arguments := by
  have operational := operational_after started present consistent calm earlierOwn isOpen
  have follows := (follows_start started).after (fun _ _ => .replicate pageSize 0) earlierOwn
  exact ⟨operational.pointersReach follows complete, operational.loadsExactly follows complete⟩

/-- Two arguments in a space of eleven pages, where another space has taken the
only frame. -/
theorem loadsExactly_iff_pointersReach_two :
    ∃ manager : Manager 16, Manager.start { numFrames := 1 } {} = .ok manager ∧
      (manager.after [
        .create 2 (Program.synthetic 0 1).image .demand,
        .write { id := 1, numPages := 2, strategy := .demand } 5 #[1, 2, 3, 4]]).LoadsExactly
        (Program.synthetic 1 1).image ["ls", "-l"] := by
  obtain ⟨manager, started⟩ := exists_start_eq_ok { numFrames := 1 } {}
    (by decide : Nat.isPowerOfTwo 16) checkPath_swapFile
  refine ⟨manager, started, ?_⟩
  rw [loadsExactly_iff_pointersReach started (by decide) Volume.consistent_empty rfl
    (by simp [Operation.isOwn]) _ (Program.complete_image _)]
  · exact ProcessImage.pointersReach_of_le (by decide)
  · exact (keeps_stocked.after (by simp [Operation.isOwn]) (by simp)
      (stocked_start Volume.consistent_empty started)).isOpen

/-- The only argument of this program lies beyond four gibibytes. -/
theorem not_loadsExactly_beyond :
    ∃ manager : Manager 65536, Manager.start { numFrames := 1 } {} = .ok manager ∧
      ¬manager.LoadsExactly
        (Program.image {
          sections := #[
            { name := "data", firstPage := 0, pageCount := 65536, readOnly := false }] })
        ["a"] := by
  obtain ⟨manager, started⟩ := exists_start_eq_ok { numFrames := 1 } {}
    (⟨16, rfl⟩ : Nat.isPowerOfTwo 65536) checkPath_swapFile
  refine ⟨manager, started, fun exact => ?_⟩
  have isOpen := (stocked_start Volume.consistent_empty started).isOpen
  have operational := @operational_after _ manager _ _ [] started (by decide)
    Volume.consistent_empty rfl nofun isOpen
  have reach := operational.pointersReach (follows_start started) (Program.complete_image _) exact
    (by decide) (by decide) (by decide)
  exact absurd (reach 0 (by decide)) (by decide)

end Manager

end DemandPaging
