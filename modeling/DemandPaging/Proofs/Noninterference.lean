import DemandPaging.Proofs.BlankRuns
import DemandPaging.Proofs.FlatMemory

/-!
# Spaces do not betray their bytes

Two runs that differ only in the bytes of one space, whether written by its
program or produced by its image, cannot be told apart, except by reading that
very space: the wiped managers are the same throughout, and the bytes of all
other spaces are what the flat arrays say.
-/

namespace DemandPaging

/-- The same sections, and the same pages that cannot be produced. -/
structure Image.SameLayout {pageSize : Nat} (first second : Image pageSize) : Prop where
  sectionCount_eq : second.sectionCount = first.sectionCount
  firstPage_eq : second.firstPage = first.firstPage
  pageCount_eq : second.pageCount = first.pageCount
  readOnly_eq : second.readOnly = first.readOnly
  entryPoint_eq : second.entryPoint = first.entryPoint
  failures_eq : ∀ index number, (second.loadPage index number).map (fun _ => ()) =
    (first.loadPage index number).map fun _ => ()

theorem Image.SameLayout.blank_eq {pageSize : Nat} {first second : Image pageSize}
    (same : first.SameLayout second) : second.blank = first.blank := by
  have loads : ∀ index number,
      (second.loadPage index number).map (fun _ => Vector.replicate pageSize (0 : UInt8)) =
        (first.loadPage index number).map fun _ => Vector.replicate pageSize 0 := by
    intro index number
    have failures := same.failures_eq index number
    cases loaded : first.loadPage index number <;> cases other : second.loadPage index number <;>
      simp_all [Except.map]
  simp only [Image.blank, same.sectionCount_eq, same.firstPage_eq, same.pageCount_eq,
    same.readOnly_eq, same.entryPoint_eq, loads]

/-- Everything about a section but its name and its bytes. -/
def Section.shape (part : Section) : Nat × Nat × Bool :=
  (part.firstPage, part.pageCount, part.readOnly)

/-- Programs with sections of the same shape have the same layout, whatever
bytes they hold. -/
theorem Program.sameLayout {pageSize : Nat} {first second : Program pageSize}
    (shapes : second.sections.map Section.shape = first.sections.map Section.shape)
    (entryPoint : second.entryPoint = first.entryPoint) : first.image.SameLayout second.image := by
  have shapeAt : ∀ index : Nat,
      second.sections[index]?.map Section.shape = first.sections[index]?.map Section.shape := by
    intro index
    rw [← Array.getElem?_map, ← Array.getElem?_map, shapes]
  have viewed : ∀ {View : Type} (view : Nat × Nat × Bool → View) (index : Nat),
      second.sections[index]?.map (fun part => view part.shape) =
        first.sections[index]?.map fun part => view part.shape := by
    intro View view index
    have same := congrArg (Option.map view) (shapeAt index)
    rwa [Option.map_map, Option.map_map] at same
  constructor
  case sectionCount_eq =>
    have sizes := congrArg Array.size shapes
    rwa [Array.size_map, Array.size_map] at sizes
  case firstPage_eq =>
    funext index
    exact congrArg (Option.getD · 0) (viewed (fun shape => shape.1) index)
  case pageCount_eq =>
    funext index
    exact congrArg (Option.getD · 0) (viewed (fun shape => shape.2.1) index)
  case readOnly_eq =>
    funext index
    have same := congrArg (Option.any id) (viewed (fun shape => shape.2.2) index)
    rwa [Option.any_map, Option.any_map] at same
  case entryPoint_eq => exact entryPoint
  case failures_eq =>
    intro index number
    have counts := viewed (fun shape => shape.2.1) index
    simp only [image, loadPage]
    cases placed : first.sections[index]? with
    | none =>
      rw [placed, Option.map_none, Option.map_eq_none_iff] at counts
      rw [counts]
    | some part =>
      rw [placed, Option.map_some, Option.map_eq_some_iff] at counts
      obtain ⟨other, found, sameCount⟩ := counts
      change other.pageCount = part.pageCount at sameCount
      simp only [found, sameCount]
      split <;> rfl

/-- Two operations that differ at most in bytes of the space `secret`, when the
next space to be created is `nextSpace`. -/
inductive Operation.Alike {pageSize : Nat} (secret nextSpace : SpaceId) :
    Operation pageSize → Operation pageSize → Prop where
  | same (operation) : Alike secret nextSpace operation operation
  | create {numPages first second strategy} : nextSpace = secret → first.SameLayout second →
      Alike secret nextSpace (.create numPages first strategy) (.create numPages second strategy)
  | load {first second arguments strategy} : nextSpace = secret → first.SameLayout second →
      Alike secret nextSpace (.load first arguments strategy) (.load second arguments strategy)
  | write {space address} {first second : Bytes} : space.id = secret → second.size = first.size →
      Alike secret nextSpace (.write space address first) (.write space address second)

theorem Operation.Alike.isOwn_eq {pageSize : Nat} {secret nextSpace : SpaceId}
    {first second : Operation pageSize} (alike : first.Alike secret nextSpace second) :
    second.isOwn = first.isOwn := by
  cases alike <;> rfl

/-- Whether an operation reads bytes of a space. -/
def Operation.readsFrom {pageSize : Nat} (space : SpaceId) : Operation pageSize → Bool
  | .read target _ _ => target.id == space
  | _ => false

/-- An answer with the bytes wiped that were read. -/
def Answer.blank : Answer → Answer
  | read transfer bytes => read transfer bytes.blank
  | answer => answer

/-- Two runs from the same manager that differ at most in bytes of the space
`secret`.  Which space an operation creates is decided by the first run. -/
inductive AlikeRuns {pageSize : Nat} (secret : SpaceId) :
    Manager pageSize → List (Operation pageSize) → List (Operation pageSize) → Prop where
  | nil (manager) : AlikeRuns secret manager [] []
  | cons {manager first second rest others} :
      Operation.Alike secret manager.nextSpace first second →
      AlikeRuns secret (manager.perform first).2 rest others →
      AlikeRuns secret manager (first :: rest) (second :: others)

theorem AlikeRuns.take {pageSize : Nat} {secret : SpaceId} {manager : Manager pageSize}
    {operations others : List (Operation pageSize)}
    (alike : AlikeRuns secret manager operations others) (count : Nat) :
    AlikeRuns secret manager (operations.take count) (others.take count) := by
  induction alike generalizing count with
  | nil manager =>
    rw [List.take_nil]
    exact .nil manager
  | cons operationAlike _ ih =>
    cases count with
    | zero => exact .nil _
    | succ count => exact .cons operationAlike (ih count)

namespace FlatMemory

variable {pageSize : Nat} {filler : SpaceId → Nat → Page pageSize} {first second : FlatMemory}
  {space : SpaceId}

/-- The bytes that were read have no effect on the spaces. -/
theorem follow_blank (memory : FlatMemory) (operation : Operation pageSize) (answer : Answer) :
    memory.follow filler operation answer.blank = memory.follow filler operation answer := by
  cases operation <;> cases answer <;> rfl

theorem write_congr (target : SpaceId) (address : Nat) (data : Bytes)
    (same : second space = first space) :
    second.write target address data space = first.write target address data space := by
  rw [FlatMemory.write, FlatMemory.write, Function.update_apply, Function.update_apply]
  split
  · rename_i isTarget
    rw [← isTarget, same]
  · exact same

theorem create_congr (target : SpaceId) (bytes : Bytes) (same : second space = first space) :
    second.create target bytes space = first.create target bytes space := by
  rw [create, create, Function.update_apply, Function.update_apply, same]

theorem foldl_write_congr (pieces : List (Nat × Bytes)) (target : SpaceId)
    (same : second space = first space) :
    pieces.foldl (fun memory piece => memory.write target piece.1 piece.2) second space =
      pieces.foldl (fun memory piece => memory.write target piece.1 piece.2) first space := by
  induction pieces generalizing first second with
  | nil => exact same
  | cons piece rest ih => exact ih (write_congr target piece.1 piece.2 same)

/-- What becomes of a space does not depend on the bytes of other spaces. -/
theorem follow_congr (operation : Operation pageSize) (answer : Answer)
    (same : second space = first space) :
    second.follow filler operation answer space = first.follow filler operation answer space := by
  cases operation <;> cases answer
  case create.created numPages image strategy outcome =>
    cases outcome with
    | error error => exact same
    | ok created => exact create_congr _ _ same
  case load.loaded image arguments strategy outcome =>
    cases outcome with
    | error error => exact same
    | ok created => exact foldl_write_congr _ _ (create_congr _ _ same)
  case write.wrote target address data transfer => exact write_congr _ _ _ same
  case destroy.ended target outcome =>
    simp only [follow]
    split
    · exact same
    · rw [destroy, destroy, Function.update_apply, Function.update_apply, same]
  all_goals exact same

theorem follow_write_of_ne {target : AddressSpace} (differs : space ≠ target.id) (address : Nat)
    (data : Bytes) (answer : Answer) :
    first.follow filler (.write target address data) answer space = first space := by
  cases answer with
  | wrote transfer => exact write_of_ne differs
  | _ => rfl

theorem follow_create_of_ne {numPages : Nat} {image : Image pageSize} {strategy : PagingStrategy}
    {outcome : Except PagingError AddressSpace}
    (differs : ∀ created, outcome = .ok created → space ≠ created.id) :
    first.follow filler (.create numPages image strategy) (.created outcome) space =
      first space := by
  cases outcome with
  | error error => rfl
  | ok created => exact Function.update_of_ne (differs created rfl) _ _

theorem follow_load_of_ne {image : Image pageSize} {arguments : List String}
    {strategy : PagingStrategy} {outcome : Except PagingError (AddressSpace × ProcessImage)}
    (differs : ∀ created, outcome = .ok created → space ≠ created.1.id) :
    first.follow filler (.load image arguments strategy) (.loaded outcome) space =
      first space := by
  cases outcome with
  | error error => rfl
  | ok created =>
    have apart := differs created rfl
    simp only [follow]
    generalize ProcessImage.argumentPieces _ _ _ = pieces
    have written : ∀ memory : FlatMemory,
        pieces.foldl (fun memory piece => memory.write created.1.id piece.1 piece.2) memory space =
          memory space := by
      induction pieces with
      | nil => exact fun _ => rfl
      | cons piece rest ih => exact fun memory => (ih _).trans (write_of_ne apart)
    exact (written _).trans (Function.update_of_ne apart _ _)

end FlatMemory

namespace Manager

variable {pageSize : Nat} {first second : Manager pageSize}

theorem perform_congr {secret nextSpace : SpaceId} {operation other : Operation pageSize}
    (same : second.blank = first.blank) (alike : operation.Alike secret nextSpace other)
    (own : operation.isOwn = true) :
    Prod.map Answer.blank blank (second.perform other) =
      Prod.map Answer.blank blank (first.perform operation) := by
  have creates : ∀ numPages strategy (image other : Image pageSize), other.blank = image.blank →
      Prod.map Answer.blank blank (second.perform (.create numPages other strategy)) =
        Prod.map Answer.blank blank (first.perform (.create numPages image strategy)) :=
    fun numPages strategy image other sameImage =>
      congrArg (fun outcome => (Answer.created outcome.1, outcome.2))
        (create_congr same sameImage numPages strategy)
  have loads : ∀ arguments strategy (image other : Image pageSize), other.blank = image.blank →
      Prod.map Answer.blank blank (second.perform (.load other arguments strategy)) =
        Prod.map Answer.blank blank (first.perform (.load image arguments strategy)) :=
    fun arguments strategy image other sameImage =>
      congrArg (fun outcome => (Answer.loaded outcome.1, outcome.2))
        (load_congr same sameImage arguments strategy)
  have writes : ∀ space address (data more : Bytes), more.size = data.size →
      Prod.map Answer.blank blank (second.perform (.write space address more)) =
        Prod.map Answer.blank blank (first.perform (.write space address data)) :=
    fun space address data more sameSize =>
      congrArg (fun outcome => (Answer.wrote outcome.1, outcome.2))
        (writeBytes_congr space same sameSize address)
  cases alike with
  | create _ layout => exact creates _ _ _ _ layout.blank_eq
  | load _ layout => exact loads _ _ _ _ layout.blank_eq
  | write _ sameSize => exact writes _ _ _ _ sameSize
  | same =>
    cases operation with
    | create numPages image strategy => exact creates _ _ _ _ rfl
    | load image arguments strategy => exact loads _ _ _ _ rfl
    | write space address data => exact writes _ _ _ _ rfl
    | fault space vpn =>
      have faulted : Prod.map id blank (space.fault second vpn) =
          Prod.map id blank (space.fault first vpn) := by
        rw [AddressSpace.fault, AddressSpace.fault, ← fault_blank, ← fault_blank, same]
      exact congrArg (fun outcome => (Answer.faulted outcome.1, outcome.2)) faulted
    | read space address length =>
      have moved : Prod.map id (Prod.map Bytes.blank blank)
          (space.readBytes second address length) =
            Prod.map id (Prod.map Bytes.blank blank) (space.readBytes first address length) := by
        rw [← readBytes_blank, ← readBytes_blank, same]
      exact congrArg (fun outcome => (Answer.read outcome.1 outcome.2.1, outcome.2.2)) moved
    | destroy space =>
      simp only [perform, AddressSpace.destroy]
      split
      · exact congrArg (Prod.mk _) same
      · exact congrArg (fun outcome => (Answer.ended outcome.1, outcome.2))
          (destroySpace_congr same space.id)
    | shutdown =>
      have ended : Prod.map id blank second.shutdown = Prod.map id blank first.shutdown := by
        rw [← shutdown_blank, ← shutdown_blank, same]
      exact congrArg (fun outcome => (Answer.ended outcome.1, outcome.2)) ended
    | disturb volume => cases own
    | replace space image => cases own

/-- A space that is created has the next number; after it was entered, nothing
but faults happened. -/
theorem of_create_eq_ok {manager next : Manager pageSize} {numPages : Nat}
    {image : Image pageSize} {strategy : PagingStrategy} {space : AddressSpace}
    (done : AddressSpace.create manager numPages image strategy = (.ok space, next)) :
    space = { id := manager.nextSpace, numPages := numPages, strategy := strategy } ∧
      Works (manager.createSpace numPages image).2 next := by
  cases strategy with
  | demand =>
    obtain ⟨same, rfl⟩ := Prod.mk.inj done
    exact ⟨(Except.ok.inj same).symm, .refl⟩
  | eager =>
    rw [AddressSpace.create] at done
    simp only at done
    split at done
    · cases done
    have filled := AddressSpace.faultEach_induction (Works (manager.createSpace numPages image).2)
      { id := (manager.createSpace numPages image).1, numPages := numPages, strategy := .eager }
      (fun current page works => works.tail (.fault current page)) (List.range numPages) .refl
    split at done
    · rename_i equal
      rw [equal] at filled
      obtain ⟨same, rfl⟩ := Prod.mk.inj done
      exact ⟨(Except.ok.inj same).symm, filled⟩
    · cases done

theorem eq_of_create_eq_ok {manager : Manager pageSize} {numPages : Nat} {image : Image pageSize}
    {strategy : PagingStrategy} {space : AddressSpace}
    (done : (AddressSpace.create manager numPages image strategy).1 = .ok space) :
    space = { id := manager.nextSpace, numPages := numPages, strategy := strategy } :=
  (of_create_eq_ok (Prod.ext done rfl)).1

theorem id_of_create_eq_ok {manager : Manager pageSize} {numPages : Nat} {image : Image pageSize}
    {strategy : PagingStrategy} {space : AddressSpace}
    (done : (AddressSpace.create manager numPages image strategy).1 = .ok space) :
    space.id = manager.nextSpace :=
  congrArg AddressSpace.id (eq_of_create_eq_ok done)

/-- A program is loaded if it fits, a space is created for it, and its arguments
are written into that space. -/
theorem load_eq_ok_iff {manager next : Manager pageSize} {image : Image pageSize}
    {arguments : List String} {strategy : PagingStrategy} {space : AddressSpace}
    {process : ProcessImage} :
    ProcessImage.load manager image arguments strategy = (.ok (space, process), next) ↔
      ∃ sectionPages created,
        ProcessImage.layOut image 0 (List.range image.sectionCount) = .ok sectionPages ∧
        ProcessImage.argumentBytes arguments ≤ pageSize ∧
        process = {
          numPages := sectionPages + stackPages + 1
          initialCounter := image.entryPoint
          initialStack := (sectionPages + stackPages) * pageSize
          argumentCount := arguments.length
          argumentVector := (sectionPages + stackPages) * pageSize } ∧
        AddressSpace.create manager process.numPages image strategy = (.ok space, created) ∧
        ProcessImage.writePieces space created
          (ProcessImage.argumentPieces process.argumentVector
            (process.argumentVector + arguments.length * pointerBytes) arguments) =
          (.ok (), next) := by
  constructor
  · intro done
    rw [ProcessImage.load] at done
    split at done
    · cases done
    rename_i sectionPages laidOut
    split at done
    · cases done
    rename_i fits
    simp only at done
    split at done
    · cases done
    rename_i created equal
    split at done
    · cases done
    rename_i written wrote
    obtain ⟨same, rfl⟩ := Prod.mk.inj done
    obtain ⟨rfl, rfl⟩ := Prod.mk.inj (Except.ok.inj same)
    exact ⟨sectionPages, _, laidOut, Nat.le_of_not_lt fits, rfl, equal, wrote⟩
  · rintro ⟨sectionPages, created, laidOut, fits, rfl, equal, wrote⟩
    simp only [ProcessImage.load, laidOut, if_neg (Nat.not_lt.mpr fits), equal, wrote]

/-- A loaded program is in a space that was just created. -/
theorem eq_of_load_eq_ok {manager : Manager pageSize} {image : Image pageSize}
    {arguments : List String} {strategy : PagingStrategy} {loaded : AddressSpace × ProcessImage}
    (done : (ProcessImage.load manager image arguments strategy).1 = .ok loaded) :
    loaded.1 =
      { id := manager.nextSpace, numPages := loaded.2.numPages, strategy := strategy } := by
  obtain ⟨_, _, -, -, -, created, -⟩ := load_eq_ok_iff.mp (Prod.ext done rfl)
  exact eq_of_create_eq_ok (congrArg Prod.fst created)

theorem id_of_load_eq_ok {manager : Manager pageSize} {image : Image pageSize}
    {arguments : List String} {strategy : PagingStrategy} {loaded : AddressSpace × ProcessImage}
    (done : (ProcessImage.load manager image arguments strategy).1 = .ok loaded) :
    loaded.1.id = manager.nextSpace :=
  congrArg AddressSpace.id (eq_of_load_eq_ok done)

/-- Whatever a wipe does not change is the same if the wiped managers are. -/
theorem view_eq {View : Type} (view : Manager pageSize → View)
    (keeps : ∀ manager : Manager pageSize, view manager.blank = view manager)
    (same : second.blank = first.blank) : view second = view first := by
  rw [← keeps second, same, keeps]

/-- Two managers that are the same up to bytes, and whose spaces hold the same
bytes except for `secret`. -/
structure Parallel (secret : SpaceId) (first second : Manager pageSize)
    (firstMemory secondMemory : FlatMemory) : Prop where
  blank_eq : second.blank = first.blank
  first : first.Follows firstMemory
  second : second.Follows secondMemory
  others : ∀ space, space ≠ secret → secondMemory space = firstMemory space

namespace Parallel

variable {secret : SpaceId} {firstMemory secondMemory : FlatMemory}
  {operation other : Operation pageSize}

theorem answer_blank_eq (parallel : Parallel secret first second firstMemory secondMemory)
    (alike : operation.Alike secret first.nextSpace other) (own : operation.isOwn = true) :
    (second.perform other).1.blank = (first.perform operation).1.blank :=
  congrArg Prod.fst (perform_congr parallel.blank_eq alike own)

/-- Only who reads from the space itself can get another answer. -/
theorem answer_eq (parallel : Parallel secret first second firstMemory secondMemory)
    (alike : operation.Alike secret first.nextSpace other) (own : operation.isOwn = true)
    (elsewhere : operation.readsFrom secret = false) :
    (second.perform other).1 = (first.perform operation).1 := by
  have same := parallel.answer_blank_eq alike own
  cases alike with
  | create => exact same
  | load => exact same
  | write => exact same
  | same =>
    cases operation with
    | read space address length =>
      have differs : space.id ≠ secret := by simpa [Operation.readsFrom] using elsewhere
      obtain ⟨-, firstBytes, -⟩ := parallel.first.readBytes space address length
      obtain ⟨-, secondBytes, -⟩ := parallel.second.readBytes space address length
      have transfers : (space.readBytes second address length).1 =
          (space.readBytes first address length).1 := (Answer.read.inj same).1
      have bytes : (space.readBytes second address length).2.1 =
          (space.readBytes first address length).2.1 := by
        rw [firstBytes, secondBytes, transfers, FlatMemory.read, FlatMemory.read,
          parallel.others space.id differs]
      exact congrArg₂ Answer.read transfers bytes
    | disturb volume => cases own
    | replace space image => cases own
    | _ => exact same

theorem perform (parallel : Parallel secret first second firstMemory secondMemory)
    (filler : SpaceId → Nat → Page pageSize)
    (alike : operation.Alike secret first.nextSpace other) (own : operation.isOwn = true) :
    Parallel secret (first.perform operation).2 (second.perform other).2
      (firstMemory.follow filler operation (first.perform operation).1)
      (secondMemory.follow filler other (second.perform other).1) := by
  have answers := parallel.answer_blank_eq alike own
  have nextSpace : second.nextSpace = first.nextSpace :=
    view_eq nextSpace (fun _ => rfl) parallel.blank_eq
  constructor
  case blank_eq => exact congrArg Prod.snd (perform_congr parallel.blank_eq alike own)
  case first => exact (parallel.first.perform filler own).1
  case second => exact (parallel.second.perform filler (alike.isOwn_eq.trans own)).1
  case others =>
    intro space differs
    cases alike with
    | same =>
      -- The answers may differ in bytes that were read, and these change no space.
      rw [← FlatMemory.follow_blank secondMemory, answers, FlatMemory.follow_blank]
      exact FlatMemory.follow_congr operation _ (parallel.others space differs)
    | create isSecret =>
      -- Whatever is created is the secret space itself.
      refine (FlatMemory.follow_create_of_ne fun created done => ?_).trans
        ((parallel.others space differs).trans
          (FlatMemory.follow_create_of_ne fun created done => ?_).symm)
      · rwa [id_of_create_eq_ok done, nextSpace, isSecret]
      · rwa [id_of_create_eq_ok done, isSecret]
    | load isSecret =>
      refine (FlatMemory.follow_load_of_ne fun created done => ?_).trans
        ((parallel.others space differs).trans
          (FlatMemory.follow_load_of_ne fun created done => ?_).symm)
      · rwa [id_of_load_eq_ok done, nextSpace, isSecret]
      · rwa [id_of_load_eq_ok done, isSecret]
    | write isSecret =>
      rw [← isSecret] at differs
      rw [FlatMemory.follow_write_of_ne differs, FlatMemory.follow_write_of_ne differs]
      exact parallel.others space (isSecret ▸ differs)

theorem after {operations others : List (Operation pageSize)}
    (alike : AlikeRuns secret first operations others)
    (own : ∀ operation ∈ operations, operation.isOwn = true)
    (filler : SpaceId → Nat → Page pageSize)
    (parallel : Parallel secret first second firstMemory secondMemory) :
    Parallel secret (first.after operations) (second.after others)
      (first.flatAfter filler firstMemory operations)
      (second.flatAfter filler secondMemory others) := by
  induction alike generalizing second firstMemory secondMemory with
  | nil => exact parallel
  | cons operationAlike rest ih =>
    obtain ⟨isOwn, restOwn⟩ := List.forall_mem_cons.mp own
    exact ih restOwn (parallel.perform filler operationAlike isOwn)

end Parallel

/-- What two managers show of themselves is the same, and so are their answers
to alike operations, except for the bytes that are read from `secret`. -/
structure Indistinct (secret : SpaceId) (first second : Manager pageSize) : Prop where
  entry_eq : ∀ page, second.entry page = first.entry page
  locate_eq : ∀ (space : AddressSpace) address,
    space.locate second address = space.locate first address
  numPages?_eq : ∀ space, second.numPages? space = first.numPages? space
  frames_eq : second.frames = first.frames
  pool_eq : second.pool = first.pool
  clock_eq : second.clock = first.clock
  /-- The slots of all pages, the free slots and the number of slots. -/
  swap_eq : second.swap = first.swap
  fileLength_eq : second.swap.fileLength second.volume = first.swap.fileLength first.volume
  inTransit_eq : second.inTransit = first.inTransit
  nextSpace_eq : second.nextSpace = first.nextSpace
  statistics_eq : second.statistics = first.statistics
  log_eq : second.log = first.log
  answers : ∀ operation other, operation.isOwn = true →
    operation.Alike secret first.nextSpace other →
    (second.perform other).1.blank = (first.perform operation).1.blank ∧
      (operation.readsFrom secret = false →
        (second.perform other).1 = (first.perform operation).1)

theorem Parallel.indistinct {secret : SpaceId} {firstMemory secondMemory : FlatMemory}
    (parallel : Parallel secret first second firstMemory secondMemory) :
    Indistinct secret first second := by
  have same := parallel.blank_eq
  have entries : ∀ page, second.entry page = first.entry page :=
    fun page => view_eq (fun manager => manager.entry page) (fun _ => entry_blank _ page) same
  constructor
  case entry_eq => exact entries
  case locate_eq =>
    intro space address
    simp only [AddressSpace.locate, AddressSpace.entry, entries]
  case numPages?_eq =>
    intro space
    apply view_eq (fun manager => manager.numPages? space) _ same
    intro manager
    simp only [numPages?, blank, KeyedTable.find?_mapValues, Option.map_map]
    rfl
  case frames_eq => exact view_eq frames (fun _ => rfl) same
  case pool_eq => exact view_eq pool (fun _ => rfl) same
  case clock_eq => exact view_eq clock (fun _ => rfl) same
  case swap_eq => exact view_eq swap (fun _ => rfl) same
  case fileLength_eq =>
    exact view_eq (fun manager => manager.swap.fileLength manager.volume)
      (fun manager => manager.swap.disk.byteLength_blank manager.volume) same
  case inTransit_eq => exact view_eq inTransit (fun _ => rfl) same
  case nextSpace_eq => exact view_eq nextSpace (fun _ => rfl) same
  case statistics_eq => exact view_eq statistics (fun _ => rfl) same
  case log_eq => exact view_eq log (fun _ => rfl) same
  case answers =>
    exact fun operation other own alike =>
      ⟨parallel.answer_blank_eq alike own, parallel.answer_eq alike own⟩

/-- Two runs that differ only in the bytes of one space cannot be told apart at
any time, except by reading these bytes. -/
theorem indistinct_after {config : Configuration} {volume : Volume} {manager : Manager pageSize}
    (started : Manager.start config volume = .ok manager) {secret : SpaceId}
    {operations others : List (Operation pageSize)}
    (alike : AlikeRuns secret manager operations others)
    (own : ∀ operation ∈ operations, operation.isOwn = true) (count : Nat) :
    Indistinct secret (manager.after (operations.take count))
      (manager.after (others.take count)) := by
  have follows := follows_start started
  have start : Parallel secret manager manager (fun _ => none) (fun _ => none) :=
    ⟨rfl, follows, follows, fun _ _ => rfl⟩
  have taken : ∀ operation ∈ operations.take count, operation.isOwn = true :=
    fun operation member => own operation (List.mem_of_mem_take member)
  exact (start.after (alike.take count) taken fun _ _ => .replicate pageSize 0).indistinct

/-- The same reads beside a space with other data, with one frame for all. -/
theorem indistinct_after_write :
    ∃ manager : Manager 4, Manager.start { numFrames := 1 } {} = .ok manager ∧
      Indistinct 1
        (manager.after ([
          .create 3 (Program.synthetic 1 1).image .demand,
          .create 2 (Program.synthetic 1 1).image .demand,
          .write { id := 1, numPages := 3, strategy := .demand } 5 #[1, 2, 3, 4],
          .read { id := 2, numPages := 2, strategy := .demand } 0 8].take 4))
        (manager.after ([
          .create 3 (Program.image {
            sections := #[
              { name := ".text", firstPage := 0, pageCount := 1, readOnly := true },
              { name := ".data", firstPage := 1, pageCount := 1, readOnly := false }] }) .demand,
          .create 2 (Program.synthetic 1 1).image .demand,
          .write { id := 1, numPages := 3, strategy := .demand } 5 #[9, 8, 7, 6],
          .read { id := 2, numPages := 2, strategy := .demand } 0 8].take 4)) := by
  obtain ⟨manager, started⟩ := exists_start_eq_ok { numFrames := 1 } {}
    (by decide : Nat.isPowerOfTwo 4) checkPath_swapFile
  obtain ⟨memory, swap, opened, -, -, same⟩ := of_start_eq_ok started
  have first : manager.nextSpace = 1 := by rw [same]
  refine ⟨manager, started, indistinct_after started ?_ ?_ 4⟩
  · refine .cons (.create first (Program.sameLayout ?_ rfl))
      (.cons (.same _) (.cons (.write rfl rfl) (.cons (.same _) (.nil _))))
    simp [Program.synthetic, Section.shape]
  · simp [Operation.isOwn]

end Manager

end DemandPaging
