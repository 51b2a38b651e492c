import DemandPaging.Proofs.Loading
import DemandPaging.Proofs.SwapBound

/-!
# Arguments survive

Whatever happens to other spaces after a program was loaded, and however often
its own pages are moved out and brought in again, its arguments can be read back
through their pointers as they were given.
-/

namespace DemandPaging

/-- Whether an operation leaves the bytes of a space as they are, whatever it
does to others. -/
def Operation.spares {pageSize : Nat} (space : SpaceId) : Operation pageSize → Bool
  | write target _ _ => target.id != space
  | destroy target => target.id != space
  | _ => true

section Sparing

variable {pageSize : Nat} {filler : SpaceId → Nat → Page pageSize} {memory : FlatMemory}
  {space : SpaceId} {bytes : Bytes}

theorem FlatMemory.follow_of_spares {operation : Operation pageSize} {answer : Answer}
    (explained : memory.Explains operation answer) (alive : memory space = some bytes)
    (spares : operation.spares space = true) :
    memory.follow filler operation answer space = some bytes := by
  -- Nothing is created where the space is.
  have apart : ∀ other : SpaceId, memory other = none → space ≠ other := by
    rintro other absent rfl
    cases absent.symm.trans alive
  rw [← alive]
  cases operation with
  | create numPages image strategy =>
    cases answer with
    | created outcome =>
      apply follow_create_of_ne
      rintro created rfl
      exact apart _ explained.1
    | _ => rfl
  | load image arguments strategy =>
    cases answer with
    | loaded outcome =>
      apply follow_load_of_ne
      rintro created rfl
      exact apart _ explained.1
    | _ => rfl
  | write target address data =>
    exact follow_write_of_ne (Ne.symm (bne_iff_ne.mp spares)) address data answer
  | destroy target =>
    cases answer with
    | ended outcome =>
      rw [follow]
      split
      · rfl
      · exact Function.update_of_ne (Ne.symm (bne_iff_ne.mp spares)) _ _
    | _ => rfl
  | _ => rfl

theorem Manager.Follows.flatAfter_of_spares {manager : Manager pageSize}
    (follows : manager.Follows memory) {operations : List (Operation pageSize)}
    (own : ∀ operation ∈ operations, operation.isOwn = true)
    (spared : ∀ operation ∈ operations, operation.spares space = true)
    (alive : memory space = some bytes) :
    manager.flatAfter filler memory operations space = some bytes := by
  induction operations generalizing manager memory with
  | nil => exact alive
  | cons operation rest ih =>
    obtain ⟨firstOwn, restOwn⟩ := List.forall_mem_cons.mp own
    obtain ⟨firstSpared, restSpared⟩ := List.forall_mem_cons.mp spared
    obtain ⟨kept, explained⟩ := follows.perform filler firstOwn
    exact ih kept restOwn restSpared (FlatMemory.follow_of_spares explained alive firstSpared)

end Sparing

namespace Manager

variable {pageSize : Nat} {manager next : Manager pageSize} {memory : FlatMemory}
  {space : AddressSpace} {image : Image pageSize} {numPages : Nat} {flat : Bytes}

/-- A space is served and has the bytes `flat`. -/
structure Offers (manager : Manager pageSize) (space : SpaceId) (image : Image pageSize)
    (numPages : Nat) (flat : Bytes) : Prop
    extends manager.Serves space image numPages where
  complete : image.Complete
  follows : ∃ memory, manager.Follows memory ∧ memory space = some flat
  reach : numPages * pageSize < addressLimit

namespace Offers

theorem size_eq (offers : manager.Offers space.id image numPages flat) :
    flat.size = numPages * pageSize := by
  obtain ⟨memory, follows, alive⟩ := offers.follows
  have sized := follows.size_eq space.id
  rw [alive, offers.numPages?_eq] at sized
  exact Option.some.inj sized

/-- A read answers with all the bytes up to the end of the space. -/
theorem readBytes (offers : manager.Offers space.id image numPages flat) {address : Nat}
    (inside : address ≤ flat.size) (length : Nat) :
    ∃ stopped next,
      space.readBytes manager address length =
        (⟨min length (flat.size - address), stopped⟩,
          Bytes.slice flat address (min length (flat.size - address)), next) ∧
      (stopped = none ↔ min length (flat.size - address) = length) ∧
      next.Offers space.id image numPages flat := by
  have size := offers.size_eq
  have reach := offers.reach
  have exact := offers.toServes.readBytes offers.complete reach
    (show address < addressLimit by omega) length
  have served : (space.readBytes manager address length).2.2.Serves space.id image numPages :=
    offers.toServes.served_readBytes offers.complete address length
  obtain ⟨memory, follows, alive⟩ := offers.follows
  obtain ⟨kept, bytes, -⟩ := follows.readBytes space address length
  have moved := exact.moved_eq_of_read
  have whole := exact.stopped_eq_none_iff
  rw [FlatMemory.read, alive, Option.getD_some] at bytes
  rw [← size] at moved
  generalize space.readBytes manager address length = outcome at *
  obtain ⟨⟨_, stopped⟩, read, next⟩ := outcome
  obtain rfl := moved
  obtain rfl : read = Bytes.slice flat address (min length (flat.size - address)) := bytes
  exact ⟨stopped, next, rfl, whole, served, offers.complete, ⟨memory, kept, alive⟩, reach⟩

/-- A pointer inside the space is read as a whole. -/
theorem readPointer (offers : manager.Offers space.id image numPages flat) {address target : Nat}
    (held : Bytes.slice flat address pointerBytes = ProcessImage.encodePointer target) :
    ∃ next, space.readBytes manager address pointerBytes =
        (⟨pointerBytes, none⟩, ProcessImage.encodePointer target, next) ∧
      next.Offers space.id image numPages flat := by
  have size := congrArg Array.size held
  rw [Bytes.slice, Array.size_extract, ProcessImage.size_encodePointer] at size
  have inside : address + pointerBytes ≤ flat.size := by
    rw [pointerBytes] at size ⊢
    omega
  obtain ⟨stopped, next, read, whole, after⟩ :=
    offers.readBytes (Nat.le_trans (Nat.le_add_right _ _) inside) pointerBytes
  have all : min pointerBytes (flat.size - address) = pointerBytes := by omega
  rw [all] at read whole
  obtain rfl := whole.mpr rfl
  rw [held] at read
  exact ⟨next, read, after⟩

/-- A text of the right length is found up to the zero byte after it, even where
the space ends soon after. -/
theorem readText (offers : manager.Offers space.id image numPages flat) {address : Nat}
    {text : String} (plain : '\x00' ∉ text.toList) (short : text.utf8ByteSize ≤ maxArgumentBytes)
    (held : Bytes.slice flat address text.utf8ByteSize = Utf8.encode text)
    (ended : Bytes.slice flat (address + text.utf8ByteSize) 1 = #[0]) :
    ∃ next, space.readText manager address maxArgumentBytes = (some text, next) ∧
      next.Offers space.id image numPages flat := by
  have size := Utf8.size_encode text
  have zero := @Bytes.getElem?_slice flat (address + text.utf8ByteSize) 1 0
  rw [ended, if_pos Nat.one_pos, Nat.add_zero] at zero
  have inside : address + text.utf8ByteSize < flat.size :=
    (Array.getElem?_eq_some_iff.mp zero.symm).1
  obtain ⟨stopped, next, read, -, after⟩ :=
    offers.readBytes (Nat.le_of_lt (Nat.lt_of_le_of_lt (Nat.le_add_right _ _) inside))
      (maxArgumentBytes + 1)
  generalize reached : min (maxArgumentBytes + 1) (flat.size - address) = count at read
  have starts : Bytes.slice (Bytes.slice flat address count) 0 text.utf8ByteSize =
      Utf8.encode text := by
    rw [Bytes.slice_slice (by omega), Nat.add_zero, held]
  have ends : (Bytes.slice flat address count)[text.utf8ByteSize]? = some 0 := by
    rw [Bytes.getElem?_slice, if_pos (by omega), ← zero]
    rfl
  have found : (Bytes.slice flat address count).findIdx? (· == 0) = some text.utf8ByteSize := by
    rw [← size] at starts ends ⊢
    exact Bytes.findIdx?_zero starts ends (Utf8.zero_notMem_encode plain)
  refine ⟨next, ?_, after⟩
  simp only [AddressSpace.readText, read, found, starts, Utf8.decodeLossy_encode]

/-- Arguments whose pieces are all there are read back, if pointers reach all of
the space. -/
theorem readArguments (offers : manager.Offers space.id image numPages flat)
    (reach : numPages * pageSize ≤ 2 ^ 32)
    {arguments : List String} {pointerAddress textAddress : Nat}
    (plain : ∀ argument ∈ arguments,
      '\x00' ∉ argument.toList ∧ argument.utf8ByteSize ≤ maxArgumentBytes)
    (held : ∀ piece ∈ ProcessImage.argumentPieces pointerAddress textAddress arguments,
      Bytes.slice flat piece.1 piece.2.size = piece.2) :
    (ProcessImage.readArguments space manager pointerAddress arguments.length).1 = arguments := by
  induction arguments generalizing manager pointerAddress textAddress with
  | nil => rfl
  | cons argument rest ih =>
    obtain ⟨⟨firstPlain, firstShort⟩, restPlain⟩ := List.forall_mem_cons.mp plain
    simp only [ProcessImage.argumentPieces, List.forall_mem_cons, Utf8.size_encode] at held
    obtain ⟨pointer, text, zero, others⟩ := held
    obtain ⟨pointed, readPointer, afterPointer⟩ := offers.readPointer pointer
    obtain ⟨found, readText, afterText⟩ := afterPointer.readText firstPlain firstShort text zero
    have reached : textAddress < 0x100000000 := by
      have size := congrArg Array.size zero
      rw [Bytes.slice, Array.size_extract, offers.size_eq] at size
      have one : (#[0] : Bytes).size = 1 := rfl
      omega
    have restRead := ih afterText restPlain others
    rw [List.length_cons, ProcessImage.readArguments, readPointer]
    simp only [ProcessImage.decodePointer_encodePointer reached, readText, restRead]

end Offers

section Loading

variable {config : Configuration} {volume : Volume} {earlier later : List (Operation pageSize)}
  {arguments : List String} {strategy : PagingStrategy} {process : ProcessImage}

/-- As long as the swap area is open and the space is left alone, a loaded
program finds what was written when it was loaded. -/
theorem offers_after_load (started : Manager.start config volume = .ok manager)
    (present : 0 < config.numFrames) (consistent : volume.Consistent)
    (calm : volume.troubles = [])
    (earlierOwn : ∀ operation ∈ earlier, operation.isOwn = true)
    (loaded : ProcessImage.load (manager.after earlier) image arguments strategy =
      (.ok (space, process), next))
    (complete : image.Complete) (reach : process.numPages * pageSize < addressLimit)
    (laterOwn : ∀ operation ∈ later, operation.isOwn = true)
    (spared : ∀ operation ∈ later, operation.spares space.id = true)
    (isOpen : (next.after later).swap.closed = false) :
    (next.after later).Offers space.id image process.numPages
      ((FlatMemory.initially image process.numPages fun _ => .replicate pageSize 0).overwriteEach
        (ProcessImage.argumentPieces process.argumentVector
          (process.argumentVector + arguments.length * pointerBytes) arguments)) := by
  let filler : SpaceId → Nat → Page pageSize := fun _ _ => .replicate pageSize 0
  have before := (follows_start started).after filler earlierOwn
  have settled := before.mirrors.settled
  have follows := (before.load image arguments strategy filler loaded).1
  have written := @FlatMemory.follow_load_self _
    (manager.flatAfter filler (fun _ => none) earlier) filler image arguments strategy space process
  have last := follows.after filler laterOwn
  have alive := @follows.flatAfter_of_spares _ filler _ _ _ _ _ laterOwn spared written
  have sized := @FlatMemory.size_follow_load _
    (manager.flatAfter filler (fun _ => none) earlier) filler image arguments strategy
    (space, process)
  have pages : (next.after later).numPages? space.id = some process.numPages := by
    apply last.numPages?_eq
    rw [alive, ← written]
    exact sized
  have same : ((manager.after earlier).perform (.load image arguments strategy)).2 = next :=
    congrArg Prod.snd loaded
  have works : Works manager (next.after later) := by
    refine (works_after earlierOwn).trans (Relation.ReflTransGen.trans ?_ (works_after laterOwn))
    rw [← same]
    exact works_perform rfl
  obtain ⟨-, ready⟩ := keeps_ready.works works
    ⟨settled_start started, ready_start present consistent calm started⟩
  have shows := (keeps_shows space.id image).works (works_after laterOwn)
    (settled.shows_load loaded)
  exact ⟨⟨⟨_, last.mirrors⟩, ready, isOpen,
    shows.image?_eq (pages ▸ Option.some_ne_none _), pages⟩, complete, ⟨_, last, alive⟩, reach⟩

/-- The arguments of a loaded program are read back as they were given, whatever
was done to other spaces in between. -/
theorem readArguments_after_load (started : Manager.start config volume = .ok manager)
    (present : 0 < config.numFrames) (consistent : volume.Consistent)
    (calm : volume.troubles = [])
    (earlierOwn : ∀ operation ∈ earlier, operation.isOwn = true)
    (loaded : ProcessImage.load (manager.after earlier) image arguments strategy =
      (.ok (space, process), next))
    (complete : image.Complete) (reach : process.numPages * pageSize ≤ 2 ^ 32)
    (plain : ∀ argument ∈ arguments,
      '\x00' ∉ argument.toList ∧ argument.utf8ByteSize ≤ maxArgumentBytes)
    (laterOwn : ∀ operation ∈ later, operation.isOwn = true)
    (spared : ∀ operation ∈ later, operation.spares space.id = true)
    (isOpen : (next.after later).swap.closed = false) :
    (ProcessImage.readArguments space (next.after later) process.argumentVector
      process.argumentCount).1 = arguments := by
  have limited : process.numPages * pageSize < addressLimit := by
    unfold addressLimit
    omega
  have offers := offers_after_load started present consistent calm earlierOwn loaded complete
    limited laterOwn spared isOpen
  have held := read_argumentPieces loaded (fun _ _ => .replicate pageSize 0) fun _ => none
  obtain ⟨_, _, -, -, rfl, -, -⟩ := load_eq_ok_iff.mp loaded
  apply offers.readArguments reach plain
  intro piece member
  have there := held piece member
  rwa [FlatMemory.read, FlatMemory.follow_load_self, Option.getD_some] at there

/-- Two arguments, whose page has to leave the only frame for another space. -/
theorem readArguments_after_load_two :
    ∃ (manager next : Manager 16) (space : AddressSpace) (process : ProcessImage),
      Manager.start { numFrames := 1 } {} = .ok manager ∧
      ProcessImage.load manager (Program.synthetic 1 1).image ["ls", "-l"] .demand =
        (.ok (space, process), next) ∧
      (ProcessImage.readArguments space (next.after [
        .create 2 (Program.synthetic 0 1).image .demand,
        .write { id := 2, numPages := 2, strategy := .demand } 5 #[1, 2, 3, 4]])
        process.argumentVector process.argumentCount).1 = ["ls", "-l"] := by
  obtain ⟨manager, started⟩ := exists_start_eq_ok { numFrames := 1 } {}
    (by decide : Nat.isPowerOfTwo 16) checkPath_swapFile
  obtain ⟨_, _, _, -, -, same⟩ := of_start_eq_ok started
  have stocked := stocked_start Volume.consistent_empty started
  have ready := ready_start (by decide) Volume.consistent_empty rfl started
  obtain ⟨space, process, next, loaded⟩ := @exists_load_eq_ok _ manager
    (Program.synthetic 1 1).image ["ls", "-l"] stocked.mirrors ready stocked.isOpen
    (Program.complete_image _) 2 rfl (by decide) (by decide)
  refine ⟨manager, next, space, process, started, loaded, ?_⟩
  have created : space.id = 1 := by
    rw [id_of_load_eq_ok (congrArg Prod.fst loaded), same]
  have numPages : process.numPages = 11 := by
    obtain ⟨_, _, laidOut, -, rfl, -, -⟩ := load_eq_ok_iff.mp loaded
    obtain rfl := Except.ok.inj laidOut
    rfl
  apply @readArguments_after_load _ manager next space _ _ _ [] _ _ _ _ started (by decide)
    Volume.consistent_empty rfl nofun loaded (Program.complete_image _)
  case reach => rw [numPages]; decide
  case plain => decide
  case laterOwn => simp [Operation.isOwn]
  case spared => simp [Operation.spares, created]
  case isOpen =>
    have start := keeps_stocked.load (Program.synthetic 1 1).image ["ls", "-l"] .demand stocked
    rw [loaded] at start
    exact (keeps_stocked.after (by simp [Operation.isOwn]) (by simp) start).isOpen

end Loading

end Manager

end DemandPaging
