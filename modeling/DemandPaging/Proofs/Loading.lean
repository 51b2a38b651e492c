import DemandPaging.Proofs.ArgumentLayout
import DemandPaging.Proofs.Noninterference
import DemandPaging.Proofs.PageWalk
import DemandPaging.Proofs.SpaceDeparture
import DemandPaging.Proofs.TransferLimits

/-!
# Loaded programs

When a program was loaded, its space shows its image and holds every piece of
its arguments.  The page of the arguments comes after all sections, so that
nothing but the swap area can keep the arguments from being written.
-/

namespace DemandPaging

section Walks

variable {State : Type} {pageSize address length : Nat} (positive : 0 < pageSize)
  {copy : Chunk → State → Except PagingError Unit × State} {state moved : State}

/-- A walk that stays inside one page is a single copy. -/
theorem walkFrom_inside (unfinished : 0 < length) (addressed : address < addressLimit)
    (inside : address % pageSize + length ≤ pageSize)
    (copied : copy (Chunk.next pageSize address length 0) state = (.ok (), moved)) :
    walkFrom positive address length copy 0 state = (⟨length, none⟩, moved) := by
  have count : (Chunk.next pageSize address length 0).count = length := by
    simp only [Chunk.next, splitAddress, Nat.add_zero, Nat.sub_zero]
    omega
  rw [walkFrom, dif_pos unfinished, if_neg (by omega)]
  simp only [copied, count]
  rw [walkFrom, dif_neg (by omega)]
  simp

/-- No walk begins beyond the addresses. -/
theorem walkFrom_beyond (unfinished : 0 < length) (beyond : addressLimit ≤ address) :
    walkFrom positive address length copy 0 state =
      (⟨0, some (.invalidAddress (addressLimit - 1))⟩, state) := by
  rw [walkFrom, dif_pos unfinished, if_pos (by omega)]

end Walks

/-- A page that has an address has one for each of its bytes. -/
theorem page_addressed {pageSize vpn : Nat} (power : pageSize.isPowerOfTwo) (later : 0 < vpn)
    (starts : vpn * pageSize < addressLimit) : (vpn + 1) * pageSize ≤ addressLimit := by
  have small : pageSize ≤ addressLimit :=
    Nat.le_trans (Nat.le_mul_of_pos_left pageSize later) (Nat.le_of_lt starts)
  exact page_ends_of_dvd (dvd_addressLimit power small) starts

namespace ProcessImage

variable {pageSize : Nat} {image : Image pageSize} {arguments : List String} {total vpn : Nat}

/-- No section covers a page behind the sections. -/
theorem findSection_of_layOut
    (done : layOut image 0 (List.range image.sectionCount) = .ok total) (behind : total ≤ vpn) :
    image.findSection vpn = none := by
  obtain ⟨contiguous, rfl⟩ := of_layOut_eq_ok done
  rw [← Option.not_isSome_iff_eq_none, contiguous.findSection_isSome_iff]
  exact Nat.not_lt.mpr behind

/-- The pieces of the arguments lie in the page that is theirs. -/
theorem argumentPieces_inside (fits : argumentBytes arguments ≤ pageSize) :
    ∀ piece ∈ argumentPieces (vpn * pageSize)
        (vpn * pageSize + arguments.length * pointerBytes) arguments,
      vpn * pageSize ≤ piece.1 ∧ piece.1 + piece.2.size ≤ (vpn + 1) * pageSize := by
  intro piece member
  have short := pointers_le_argumentBytes arguments
  have placed := place_of_mem_argumentPieces member
  rw [Nat.succ_mul]
  omega

end ProcessImage

namespace FlatMemory

variable {pageSize : Nat} {memory : FlatMemory}

theorem foldl_write_self (space : SpaceId) (pieces : List (Nat × Bytes)) :
    pieces.foldl (fun memory piece => memory.write space piece.1 piece.2) memory space =
      (memory space).map fun bytes => bytes.overwriteEach pieces := by
  induction pieces generalizing memory with
  | nil => exact Option.map_id'.symm
  | cons piece rest ih =>
    rw [List.foldl_cons, ih, write, Function.update_self, Option.map_map]
    rfl

/-- The space of a loaded program has the bytes of its image, with the arguments
written over them. -/
theorem follow_load_self {filler : SpaceId → Nat → Page pageSize} {image : Image pageSize}
    {arguments : List String} {strategy : PagingStrategy} {space : AddressSpace}
    {process : ProcessImage} :
    memory.follow filler (.load image arguments strategy) (.loaded (.ok (space, process)))
        space.id =
      some ((initially image process.numPages (filler space.id)).overwriteEach
        (ProcessImage.argumentPieces process.argumentVector
          (process.argumentVector + arguments.length * pointerBytes) arguments)) := by
  rw [follow]
  simp only [foldl_write_self, create, Function.update_self, Option.map_some]

end FlatMemory

namespace Manager

variable {pageSize : Nat} {manager next : Manager pageSize} {image : Image pageSize}
  {arguments : List String} {strategy : PagingStrategy} {space : AddressSpace}
  {process : ProcessImage}

/-- Every piece of the arguments is where it belongs. -/
theorem read_argumentPieces
    (loaded : ProcessImage.load manager image arguments strategy = (.ok (space, process), next))
    (filler : SpaceId → Nat → Page pageSize) (memory : FlatMemory) :
    ∀ piece ∈ ProcessImage.argumentPieces process.argumentVector
        (process.argumentVector + arguments.length * pointerBytes) arguments,
      (memory.follow filler (.load image arguments strategy) (.loaded (.ok (space, process)))).read
        space.id piece.1 piece.2.size = piece.2 := by
  obtain ⟨sectionPages, created, -, fits, rfl, -, -⟩ := load_eq_ok_iff.mp loaded
  intro piece member
  rw [FlatMemory.read, FlatMemory.follow_load_self, Option.getD_some]
  apply Bytes.slice_overwriteEach_of_mem (ProcessImage.pairwise_argumentPieces (Nat.le_refl _)) _
    member
  intro other otherMember
  have short := ProcessImage.pointers_le_argumentBytes arguments
  have placed := ProcessImage.place_of_mem_argumentPieces otherMember
  simp only [FlatMemory.initially, Array.size_ofFn, Nat.succ_mul] at placed ⊢
  omega

/-- A space was created some time with `image`; it may be gone by now. -/
structure Shows (manager : Manager pageSize) (space : SpaceId) (image : Image pageSize) :
    Prop where
  settled : manager.Settled
  past : space < manager.nextSpace
  image?_eq : manager.numPages? space ≠ none → manager.image? space = some image

theorem keeps_shows (space : SpaceId) (image : Image pageSize) :
    Keeps fun manager : Manager pageSize => manager.Shows space image := by
  intro manager next part shows
  have settled := keeps_settled _ _ part shows.settled
  obtain ⟨past, ⟨sameImage, samePages⟩ | absent⟩ := part.ages shows.settled shows.past
  · exact ⟨settled, past, fun alive => sameImage.trans (shows.image?_eq (samePages ▸ alive))⟩
  · exact ⟨settled, past, fun alive => absurd absent alive⟩

theorem Settled.shows_create {numPages : Nat} (settled : manager.Settled)
    (done : AddressSpace.create manager numPages image strategy = (.ok space, next)) :
    next.Shows space.id image := by
  obtain ⟨rfl, works⟩ := of_create_eq_ok done
  exact (keeps_shows _ image).works works
    ⟨keeps_settled _ _ (.createSpace manager numPages image) settled, Nat.lt_succ_self _,
      fun _ => image?_createSpace.trans (if_pos rfl)⟩

theorem Settled.shows_load (settled : manager.Settled)
    (loaded : ProcessImage.load manager image arguments strategy = (.ok (space, process), next)) :
    next.Shows space.id image := by
  obtain ⟨_, created, -, -, -, done, wrote⟩ := load_eq_ok_iff.mp loaded
  have shown := (keeps_shows space.id image).onSpaces.writePieces space
    (ProcessImage.argumentPieces process.argumentVector
      (process.argumentVector + arguments.length * pointerBytes) arguments)
    (settled.shows_create done)
  rwa [wrote] at shown

namespace Serves

variable {numPages vpn : Nat}

/-- A piece that lies in one writable page is written. -/
theorem writeAll_inside {address : Nat} {data : Bytes}
    (serves : manager.Serves space.id image numPages) (complete : image.Complete)
    (present : vpn < numPages) (writable : image.showsReadOnly vpn = false)
    (addressed : (vpn + 1) * pageSize ≤ addressLimit) (starts : vpn * pageSize ≤ address)
    (ends : address + data.size ≤ (vpn + 1) * pageSize) :
    ∃ written, ProcessImage.writeAll space manager address data = (.ok (), written) ∧
      written.Serves space.id image numPages := by
  have positive := manager.memory.pageSize_pos
  rcases Nat.eq_zero_or_pos data.size with empty | unfinished
  · refine ⟨manager, ?_, serves⟩
    rw [ProcessImage.writeAll, AddressSpace.writeBytes, walk, walkFrom, dif_neg (by omega)]
  · have page : address / pageSize = vpn := Nat.div_eq_of_lt_le starts (by omega)
    have offset : address % pageSize + data.size ≤ pageSize := by
      have parts := Nat.div_add_mod' address pageSize
      rw [page] at parts
      rw [Nat.succ_mul] at ends
      omega
    have inside : address < numPages * pageSize :=
      (Nat.div_lt_iff_lt_mul positive).mp (page.symm ▸ present)
    have accepted : image.writeRefusal? numPages (address + 0) = none := by
      rw [Nat.add_zero, Image.writeRefusal?, if_pos inside, page, writable]
      rfl
    obtain ⟨kept, copied⟩ := @writeChunk _ _ _ _ space address 0 data serves complete
    rw [accepted] at copied
    refine ⟨_, ?_, kept⟩
    rw [ProcessImage.writeAll, AddressSpace.writeBytes, walk,
      walkFrom_inside positive unfinished (by omega) offset (Prod.ext copied rfl)]

/-- Pieces that lie in one writable page are all written. -/
theorem writePieces_inside (serves : manager.Serves space.id image numPages)
    (complete : image.Complete) (present : vpn < numPages)
    (writable : image.showsReadOnly vpn = false)
    (addressed : (vpn + 1) * pageSize ≤ addressLimit) {pieces : List (Nat × Bytes)}
    (inside : ∀ piece ∈ pieces,
      vpn * pageSize ≤ piece.1 ∧ piece.1 + piece.2.size ≤ (vpn + 1) * pageSize) :
    ∃ written, ProcessImage.writePieces space manager pieces = (.ok (), written) := by
  induction pieces generalizing manager with
  | nil => exact ⟨manager, rfl⟩
  | cons piece rest ih =>
    obtain ⟨⟨starts, ends⟩, others⟩ := List.forall_mem_cons.mp inside
    obtain ⟨current, first, after⟩ :=
      serves.writeAll_inside complete present writable addressed starts ends
    obtain ⟨written, done⟩ := ih after others
    refine ⟨written, ?_⟩
    rw [ProcessImage.writePieces, first]
    exact done

/-- The arguments of a program are written into the page behind its stack. -/
theorem writeArguments {total : Nat}
    (serves : manager.Serves space.id image (total + stackPages + 1)) (complete : image.Complete)
    (laidOut : ProcessImage.layOut image 0 (List.range image.sectionCount) = .ok total)
    (fits : ProcessImage.argumentBytes arguments ≤ pageSize)
    (addressed : (total + stackPages) * pageSize < addressLimit) :
    ∃ written, ProcessImage.writePieces space manager
      (ProcessImage.argumentPieces ((total + stackPages) * pageSize)
        ((total + stackPages) * pageSize + arguments.length * pointerBytes) arguments) =
      (.ok (), written) := by
  have writable : image.showsReadOnly (total + stackPages) = false := by
    rw [Image.showsReadOnly,
      ProcessImage.findSection_of_layOut laidOut (Nat.le_add_right total stackPages)]
    rfl
  have later : 0 < total + stackPages := Nat.add_pos_right _ (by decide)
  exact serves.writePieces_inside complete (Nat.lt_succ_self _) writable
    (page_addressed manager.memory.isPowerOfTwo later addressed)
    (ProcessImage.argumentPieces_inside fits)

end Serves

/-- As long as the swap area is open, a program of which all pages can be
produced is loaded on demand if its sections are contiguous and its arguments
fit. -/
theorem exists_load_eq_ok (mirrors : ∃ content, manager.Mirrors content) (ready : manager.Ready)
    (isOpen : manager.swap.closed = false) (complete : image.Complete) {sectionPages : Nat}
    (laidOut : ProcessImage.layOut image 0 (List.range image.sectionCount) = .ok sectionPages)
    (fits : ProcessImage.argumentBytes arguments ≤ pageSize)
    (addressed : (sectionPages + stackPages) * pageSize < addressLimit) :
    ∃ space process next,
      ProcessImage.load manager image arguments .demand = (.ok (space, process), next) := by
  let numPages := sectionPages + stackPages + 1
  let space : AddressSpace := { id := manager.nextSpace, numPages := numPages, strategy := .demand }
  have serves : (manager.createSpace numPages image).2.Serves space.id image numPages :=
    ⟨keeps_mirrors _ _ (.createSpace manager numPages image) mirrors,
      ready.createSpace numPages image, isOpen, image?_createSpace.trans (if_pos rfl),
      numPages?_createSpace.trans (if_pos rfl)⟩
  obtain ⟨next, wrote⟩ := serves.writeArguments complete laidOut fits addressed
  exact ⟨space, _, next, load_eq_ok_iff.mpr ⟨sectionPages, _, laidOut, fits, rfl, rfl, wrote⟩⟩

end Manager

end DemandPaging
