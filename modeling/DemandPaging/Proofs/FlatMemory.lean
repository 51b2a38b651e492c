import DemandPaging.Proofs.AccessContents

/-!
# Paging is transparent

To a program every address space is one flat array of bytes.  This module
describes what operations do to such arrays, without any frames, slots or
images, and shows that a manager never behaves differently: reads answer with
the bytes of the array, and writes change the bytes that they report, whatever
has been moved between memory and swap and whatever has failed on the way.
-/

namespace DemandPaging

/-- The bytes of every space that is alive. -/
abbrev FlatMemory := SpaceId → Option Bytes

namespace Image

variable {pageSize : Nat}

theorem size_initialContent (image : Image pageSize) {vpn : Nat} {bytes : Bytes}
    (initial : image.initialContent? vpn = some bytes) : bytes.size = pageSize := by
  rw [initialContent?] at initial
  split at initial
  · obtain ⟨content, -, rfl⟩ := Option.map_eq_some_iff.mp initial
    exact content.size_toArray
  · obtain rfl := Option.some.inj initial
    exact Array.size_replicate

end Image

namespace FlatMemory

variable {pageSize : Nat}

def read (memory : FlatMemory) (space : SpaceId) (address count : Nat) : Bytes :=
  Bytes.slice ((memory space).getD #[]) address count

/-- Write `data` over the bytes of a space from `address` on. -/
def write (memory : FlatMemory) (space : SpaceId) (address : Nat) (data : Bytes) : FlatMemory :=
  Function.update memory space ((memory space).map fun bytes => bytes.overwrite address data)

def page (pageSize : Nat) (memory : FlatMemory) (page : PageId) : Bytes :=
  memory.read page.space (page.vpn * pageSize) pageSize

/-- The bytes that a space has at first; `filler` stands for the pages that
their sections fail to produce. -/
def initially (image : Image pageSize) (numPages : Nat) (filler : Nat → Page pageSize) : Bytes :=
  Array.ofFn fun position : Fin (numPages * pageSize) =>
    let vpn := position / pageSize
    ((image.initialContent? vpn).getD (filler vpn).toArray).getD (position % pageSize) 0

def create (memory : FlatMemory) (space : SpaceId) (bytes : Bytes) : FlatMemory :=
  Function.update memory space (some bytes)

def destroy (memory : FlatMemory) (space : SpaceId) : FlatMemory :=
  Function.update memory space none

/-- What an operation that gave an answer does to the spaces. -/
def follow (filler : SpaceId → Nat → Page pageSize) (memory : FlatMemory) :
    Operation pageSize → Answer → FlatMemory
  | .create numPages image _, .created (.ok space) =>
    memory.create space.id (initially image numPages (filler space.id))
  | .load image arguments _, .loaded (.ok (space, process)) =>
    let created := memory.create space.id (initially image process.numPages (filler space.id))
    let firstText := process.argumentVector + arguments.length * pointerBytes
    (ProcessImage.argumentPieces process.argumentVector firstText arguments).foldl
      (fun memory piece => memory.write space.id piece.1 piece.2) created
  | .write space address data, .wrote transfer =>
    memory.write space.id address (Bytes.slice data 0 transfer.moved)
  | .destroy space, .ended _ => if space.destroyed then memory else memory.destroy space.id
  | _, _ => memory

def Explains (memory : FlatMemory) : Operation pageSize → Answer → Prop
  | .create numPages _ _, .created (.ok space) =>
    memory space.id = none ∧ space.numPages = numPages
  | .load _ _ _, .loaded (.ok (space, process)) =>
    memory space.id = none ∧ space.numPages = process.numPages
  | .read space address length, .read transfer bytes =>
    bytes = memory.read space.id address transfer.moved ∧ bytes.size = transfer.moved ∧
      transfer.moved ≤ length ∧ (transfer.stopped = none → transfer.moved = length)
  | .write space address data, .wrote transfer =>
    (memory.read space.id address transfer.moved).size = transfer.moved ∧
      transfer.moved ≤ data.size ∧ (transfer.stopped = none → transfer.moved = data.size)
  | _, _ => True

section Pages

variable {memory : FlatMemory} {space other : SpaceId} {address : Nat} {data more : Bytes}

theorem getD_write : ((memory.write space address data) space).getD #[] =
    ((memory space).getD #[]).overwrite address data := by
  rw [write, Function.update_self]
  cases memory space with
  | none =>
    symm
    apply Array.eq_empty_of_size_eq_zero
    rw [Bytes.size_overwrite]
    rfl
  | some bytes => rfl

theorem write_of_ne (differs : other ≠ space) :
    memory.write space address data other = memory other :=
  Function.update_of_ne differs _ _

theorem size_write :
    (memory.write space address data other).map Array.size = (memory other).map Array.size := by
  by_cases same : other = space
  · rw [same, write, Function.update_self, Option.map_map]
    congr 1
    ext1 bytes
    exact Bytes.size_overwrite bytes address data
  · rw [write_of_ne same]

theorem size_read_write {start count : Nat} :
    ((memory.write space address data).read other start count).size =
      (memory.read other start count).size := by
  simp only [read, Bytes.slice, Array.size_extract]
  by_cases same : other = space
  · rw [same, getD_write, Bytes.size_overwrite]
  · rw [write_of_ne same]

@[simp]
theorem write_empty : memory.write space address #[] = memory := by
  rw [write]
  simp

theorem write_write : (memory.write space address data).write space (address + data.size) more =
    memory.write space address (data ++ more) := by
  simp only [write, Function.update_self, Function.update_idem, Option.map_map]
  congr 2
  ext1 bytes
  exact Bytes.overwrite_overwrite

theorem page_write {changed : PageId} {offset : Nat} (inside : offset + data.size ≤ pageSize) :
    (memory.write changed.space (changed.vpn * pageSize + offset) data).page pageSize =
      Function.update (memory.page pageSize) changed
        ((memory.page pageSize changed).overwrite offset data) := by
  ext1 other
  by_cases sameSpace : other.space = changed.space
  · simp only [page, read]
    rw [sameSpace, getD_write]
    by_cases same : other = changed
    · subst same
      rw [Function.update_self]
      exact Bytes.slice_overwrite_of_inside inside
    · rw [Function.update_of_ne same]
      have differs : other.vpn ≠ changed.vpn := by
        intro sameVpn
        cases other
        cases changed
        simp_all
      have apart := @SwapArea.slots_apart pageSize _ _ differs
      rw [Bytes.slice_overwrite_of_apart (by omega), page, read, sameSpace]
  · have differs : other ≠ changed := fun same => sameSpace (congrArg PageId.space same)
    rw [Function.update_of_ne differs, page, page, read, read, write_of_ne sameSpace]

end Pages

theorem destroy_create {memory : FlatMemory} {space : SpaceId} {bytes : Bytes}
    (new : memory space = none) : (memory.create space bytes).destroy space = memory := by
  rw [destroy, create, Function.update_idem, ← new, Function.update_eq_self]

theorem destroy_write {memory : FlatMemory} {space : SpaceId} {address : Nat} {data : Bytes} :
    (memory.write space address data).destroy space = memory.destroy space := by
  rw [destroy, write, Function.update_idem, destroy]

theorem size_foldl_write (memory : FlatMemory) (pieces : List (Nat × Bytes))
    (target space : SpaceId) :
    (pieces.foldl (fun memory piece => memory.write target piece.1 piece.2) memory space).map
      Array.size = (memory space).map Array.size := by
  induction pieces generalizing memory with
  | nil => rfl
  | cons piece rest ih => exact (ih _).trans size_write

/-- A space that a program was loaded into has the bytes of its pages. -/
theorem size_follow_load {memory : FlatMemory}
    {filler : SpaceId → Nat → Page pageSize} {image : Image pageSize}
    {arguments : List String} {strategy : PagingStrategy} {loaded : AddressSpace × ProcessImage} :
    (memory.follow filler (.load image arguments strategy) (.loaded (.ok loaded))
      loaded.1.id).map Array.size = some (loaded.2.numPages * pageSize) := by
  simp only [follow, size_foldl_write, create, Function.update_self, Option.map_some, initially,
    Array.size_ofFn]

theorem slice_initially {image : Image pageSize} {numPages vpn : Nat}
    {filler : Nat → Page pageSize} {bytes : Bytes} (inside : vpn < numPages)
    (initial : image.initialContent? vpn = some bytes) :
    Bytes.slice (initially image numPages filler) (vpn * pageSize) pageSize = bytes := by
  have fits := image.size_initialContent initial
  have ends : (vpn + 1) * pageSize ≤ numPages * pageSize := Nat.mul_le_mul_right _ inside
  rw [Nat.succ_mul] at ends
  apply Array.ext_getElem?
  intro offset
  rw [Bytes.getElem?_slice]
  by_cases before : offset < pageSize
  · have positive : 0 < pageSize := by omega
    have quotient : (vpn * pageSize + offset) / pageSize = vpn := by
      rw [Nat.mul_comm, Nat.mul_add_div positive, Nat.div_eq_of_lt before, Nat.add_zero]
    have remainder : (vpn * pageSize + offset) % pageSize = offset := by
      rw [Nat.mul_comm, Nat.mul_add_mod, Nat.mod_eq_of_lt before]
    rw [if_pos before, initially, Array.getElem?_ofFn, dif_pos (by omega)]
    simp only [quotient, remainder, initial, Option.getD_some]
    rw [Array.getD_eq_getD_getElem?, Array.getElem?_eq_getElem (by omega)]
    rfl
  · rw [if_neg before, Array.getElem?_eq_none (by omega)]

end FlatMemory

namespace Manager

variable {pageSize : Nat} {manager next : Manager pageSize} {memory : FlatMemory}

/-- Every space that is alive has its bytes, and no other space has any. -/
structure Follows (manager : Manager pageSize) (memory : FlatMemory) : Prop where
  mirrors : manager.Mirrors (memory.page pageSize)
  size_eq : ∀ space, (memory space).map Array.size =
    (manager.numPages? space).map (· * pageSize)

namespace Follows

theorem of_spaces (follows : manager.Follows memory) (spaces : SameSpaces manager next)
    (mirrors : next.Mirrors (memory.page pageSize)) : next.Follows memory :=
  ⟨mirrors, fun space => by rw [spaces.numPages?_eq, follows.size_eq]⟩

theorem fault (follows : manager.Follows memory) (page : PageId) :
    (manager.fault page).2.Follows memory :=
  follows.of_spaces (follows.mirrors.settled.sameSpaces_fault page) (follows.mirrors.fault page)

/-- The bytes of a space tell the number of its pages. -/
theorem numPages?_eq {space : SpaceId} {pages : Option Nat} (follows : manager.Follows memory)
    (sized : (memory space).map Array.size = pages.map (· * pageSize)) :
    manager.numPages? space = pages := by
  have injective : Function.Injective (· * pageSize) :=
    fun first second => Nat.eq_of_mul_eq_mul_right manager.memory.pageSize_pos
  exact Option.map_injective injective ((follows.size_eq space).symm.trans sized)

theorem size_read {page : PageId} {address length : Nat} (follows : manager.Follows memory)
    (found : ∃ entry, manager.entry page = .ok entry)
    (inside : address + length ≤ page.vpn * pageSize + pageSize) :
    (memory.read page.space address length).size = length := by
  obtain ⟨numPages, alive, below⟩ := exists_entry_eq_ok_iff.mp found
  have sized := follows.size_eq page.space
  rw [alive, Option.map_some, Option.map_eq_some_iff] at sized
  obtain ⟨bytes, present, size⟩ := sized
  have ends : (page.vpn + 1) * pageSize ≤ numPages * pageSize := Nat.mul_le_mul_right _ below
  rw [Nat.succ_mul] at ends
  rw [FlatMemory.read, present]
  apply Bytes.size_slice
  rw [Option.getD_some]
  omega

theorem access_read {page : PageId} {offset count : Nat} (follows : manager.Follows memory)
    (inside : offset + count ≤ pageSize) :
    (manager.access page offset (.read count)).2.Follows memory ∧
      ∀ bytes, (manager.access page offset (.read count)).1 = .ok bytes →
        bytes = memory.read page.space (page.vpn * pageSize + offset) count ∧
          bytes.size = count := by
  obtain ⟨mirrors, spaces, read⟩ := follows.mirrors.access_read inside
  refine ⟨follows.of_spaces spaces mirrors, fun bytes done => ?_⟩
  obtain ⟨equal, size⟩ := read bytes done
  refine ⟨equal.trans ?_, size⟩
  exact Bytes.slice_slice inside

theorem access_write {page : PageId} {offset : Nat} {data : Bytes}
    (follows : manager.Follows memory) (inside : offset + data.size ≤ pageSize) :
    (∃ error, (manager.access page offset (.write data)).1 = .error error ∧
        (manager.access page offset (.write data)).2.Follows memory) ∨
      ∃ bytes, (manager.access page offset (.write data)).1 = .ok bytes ∧
        (∃ entry, manager.entry page = .ok entry) ∧
        (manager.access page offset (.write data)).2.Follows
          (memory.write page.space (page.vpn * pageSize + offset) data) := by
  obtain ⟨spaces, ⟨error, failed, mirrors⟩ | ⟨bytes, done, found, mirrors⟩⟩ :=
    follows.mirrors.access_write inside
  · exact .inl ⟨error, failed, follows.of_spaces spaces mirrors⟩
  · refine .inr ⟨bytes, done, found, ?_, ?_⟩
    · rw [FlatMemory.page_write inside]
      exact mirrors
    · intro space
      rw [FlatMemory.size_write, spaces.numPages?_eq, follows.size_eq]

theorem readChunk {space : AddressSpace} {address length done : Nat} {bytes more : Bytes}
    {outcome : Except PagingError Unit} (follows : manager.Follows memory)
    (copied : space.readChunk (Chunk.next pageSize address length done) (bytes, manager) =
      (outcome, more, next)) :
    next.Follows memory ∧
      ((∃ error, outcome = .error error ∧ more = bytes) ∨
        ∃ part, outcome = .ok () ∧ more = bytes ++ part ∧
          part = memory.read space.id (address + done)
            (Chunk.next pageSize address length done).count ∧
          part.size = (Chunk.next pageSize address length done).count) := by
  have inside := Chunk.next_inside manager.memory.pageSize_pos address length done
  have start := @Chunk.next_address pageSize address length done
  generalize Chunk.next pageSize address length done = chunk at copied inside start
  obtain ⟨accessed, answered⟩ := @access_read _ _ _ (space.page chunk.vpn) _ _ follows inside
  rw [AddressSpace.readChunk] at copied
  split at copied
  · rename_i error failed equal
    obtain ⟨rfl, rfl, rfl⟩ := by simpa using copied
    rw [equal] at accessed
    exact ⟨accessed, .inl ⟨error, rfl, rfl⟩⟩
  · rename_i part after equal
    obtain ⟨rfl, rfl, rfl⟩ := by simpa using copied
    rw [equal] at accessed answered
    obtain ⟨same, size⟩ := answered part rfl
    refine ⟨accessed, .inr ⟨part, rfl, rfl, ?_, size⟩⟩
    rw [same, ← start]
    rfl

/-- Every read answers with bytes of the flat array. -/
theorem readBytes (follows : manager.Follows memory) (space : AddressSpace)
    (address length : Nat) :
    (space.readBytes manager address length).2.2.Follows memory ∧
      memory.Explains (.read space address length : Operation pageSize)
        (.read (space.readBytes manager address length).1
          (space.readBytes manager address length).2.1) := by
  have positive := manager.memory.pageSize_pos
  let holds := fun done (state : Bytes × Manager pageSize) => state.2.Follows memory ∧
    state.1 = memory.read space.id address done ∧ state.1.size = done ∧ done ≤ length
  have start : holds 0 (#[], manager) := ⟨follows, Bytes.slice_zero.symm, rfl, Nat.zero_le _⟩
  have succeeds : ∀ done (state next : Bytes × Manager pageSize), done < length →
      holds done state →
      space.readChunk (Chunk.next pageSize address length done) state = (.ok (), next) →
      holds (done + (Chunk.next pageSize address length done).count) next := by
    rintro done ⟨bytes, current⟩ ⟨more, after⟩ unfinished ⟨kept, same, size, -⟩ copied
    obtain ⟨follows, ⟨error, failed, -⟩ | ⟨part, -, rfl, partSame, partSize⟩⟩ :=
      kept.readChunk copied
    · cases failed
    · refine ⟨follows, ?_, ?_, Chunk.next_ends address unfinished⟩
      · rw [show bytes = _ from same, partSame]
        exact Bytes.slice_append_slice
      · rw [Array.size_append, partSize, show bytes.size = done from size]
  have fails : ∀ done (state next : Bytes × Manager pageSize) error, done < length →
      holds done state →
      space.readChunk (Chunk.next pageSize address length done) state = (.error error, next) →
      holds done next := by
    rintro done ⟨bytes, current⟩ ⟨more, after⟩ error unfinished ⟨kept, same, size, bound⟩ copied
    obtain ⟨follows, ⟨_, -, rfl⟩ | ⟨part, succeeded, -⟩⟩ := kept.readChunk copied
    · exact ⟨follows, same, size, bound⟩
    · cases succeeded
  obtain ⟨after, same, size, bound⟩ := walkFrom_induction positive holds succeeds fails start
  exact ⟨after, same, size, bound, moved_walkFrom_of_complete positive (Nat.zero_le _)⟩

theorem writeChunk {space : AddressSpace} {address done : Nat} {data : Bytes}
    {outcome : Except PagingError Unit} (follows : manager.Follows memory)
    (unfinished : done < data.size)
    (copied : space.writeChunk data (Chunk.next pageSize address data.size done) manager =
      (outcome, next)) :
    (∃ error, outcome = .error error ∧ next.Follows memory) ∨
      (outcome = .ok () ∧
        (memory.read space.id address
          (done + (Chunk.next pageSize address data.size done).count)).size =
            done + (Chunk.next pageSize address data.size done).count ∧
        next.Follows (memory.write space.id (address + done)
          (Bytes.slice data done (Chunk.next pageSize address data.size done).count))) := by
  have inside := Chunk.next_inside manager.memory.pageSize_pos address data.size done
  have start := @Chunk.next_address pageSize address data.size done
  have ends := @Chunk.next_ends pageSize _ _ address unfinished
  have sameStart : (Chunk.next pageSize address data.size done).start = done := rfl
  generalize Chunk.next pageSize address data.size done = chunk
    at copied inside start ends sameStart
  subst sameStart
  have size := Bytes.size_slice ends
  rw [← size] at inside
  rw [AddressSpace.writeChunk] at copied
  rcases @access_write _ _ _ (space.page chunk.vpn) _ _ follows inside with
      ⟨error, failed, accessed⟩ | ⟨bytes, done, found, accessed⟩
  · split at copied
    · rename_i _ after equal
      obtain ⟨rfl, rfl⟩ := Prod.mk.inj copied
      rw [equal] at accessed
      exact .inl ⟨_, rfl, accessed⟩
    · rename_i equal
      rw [equal] at failed
      cases failed
  · split at copied
    · rename_i equal
      rw [equal] at done
      cases done
    · rename_i _ after equal
      obtain ⟨rfl, rfl⟩ := Prod.mk.inj copied
      rw [equal] at accessed
      refine .inr ⟨rfl, ?_, ?_⟩
      · apply follows.size_read found
        change address + _ ≤ chunk.vpn * pageSize + pageSize
        omega
      · rw [← start]
        exact accessed

/-- Every write changes the bytes that it reports and no other. -/
theorem writeBytes (follows : manager.Follows memory) (space : AddressSpace) (address : Nat)
    (data : Bytes) :
    (space.writeBytes manager address data).2.Follows (memory.write space.id address
        (Bytes.slice data 0 (space.writeBytes manager address data).1.moved)) ∧
      memory.Explains (.write space address data : Operation pageSize)
        (.wrote (space.writeBytes manager address data).1) := by
  have positive := manager.memory.pageSize_pos
  -- The bytes moved so far are in the array, and lie inside it.
  let holds := fun done (current : Manager pageSize) =>
    current.Follows (memory.write space.id address (Bytes.slice data 0 done)) ∧
      (memory.read space.id address done).size = done ∧ done ≤ data.size
  have start : holds 0 manager := by
    refine ⟨?_, ?_, Nat.zero_le _⟩
    · rw [Bytes.slice_zero, FlatMemory.write_empty]
      exact follows
    · rw [FlatMemory.read, Bytes.slice_zero]
      rfl
  have succeeds : ∀ done (current next : Manager pageSize), done < data.size →
      holds done current →
      space.writeChunk data (Chunk.next pageSize address data.size done) current = (.ok (), next) →
      holds (done + (Chunk.next pageSize address data.size done).count) next := by
    rintro done current next unfinished ⟨kept, -, bound⟩ copied
    rcases kept.writeChunk unfinished copied with ⟨error, failed, -⟩ | ⟨-, inside, after⟩
    · cases failed
    · -- The part joins those written before to one longer write.
      have moved : (Bytes.slice data 0 done).size = done := Bytes.size_slice (by omega)
      refine ⟨?_, ?_, Chunk.next_ends address unfinished⟩
      · have joined := @Bytes.slice_append_slice data 0 done
          (Chunk.next pageSize address data.size done).count
        rw [Nat.zero_add] at joined
        rw [← joined, ← FlatMemory.write_write, moved]
        exact after
      · rwa [FlatMemory.size_read_write] at inside
  have fails : ∀ done (current next : Manager pageSize) error, done < data.size →
      holds done current →
      space.writeChunk data (Chunk.next pageSize address data.size done) current =
        (.error error, next) →
      holds done next := by
    rintro done current next error unfinished ⟨kept, inside, bound⟩ copied
    rcases kept.writeChunk unfinished copied with ⟨_, -, after⟩ | ⟨succeeded, -⟩
    · exact ⟨after, inside, bound⟩
    · cases succeeded
  obtain ⟨after, inside, bound⟩ := walkFrom_induction positive holds succeeds fails start
  exact ⟨after, inside, bound, moved_walkFrom_of_complete positive (Nat.zero_le _)⟩

theorem eq_none_of_new (follows : manager.Follows memory) : memory manager.nextSpace = none := by
  have unknown := spaces_eq_none_of_nextSpace_le follows.mirrors.settled (Nat.le_refl _)
  have size := follows.size_eq manager.nextSpace
  rw [numPages?, unknown] at size
  exact Option.map_eq_none_iff.mp size

theorem createSpace (follows : manager.Follows memory) (numPages : Nat) (image : Image pageSize)
    (filler : Nat → Page pageSize) :
    (manager.createSpace numPages image).2.Follows
      (memory.create manager.nextSpace (FlatMemory.initially image numPages filler)) := by
  constructor
  · apply follows.mirrors.createSpace
    · intro page differs
      rw [FlatMemory.page, FlatMemory.page, FlatMemory.read, FlatMemory.read, FlatMemory.create,
        Function.update_of_ne differs]
    · intro vpn bytes inside initial
      rw [FlatMemory.page, FlatMemory.read, FlatMemory.create, Function.update_self]
      exact (FlatMemory.slice_initially inside initial).symm
  · intro space
    rw [numPages?_createSpace, FlatMemory.create]
    by_cases same : space = manager.nextSpace
    · rw [if_pos same, same, Function.update_self, Option.map_some, Option.map_some,
        FlatMemory.initially, Array.size_ofFn]
    · rw [if_neg same, Function.update_of_ne same, follows.size_eq]

theorem destroySpace (follows : manager.Follows memory) (space : SpaceId) :
    (manager.destroySpace space).2.Follows (memory.destroy space) := by
  have mirrors := follows.mirrors.destroySpace space
  have sized : ∀ other, (manager.destroySpace space).2.numPages? other =
      if other = space then none else manager.numPages? other := by
    intro other
    rcases follows.mirrors.settled.destroySpace_eq space with ⟨unknown, done⟩ | ⟨frames, pool, done⟩
    · rw [done]
      by_cases same : other = space
      · rw [if_pos same, same, numPages?, unknown]
        rfl
      · rw [if_neg same]
    · rw [done, numPages?, find?_spaces_without]
      split <;> rfl
  refine ⟨⟨mirrors.settled, mirrors.contains.congr ?_⟩, ?_⟩
  · intro page entry found
    obtain ⟨numPages, alive, -⟩ := exists_entry_eq_ok_iff.mp ⟨entry, found⟩
    have differs : page.space ≠ space := by
      intro same
      rw [sized, if_pos same] at alive
      cases alive
    rw [FlatMemory.page, FlatMemory.page, FlatMemory.read, FlatMemory.read, FlatMemory.destroy,
      Function.update_of_ne differs]
  · intro other
    rw [sized, FlatMemory.destroy]
    by_cases same : other = space
    · rw [if_pos same, same, Function.update_self]
      rfl
    · rw [if_neg same, Function.update_of_ne same, follows.size_eq]

theorem create (follows : manager.Follows memory) (numPages : Nat) (image : Image pageSize)
    (strategy : PagingStrategy) (filler : SpaceId → Nat → Page pageSize)
    {outcome : Except PagingError AddressSpace}
    (done : AddressSpace.create manager numPages image strategy = (outcome, next)) :
    (∃ error, outcome = .error error ∧ next.Follows memory) ∨
      ∃ space, outcome = .ok space ∧ memory space.id = none ∧ space.numPages = numPages ∧
        next.Follows
          (memory.create space.id (FlatMemory.initially image numPages (filler space.id))) := by
  have created := follows.createSpace numPages image (filler manager.nextSpace)
  have new := follows.eq_none_of_new
  cases strategy with
  | demand =>
    obtain ⟨rfl, rfl⟩ := Prod.mk.inj done
    exact .inr ⟨_, rfl, new, rfl, created⟩
  | eager =>
    rw [AddressSpace.create] at done
    simp only at done
    split at done
    · obtain ⟨rfl, rfl⟩ := Prod.mk.inj done
      exact .inl ⟨_, rfl, follows⟩
    · have filled := AddressSpace.faultEach_induction
        (fun current => current.Follows (memory.create manager.nextSpace
          (FlatMemory.initially image numPages (filler manager.nextSpace))))
        { id := (manager.createSpace numPages image).1, numPages := numPages, strategy := .eager }
        (fun current page kept => kept.fault page) (List.range numPages) created
      split at done
      · rename_i equal
        rw [equal] at filled
        obtain ⟨rfl, rfl⟩ := Prod.mk.inj done
        exact .inr ⟨_, rfl, new, rfl, filled⟩
      · rename_i error failed equal
        rw [equal] at filled
        obtain ⟨rfl, rfl⟩ := Prod.mk.inj done
        refine .inl ⟨error, rfl, ?_⟩
        have destroyed := filled.destroySpace manager.nextSpace
        rwa [FlatMemory.destroy_create new] at destroyed

theorem writeAll {space : AddressSpace} {address : Nat} {data : Bytes}
    {outcome : Except PagingError Unit} (follows : manager.Follows memory)
    (done : ProcessImage.writeAll space manager address data = (outcome, next)) :
    (∃ error, outcome = .error error ∧ ∃ left : FlatMemory, next.Follows left ∧
        left.destroy space.id = memory.destroy space.id) ∨
      (outcome = .ok () ∧ next.Follows (memory.write space.id address data)) := by
  obtain ⟨written, -, -, complete⟩ := follows.writeBytes space address data
  rw [ProcessImage.writeAll] at done
  split at done
  · rename_i moved error stopped equal
    obtain ⟨rfl, rfl⟩ := Prod.mk.inj done
    rw [equal] at written
    exact .inl ⟨error, rfl, _, written, FlatMemory.destroy_write⟩
  · rename_i moved after equal
    obtain ⟨rfl, rfl⟩ := Prod.mk.inj done
    rw [equal] at written complete
    refine .inr ⟨rfl, ?_⟩
    rw [show moved = data.size from complete rfl] at written
    simpa [Bytes.slice] using written

theorem writePieces {space : AddressSpace} {pieces : List (Nat × Bytes)}
    {outcome : Except PagingError Unit} (follows : manager.Follows memory)
    (done : ProcessImage.writePieces space manager pieces = (outcome, next)) :
    (∃ error, outcome = .error error ∧ ∃ left : FlatMemory, next.Follows left ∧
        left.destroy space.id = memory.destroy space.id) ∨
      (outcome = .ok () ∧ next.Follows (pieces.foldl
        (fun memory piece => memory.write space.id piece.1 piece.2) memory)) := by
  induction pieces generalizing manager memory with
  | nil =>
    obtain ⟨rfl, rfl⟩ := Prod.mk.inj done
    exact .inr ⟨rfl, follows⟩
  | cons piece rest ih =>
    rw [ProcessImage.writePieces] at done
    split at done
    · rename_i error failed equal
      obtain ⟨rfl, rfl⟩ := Prod.mk.inj done
      rcases follows.writeAll equal with stopped | ⟨succeeded, -⟩
      · exact .inl stopped
      · cases succeeded
    · rename_i written equal
      rcases follows.writeAll equal with ⟨_, failed, -⟩ | ⟨-, after⟩
      · cases failed
      · rcases ih after done with ⟨error, failed, left, kept, same⟩ | finished
        · exact .inl ⟨error, failed, left, kept, same.trans FlatMemory.destroy_write⟩
        · exact .inr finished

/-- A program that is loaded has the bytes of its image with its arguments
written over them, and one that cannot be loaded leaves nothing behind. -/
theorem load (follows : manager.Follows memory) (image : Image pageSize)
    (arguments : List String) (strategy : PagingStrategy)
    (filler : SpaceId → Nat → Page pageSize)
    {outcome : Except PagingError (AddressSpace × ProcessImage)}
    (done : ProcessImage.load manager image arguments strategy = (outcome, next)) :
    next.Follows (memory.follow filler (.load image arguments strategy) (.loaded outcome)) ∧
      memory.Explains (.load image arguments strategy) (.loaded outcome) := by
  rw [ProcessImage.load] at done
  split at done
  · obtain ⟨rfl, rfl⟩ := Prod.mk.inj done
    exact ⟨follows, trivial⟩
  split at done
  · obtain ⟨rfl, rfl⟩ := Prod.mk.inj done
    exact ⟨follows, trivial⟩
  rename_i sectionPages laidOut short
  simp only at done
  split at done
  · rename_i error failed equal
    obtain ⟨rfl, rfl⟩ := Prod.mk.inj done
    rcases follows.create _ _ _ filler equal with ⟨_, -, kept⟩ | ⟨_, succeeded, -⟩
    · exact ⟨kept, trivial⟩
    · cases succeeded
  · rename_i space created equal
    rcases follows.create _ _ _ filler equal with
        ⟨_, failed, -⟩ | ⟨_, succeeded, new, numPages, kept⟩
    · cases failed
    obtain rfl := Except.ok.inj succeeded
    split at done
    · rename_i error failed wrote
      obtain ⟨rfl, rfl⟩ := Prod.mk.inj done
      rcases kept.writePieces wrote with ⟨_, -, left, leftKept, same⟩ | ⟨succeeded, -⟩
      · refine ⟨?_, trivial⟩
        have destroyed := leftKept.destroySpace space.id
        rwa [same, FlatMemory.destroy_create new] at destroyed
      · cases succeeded
    · rename_i written wrote
      obtain ⟨rfl, rfl⟩ := Prod.mk.inj done
      rcases kept.writePieces wrote with ⟨_, failed, -⟩ | ⟨-, after⟩
      · cases failed
      · exact ⟨after, new, numPages⟩

theorem perform (follows : manager.Follows memory) (filler : SpaceId → Nat → Page pageSize)
    {operation : Operation pageSize} (own : operation.isOwn = true) :
    (manager.perform operation).2.Follows
        (memory.follow filler operation (manager.perform operation).1) ∧
      memory.Explains operation (manager.perform operation).1 := by
  cases operation with
  | create numPages image strategy =>
    cases done : AddressSpace.create manager numPages image strategy with
    | mk outcome next =>
      simp only [Manager.perform, done]
      rcases follows.create numPages image strategy filler done with
          ⟨error, rfl, kept⟩ | ⟨space, rfl, new, pages, kept⟩
      · exact ⟨kept, trivial⟩
      · exact ⟨kept, new, pages⟩
  | load image arguments strategy => exact follows.load image arguments strategy filler rfl
  | fault space vpn => exact ⟨follows.fault _, trivial⟩
  | read space address length => exact follows.readBytes space address length
  | write space address data => exact follows.writeBytes space address data
  | destroy space =>
    rw [Manager.perform, AddressSpace.destroy, FlatMemory.follow]
    by_cases gone : space.destroyed = true
    · rw [if_pos gone, if_pos gone]
      exact ⟨follows, trivial⟩
    · rw [if_neg gone, if_neg gone]
      exact ⟨follows.destroySpace space.id, trivial⟩
  | shutdown =>
    exact ⟨follows.of_spaces { SameSpaces.refl _ with } follows.mirrors.shutdown, trivial⟩
  | disturb volume => cases own
  | replace space image => cases own

end Follows

/-- The flat arrays after a run, according to the answers that its operations
gave. -/
def flatAfter (manager : Manager pageSize) (filler : SpaceId → Nat → Page pageSize)
    (memory : FlatMemory) : List (Operation pageSize) → FlatMemory
  | [] => memory
  | operation :: rest =>
    let (answer, next) := manager.perform operation
    next.flatAfter filler (memory.follow filler operation answer) rest

theorem Follows.after (follows : manager.Follows memory)
    (filler : SpaceId → Nat → Page pageSize) {operations : List (Operation pageSize)}
    (own : ∀ operation ∈ operations, operation.isOwn = true) :
    (manager.after operations).Follows (manager.flatAfter filler memory operations) := by
  induction operations generalizing manager memory with
  | nil => exact follows
  | cons operation rest ih =>
    obtain ⟨first, others⟩ := List.forall_mem_cons.mp own
    exact ih (follows.perform filler first).1 others

theorem follows_start {config : Configuration} {volume : Volume}
    (started : Manager.start config volume = .ok manager) :
    manager.Follows fun _ => none := by
  have settled := settled_start started
  obtain ⟨memory, swap, volume, -, opened, rfl⟩ := of_start_eq_ok started
  obtain ⟨bindings, freeSlots⟩ := SwapArea.bindings_openNamed opened
  have slotless := SwapArea.slotOf?_of_empty bindings
  refine ⟨⟨settled, ?_⟩, fun _ => rfl⟩
  refine ⟨SwapArea.intact_of_empty bindings freeSlots, ?_, ?_, ?_, ?_, ?_⟩
  · intro page slot slotted
    rw [slotless] at slotted
    cases slotted
  · exact fun _ _ found => by cases found
  · exact fun _ _ _ found => by cases found
  · exact fun _ _ found => by cases found
  · exact fun page _ => ⟨slotless page, fun _ found => by cases found⟩

/-- What a program sees of a manager is what it would see of flat arrays. -/
structure Transparent (manager : Manager pageSize) (memory : FlatMemory) : Prop where
  size_eq : ∀ space, (memory space).map Array.size =
    (manager.numPages? space).map (· * pageSize)
  explains : ∀ operation : Operation pageSize, operation.isOwn = true →
    memory.Explains operation (manager.perform operation).1

/-- After every run, requests to the swap area failing or not and sections
producing their pages or not, every operation answers what the flat arrays
say. -/
theorem transparent_after {config : Configuration} {volume : Volume}
    (started : Manager.start config volume = .ok manager)
    (filler : SpaceId → Nat → Page pageSize) {operations : List (Operation pageSize)}
    (own : ∀ operation ∈ operations, operation.isOwn = true) :
    (manager.after operations).Transparent
      (manager.flatAfter filler (fun _ => none) operations) := by
  have follows := (follows_start started).after filler own
  exact ⟨follows.size_eq, fun operation isOwn => (follows.perform filler isOwn).2⟩

/-- Two spaces that share one frame, one of them written. -/
theorem transparent_after_write :
    ∃ manager : Manager 4, Manager.start { numFrames := 1 } {} = .ok manager ∧
      (manager.after [
        .create 3 (Program.synthetic 1 1).image .demand,
        .create 2 (Program.synthetic 1 1).image .demand,
        .write { id := 1, numPages := 3, strategy := .demand } 5 #[1, 2, 3, 4]]).Transparent
        (manager.flatAfter (fun _ _ => .replicate 4 0) (fun _ => none) [
          .create 3 (Program.synthetic 1 1).image .demand,
          .create 2 (Program.synthetic 1 1).image .demand,
          .write { id := 1, numPages := 3, strategy := .demand } 5 #[1, 2, 3, 4]]) := by
  obtain ⟨manager, started⟩ := exists_start_eq_ok { numFrames := 1 } {}
    (by decide : Nat.isPowerOfTwo 4) checkPath_swapFile
  refine ⟨manager, started, transparent_after started _ ?_⟩
  simp [Operation.isOwn]

end Manager

end DemandPaging
