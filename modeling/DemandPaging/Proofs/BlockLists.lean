import DemandPaging.Proofs.SwapContents

/-!
# A disk is a growing list of blocks

Disks are opened by name, cloned, and kept under handles.  This module says
what comes of it in terms of lists of blocks: a directory of names, the list of
blocks of each file, and the file that each handle leads to.  The disks answer
every request as these lists do, whoever else has the file open.
-/

namespace DemandPaging

/-- What is asked of an open disk. -/
inductive DiskCall where
  /-- Open the same file under the handle `copy` too. -/
  | clone (copy : Nat)
  | measure
  | grow
  | read (block : Nat) (buffer : Bytes)
  | write (block : Nat) (data : Bytes)
  | remove

/-- What is asked of the directory, or of the disk under a handle. -/
inductive DiskRequest where
  /-- Open the disk called `name`, creating or emptying its file if `creating`. -/
  | opening (handle : Nat) (name : String) (creating : Bool)
  | call (handle : Nat) (call : DiskCall)

/-- What is answered to a request. -/
inductive DiskAnswer where
  /-- There is no disk under the handle. -/
  | absent
  | opened (outcome : Except DiskError Unit)
  | cloned
  | measured (bytes blocks : Nat)
  | grown (block : Nat)
  /-- The outcome of a request to read, with the buffer as it is left behind. -/
  | read (outcome : Except DiskError Unit) (buffer : Bytes)
  | wrote (outcome : Except DiskError Unit)
  | removed (outcome : Except DiskError Unit)

/-- Whether a request failed with an error. -/
def DiskAnswer.Fails : DiskAnswer → Prop
  | opened outcome => ∃ error, outcome = .error error
  | read outcome _ => ∃ error, outcome = .error error
  | wrote outcome => ∃ error, outcome = .error error
  | removed outcome => ∃ error, outcome = .error error
  | _ => False

/-- A directory of files that are lists of blocks, and the disks under
handles. -/
structure BlockShelf (blockSize : Nat) where
  names : KeyedTable String FileNumber := {}
  files : Array (List (Page blockSize)) := #[]
  handles : KeyedTable Nat (Disk blockSize) := {}

namespace BlockShelf

variable {blockSize : Nat}

/-- The blocks of a disk. -/
def blocks (shelf : BlockShelf blockSize) (disk : Disk blockSize) : List (Page blockSize) :=
  shelf.files.getD disk.file []

/-- Replace the blocks of a disk by their image under `change`. -/
def alter (shelf : BlockShelf blockSize) (disk : Disk blockSize)
    (change : List (Page blockSize) → List (Page blockSize)) : BlockShelf blockSize :=
  { shelf with files := shelf.files.modify disk.file change }

/-- Open the disk called `name`: the file under its name, emptied if `creating`,
or a new file without blocks. -/
def openNamed (shelf : BlockShelf blockSize) (name : String) (creating : Bool) :
    Except DiskError (Disk blockSize × BlockShelf blockSize) :=
  match Volume.checkPath { names := shelf.names } (Disk.imageName name) creating,
    shelf.names.find? (Disk.imageName name) with
  | .error error, _ => .error (.file error)
  | .ok (), some file =>
    .ok (⟨name, file⟩, if creating then shelf.alter ⟨name, file⟩ fun _ => [] else shelf)
  | .ok (), none =>
    if creating then
      .ok (⟨name, shelf.files.size⟩, { shelf with
        names := shelf.names.set (Disk.imageName name) shelf.files.size
        files := shelf.files.push [] })
    else
      .error (.file .notFound)

/-- Read a block of a disk into a buffer, which is left alone on an error. -/
def read (shelf : BlockShelf blockSize) (disk : Disk blockSize) (block : Nat) (buffer : Bytes) :
    Except DiskError Unit × Bytes :=
  if buffer.size ≠ blockSize then
    (.error (.incorrectBlockSize buffer.size), buffer)
  else
    match (shelf.blocks disk)[block]? with
    | none => (.error (.overCapacity block), buffer)
    | some content => (.ok (), content.toArray)

/-- Replace a block of a disk. -/
def write (shelf : BlockShelf blockSize) (disk : Disk blockSize) (block : Nat) (data : Bytes) :
    Except DiskError (BlockShelf blockSize) :=
  if fits : data.size = blockSize then
    if block < (shelf.blocks disk).length then
      .ok (shelf.alter disk fun blocks => blocks.set block ⟨data, fits⟩)
    else
      .error (.overCapacity block)
  else
    .error (.incorrectBlockSize data.size)

/-- Take the name of a disk out of the directory, whichever file has it. -/
def remove (shelf : BlockShelf blockSize) (disk : Disk blockSize) :
    Except DiskError (BlockShelf blockSize) :=
  match Volume.checkPath { names := shelf.names } (Disk.imageName disk.name) false,
    shelf.names.find? (Disk.imageName disk.name) with
  | .error error, _ => .error (.file error)
  | .ok (), some _ => .ok { shelf with names := shelf.names.erase (Disk.imageName disk.name) }
  | .ok (), none => .error (.file .notFound)

/-- Answer one call of the disk under a handle. -/
def call (shelf : BlockShelf blockSize) (handle : Nat) (disk : Disk blockSize) :
    DiskCall → DiskAnswer × BlockShelf blockSize
  | .clone copy => (.cloned, { shelf with handles := shelf.handles.set copy disk })
  | .measure =>
    (.measured ((shelf.blocks disk).length * blockSize) (shelf.blocks disk).length, shelf)
  | .grow =>
    (.grown (shelf.blocks disk).length,
      shelf.alter disk fun blocks => blocks ++ [.replicate blockSize 0])
  | .read block buffer =>
    let (outcome, after) := shelf.read disk block buffer
    (.read outcome after, shelf)
  | .write block data =>
    match shelf.write disk block data with
    | .ok next => (.wrote (.ok ()), { next with handles := shelf.handles })
    | .error error => (.wrote (.error error), shelf)
  | .remove =>
    let kept := shelf.handles.erase handle
    match shelf.remove disk with
    | .ok next => (.removed (.ok ()), { next with handles := kept })
    | .error error => (.removed (.error error), { shelf with handles := kept })

/-- Answer one request. -/
def serve (shelf : BlockShelf blockSize) : DiskRequest → DiskAnswer × BlockShelf blockSize
  | .opening handle name creating =>
    match shelf.openNamed name creating with
    | .ok (disk, next) =>
      (.opened (.ok ()), { next with handles := shelf.handles.set handle disk })
    | .error error => (.opened (.error error), shelf)
  | .call handle call =>
    match shelf.handles.find? handle with
    | some disk => shelf.call handle disk call
    | none => (.absent, shelf)

/-- The answers to a run of requests, and the shelf after it. -/
def run (shelf : BlockShelf blockSize) :
    List DiskRequest → List DiskAnswer × BlockShelf blockSize
  | [] => ([], shelf)
  | request :: rest =>
    let (answer, next) := shelf.serve request
    let (answers, last) := next.run rest
    (answer :: answers, last)

/-- The shelf after a run of requests from the empty one. -/
def after (requests : List DiskRequest) : BlockShelf blockSize :=
  (run {} requests).2

/-- Whether a request replaces or drops the block `index` of a disk: it is
written under a handle of the same file, or the file is created again. -/
def Touches (shelf : BlockShelf blockSize) (disk : Disk blockSize) (index : Nat) :
    DiskRequest → Prop
  | .opening _ name creating =>
    creating = true ∧ shelf.names.find? (Disk.imageName name) = some disk.file
  | .call handle (.write block _) =>
    block = index ∧ ∃ writer, shelf.handles.find? handle = some writer ∧ writer.file = disk.file
  | .call _ _ => False

section Kept

variable {shelf : BlockShelf blockSize} {disk writer : Disk blockSize} {index : Nat}
  {content : Page blockSize}

theorem getElem?_blocks_alter {change : List (Page blockSize) → List (Page blockSize)}
    (present : (shelf.blocks disk)[index]? = some content)
    (kept : writer.file = disk.file → (change (shelf.blocks disk))[index]? = some content) :
    ((shelf.alter writer change).blocks disk)[index]? = some content := by
  unfold blocks alter at *
  rw [Array.getD_eq_getD_getElem?] at *
  rw [Array.getElem?_modify]
  by_cases same : writer.file = disk.file
  · rw [if_pos same]
    cases stored : shelf.files[disk.file]? with
    | none =>
      rw [stored] at present
      cases present
    | some blocks =>
      rw [stored] at kept
      exact kept same
  · rw [if_neg same]
    exact present

theorem getElem?_blocks_openNamed {name : String} {creating : Bool} {opened : Disk blockSize}
    {next : BlockShelf blockSize} (done : shelf.openNamed name creating = .ok (opened, next))
    (present : (shelf.blocks disk)[index]? = some content)
    (untouched : creating = true → shelf.names.find? (Disk.imageName name) ≠ some disk.file) :
    (next.blocks disk)[index]? = some content := by
  unfold openNamed at done
  split at done
  next => cases done
  next file _ found =>
    cases creating with
    | false =>
      cases done
      exact present
    | true =>
      cases done
      apply getElem?_blocks_alter present
      intro same
      exact absurd (found.trans (congrArg some same)) (untouched rfl)
  next =>
    cases creating with
    | false => cases done
    | true =>
      cases done
      unfold blocks at *
      rw [Array.getD_eq_getD_getElem?] at *
      cases stored : shelf.files[disk.file]? with
      | none =>
        rw [stored] at present
        cases present
      | some blocks =>
        obtain ⟨inside, -⟩ := Array.getElem?_eq_some_iff.mp stored
        rw [Array.getElem?_push_lt inside, ← Array.getElem?_eq_getElem inside]
        exact present

/-- A block stays as it is over every request that does not touch it, whatever
is grown, removed, opened and written beside it. -/
theorem getElem?_blocks_serve {request : DiskRequest}
    (present : (shelf.blocks disk)[index]? = some content)
    (untouched : ¬ shelf.Touches disk index request) :
    ((shelf.serve request).2.blocks disk)[index]? = some content := by
  cases request with
  | opening handle name creating =>
    unfold serve
    dsimp only
    cases done : shelf.openNamed name creating with
    | error error => exact present
    | ok opened =>
      have kept := getElem?_blocks_openNamed done present
        fun created found => untouched ⟨created, found⟩
      exact kept
  | call handle call =>
    unfold serve
    dsimp only
    cases found : shelf.handles.find? handle with
    | none => exact present
    | some writer =>
      cases call with
      | clone copy => exact present
      | measure => exact present
      | read block buffer => exact present
      | grow =>
        apply getElem?_blocks_alter present
        intro _
        obtain ⟨inside, -⟩ := List.getElem?_eq_some_iff.mp present
        rw [List.getElem?_append_left inside]
        exact present
      | write block data =>
        unfold BlockShelf.call write
        dsimp only
        split
        next next written =>
          split at written
          next fits =>
            split at written
            next =>
              cases written
              apply @getElem?_blocks_alter _ _ _ _ _ _ _ present
              intro same
              have apart : block ≠ index := fun here => untouched ⟨here, writer, found, same⟩
              rw [List.getElem?_set_ne apart]
              exact present
            next => cases written
          next => cases written
        next => exact present
      | remove =>
        unfold BlockShelf.call remove
        dsimp only
        split
        next next removed =>
          split at removed
          next => cases removed
          next =>
            cases removed
            exact present
          next => cases removed
        next => exact present

end Kept

end BlockShelf

/-- A volume and the disks that are open on it, under their handles. -/
structure DiskUse (blockSize : Nat) where
  volume : Volume := {}
  handles : KeyedTable Nat (Disk blockSize) := {}

namespace DiskUse

variable {blockSize : Nat}

/-- Answer one call of the disk under a handle.  A buffer is filled only by a
call that succeeds, and a handle is gone as soon as its disk is to be
removed. -/
def call (use : DiskUse blockSize) (handle : Nat) (disk : Disk blockSize) :
    DiskCall → DiskAnswer × DiskUse blockSize
  | .clone copy => (.cloned, { use with handles := use.handles.set copy disk })
  | .measure => (.measured (disk.byteLength use.volume) (disk.blockCount use.volume), use)
  | .grow =>
    let (block, volume) := disk.grow use.volume
    (.grown block, { use with volume := volume })
  | .read block buffer =>
    match disk.read use.volume block buffer.size with
    | .ok content => (.read (.ok ()) content, use)
    | .error error => (.read (.error error) buffer, use)
  | .write block data =>
    match disk.write use.volume block data with
    | .ok volume => (.wrote (.ok ()), { use with volume := volume })
    | .error error => (.wrote (.error error), use)
  | .remove =>
    let kept := use.handles.erase handle
    match disk.remove use.volume with
    | .ok volume => (.removed (.ok ()), ⟨volume, kept⟩)
    | .error error => (.removed (.error error), { use with handles := kept })

/-- Answer one request. -/
def serve (use : DiskUse blockSize) : DiskRequest → DiskAnswer × DiskUse blockSize
  | .opening handle name creating =>
    match Disk.openNamed use.volume name creating with
    | .ok (disk, volume) => (.opened (.ok ()), ⟨volume, use.handles.set handle disk⟩)
    | .error error => (.opened (.error error), use)
  | .call handle call =>
    match use.handles.find? handle with
    | some disk => use.call handle disk call
    | none => (.absent, use)

/-- The answers to a run of requests, and the disks after it. -/
def run (use : DiskUse blockSize) : List DiskRequest → List DiskAnswer × DiskUse blockSize
  | [] => ([], use)
  | request :: rest =>
    let (answer, next) := use.serve request
    let (answers, last) := next.run rest
    (answer :: answers, last)

end DiskUse

/-- The bytes of a list of blocks, one block after the other. -/
def joined {blockSize : Nat} : List (Page blockSize) → Bytes
  | [] => #[]
  | block :: rest => block.toArray ++ joined rest

section Joined

variable {blockSize : Nat}

@[simp]
theorem size_joined (blocks : List (Page blockSize)) :
    (joined blocks).size = blocks.length * blockSize := by
  induction blocks with
  | nil => simp [joined]
  | cons block rest ih =>
    rw [joined, Array.size_append, ih, block.size_toArray, List.length_cons, Nat.succ_mul,
      Nat.add_comm]

theorem joined_append (first second : List (Page blockSize)) :
    joined (first ++ second) = joined first ++ joined second := by
  induction first with
  | nil => simp [joined]
  | cons block rest ih => rw [List.cons_append, joined, joined, ih, Array.append_assoc]

theorem getElem?_joined (positive : 0 < blockSize) (blocks : List (Page blockSize))
    (position : Nat) : (joined blocks)[position]? =
      blocks[position / blockSize]?.bind fun block => block.toArray[position % blockSize]? := by
  induction blocks generalizing position with
  | nil => simp [joined]
  | cons block rest ih =>
    have size := block.size_toArray
    rw [joined]
    by_cases first : position < blockSize
    · rw [Array.getElem?_append_left (by omega), Nat.div_eq_of_lt first, Nat.mod_eq_of_lt first]
      rfl
    · have later : blockSize ≤ position := Nat.le_of_not_lt first
      rw [Array.getElem?_append_right (by omega), size, ih, Nat.div_eq_sub_div positive later,
        Nat.mod_eq_sub_mod later]
      rfl

theorem div_and_mod_of_mem {block offset : Nat} (inside : offset < blockSize) :
    (block * blockSize + offset) / blockSize = block ∧
      (block * blockSize + offset) % blockSize = offset := by
  have positive : 0 < blockSize := by omega
  rw [Nat.mul_comm, Nat.mul_add_div positive, Nat.mul_add_mod, Nat.div_eq_of_lt inside,
    Nat.mod_eq_of_lt inside]
  exact ⟨rfl, rfl⟩

/-- Every block is the slice at its place. -/
theorem slice_joined {blocks : List (Page blockSize)} {index : Nat} {block : Page blockSize}
    (stored : blocks[index]? = some block) :
    Bytes.slice (joined blocks) (index * blockSize) blockSize = block.toArray := by
  apply Array.ext_getElem?
  intro offset
  rw [Bytes.getElem?_slice]
  by_cases inside : offset < blockSize
  · obtain ⟨quotient, remainder⟩ := @div_and_mod_of_mem blockSize index offset inside
    rw [if_pos inside, getElem?_joined (by omega), quotient, remainder, stored]
    rfl
  · rw [if_neg inside, Array.getElem?_eq_none]
    rw [block.size_toArray]
    omega

/-- To overwrite the place of a block is to replace the block. -/
theorem overwrite_joined (positive : 0 < blockSize) {blocks : List (Page blockSize)} {index : Nat}
    (present : index < blocks.length) (block : Page blockSize) :
    Bytes.overwrite (joined blocks) (index * blockSize) block.toArray =
      joined (blocks.set index block) := by
  apply Array.ext_getElem?
  intro position
  have place := Nat.div_add_mod position blockSize
  have within := Nat.mod_lt position positive
  rw [Bytes.getElem?_overwrite, block.size_toArray, size_joined, getElem?_joined positive,
    getElem?_joined positive, List.getElem?_set]
  generalize position / blockSize = quotient at *
  generalize position % blockSize = remainder at *
  rw [Nat.mul_comm] at place
  by_cases here : index = quotient
  · subst quotient
    have ends : (index + 1) * blockSize ≤ blocks.length * blockSize :=
      Nat.mul_le_mul_right _ present
    rw [Nat.succ_mul] at ends
    rw [if_pos (by omega), if_pos rfl, if_pos present, Option.bind_some]
    congr 1
    omega
  · have apart := @SwapArea.slots_apart blockSize _ _ here
    rw [if_neg (by omega), if_neg here]

/-- To fill up a file by the length of one block is to append a block of
zeros. -/
theorem resize_joined (blocks : List (Page blockSize)) :
    (joined blocks).resize ((blocks.length + 1) * blockSize) =
      joined (blocks ++ [.replicate blockSize 0]) := by
  have one : (blocks.length + 1) * blockSize - blocks.length * blockSize = blockSize := by
    rw [Nat.succ_mul]
    omega
  have whole : Bytes.slice (joined blocks) 0 ((blocks.length + 1) * blockSize) = joined blocks := by
    rw [Bytes.slice, Array.extract_eq_self_of_le]
    rw [size_joined, Nat.succ_mul]
    omega
  rw [Bytes.resize, whole, size_joined, one, joined_append]
  simp [joined, Bytes.zeros]

end Joined

/-- The files of a volume are the lists of blocks of a shelf, under the same
names. -/
structure Volume.Stores {blockSize : Nat} (volume : Volume) (shelf : BlockShelf blockSize) :
    Prop where
  names_eq : volume.names = shelf.names
  files_eq : volume.files = shelf.files.map joined

namespace Volume.Stores

variable {blockSize : Nat} {volume : Volume} {shelf : BlockShelf blockSize}

/-- Which disks are open does not matter to the files. -/
theorem setHandles (stores : volume.Stores shelf) (handles : KeyedTable Nat (Disk blockSize)) :
    volume.Stores { shelf with handles := handles } :=
  ⟨stores.names_eq, stores.files_eq⟩

theorem content_eq (stores : volume.Stores shelf) (disk : Disk blockSize) :
    volume.content disk.file = joined (shelf.blocks disk) := by
  unfold Volume.content BlockShelf.blocks
  rw [stores.files_eq, Array.getD_eq_getD_getElem?, Array.getD_eq_getD_getElem?,
    Array.getElem?_map]
  cases shelf.files[disk.file]? <;> rfl

theorem byteLength_eq (stores : volume.Stores shelf) (disk : Disk blockSize) :
    disk.byteLength volume = (shelf.blocks disk).length * blockSize := by
  unfold Disk.byteLength
  rw [stores.content_eq, size_joined]

theorem blockCount_eq (stores : volume.Stores shelf) (positive : 0 < blockSize)
    (disk : Disk blockSize) : disk.blockCount volume = (shelf.blocks disk).length := by
  unfold Disk.blockCount
  rw [stores.byteLength_eq, Nat.mul_div_cancel _ positive]

/-- A change of one file is a change of its list of blocks. -/
theorem modify (stores : volume.Stores shelf) (disk : Disk blockSize) {change : Bytes → Bytes}
    {alter : List (Page blockSize) → List (Page blockSize)}
    (same : change (joined (shelf.blocks disk)) = joined (alter (shelf.blocks disk))) :
    (volume.modify disk.file change).Stores (shelf.alter disk alter) where
  names_eq := stores.names_eq
  files_eq := by
    unfold Volume.modify BlockShelf.alter
    rw [stores.files_eq]
    apply Array.ext_getElem?
    intro file
    simp only [Array.getElem?_modify, Array.getElem?_map]
    by_cases here : disk.file = file
    · subst file
      simp only [if_pos]
      unfold BlockShelf.blocks at same
      rw [Array.getD_eq_getD_getElem?] at same
      cases stored : shelf.files[disk.file]? with
      | none => rfl
      | some blocks =>
        rw [stored, Option.getD_some] at same
        exact congrArg some same
    · simp only [if_neg here]

theorem checkPath_eq (stores : volume.Stores shelf) (path : String) (creating : Bool) :
    volume.checkPath path creating = Volume.checkPath { names := shelf.names } path creating := by
  rw [← stores.names_eq]
  rfl

theorem find?_eq (stores : volume.Stores shelf) (name : String) :
    volume.find? name = shelf.names.find? name := by
  rw [← stores.names_eq]
  rfl

/-- Opening a disk finds the same disk or fails with the same error. -/
theorem openNamed (stores : volume.Stores shelf) (name : String) (creating : Bool) :
    SameOutcome (fun opened next => opened.1 = next.1 ∧ opened.2.Stores next.2)
      (Disk.openNamed volume name creating) (shelf.openNamed name creating) := by
  unfold Disk.openNamed Volume.openFile BlockShelf.openNamed
  rw [stores.checkPath_eq, stores.find?_eq]
  cases Volume.checkPath { names := shelf.names } (Disk.imageName name) creating with
  | error error => exact .error _
  | ok =>
    cases shelf.names.find? (Disk.imageName name) with
    | some file =>
      cases creating with
      | false => exact .ok ⟨rfl, stores⟩
      | true =>
        have emptied : (volume.setLength file 0).Stores (shelf.alter ⟨name, file⟩ fun _ => []) :=
          stores.modify ⟨name, file⟩ (Array.eq_empty_of_size_eq_zero (Bytes.size_resize _ 0))
        exact .ok ⟨rfl, emptied⟩
    | none =>
      cases creating with
      | false => exact .error _
      | true =>
        have sizes : volume.files.size = shelf.files.size := by
          rw [stores.files_eq, Array.size_map]
        rw [sizes]
        apply SameOutcome.ok
        constructor
        case left => rfl
        case right =>
          constructor
          case names_eq => simp only [stores.names_eq]
          case files_eq => simp only [stores.files_eq, Array.map_push, joined]

theorem grow (stores : volume.Stores shelf) (positive : 0 < blockSize) (disk : Disk blockSize) :
    (disk.grow volume).1 = (shelf.blocks disk).length ∧
      (disk.grow volume).2.Stores
        (shelf.alter disk fun blocks => blocks ++ [.replicate blockSize 0]) := by
  unfold Disk.grow
  rw [stores.blockCount_eq positive]
  exact ⟨rfl, stores.modify disk (resize_joined _)⟩

/-- A block is refused for the size of the buffer or for its place, in this
order. -/
theorem checkBlock_eq (stores : volume.Stores shelf) (positive : 0 < blockSize)
    (disk : Disk blockSize) (block size : Nat) :
    disk.checkBlock volume block size =
      if size ≠ blockSize then .error (.incorrectBlockSize size)
      else if block < (shelf.blocks disk).length then .ok ()
      else .error (.overCapacity block) := by
  have inside : (shelf.blocks disk).length * blockSize < (block + 1) * blockSize ↔
      ¬ block < (shelf.blocks disk).length := by
    rw [Nat.mul_lt_mul_right positive]
    omega
  unfold Disk.checkBlock
  simp only [stores.byteLength_eq, inside, ite_not]

theorem read (stores : volume.Stores shelf) (positive : 0 < blockSize) (disk : Disk blockSize)
    (block : Nat) (buffer : Bytes) :
    shelf.read disk block buffer =
      match disk.read volume block buffer.size with
      | .ok content => (.ok (), content)
      | .error error => (.error error, buffer) := by
  unfold BlockShelf.read Disk.read
  rw [stores.checkBlock_eq positive]
  by_cases fits : buffer.size = blockSize
  · rw [if_neg (fun differs => differs fits), if_neg (fun differs => differs fits)]
    cases stored : (shelf.blocks disk)[block]? with
    | none => rw [if_neg (Nat.not_lt.mpr (List.getElem?_eq_none_iff.mp stored))]; rfl
    | some content =>
      obtain ⟨present, -⟩ := List.getElem?_eq_some_iff.mp stored
      rw [if_pos present, fits, stores.content_eq]
      exact congrArg (Prod.mk (Except.ok ())) (slice_joined stored).symm
  · rw [if_pos fits, if_pos fits]
    rfl

theorem write (stores : volume.Stores shelf) (positive : 0 < blockSize) (disk : Disk blockSize)
    (block : Nat) (data : Bytes) :
    SameOutcome Stores (disk.write volume block data) (shelf.write disk block data) := by
  unfold BlockShelf.write Disk.write
  rw [stores.checkBlock_eq positive]
  by_cases fits : data.size = blockSize
  · rw [if_neg (fun differs => differs fits), dif_pos fits]
    by_cases present : block < (shelf.blocks disk).length
    · rw [if_pos present, if_pos present]
      exact .ok (stores.modify disk (overwrite_joined positive present ⟨data, fits⟩))
    · rw [if_neg present, if_neg present]
      exact .error _
  · rw [if_pos fits, dif_neg fits]
    exact .error _

theorem remove (stores : volume.Stores shelf) (disk : Disk blockSize) :
    SameOutcome Stores (disk.remove volume) (shelf.remove disk) := by
  unfold Disk.remove Volume.remove Volume.hasFile BlockShelf.remove
  rw [stores.checkPath_eq, stores.find?_eq]
  cases Volume.checkPath { names := shelf.names } (Disk.imageName disk.name) false with
  | error error => exact .error _
  | ok =>
    cases shelf.names.find? (Disk.imageName disk.name) with
    | none => exact .error _
    | some file =>
      apply SameOutcome.ok
      constructor
      case names_eq => simp only [stores.names_eq]
      case files_eq => exact stores.files_eq

end Volume.Stores

namespace DiskUse

variable {blockSize : Nat}

/-- The disks under handles are those of a shelf, over the same files. -/
structure Represents (use : DiskUse blockSize) (shelf : BlockShelf blockSize) : Prop where
  stores : use.volume.Stores shelf
  handles_eq : use.handles = shelf.handles

namespace Represents

variable {use : DiskUse blockSize} {shelf : BlockShelf blockSize}

/-- Every call is answered as by the lists of blocks, and leaves the files those
lists. -/
theorem call (represents : use.Represents shelf) (positive : 0 < blockSize) (handle : Nat)
    (disk : Disk blockSize) (call : DiskCall) :
    (use.call handle disk call).1 = (shelf.call handle disk call).1 ∧
      (use.call handle disk call).2.Represents (shelf.call handle disk call).2 := by
  have stores := represents.stores
  have handles_eq := represents.handles_eq
  cases call with
  | clone copy =>
    unfold DiskUse.call BlockShelf.call
    rw [handles_eq]
    exact ⟨rfl, stores.setHandles _, rfl⟩
  | measure =>
    unfold DiskUse.call BlockShelf.call
    simp only [stores.byteLength_eq, stores.blockCount_eq positive]
    exact ⟨trivial, represents⟩
  | grow =>
    obtain ⟨block_eq, grown⟩ := stores.grow positive disk
    exact ⟨congrArg _ block_eq, grown, handles_eq⟩
  | read block buffer =>
    unfold DiskUse.call BlockShelf.call
    simp only [stores.read positive]
    cases disk.read use.volume block buffer.size with
    | error error => exact ⟨rfl, represents⟩
    | ok content => exact ⟨rfl, represents⟩
  | write block data =>
    unfold DiskUse.call BlockShelf.call
    dsimp only
    have same := stores.write positive disk block data
    generalize disk.write use.volume block data = left, shelf.write disk block data = right
      at same ⊢
    cases same with
    | error error => exact ⟨rfl, represents⟩
    | ok stored => exact ⟨rfl, stored.setHandles _, handles_eq⟩
  | remove =>
    unfold DiskUse.call BlockShelf.call
    simp only [handles_eq]
    have same := stores.remove disk
    generalize disk.remove use.volume = left, shelf.remove disk = right at same ⊢
    cases same with
    | error error => exact ⟨rfl, stores.setHandles _, rfl⟩
    | ok stored => exact ⟨rfl, stored.setHandles _, rfl⟩

theorem serve (represents : use.Represents shelf) (positive : 0 < blockSize)
    (request : DiskRequest) :
    (use.serve request).1 = (shelf.serve request).1 ∧
      (use.serve request).2.Represents (shelf.serve request).2 := by
  cases request with
  | opening handle name creating =>
    unfold DiskUse.serve BlockShelf.serve
    dsimp only
    have same := represents.stores.openNamed name creating
    generalize Disk.openNamed use.volume name creating = left, shelf.openNamed name creating = right
      at same ⊢
    cases same with
    | error error => exact ⟨rfl, represents⟩
    | ok relates =>
      obtain ⟨disk_eq, stored⟩ := relates
      simp only [disk_eq, represents.handles_eq]
      exact ⟨trivial, stored.setHandles _, rfl⟩
  | call handle call =>
    unfold DiskUse.serve BlockShelf.serve
    simp only [represents.handles_eq]
    cases shelf.handles.find? handle with
    | none => exact ⟨rfl, represents⟩
    | some disk => exact represents.call positive handle disk call

theorem run (represents : use.Represents shelf) (positive : 0 < blockSize)
    (requests : List DiskRequest) :
    (use.run requests).1 = (shelf.run requests).1 ∧
      (use.run requests).2.Represents (shelf.run requests).2 := by
  induction requests generalizing use shelf with
  | nil => exact ⟨rfl, represents⟩
  | cons request rest ih =>
    obtain ⟨answer_eq, served⟩ := represents.serve positive request
    obtain ⟨answers_eq, later⟩ := ih served
    unfold DiskUse.run BlockShelf.run
    simp only [answer_eq, answers_eq]
    exact ⟨trivial, later⟩

end Represents

/-- An empty directory is an empty shelf. -/
theorem represents_empty : ({} : DiskUse blockSize).Represents {} := by
  constructor
  case stores =>
    constructor
    case names_eq => rfl
    case files_eq => simp
  case handles_eq => rfl

/-- A call that fails changes neither the directory nor any file. -/
theorem volume_of_call_fails {use : DiskUse blockSize} {handle : Nat} {disk : Disk blockSize}
    {call : DiskCall} (fails : (use.call handle disk call).1.Fails) :
    (use.call handle disk call).2.volume = use.volume := by
  cases call with
  | clone copy => rfl
  | measure => rfl
  | grow => cases fails
  | read block buffer =>
    unfold DiskUse.call
    simp only
    cases disk.read use.volume block buffer.size <;> rfl
  | write block data =>
    revert fails
    unfold DiskUse.call
    dsimp only
    cases disk.write use.volume block data with
    | error error => exact fun _ => rfl
    | ok volume => rintro ⟨error, ⟨⟩⟩
  | remove =>
    revert fails
    unfold DiskUse.call
    dsimp only
    cases disk.remove use.volume with
    | error error => exact fun _ => rfl
    | ok volume => rintro ⟨error, ⟨⟩⟩

theorem volume_of_serve_fails {use : DiskUse blockSize} {request : DiskRequest}
    (fails : (use.serve request).1.Fails) : (use.serve request).2.volume = use.volume := by
  revert fails
  cases request with
  | opening handle name creating =>
    unfold serve
    dsimp only
    cases @Disk.openNamed blockSize use.volume name creating with
    | error error => exact fun _ => rfl
    | ok opened => rintro ⟨error, ⟨⟩⟩
  | call handle call =>
    unfold serve
    dsimp only
    cases use.handles.find? handle with
    | none => exact fun _ => rfl
    | some disk => exact volume_of_call_fails

/-- A call to read that fails leaves the buffer as it was. -/
theorem buffer_of_read_eq_error {use : DiskUse blockSize} {handle block : Nat}
    {buffer after : Bytes} {error : DiskError}
    (failed : (use.serve (.call handle (.read block buffer))).1 = .read (.error error) after) :
    after = buffer := by
  unfold serve call at failed
  simp only at failed
  cases opened : use.handles.find? handle with
  | none =>
    rw [opened] at failed
    cases failed
  | some disk =>
    simp only [opened] at failed
    cases answer : disk.read use.volume block buffer.size with
    | error error =>
      rw [answer] at failed
      cases failed
      rfl
    | ok content =>
      rw [answer] at failed
      cases failed

/-- The disks after a run of requests from the empty directory. -/
def after (requests : List DiskRequest) : DiskUse blockSize :=
  (run {} requests).2

/-- What it means that the disks of a directory are growing lists of blocks, for
a run of requests from the empty directory and any request after it. -/
structure ActsAsBlocks (blockSize : Nat) (requests : List DiskRequest) : Prop where
  /-- Every request is answered as by the lists of blocks. -/
  answers_eq : (@run blockSize {} requests).1 = (@BlockShelf.run blockSize {} requests).1
  /-- The files are these lists, one block after the other, and every handle and
  every name leads to its list. -/
  represents : (@after blockSize requests).Represents (.after requests)
  /-- The next request leaves every block alone but the one that it writes and
  those of the file that it creates again. -/
  kept : ∀ (disk : Disk blockSize) (index : Nat) (content : Page blockSize) (request : DiskRequest),
    ((BlockShelf.after requests).blocks disk)[index]? = some content →
      ¬ (BlockShelf.after requests).Touches disk index request →
        (((BlockShelf.after requests).serve request).2.blocks disk)[index]? = some content
  /-- If the next request fails, it changes neither the directory nor a file. -/
  volume_of_fails : ∀ request, ((@after blockSize requests).serve request).1.Fails →
    ((@after blockSize requests).serve request).2.volume = (@after blockSize requests).volume
  /-- If the next request is to read and fails, it leaves its buffer alone. -/
  buffer_of_fails : ∀ handle block buffer error left,
    ((@after blockSize requests).serve (.call handle (.read block buffer))).1 =
      .read (.error error) left → left = buffer

/-- For every size of blocks, the disks of a directory are growing lists of
blocks, whichever are opened, cloned and removed in between. -/
theorem actsAsBlocks (positive : 0 < blockSize) (requests : List DiskRequest) :
    ActsAsBlocks blockSize requests := by
  obtain ⟨answers_eq, represents⟩ := (@represents_empty blockSize).run positive requests
  constructor
  case answers_eq => exact answers_eq
  case represents => exact represents
  case kept => exact fun _ _ _ _ => BlockShelf.getElem?_blocks_serve
  case volume_of_fails => exact fun _ => volume_of_serve_fails
  case buffer_of_fails => exact fun _ _ _ _ _ => buffer_of_read_eq_error

/-- A file of blocks of eight bytes that is created again under a live clone. -/
theorem actsAsBlocks_recreated : 0 < 8 ∧ ActsAsBlocks 8
    [.opening 0 "a" true, .call 0 .grow, .call 0 (.clone 1), .opening 2 "a" true,
      .call 1 (.read 0 (Bytes.zeros 8))] :=
  have positive : 0 < 8 := by decide
  ⟨positive, actsAsBlocks positive _⟩

end DiskUse

end DemandPaging
