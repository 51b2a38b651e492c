import DemandPaging.PhysicalMemory
import DemandPaging.Storage.SwapArea

/-!
# Storage without its bytes

Wiping a memory or a volume turns every byte into zero and leaves everything
else alone.  Each request to the storage goes the same way after a wipe as
before it: what comes of it is what came of it before, with its bytes wiped.
-/

namespace DemandPaging

namespace Bytes

/-- As many bytes, all of them zero. -/
def blank (bytes : Bytes) : Bytes :=
  zeros bytes.size

@[simp]
theorem size_blank (bytes : Bytes) : bytes.blank.size = bytes.size :=
  size_zeros bytes.size

theorem blank_eq_blank_iff {first second : Bytes} :
    first.blank = second.blank ↔ first.size = second.size := by
  constructor
  · intro same
    rw [← size_blank first, same, size_blank]
  · intro same
    rw [blank, blank, same]

@[simp]
theorem blank_zeros (count : Nat) : (zeros count).blank = zeros count := by
  rw [blank, size_zeros]

@[simp]
theorem blank_blank (bytes : Bytes) : bytes.blank.blank = bytes.blank :=
  blank_zeros bytes.size

theorem blank_append (first second : Bytes) :
    (first ++ second).blank = first.blank ++ second.blank := by
  simp [blank, zeros]

theorem blank_slice (bytes : Bytes) (start count : Nat) :
    (slice bytes start count).blank = slice bytes.blank start count := by
  simp [blank, zeros, slice, Array.extract_replicate]

theorem overwrite_zeros (size start count : Nat) :
    overwrite (zeros size) start (zeros count) = zeros size := by
  apply Array.ext_getElem?
  intro index
  simp only [getElem?_overwrite, zeros, Array.getElem?_replicate, Array.size_replicate]
  split
  · rw [if_pos (by omega), if_pos (by omega)]
  · rfl

theorem blank_overwrite (bytes : Bytes) (start : Nat) (data : Bytes) :
    (overwrite bytes start data).blank = overwrite bytes.blank start data.blank := by
  rw [blank, blank, blank, overwrite_zeros, size_overwrite]

theorem blank_resize (bytes : Bytes) (count : Nat) :
    (bytes.resize count).blank = bytes.blank.resize count := by
  rw [resize, resize, blank_append, blank_slice, size_blank, blank_zeros]

end Bytes

namespace PhysicalMemory

variable {pageSize : Nat}

def blank (memory : PhysicalMemory pageSize) : PhysicalMemory pageSize :=
  { memory with bytes := .replicate _ 0 }

variable (memory : PhysicalMemory pageSize)

theorem content_blank : memory.blank.content = memory.content.blank := by
  simp [content, blank, Bytes.blank, Bytes.zeros]

theorem blank_overwrite (address : Nat) (data : Bytes) :
    (memory.overwrite address data).blank = memory.blank.overwrite address data.blank := by
  have wiped : memory.blank.content.overwrite address data.blank = memory.blank.content := by
    rw [content_blank, ← Bytes.blank_blank memory.content]
    exact Bytes.overwrite_zeros _ _ _
  change memory.blank = memory.blank.overwrite address data.blank
  simp only [overwrite, wiped]
  rfl

theorem read_blank (address length : Nat) :
    memory.blank.read address length = (memory.read address length).map Bytes.blank := by
  rw [read, read, content_blank, ← Bytes.blank_slice]
  change (memory.checkRange address length >>= _) = _
  cases memory.checkRange address length <;> rfl

theorem write_blank (address : Nat) (data : Bytes) :
    memory.blank.write address data.blank = (memory.write address data).map blank := by
  rw [write, write, Bytes.size_blank, ← blank_overwrite]
  change (memory.checkRange address data.size >>= _) = _
  cases memory.checkRange address data.size <;> rfl

theorem readFrame_blank (frame size : Nat) :
    memory.blank.readFrame frame size = (memory.readFrame frame size).map Bytes.blank := by
  rw [readFrame, readFrame, read_blank]
  change (memory.checkFrame frame size >>= _) = _
  cases memory.checkFrame frame size <;> rfl

theorem writeFrame_blank (frame : Nat) (data : Bytes) :
    memory.blank.writeFrame frame data.blank = (memory.writeFrame frame data).map blank := by
  rw [writeFrame, writeFrame, Bytes.size_blank, write_blank]
  change (memory.checkFrame frame data.size >>= _) = _
  cases memory.checkFrame frame data.size <;> rfl

/-- A wiped page is a page of zeros. -/
theorem writeFrame_zeros (frame : Nat) (content : Page pageSize) :
    memory.blank.writeFrame frame (Vector.replicate pageSize 0).toArray =
      (memory.writeFrame frame content.toArray).map blank := by
  have wiped : (Vector.replicate pageSize 0).toArray = Bytes.blank content.toArray := by
    simp [Bytes.blank, Bytes.zeros]
  rw [wiped, writeFrame_blank]

theorem zeroFrame_blank (frame : Nat) :
    memory.blank.zeroFrame frame = (memory.zeroFrame frame).map blank := by
  rw [zeroFrame, zeroFrame, ← Bytes.blank_zeros, ← blank_overwrite, Bytes.blank_zeros]
  change (memory.checkFrame frame pageSize >>= _) = _
  cases memory.checkFrame frame pageSize <;> rfl

end PhysicalMemory

namespace Volume

def blank (volume : Volume) : Volume :=
  { volume with files := volume.files.map Bytes.blank }

variable (volume : Volume)

theorem content_blank (file : FileNumber) :
    volume.blank.content file = (volume.content file).blank := by
  simp only [content, blank, Array.getD_eq_getD_getElem?, Array.getElem?_map]
  cases volume.files[file]? <;> rfl

theorem modify_blank (file : FileNumber) {change wiped : Bytes → Bytes}
    (wipes : ∀ bytes, (change bytes).blank = wiped bytes.blank) :
    volume.blank.modify file wiped = (volume.modify file change).blank := by
  simp only [modify, blank]
  congr 1
  apply Array.ext_getElem?
  intro index
  simp only [Array.getElem?_modify, Array.getElem?_map]
  split
  · cases volume.files[index]? with
    | none => rfl
    | some bytes => exact congrArg some (wipes bytes).symm
  · rfl

theorem setLength_blank (file : FileNumber) (length : Nat) :
    volume.blank.setLength file length = (volume.setLength file length).blank :=
  volume.modify_blank file fun bytes => bytes.blank_resize length

theorem remove_blank (name : String) :
    volume.blank.remove name = (volume.remove name).map blank := by
  rw [remove, remove]
  change (volume.checkPath name false >>= _) = _
  cases volume.checkPath name false with
  | error error => rfl
  | ok =>
    change (if volume.hasFile name then _ else _) =
      Except.map blank (if volume.hasFile name then _ else _)
    split <;> rfl

end Volume

namespace Disk

variable {blockSize : Nat} (disk : Disk blockSize) (volume : Volume)

theorem byteLength_blank : disk.byteLength volume.blank = disk.byteLength volume := by
  rw [byteLength, Volume.content_blank, Bytes.size_blank, byteLength]

theorem checkBlock_blank (block size : Nat) :
    disk.checkBlock volume.blank block size = disk.checkBlock volume block size := by
  rw [checkBlock, byteLength_blank, checkBlock]

theorem grow_blank : disk.grow volume.blank = Prod.map id Volume.blank (disk.grow volume) := by
  rw [grow, grow, blockCount, byteLength_blank, Volume.setLength_blank]
  rfl

theorem tryGrow_blank (trouble : Option Trouble) :
    disk.tryGrow volume.blank trouble =
      (disk.tryGrow volume trouble).map (Prod.map id Volume.blank) := by
  match trouble with
  | none => exact congrArg Except.ok (grow_blank disk volume)
  | some (.refused error) => rfl
  | some (.brokenOff error reached) => exact congrArg Except.ok (grow_blank disk volume)

theorem tryRead_blank (block size : Nat) (trouble : Option Trouble) :
    disk.tryRead volume.blank block size trouble =
      (disk.tryRead volume block size trouble).map Bytes.blank := by
  match trouble with
  | none =>
    simp only [tryRead, read, checkBlock_blank, Volume.content_blank, ← Bytes.blank_slice]
    cases disk.checkBlock volume block size <;> rfl
  | some (.refused error) => rfl
  | some (.brokenOff error reached) =>
    simp only [tryRead, checkBlock_blank]
    cases disk.checkBlock volume block size <;> rfl

theorem tryWrite_blank (block : Nat) (data : Bytes) (trouble : Option Trouble) :
    disk.tryWrite volume.blank block data.blank trouble =
      Prod.map id Volume.blank (disk.tryWrite volume block data trouble) := by
  have overwrites : ∀ part : Bytes,
      volume.blank.modify disk.file (fun bytes => bytes.overwrite (block * blockSize) part.blank) =
        (volume.modify disk.file fun bytes => bytes.overwrite (block * blockSize) part).blank :=
    fun part => volume.modify_blank disk.file fun bytes => bytes.blank_overwrite _ part
  match trouble with
  | none =>
    simp only [tryWrite, write, checkBlock_blank, Bytes.size_blank, overwrites]
    cases disk.checkBlock volume block data.size <;> rfl
  | some (.refused error) => rfl
  | some (.brokenOff error reached) =>
    simp only [tryWrite, checkBlock_blank, Bytes.size_blank, ← Bytes.blank_slice, overwrites]
    cases disk.checkBlock volume block data.size <;> rfl

theorem tryRemove_blank (trouble : Option Trouble) :
    disk.tryRemove volume.blank trouble =
      (disk.tryRemove volume trouble).map Volume.blank := by
  cases trouble with
  | none =>
    rw [tryRemove, tryRemove, remove, remove, Volume.remove_blank]
    cases volume.remove (imageName disk.name) <;> rfl
  | some trouble => rfl

end Disk

namespace SwapArea

variable {Key : Type} {pageSize : Nat} (area : SwapArea Key pageSize) (volume : Volume)

theorem allocate_blank (trouble : Option Trouble) :
    area.allocate volume.blank trouble =
      (area.allocate volume trouble).map (Prod.map id (Prod.map id Volume.blank)) := by
  rw [allocate, allocate, Disk.tryGrow_blank]
  split
  · rfl
  split
  · rfl
  · cases area.disk.tryGrow volume trouble <;> rfl

theorem read_blank (slot size : Nat) (trouble : Option Trouble) :
    area.read volume.blank slot size trouble =
      (area.read volume slot size trouble).map Bytes.blank := by
  rw [read, read, Disk.tryRead_blank]
  split
  · rfl
  split
  · rfl
  split
  · rfl
  · cases area.disk.tryRead volume slot size trouble <;> rfl

theorem close_blank (trouble : Option Trouble) :
    area.close volume.blank trouble =
      Prod.map id (Prod.map id Volume.blank) (area.close volume trouble) := by
  rw [close, close, Disk.tryRemove_blank]
  split
  · rfl
  · cases area.disk.tryRemove volume trouble <;> rfl

theorem write_blank [DecidableEq Key] (key : Key) (data : Bytes) (trouble : Option Trouble) :
    area.write volume.blank key data.blank trouble =
      Prod.map id (Prod.map id Volume.blank) (area.write volume key data trouble) := by
  rw [write, write, Bytes.size_blank, allocate_blank]
  split
  · rfl
  split
  · rfl
  cases area.slotOf? key with
  | some slot =>
    simp only [Disk.tryWrite_blank]
    obtain ⟨error | ⟨⟩, written⟩ := area.disk.tryWrite volume slot data trouble <;> rfl
  | none =>
    cases area.allocate volume trouble with
    | error error => rfl
    | ok allocated =>
      obtain ⟨slot, next, grown⟩ := allocated
      simp only [Except.map, Prod.map, id, Disk.tryWrite_blank]
      obtain ⟨error | ⟨⟩, written⟩ := next.disk.tryWrite grown slot data trouble <;> rfl

end SwapArea

end DemandPaging
