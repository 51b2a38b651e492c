import DemandPaging.Bytes
import DemandPaging.Text.Digits

/-!
# Physical memory

The main memory of the machine: one flat array of bytes, seen either as bytes
at addresses or as frames of one page each.  Frame `n` is the run of bytes that
starts at `n * pageSize`.  Every access is checked before anything is changed.
-/

namespace DemandPaging

/-- Why an access to physical memory was refused. -/
inductive MemoryError where
  | overCapacity (address length : Nat)
  | invalidFrame (frame : Nat)
  | incorrectFrameSize (size : Nat)
  deriving DecidableEq, Repr

namespace MemoryError

def message : MemoryError → String
  | overCapacity address length =>
    s!"access of {length} bytes at {Text.hexadecimal address} is out of physical memory"
  | invalidFrame frame => s!"frame {frame} does not exist"
  | incorrectFrameSize size => s!"buffer of {size} bytes does not match the frame size"

end MemoryError

/-- A memory of `numFrames` frames.  Pages come in powers of two only. -/
structure PhysicalMemory (pageSize : Nat) where
  numFrames : Nat
  bytes : Vector UInt8 (numFrames * pageSize)
  isPowerOfTwo : pageSize.isPowerOfTwo

namespace PhysicalMemory

variable {pageSize : Nat}

/-- A memory of `numFrames` frames, all zero; none unless the page size is a
power of two. -/
def create? (numFrames : Nat) : Option (PhysicalMemory pageSize) :=
  if isPowerOfTwo : pageSize.isPowerOfTwo then
    some {
      numFrames := numFrames
      bytes := Vector.replicate (numFrames * pageSize) 0
      isPowerOfTwo := isPowerOfTwo }
  else
    none

theorem pageSize_pos (memory : PhysicalMemory pageSize) : 0 < pageSize :=
  Nat.pos_of_isPowerOfTwo memory.isPowerOfTwo

def capacity (memory : PhysicalMemory pageSize) : Nat :=
  memory.numFrames * pageSize

def content (memory : PhysicalMemory pageSize) : Bytes :=
  memory.bytes.toArray

def summary (memory : PhysicalMemory pageSize) : String :=
  s!"PhysicalMemory \x7b page_size: {pageSize}, num_frames: {memory.numFrames} \x7d"

/-- Whether `length` bytes from `address` on lie inside the memory.  The end of
the range is an unbounded number, so it never wraps around. -/
def checkRange (memory : PhysicalMemory pageSize) (address length : Nat) :
    Except MemoryError Unit :=
  if address + length ≤ memory.capacity then
    .ok ()
  else
    .error (.overCapacity address length)

/-- Whether `frame` exists and a buffer of `size` bytes is one page; a missing
frame is reported first. -/
def checkFrame (memory : PhysicalMemory pageSize) (frame size : Nat) :
    Except MemoryError Unit :=
  if memory.numFrames ≤ frame then
    .error (.invalidFrame frame)
  else if size ≠ pageSize then
    .error (.incorrectFrameSize size)
  else
    .ok ()

/-- The memory with `data` written over the bytes from `address` on. -/
def overwrite (memory : PhysicalMemory pageSize) (address : Nat) (data : Bytes) :
    PhysicalMemory pageSize :=
  { memory with
    bytes := ⟨memory.content.overwrite address data, by simp [content]⟩ }

def read (memory : PhysicalMemory pageSize) (address length : Nat) :
    Except MemoryError Bytes := do
  memory.checkRange address length
  return memory.content.slice address length

def write (memory : PhysicalMemory pageSize) (address : Nat) (data : Bytes) :
    Except MemoryError (PhysicalMemory pageSize) := do
  memory.checkRange address data.size
  return memory.overwrite address data

def readByte (memory : PhysicalMemory pageSize) (address : Nat) :
    Except MemoryError UInt8 := do
  let bytes ← memory.read address 1
  return bytes.getD 0 0

def writeByte (memory : PhysicalMemory pageSize) (address : Nat) (byte : UInt8) :
    Except MemoryError (PhysicalMemory pageSize) :=
  memory.write address #[byte]

def readFrame (memory : PhysicalMemory pageSize) (frame size : Nat) :
    Except MemoryError Bytes := do
  memory.checkFrame frame size
  memory.read (frame * pageSize) size

def writeFrame (memory : PhysicalMemory pageSize) (frame : Nat) (data : Bytes) :
    Except MemoryError (PhysicalMemory pageSize) := do
  memory.checkFrame frame data.size
  memory.write (frame * pageSize) data

theorem size_slice_frame (memory : PhysicalMemory pageSize) {frame : Nat}
    (inside : frame < memory.numFrames) :
    (memory.content.slice (frame * pageSize) pageSize).size = pageSize := by
  have ends := Nat.mul_le_mul_right pageSize inside
  rw [Nat.succ_mul] at ends
  exact Bytes.size_slice (by simpa [content] using ends)

/-- Let `change` work on the content of `frame`, and return what it returns
with the changed memory. -/
def withFrame {Result : Type} (memory : PhysicalMemory pageSize) (frame : Nat)
    (change : Page pageSize → Result × Page pageSize) :
    Except MemoryError (Result × PhysicalMemory pageSize) :=
  if inside : frame < memory.numFrames then
    let content := ⟨memory.content.slice (frame * pageSize) pageSize,
      memory.size_slice_frame inside⟩
    let (result, changed) := change content
    .ok (result, memory.overwrite (frame * pageSize) changed.toArray)
  else
    .error (.invalidFrame frame)

def zeroFrame (memory : PhysicalMemory pageSize) (frame : Nat) :
    Except MemoryError (PhysicalMemory pageSize) := do
  memory.checkFrame frame pageSize
  return memory.overwrite (frame * pageSize) (Bytes.zeros pageSize)

theorem content_overwrite (memory : PhysicalMemory pageSize) (address : Nat) (data : Bytes) :
    (memory.overwrite address data).content = memory.content.overwrite address data :=
  rfl

theorem size_content (memory : PhysicalMemory pageSize) :
    memory.content.size = memory.numFrames * pageSize :=
  Vector.size_toArray _

theorem checkRange_eq_ok_iff {memory : PhysicalMemory pageSize} {address length : Nat} :
    memory.checkRange address length = .ok () ↔ address + length ≤ memory.capacity := by
  rw [checkRange]
  split <;> simp_all

theorem of_read_eq_ok {memory : PhysicalMemory pageSize} {address length : Nat} {bytes : Bytes}
    (done : memory.read address length = .ok bytes) :
    address + length ≤ memory.capacity ∧ bytes = Bytes.slice memory.content address length := by
  rw [read] at done
  cases checked : memory.checkRange address length with
  | error error =>
    rw [checked] at done
    cases done
  | ok =>
    rw [checked] at done
    exact ⟨checkRange_eq_ok_iff.mp checked, (Except.ok.inj done).symm⟩

theorem of_write_eq_ok {memory written : PhysicalMemory pageSize} {address : Nat} {data : Bytes}
    (done : memory.write address data = .ok written) :
    address + data.size ≤ memory.capacity ∧ written = memory.overwrite address data := by
  rw [write] at done
  cases checked : memory.checkRange address data.size with
  | error error =>
    rw [checked] at done
    cases done
  | ok =>
    rw [checked] at done
    exact ⟨checkRange_eq_ok_iff.mp checked, (Except.ok.inj done).symm⟩

theorem read_eq_ok {memory : PhysicalMemory pageSize} {address length : Nat}
    (inside : address + length ≤ memory.capacity) :
    memory.read address length = .ok (Bytes.slice memory.content address length) := by
  rw [read, checkRange_eq_ok_iff.mpr inside]
  rfl

theorem write_eq_ok {memory : PhysicalMemory pageSize} {address : Nat} {data : Bytes}
    (inside : address + data.size ≤ memory.capacity) :
    memory.write address data = .ok (memory.overwrite address data) := by
  rw [write, checkRange_eq_ok_iff.mpr inside]
  rfl

section Frames

variable {memory : PhysicalMemory pageSize} {frame : Nat}

theorem checkFrame_eq_ok (inside : frame < memory.numFrames) :
    memory.checkFrame frame pageSize = .ok () := by
  rw [checkFrame, if_neg (Nat.not_le.mpr inside), if_neg (fun differs => differs rfl)]

/-- Every frame ends inside the memory. -/
theorem frame_ends_le_capacity (inside : frame < memory.numFrames) :
    frame * pageSize + pageSize ≤ memory.capacity := by
  rw [← Nat.succ_mul]
  exact Nat.mul_le_mul_right pageSize inside

theorem checkRange_frame_eq_ok (inside : frame < memory.numFrames) :
    memory.checkRange (frame * pageSize) pageSize = .ok () :=
  checkRange_eq_ok_iff.mpr (frame_ends_le_capacity inside)

theorem readFrame_eq_ok (inside : frame < memory.numFrames) :
    memory.readFrame frame pageSize =
      .ok (Bytes.slice memory.content (frame * pageSize) pageSize) := by
  simp only [readFrame, read, checkFrame_eq_ok inside, checkRange_frame_eq_ok inside]
  rfl

theorem writeFrame_eq_ok (inside : frame < memory.numFrames) {data : Bytes}
    (fits : data.size = pageSize) :
    memory.writeFrame frame data = .ok (memory.overwrite (frame * pageSize) data) := by
  simp only [writeFrame, write, fits, checkFrame_eq_ok inside, checkRange_frame_eq_ok inside]
  rfl

theorem zeroFrame_eq_ok (inside : frame < memory.numFrames) :
    memory.zeroFrame frame =
      .ok (memory.overwrite (frame * pageSize) (Bytes.zeros pageSize)) := by
  simp only [zeroFrame, checkFrame_eq_ok inside]
  rfl

end Frames

end PhysicalMemory

end DemandPaging
