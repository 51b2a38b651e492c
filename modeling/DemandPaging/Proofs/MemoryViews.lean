import DemandPaging.PhysicalMemory
import DemandPaging.Proofs.SwapContents
import Mathlib.Algebra.Group.Nat.Defs

/-!
# A memory is one array of bytes

Whether a memory is asked for bytes at addresses or for whole frames, it
answers what one flat array of bytes answers, in which frame `n` is the run of
bytes that starts at `n * pageSize`.  All clones of a memory share its bytes and
take turns, so the requests of a run may come from any of them.

The end of a range is computed in machine words, which cannot hold every sum.
A sum that does not fit is found out, so ranges are refused as if their ends
were computed with unbounded numbers.
-/

namespace DemandPaging

/-- What is asked of a memory.  A function that works on a frame may return
something of type `Result`. -/
inductive MemoryRequest (pageSize : Nat) (Result : Type) where
  | read (address length : Nat)
  | write (address : Nat) (data : Bytes)
  | readByte (address : Nat)
  | writeByte (address : Nat) (byte : UInt8)
  | readFrame (frame size : Nat)
  | writeFrame (frame : Nat) (data : Bytes)
  | zeroFrame (frame : Nat)
  | withFrame (frame : Nat) (change : Page pageSize → Result × Page pageSize)

/-- What a memory answers. -/
inductive MemoryAnswer (Result : Type) where
  | refused (error : MemoryError)
  | bytes (data : Bytes)
  | byte (byte : UInt8)
  | changed
  | returned (result : Result)

namespace MemoryRequest

variable {pageSize : Nat} {Result : Type}

/-- The frame that a request is about, if it is about a frame. -/
def frame? : MemoryRequest pageSize Result → Option Nat
  | readFrame frame _ => some frame
  | writeFrame frame _ => some frame
  | zeroFrame frame => some frame
  | withFrame frame _ => some frame
  | _ => none

/-- Why `length` bytes from `address` on are refused, if they are. -/
def rangeRefusal? (capacity address length : Nat) : Option MemoryError :=
  if address + length ≤ capacity then none else some (.overCapacity address length)

/-- Why a frame is refused for a buffer of `size` bytes, if it is. -/
def frameRefusal? (pageSize numFrames frame size : Nat) : Option MemoryError :=
  if numFrames ≤ frame then some (.invalidFrame frame)
  else if size ≠ pageSize then some (.incorrectFrameSize size)
  else none

/-- Why a request to `numFrames` frames is refused, if it is. -/
def refusal? (numFrames : Nat) : MemoryRequest pageSize Result → Option MemoryError
  | read address length => rangeRefusal? (numFrames * pageSize) address length
  | write address data => rangeRefusal? (numFrames * pageSize) address data.size
  | readByte address => rangeRefusal? (numFrames * pageSize) address 1
  | writeByte address _ => rangeRefusal? (numFrames * pageSize) address 1
  | readFrame frame size => frameRefusal? pageSize numFrames frame size
  | writeFrame frame data => frameRefusal? pageSize numFrames frame data.size
  | zeroFrame frame => frameRefusal? pageSize numFrames frame pageSize
  | withFrame frame _ => frameRefusal? pageSize numFrames frame pageSize

end MemoryRequest

/-- The bytes of an array by their positions. -/
abbrev Cells := Nat → UInt8

namespace Cells

variable {pageSize : Nat} {Result : Type}

/-- The `count` bytes from `start` on. -/
def take (cells : Cells) (start count : Nat) : Bytes :=
  Array.ofFn fun index : Fin count => cells (start + index)

/-- The bytes with `data` in place of those from `start` on. -/
def put (cells : Cells) (start : Nat) (data : Bytes) : Cells := fun position =>
  if start ≤ position ∧ position < start + data.size then data.getD (position - start) 0
  else cells position

def page (cells : Cells) (frame : Nat) : Page pageSize :=
  Vector.ofFn fun index : Fin pageSize => cells (frame * pageSize + index)

/-- What an array answers to a request that is not refused. -/
def grant (cells : Cells) : MemoryRequest pageSize Result → MemoryAnswer Result × Cells
  | .read address length => (.bytes (cells.take address length), cells)
  | .write address data => (.changed, cells.put address data)
  | .readByte address => (.byte (cells address), cells)
  | .writeByte address byte => (.changed, cells.put address #[byte])
  | .readFrame frame _ => (.bytes (cells.take (frame * pageSize) pageSize), cells)
  | .writeFrame frame data => (.changed, cells.put (frame * pageSize) data)
  | .zeroFrame frame => (.changed, cells.put (frame * pageSize) (Bytes.zeros pageSize))
  | .withFrame frame change =>
    let (result, content) := change (cells.page frame)
    (.returned result, cells.put (frame * pageSize) content.toArray)

/-- What the array of the bytes of `numFrames` frames answers to a request, and
what it becomes.  A request that is refused changes nothing. -/
def serve (numFrames : Nat) (cells : Cells) (request : MemoryRequest pageSize Result) :
    MemoryAnswer Result × Cells :=
  match request.refusal? numFrames with
  | some error => (.refused error, cells)
  | none => cells.grant request

/-- The answers to a run of requests, and the array after it. -/
def run (numFrames : Nat) (cells : Cells) :
    List (MemoryRequest pageSize Result) → List (MemoryAnswer Result) × Cells
  | [] => ([], cells)
  | request :: rest =>
    let (answer, next) := serve numFrames cells request
    let (answers, last) := run numFrames next rest
    (answer :: answers, last)

section Frames

variable {cells : Cells} {numFrames frame other : Nat}

theorem put_of_outside {start position : Nat} {data : Bytes}
    (outside : position < start ∨ start + data.size ≤ position) :
    cells.put start data position = cells position :=
  if_neg (by omega)

/-- What fits into one frame leaves the others alone. -/
theorem take_put_of_ne {data : Bytes} (fits : data.size ≤ pageSize) (differs : other ≠ frame) :
    (cells.put (frame * pageSize) data).take (other * pageSize) pageSize =
      cells.take (other * pageSize) pageSize := by
  have apart := @SwapArea.slots_apart pageSize _ _ differs
  apply congrArg Array.ofFn
  funext index
  have near := index.isLt
  exact put_of_outside (by omega)

theorem frameRefusal?_eq_none_iff {size : Nat} :
    MemoryRequest.frameRefusal? pageSize numFrames frame size = none ↔
      frame < numFrames ∧ size = pageSize := by
  unfold MemoryRequest.frameRefusal?
  split
  · simp
    omega
  · split <;> simp_all

/-- A request about a frame leaves all other frames alone. -/
theorem take_serve_of_ne {request : MemoryRequest pageSize Result}
    (about : request.frame? = some frame) (differs : other ≠ frame) :
    (cells.serve numFrames request).2.take (other * pageSize) pageSize =
      cells.take (other * pageSize) pageSize := by
  unfold serve
  cases refusal : request.refusal? numFrames with
  | some error => rfl
  | none =>
    cases request with
    | read address length => cases about
    | write address data => cases about
    | readByte address => cases about
    | writeByte address byte => cases about
    | readFrame frame size => rfl
    | writeFrame frame data =>
      cases about
      exact take_put_of_ne (Nat.le_of_eq (frameRefusal?_eq_none_iff.mp refusal).2) differs
    | zeroFrame frame =>
      cases about
      exact take_put_of_ne (Nat.le_of_eq (Bytes.size_zeros pageSize)) differs
    | withFrame frame change =>
      cases about
      exact take_put_of_ne (Nat.le_of_eq (Vector.size_toArray _)) differs

end Frames

end Cells

/-- The sum of two machine words, unless it is too large for a word: a sum that
wraps around is smaller than what was added. -/
def wordSum? (first second : UInt64) : Option UInt64 :=
  let sum := first + second
  if sum < first then none else some sum

theorem wordSum?_eq (first second : UInt64) : wordSum? first second =
    if first.toNat + second.toNat < 2 ^ 64 then some (first + second) else none := by
  have small := first.toNat_lt
  have alsoSmall := second.toNat_lt
  unfold wordSum?
  simp only [UInt64.lt_iff_toNat_lt, UInt64.toNat_add]
  by_cases fits : first.toNat + second.toNat < 2 ^ 64
  · rw [Nat.mod_eq_of_lt fits, if_pos fits, if_neg (by omega)]
  · rw [if_neg fits, if_pos (by omega)]

/-- The frames of a memory that machine words can address begin and end where
they do in unbounded numbers. -/
theorem toNat_frame_mul {numFrames pageSize : Nat} (fits : numFrames * pageSize < 2 ^ 64)
    {frame : UInt64} (inside : frame.toNat < numFrames) :
    (frame * .ofNat pageSize).toNat = frame.toNat * pageSize ∧
      ((frame + 1) * .ofNat pageSize).toNat = (frame.toNat + 1) * pageSize := by
  have ends : (frame.toNat + 1) * pageSize < 2 ^ 64 :=
    Nat.lt_of_le_of_lt (Nat.mul_le_mul_right pageSize inside) fits
  have starts : frame.toNat * pageSize < 2 ^ 64 :=
    Nat.lt_of_le_of_lt (Nat.mul_le_mul_right pageSize (Nat.le_succ _)) ends
  simp only [UInt64.toNat_mul, UInt64.toNat_add, UInt64.toNat_ofNat', UInt64.toNat_one,
    Nat.mul_mod_mod, Nat.mod_mul_mod]
  exact ⟨Nat.mod_eq_of_lt starts, Nat.mod_eq_of_lt ends⟩

namespace PhysicalMemory

variable {pageSize : Nat} {Result : Type}

/-- Whether `length` bytes from `address` on lie inside the memory, computed in
machine words. -/
def checkWords (memory : PhysicalMemory pageSize) (address length : UInt64) :
    Except MemoryError Unit :=
  match wordSum? address length with
  | some ending =>
    if ending ≤ UInt64.ofNat memory.numFrames * UInt64.ofNat pageSize then .ok ()
    else .error (.overCapacity address.toNat length.toNat)
  | none => .error (.overCapacity address.toNat length.toNat)

/-- Words are enough to check the ranges of a memory that they can address. -/
theorem checkWords_eq {memory : PhysicalMemory pageSize} (fits : memory.capacity < 2 ^ 64)
    (address length : UInt64) :
    memory.checkWords address length = memory.checkRange address.toNat length.toNat := by
  have limit : (UInt64.ofNat memory.numFrames * UInt64.ofNat pageSize).toNat = memory.capacity := by
    rw [← UInt64.ofNat_mul, UInt64.toNat_ofNat', ← capacity, Nat.mod_eq_of_lt fits]
  unfold checkWords checkRange
  rw [wordSum?_eq]
  by_cases sumFits : address.toNat + length.toNat < 2 ^ 64
  · rw [if_pos sumFits]
    simp only [UInt64.le_iff_toNat_le, UInt64.toNat_add, limit, Nat.mod_eq_of_lt sumFits]
  · rw [if_neg sumFits, if_neg (by omega)]

/-- Answer a request by the outcome of an access: tell what came of it, or
refuse it and leave the memory alone. -/
def conclude {Item : Type} (memory : PhysicalMemory pageSize) (outcome : Except MemoryError Item)
    (tell : Item → MemoryAnswer Result × PhysicalMemory pageSize) :
    MemoryAnswer Result × PhysicalMemory pageSize :=
  match outcome with
  | .ok item => tell item
  | .error error => (.refused error, memory)

/-- Answer one request. -/
def serve (memory : PhysicalMemory pageSize) :
    MemoryRequest pageSize Result → MemoryAnswer Result × PhysicalMemory pageSize
  | .read address length =>
    memory.conclude (memory.read address length) fun data => (.bytes data, memory)
  | .write address data => memory.conclude (memory.write address data) (.changed, ·)
  | .readByte address =>
    memory.conclude (memory.readByte address) fun byte => (.byte byte, memory)
  | .writeByte address byte => memory.conclude (memory.writeByte address byte) (.changed, ·)
  | .readFrame frame size =>
    memory.conclude (memory.readFrame frame size) fun data => (.bytes data, memory)
  | .writeFrame frame data => memory.conclude (memory.writeFrame frame data) (.changed, ·)
  | .zeroFrame frame => memory.conclude (memory.zeroFrame frame) (.changed, ·)
  | .withFrame frame change =>
    memory.conclude (memory.withFrame frame change) fun done => (.returned done.1, done.2)

/-- The answers to a run of requests, and the memory after it. -/
def run (memory : PhysicalMemory pageSize) :
    List (MemoryRequest pageSize Result) → List (MemoryAnswer Result) × PhysicalMemory pageSize
  | [] => ([], memory)
  | request :: rest =>
    let (answer, next) := memory.serve request
    let (answers, last) := next.run rest
    (answer :: answers, last)

/-- The bytes of a memory are those of an array. -/
structure Holds (memory : PhysicalMemory pageSize) (numFrames : Nat) (cells : Cells) : Prop where
  numFrames_eq : memory.numFrames = numFrames
  getElem?_eq : ∀ position < numFrames * pageSize,
    memory.content[position]? = some (cells position)

section Holding

variable {memory : PhysicalMemory pageSize} {numFrames : Nat} {cells : Cells}

theorem Holds.capacity_eq (holds : memory.Holds numFrames cells) :
    memory.capacity = numFrames * pageSize := by
  rw [capacity, holds.numFrames_eq]

theorem Holds.slice_eq (holds : memory.Holds numFrames cells) {start count : Nat}
    (inside : start + count ≤ numFrames * pageSize) :
    Bytes.slice memory.content start count = cells.take start count := by
  apply Array.ext_getElem?
  intro index
  rw [Bytes.getElem?_slice, Cells.take, Array.getElem?_ofFn]
  by_cases before : index < count
  · rw [if_pos before, dif_pos before, holds.getElem?_eq _ (by omega)]
  · rw [if_neg before, dif_neg before]

theorem Holds.overwrite (holds : memory.Holds numFrames cells) (start : Nat) (data : Bytes) :
    (memory.overwrite start data).Holds numFrames (cells.put start data) where
  numFrames_eq := holds.numFrames_eq
  getElem?_eq position within := by
    have stored : position < memory.content.size := by
      rw [size_content, holds.numFrames_eq]
      exact within
    rw [content_overwrite, Bytes.getElem?_overwrite, Cells.put]
    by_cases written : start ≤ position ∧ position < start + data.size
    · rw [if_pos ⟨written.1, written.2, stored⟩, if_pos written, Array.getD_eq_getD_getElem?,
        Array.getElem?_eq_getElem (by omega), Option.getD_some]
    · rw [if_neg (by omega), if_neg written, holds.getElem?_eq position within]

theorem Holds.getD_slice_one (holds : memory.Holds numFrames cells) {address : Nat}
    (inside : address + 1 ≤ numFrames * pageSize) :
    (Bytes.slice memory.content address 1).getD 0 0 = cells address := by
  rw [holds.slice_eq inside]
  simp [Cells.take]

theorem Holds.page_eq (holds : memory.Holds numFrames cells) {frame : Nat}
    (inside : frame < memory.numFrames) :
    (⟨Bytes.slice memory.content (frame * pageSize) pageSize, memory.size_slice_frame inside⟩ :
      Page pageSize) = cells.page frame := by
  have ends := frame_ends_le_capacity inside
  rw [holds.capacity_eq] at ends
  apply Vector.toArray_inj.mp
  change Bytes.slice memory.content (frame * pageSize) pageSize = _
  rw [holds.slice_eq ends]
  rfl

end Holding

/-- The outcome of an access that is refused for a reason, or gives `item`. -/
def unlessBarred {Item : Type} (refusal? : Option MemoryError) (item : Item) :
    Except MemoryError Item :=
  match refusal? with
  | some error => .error error
  | none => .ok item

section Refusals

open MemoryRequest Cells

variable {memory : PhysicalMemory pageSize}

theorem read_eq (memory : PhysicalMemory pageSize) (address length : Nat) :
    memory.read address length = unlessBarred (rangeRefusal? memory.capacity address length)
      (Bytes.slice memory.content address length) := by
  unfold read checkRange rangeRefusal?
  split <;> rfl

theorem write_eq (memory : PhysicalMemory pageSize) (address : Nat) (data : Bytes) :
    memory.write address data = unlessBarred (rangeRefusal? memory.capacity address data.size)
      (memory.overwrite address data) := by
  unfold write checkRange rangeRefusal?
  split <;> rfl

theorem readByte_eq (memory : PhysicalMemory pageSize) (address : Nat) :
    memory.readByte address = unlessBarred (rangeRefusal? memory.capacity address 1)
      ((Bytes.slice memory.content address 1).getD 0 0) := by
  unfold readByte
  rw [read_eq]
  cases rangeRefusal? memory.capacity address 1 <;> rfl

theorem checkFrame_eq (memory : PhysicalMemory pageSize) (frame size : Nat) :
    memory.checkFrame frame size =
      unlessBarred (frameRefusal? pageSize memory.numFrames frame size) () := by
  unfold checkFrame frameRefusal?
  split
  · rfl
  · split <;> rfl

/-- A frame that exists lies inside the memory, so only the checks of the frame
count. -/
theorem readFrame_eq (memory : PhysicalMemory pageSize) (frame size : Nat) :
    memory.readFrame frame size =
      unlessBarred (frameRefusal? pageSize memory.numFrames frame size)
        (Bytes.slice memory.content (frame * pageSize) pageSize) := by
  cases refusal : frameRefusal? pageSize memory.numFrames frame size with
  | some error =>
    unfold readFrame
    rw [checkFrame_eq, refusal]
    rfl
  | none =>
    obtain ⟨inside, rfl⟩ := frameRefusal?_eq_none_iff.mp refusal
    exact readFrame_eq_ok inside

theorem writeFrame_eq (memory : PhysicalMemory pageSize) (frame : Nat) (data : Bytes) :
    memory.writeFrame frame data =
      unlessBarred (frameRefusal? pageSize memory.numFrames frame data.size)
        (memory.overwrite (frame * pageSize) data) := by
  cases refusal : frameRefusal? pageSize memory.numFrames frame data.size with
  | some error =>
    unfold writeFrame
    rw [checkFrame_eq, refusal]
    rfl
  | none =>
    obtain ⟨inside, fits⟩ := frameRefusal?_eq_none_iff.mp refusal
    exact writeFrame_eq_ok inside fits

theorem zeroFrame_eq (memory : PhysicalMemory pageSize) (frame : Nat) :
    memory.zeroFrame frame =
      unlessBarred (frameRefusal? pageSize memory.numFrames frame pageSize)
        (memory.overwrite (frame * pageSize) (Bytes.zeros pageSize)) := by
  unfold zeroFrame
  rw [checkFrame_eq]
  cases frameRefusal? pageSize memory.numFrames frame pageSize <;> rfl

/-- To fill a frame with zeros is to let a function do it. -/
theorem zeroFrame_eq_withFrame (memory : PhysicalMemory pageSize) (frame : Nat) :
    memory.zeroFrame frame =
      (memory.withFrame frame fun _ => ((), .replicate pageSize 0)).map Prod.snd := by
  unfold zeroFrame withFrame checkFrame
  by_cases inside : frame < memory.numFrames
  · rw [dif_pos inside, if_neg (Nat.not_le.mpr inside), if_neg (fun differs => differs rfl)]
    rfl
  · rw [dif_neg inside, if_pos (Nat.le_of_not_lt inside)]
    rfl

end Refusals

section Serving

variable {memory : PhysicalMemory pageSize} {numFrames : Nat} {cells : Cells}

/-- A request is refused for the same reason as by the array, or it is granted
as by the array. -/
theorem Holds.conclude (holds : memory.Holds numFrames cells)
    (request : MemoryRequest pageSize Result) {Item : Type} {item : Item}
    {tell : Item → MemoryAnswer Result × PhysicalMemory pageSize}
    (granted : request.refusal? numFrames = none →
      (tell item).1 = (cells.grant request).1 ∧
        (tell item).2.Holds numFrames (cells.grant request).2) :
    (memory.conclude (unlessBarred (request.refusal? numFrames) item) tell).1 =
        (cells.serve numFrames request).1 ∧
      (memory.conclude (unlessBarred (request.refusal? numFrames) item) tell).2.Holds numFrames
        (cells.serve numFrames request).2 := by
  unfold Cells.serve
  cases refusal : request.refusal? numFrames with
  | some error => exact ⟨rfl, holds⟩
  | none => exact granted refusal

theorem range_of_refusal?_eq_none {capacity address length : Nat}
    (granted : MemoryRequest.rangeRefusal? capacity address length = none) :
    address + length ≤ capacity := by
  unfold MemoryRequest.rangeRefusal? at granted
  split at granted
  · assumption
  · cases granted

/-- A memory answers as the array of its bytes does, and goes on holding them. -/
theorem Holds.serve (holds : memory.Holds numFrames cells)
    (request : MemoryRequest pageSize Result) :
    (memory.serve request).1 = (cells.serve numFrames request).1 ∧
      (memory.serve request).2.Holds numFrames (cells.serve numFrames request).2 := by
  cases request with
  | read address length =>
    simp only [PhysicalMemory.serve, read_eq, holds.capacity_eq]
    refine holds.conclude (.read address length) fun granted => ⟨?_, holds⟩
    exact congrArg MemoryAnswer.bytes (holds.slice_eq (range_of_refusal?_eq_none granted))
  | write address data =>
    simp only [PhysicalMemory.serve, write_eq, holds.capacity_eq]
    exact holds.conclude (.write address data) fun _ => ⟨rfl, holds.overwrite address data⟩
  | readByte address =>
    simp only [PhysicalMemory.serve, readByte_eq, holds.capacity_eq]
    refine holds.conclude (.readByte address) fun granted => ⟨?_, holds⟩
    exact congrArg MemoryAnswer.byte (holds.getD_slice_one (range_of_refusal?_eq_none granted))
  | writeByte address byte =>
    simp only [PhysicalMemory.serve, writeByte, write_eq, holds.capacity_eq]
    exact holds.conclude (.writeByte address byte) fun _ => ⟨rfl, holds.overwrite address #[byte]⟩
  | readFrame frame size =>
    simp only [PhysicalMemory.serve, readFrame_eq, holds.numFrames_eq]
    refine holds.conclude (.readFrame frame size) fun granted => ⟨?_, holds⟩
    obtain ⟨inside, -⟩ := Cells.frameRefusal?_eq_none_iff.mp granted
    have ends := frame_ends_le_capacity (holds.numFrames_eq.symm ▸ inside)
    rw [holds.capacity_eq] at ends
    exact congrArg MemoryAnswer.bytes (holds.slice_eq ends)
  | writeFrame frame data =>
    simp only [PhysicalMemory.serve, writeFrame_eq, holds.numFrames_eq]
    exact holds.conclude (.writeFrame frame data) fun _ => ⟨rfl, holds.overwrite _ data⟩
  | zeroFrame frame =>
    simp only [PhysicalMemory.serve, zeroFrame_eq, holds.numFrames_eq]
    exact holds.conclude (.zeroFrame frame) fun _ => ⟨rfl, holds.overwrite _ _⟩
  | withFrame frame change =>
    by_cases inside : frame < memory.numFrames
    · have granted : (MemoryRequest.withFrame frame change).refusal? numFrames = none :=
        Cells.frameRefusal?_eq_none_iff.mpr ⟨holds.numFrames_eq ▸ inside, rfl⟩
      have served : Cells.serve numFrames cells (.withFrame frame change) =
          cells.grant (.withFrame frame change) := by
        unfold Cells.serve
        rw [granted]
      rw [served, PhysicalMemory.serve, withFrame, dif_pos inside, holds.page_eq inside]
      exact ⟨rfl, holds.overwrite _ _⟩
    · have refused : (MemoryRequest.withFrame frame change).refusal? numFrames =
          some (.invalidFrame frame) := by
        rw [← holds.numFrames_eq]
        exact if_pos (Nat.le_of_not_lt inside)
      unfold Cells.serve
      rw [refused, PhysicalMemory.serve, withFrame, dif_neg inside]
      exact ⟨rfl, holds⟩

theorem Holds.run (holds : memory.Holds numFrames cells)
    (requests : List (MemoryRequest pageSize Result)) :
    (memory.run requests).1 = (cells.run numFrames requests).1 ∧
      (memory.run requests).2.Holds numFrames (cells.run numFrames requests).2 := by
  induction requests generalizing memory cells with
  | nil => exact ⟨rfl, holds⟩
  | cons request rest ih =>
    obtain ⟨answer, next⟩ := holds.serve request
    obtain ⟨answers, last⟩ := ih next
    exact ⟨congrArg₂ List.cons answer answers, last⟩

theorem holds_create? {created : PhysicalMemory pageSize}
    (done : create? numFrames = some created) : created.Holds numFrames fun _ => 0 := by
  unfold create? at done
  split at done
  · cases done
    constructor
    case numFrames_eq => rfl
    case getElem?_eq =>
      intro position inside
      simp [content, inside]
  · cases done

end Serving

/-- A memory of `numFrames` frames that was all zero serves a run of requests as
the array of its bytes would. -/
structure ActsAsArray (memory : PhysicalMemory pageSize) (numFrames : Nat)
    (requests : List (MemoryRequest pageSize Result)) : Prop where
  answers_eq : (memory.run requests).1 = (Cells.run numFrames (fun _ => 0) requests).1
  size_eq : (memory.run requests).2.content.size = numFrames * pageSize
  content_eq : ∀ position < numFrames * pageSize,
    (memory.run requests).2.content[position]? =
      some ((Cells.run numFrames (fun _ => 0) requests).2 position)
  /-- Seen as a frame or as bytes, the content is the same. -/
  readFrame_eq : ∀ frame < numFrames,
    (memory.run requests).2.readFrame frame pageSize =
      (memory.run requests).2.read (frame * pageSize) pageSize
  /-- A request about a frame leaves all other frames alone. -/
  otherFrames_eq : ∀ (request : MemoryRequest pageSize Result) (frame : Nat),
    request.frame? = some frame → ∀ other < numFrames, other ≠ frame →
      ((memory.run requests).2.serve request).2.readFrame other pageSize =
        (memory.run requests).2.readFrame other pageSize
  /-- The end of a range is found in machine words as in unbounded numbers. -/
  checkWords_eq : ∀ address length : UInt64,
    (memory.run requests).2.checkWords address length =
      (memory.run requests).2.checkRange address.toNat length.toNat
  /-- Where a frame begins and ends is so, too. -/
  frame_words : ∀ frame : UInt64, frame.toNat < numFrames →
    (frame * .ofNat pageSize).toNat = frame.toNat * pageSize ∧
      ((frame + 1) * .ofNat pageSize).toNat = (frame.toNat + 1) * pageSize

section Acting

variable {memory : PhysicalMemory pageSize} {numFrames : Nat} {cells : Cells}

theorem Holds.readFrame_eq_take (holds : memory.Holds numFrames cells) {frame : Nat}
    (inside : frame < numFrames) :
    memory.readFrame frame pageSize = .ok (cells.take (frame * pageSize) pageSize) := by
  have present : frame < memory.numFrames := holds.numFrames_eq.symm ▸ inside
  have ends := frame_ends_le_capacity present
  rw [holds.capacity_eq] at ends
  rw [readFrame_eq_ok present, holds.slice_eq ends]

theorem Holds.actsAsArray (holds : memory.Holds numFrames fun _ => 0)
    (fits : numFrames * pageSize < 2 ^ 64) (requests : List (MemoryRequest pageSize Result)) :
    memory.ActsAsArray numFrames requests := by
  obtain ⟨answers, later⟩ := holds.run requests
  constructor
  case answers_eq => exact answers
  case size_eq => rw [size_content, later.numFrames_eq]
  case content_eq => exact later.getElem?_eq
  case readFrame_eq =>
    intro frame inside
    have present : frame < (memory.run requests).2.numFrames := later.numFrames_eq.symm ▸ inside
    rw [readFrame_eq_ok present, read_eq_ok (frame_ends_le_capacity present)]
  case otherFrames_eq =>
    intro request frame about other inside differs
    rw [(later.serve request).2.readFrame_eq_take inside, later.readFrame_eq_take inside,
      Cells.take_serve_of_ne about differs]
  case checkWords_eq => exact checkWords_eq (later.capacity_eq.symm ▸ fits)
  case frame_words => exact fun frame inside => toNat_frame_mul fits inside

end Acting

/-- For every power of two as the size of a page and for all memories that
machine words can address: there is such a memory, and it serves every run of
requests as one flat array. -/
theorem exists_actsAsArray (isPowerOfTwo : pageSize.isPowerOfTwo) {numFrames : Nat}
    (fits : numFrames * pageSize < 2 ^ 64) :
    ∃ memory : PhysicalMemory pageSize, create? numFrames = some memory ∧
      ∀ (Result : Type) (requests : List (MemoryRequest pageSize Result)),
        memory.ActsAsArray numFrames requests := by
  refine ⟨_, dif_pos isPowerOfTwo, ?_⟩
  intro Result requests
  exact (holds_create? (dif_pos isPowerOfTwo)).actsAsArray fits requests

/-- A memory of four frames of 64 bytes is one of them. -/
theorem exists_actsAsArray_four :
    Nat.isPowerOfTwo 64 ∧ 4 * 64 < 2 ^ 64 ∧
      ∃ memory : PhysicalMemory 64, create? 4 = some memory ∧
        ∀ (Result : Type) (requests : List (MemoryRequest 64 Result)),
          memory.ActsAsArray 4 requests :=
  have isPowerOfTwo : Nat.isPowerOfTwo 64 := ⟨6, rfl⟩
  have fits : 4 * 64 < 2 ^ 64 := by decide
  ⟨isPowerOfTwo, fits, exists_actsAsArray isPowerOfTwo fits⟩

end PhysicalMemory

end DemandPaging
