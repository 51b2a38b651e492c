import DemandPaging.Frame.Error
import DemandPaging.Frame.Bitmap

/-!
# The pool of free frames

Which physical frames are free.  The pool hands out the lowest free frame and
refuses to take back a frame it has not handed out.
-/

namespace DemandPaging

/-- The free and allocated frames of a machine, one bit per frame. -/
structure FramePool where
  bitmap : Bitmap
  deriving DecidableEq

namespace FramePool

/-- The pool of `numFrames` frames, all of them free. -/
def allFree (numFrames : Nat) : FramePool where
  bitmap := Bitmap.empty numFrames

def numFrames (pool : FramePool) : Nat :=
  pool.bitmap.length

def isAllocated (pool : FramePool) (frame : Nat) : Bool :=
  decide (frame < pool.numFrames) && pool.bitmap.isSet? frame == some true

def freeCount (pool : FramePool) : Nat :=
  pool.bitmap.clearCount

/-- Take the lowest free frame out of the pool. -/
def allocate (pool : FramePool) : Except FrameError (Nat × FramePool) :=
  match pool.bitmap.allocate? with
  | some (frame, bitmap) => .ok (frame, ⟨bitmap⟩)
  | none => .error .outOfFrames

/-- Return `frame` to the pool. -/
def free (pool : FramePool) (frame : Nat) : Except FrameError FramePool :=
  if pool.numFrames ≤ frame then
    .error (.invalidFrame frame)
  else
    match pool.bitmap.isSet? frame, pool.bitmap.clear? frame with
    | some true, some bitmap => .ok ⟨bitmap⟩
    | _, _ => .error (.notAllocated frame)

theorem isAllocated_iff {pool : FramePool} {frame : Nat} :
    pool.isAllocated frame = true ↔
      frame < pool.numFrames ∧ pool.bitmap.isSet? frame = some true := by
  simp [isAllocated]

@[simp]
theorem isAllocated_allFree (numFrames frame : Nat) :
    (allFree numFrames).isAllocated frame = false := by
  rw [← Bool.not_eq_true, isAllocated_iff]
  rintro ⟨inside, set⟩
  have clear : (allFree numFrames).bitmap.isSet? frame = some false :=
    Bitmap.isSet?_empty numFrames inside
  rw [clear] at set
  cases set

/-- The pool hands out the lowest free frame, which is taken from then on. -/
theorem of_allocate_eq_ok {pool next : FramePool} {frame : Nat}
    (taken : pool.allocate = .ok (frame, next)) :
    frame < pool.numFrames ∧ pool.isAllocated frame = false ∧
      (∀ lower < frame, pool.isAllocated lower = true) ∧ next.numFrames = pool.numFrames ∧
      ∀ other, next.isAllocated other = true ↔
        other = frame ∨ pool.isAllocated other = true := by
  rw [allocate] at taken
  split at taken
  · rename_i index bitmap found
    obtain ⟨rfl, rfl⟩ := Prod.mk.inj (Except.ok.inj taken)
    obtain ⟨inside, clear, below, length, bits⟩ := Bitmap.of_allocate?_eq_some found
    refine ⟨inside, ?_, ?_, length, ?_⟩
    · simp [isAllocated, clear]
    · intro lower lowerLt
      exact isAllocated_iff.mpr ⟨Nat.lt_trans lowerLt inside, below lower lowerLt⟩
    · intro other
      rw [isAllocated_iff, isAllocated_iff, numFrames, length, bits other]
      by_cases same : other = index
      · simp [same, inside]
      · simp [same, numFrames]
  · cases taken

/-- The pool hands out nothing only if every frame is taken. -/
theorem isAllocated_of_allocate_eq_error {pool : FramePool} {error : FrameError}
    (full : pool.allocate = .error error) {frame : Nat} (inside : frame < pool.numFrames) :
    pool.isAllocated frame = true := by
  rw [allocate] at full
  split at full
  · cases full
  · rename_i none
    exact isAllocated_iff.mpr ⟨inside, Bitmap.of_allocate?_eq_none none inside⟩

theorem free_of_isAllocated {pool : FramePool} {frame : Nat}
    (taken : pool.isAllocated frame = true) :
    ∃ next, pool.free frame = .ok next ∧ next.numFrames = pool.numFrames ∧
      ∀ other, next.isAllocated other = true ↔
        other ≠ frame ∧ pool.isAllocated other = true := by
  obtain ⟨inside, set⟩ := isAllocated_iff.mp taken
  obtain ⟨bitmap, cleared⟩ : ∃ bitmap, pool.bitmap.clear? frame = some bitmap :=
    pool.bitmap.exists_alterByte?_eq_some inside _
  obtain ⟨length, bits⟩ := Bitmap.isSet?_of_clear? cleared
  refine ⟨⟨bitmap⟩, ?_, length, fun other => ?_⟩
  · rw [free, if_neg (Nat.not_le.mpr inside), set, cleared]
  · rw [isAllocated_iff, isAllocated_iff, numFrames, length, bits other]
    by_cases same : other = frame
    · simp [same]
    · simp [same, numFrames]

theorem freeCount_eq_countP (pool : FramePool) :
    pool.freeCount = (List.range pool.numFrames).countP fun frame => ¬pool.isAllocated frame := by
  apply List.countP_congr
  intro frame member
  have inside : frame < pool.numFrames := List.mem_range.mp member
  obtain ⟨bit, stored⟩ := pool.bitmap.isSet?_isSome inside
  cases bit <;> simp [isAllocated, stored, inside]

theorem exists_free {pool : FramePool} (positive : 0 < pool.freeCount) :
    ∃ frame, frame < pool.numFrames ∧ pool.isAllocated frame = false := by
  rw [freeCount_eq_countP, List.countP_pos_iff] at positive
  obtain ⟨frame, member, free⟩ := positive
  exact ⟨frame, List.mem_range.mp member, by simpa using free⟩

theorem freeCount_congr {pool other : FramePool} (sizes : other.numFrames = pool.numFrames)
    (same : ∀ frame, other.isAllocated frame = pool.isAllocated frame) :
    other.freeCount = pool.freeCount := by
  simp only [freeCount_eq_countP, sizes, same]

/-- A free frame that is taken makes one free frame less. -/
theorem freeCount_of_taken {pool next : FramePool} {frame : Nat}
    (sizes : next.numFrames = pool.numFrames) (free : pool.isAllocated frame = false)
    (taken : next.isAllocated frame = true)
    (same : ∀ other, other ≠ frame → next.isAllocated other = pool.isAllocated other) :
    next.freeCount + 1 = pool.freeCount := by
  have inside : frame ∈ List.range pool.numFrames :=
    List.mem_range.mpr (sizes ▸ (isAllocated_iff.mp taken).1)
  have apart : ∀ other ∈ (List.range pool.numFrames).erase frame, other ≠ frame :=
    fun other member => (List.nodup_range.mem_erase_iff.mp member).1
  have rest : ((List.range pool.numFrames).erase frame).countP
        (fun other => ¬next.isAllocated other) =
      ((List.range pool.numFrames).erase frame).countP fun other => ¬pool.isAllocated other := by
    apply List.countP_congr
    intro other member
    rw [same other (apart other member)]
  have split := List.perm_cons_erase inside
  rw [freeCount_eq_countP, freeCount_eq_countP, sizes, split.countP_eq, split.countP_eq,
    List.countP_cons, List.countP_cons, rest, free, taken]
  simp

end FramePool

end DemandPaging
