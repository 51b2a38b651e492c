import DemandPaging.Frame.Pool
import Mathlib.Data.Finset.Max
import Mathlib.Data.Nat.Count

/-!
# A pool is a set of free frames

Whatever is asked of a pool of frames, it answers what a set of free frames
answers that gives away its least element.  All clones of a pool share its bits
and take turns, so the requests of a run may come from any of them.
-/

namespace DemandPaging

/-- What is asked of a pool of frames. -/
inductive PoolRequest where
  | allocate
  | free (frame : Nat)
  deriving DecidableEq, Repr

/-- What a pool of frames answers. -/
inductive PoolAnswer where
  | allocated (outcome : Except FrameError Nat)
  | freed (outcome : Except FrameError Unit)

/-- Whether a request was refused. -/
def PoolAnswer.Fails : PoolAnswer → Prop
  | allocated outcome => ∃ error, outcome = .error error
  | freed outcome => ∃ error, outcome = .error error

/-- What a set of the free ones among `numFrames` frames answers to a request,
and what it becomes. -/
def serveFree (numFrames : Nat) (free : Finset Nat) : PoolRequest → PoolAnswer × Finset Nat
  | .allocate =>
    if present : free.Nonempty then
      (.allocated (.ok (free.min' present)), free.erase (free.min' present))
    else
      (.allocated (.error .outOfFrames), free)
  | .free frame =>
    if numFrames ≤ frame then
      (.freed (.error (.invalidFrame frame)), free)
    else if frame ∈ free then
      (.freed (.error (.notAllocated frame)), free)
    else
      (.freed (.ok ()), insert frame free)

/-- The free frames after a run of requests, all of them being free at first. -/
def freeAfter (numFrames : Nat) (requests : List PoolRequest) : Finset Nat :=
  requests.foldl (fun free request => (serveFree numFrames free request).2)
    (Finset.range numFrames)

namespace FramePool

/-- Answer one request. -/
def serve (pool : FramePool) : PoolRequest → PoolAnswer × FramePool
  | .allocate =>
    match pool.allocate with
    | .ok (frame, next) => (.allocated (.ok frame), next)
    | .error error => (.allocated (.error error), pool)
  | .free frame =>
    match pool.free frame with
    | .ok next => (.freed (.ok ()), next)
    | .error error => (.freed (.error error), pool)

/-- The pool after a run of requests. -/
def after (pool : FramePool) (requests : List PoolRequest) : FramePool :=
  requests.foldl (fun pool request => (pool.serve request).2) pool

/-- The bits that are set are those of the frames that are not free; in
particular none is set beyond the last frame. -/
structure Represents (pool : FramePool) (numFrames : Nat) (free : Finset Nat) : Prop where
  numFrames_eq : pool.numFrames = numFrames
  free_lt : ∀ frame ∈ free, frame < numFrames
  isSet?_iff : ∀ index, pool.bitmap.isSet? index = some true ↔ index < numFrames ∧ index ∉ free

/-- A request that is refused changes nothing. -/
theorem serve_of_fails {pool : FramePool} {request : PoolRequest}
    (fails : (pool.serve request).1.Fails) : (pool.serve request).2 = pool := by
  cases request with
  | allocate =>
    rw [serve] at fails ⊢
    split
    · rename_i frame next done
      rw [done] at fails
      obtain ⟨error, refused⟩ := fails
      cases refused
    · rfl
  | free frame =>
    rw [serve] at fails ⊢
    split
    · rename_i next done
      rw [done] at fails
      obtain ⟨error, refused⟩ := fails
      cases refused
    · rfl

theorem represents_allFree (numFrames : Nat) :
    (allFree numFrames).Represents numFrames (Finset.range numFrames) where
  numFrames_eq := rfl
  free_lt _ member := Finset.mem_range.mp member
  isSet?_iff index := by
    rw [Finset.mem_range]
    refine iff_of_false (Bitmap.isSet?_empty_ne numFrames index) ?_
    exact fun set => set.2 set.1

namespace Represents

variable {pool : FramePool} {numFrames frame : Nat} {free : Finset Nat}

theorem mem_free_iff (represents : pool.Represents numFrames free) (inside : frame < numFrames) :
    frame ∈ free ↔ pool.bitmap.isSet? frame = some false := by
  obtain ⟨bit, stored⟩ :=
    pool.bitmap.isSet?_isSome (represents.numFrames_eq.symm ▸ inside : frame < pool.numFrames)
  have set := represents.isSet?_iff frame
  cases bit <;> simp_all

theorem isAllocated_iff (represents : pool.Represents numFrames free) :
    pool.isAllocated frame = true ↔ frame < numFrames ∧ frame ∉ free := by
  rw [FramePool.isAllocated_iff, represents.isSet?_iff, represents.numFrames_eq]
  exact and_iff_right_of_imp And.left

theorem freeCount_eq (represents : pool.Represents numFrames free) :
    pool.freeCount = free.card := by
  have filtered : (Finset.range numFrames).filter (fun frame => frame ∈ free) = free := by
    ext frame
    rw [Finset.mem_filter, Finset.mem_range]
    exact and_iff_right_of_imp (represents.free_lt frame)
  rw [← filtered, ← Nat.count_eq_card_filter_range, Nat.count, freeCount_eq_countP,
    represents.numFrames_eq]
  apply List.countP_congr
  intro frame member
  have inside := List.mem_range.mp member
  rw [decide_eq_true_iff, decide_eq_true_iff, represents.isAllocated_iff]
  simp [inside]

theorem serve_allocate (represents : pool.Represents numFrames free) :
    (pool.serve .allocate).1 = (serveFree numFrames free .allocate).1 ∧
      (pool.serve .allocate).2.Represents numFrames (serveFree numFrames free .allocate).2 := by
  rw [serve, FramePool.allocate, serveFree]
  cases search : pool.bitmap.allocate? with
  | none =>
    have full : ¬ free.Nonempty := by
      rintro ⟨frame, member⟩
      have inside := represents.free_lt frame member
      have set := Bitmap.of_allocate?_eq_none search
        (represents.numFrames_eq.symm ▸ inside : frame < pool.numFrames)
      exact ((represents.isSet?_iff frame).mp set).2 member
    rw [dif_neg full]
    exact ⟨rfl, represents⟩
  | some found =>
    obtain ⟨frame, bitmap⟩ := found
    obtain ⟨inside, clear, lower, length, bits⟩ := Bitmap.of_allocate?_eq_some search
    change frame < pool.numFrames at inside
    rw [represents.numFrames_eq] at inside
    have member : frame ∈ free := (represents.mem_free_iff inside).mpr clear
    have least : free.min' ⟨frame, member⟩ = frame := by
      apply Nat.le_antisymm (Finset.min'_le free frame member)
      apply Finset.le_min'
      intro other otherMember
      by_contra below
      have set := lower other (Nat.lt_of_not_le below)
      exact ((represents.isSet?_iff other).mp set).2 otherMember
    rw [dif_pos ⟨frame, member⟩, least]
    refine ⟨rfl, length.trans represents.numFrames_eq, ?_, fun index => ?_⟩
    · exact fun other kept => represents.free_lt other (Finset.mem_of_mem_erase kept)
    · rw [bits, Finset.mem_erase]
      by_cases same : index = frame
      · simp [same, inside]
      · simp [same, represents.isSet?_iff]

theorem serve_free (represents : pool.Represents numFrames free) (frame : Nat) :
    (pool.serve (.free frame)).1 = (serveFree numFrames free (.free frame)).1 ∧
      (pool.serve (.free frame)).2.Represents numFrames
        (serveFree numFrames free (.free frame)).2 := by
  rw [serve, FramePool.free, serveFree, represents.numFrames_eq]
  by_cases outside : numFrames ≤ frame
  · rw [if_pos outside, if_pos outside]
    exact ⟨rfl, represents⟩
  rw [if_neg outside, if_neg outside]
  have inside : frame < numFrames := Nat.lt_of_not_le outside
  by_cases member : frame ∈ free
  · rw [if_pos member, (represents.mem_free_iff inside).mp member]
    exact ⟨rfl, represents⟩
  · have set := (represents.isSet?_iff frame).mpr ⟨inside, member⟩
    obtain ⟨bitmap, cleared⟩ : ∃ bitmap, pool.bitmap.clear? frame = some bitmap :=
      pool.bitmap.exists_alterByte?_eq_some
        (represents.numFrames_eq.symm ▸ inside : frame < pool.numFrames) _
    obtain ⟨length, bits⟩ := Bitmap.isSet?_of_clear? cleared
    rw [if_neg member, set, cleared]
    refine ⟨rfl, length.trans represents.numFrames_eq, ?_, fun index => ?_⟩
    · intro other kept
      rcases Finset.mem_insert.mp kept with rfl | old
      · exact inside
      · exact represents.free_lt other old
    · rw [bits, Finset.mem_insert]
      by_cases same : index = frame
      · simp [same]
      · simp [same, represents.isSet?_iff]

/-- Every request is answered as the set answers it. -/
theorem serve (represents : pool.Represents numFrames free) (request : PoolRequest) :
    (pool.serve request).1 = (serveFree numFrames free request).1 ∧
      (pool.serve request).2.Represents numFrames (serveFree numFrames free request).2 := by
  cases request with
  | allocate => exact represents.serve_allocate
  | free frame => exact represents.serve_free frame

theorem after (represents : pool.Represents numFrames free) (requests : List PoolRequest) :
    (pool.after requests).Represents numFrames
      (requests.foldl (fun free request => (serveFree numFrames free request).2) free) := by
  induction requests generalizing pool free with
  | nil => exact represents
  | cons request rest ih => exact ih (represents.serve request).2

end Represents

/-- A pool of `numFrames` frames that cannot be told from a set of free ones. -/
structure IsFreeSet (pool : FramePool) (numFrames : Nat) (free : Finset Nat) : Prop where
  numFrames_eq : pool.numFrames = numFrames
  isAllocated_iff : ∀ frame, pool.isAllocated frame = true ↔ frame < numFrames ∧ frame ∉ free
  freeCount_eq : pool.freeCount = free.card
  answers : ∀ request, (pool.serve request).1 = (serveFree numFrames free request).1
  unchanged : ∀ request, (pool.serve request).1.Fails → (pool.serve request).2 = pool
  /-- No bit beyond the last frame is set. -/
  padding : ∀ index, numFrames ≤ index → pool.bitmap.isSet? index ≠ some true
  /-- A byte is stored for every frame. -/
  stored : ∀ frame < numFrames, ∃ bit bitmap,
    pool.bitmap.isSet? frame = some bit ∧ pool.bitmap.clear? frame = some bitmap

/-- After every run of requests a pool is exactly its set of free frames. -/
theorem isFreeSet_after (numFrames : Nat) (requests : List PoolRequest) :
    ((allFree numFrames).after requests).IsFreeSet numFrames (freeAfter numFrames requests) := by
  have represents := (represents_allFree numFrames).after requests
  constructor
  case numFrames_eq => exact represents.numFrames_eq
  case isAllocated_iff => exact fun frame => represents.isAllocated_iff
  case freeCount_eq => exact represents.freeCount_eq
  case answers => exact fun request => (represents.serve request).1
  case unchanged => exact fun request => serve_of_fails
  case padding =>
    intro index outside set
    exact absurd ((represents.isSet?_iff index).mp set).1 (Nat.not_lt.mpr outside)
  case stored =>
    intro frame inside
    rw [← represents.numFrames_eq] at inside
    obtain ⟨bit, read⟩ := Bitmap.isSet?_isSome _ inside
    obtain ⟨bitmap, cleared⟩ := Bitmap.exists_alterByte?_eq_some _ inside _
    exact ⟨bit, bitmap, read, cleared⟩

end FramePool

end DemandPaging
