import DemandPaging.Frame.Error

/-!
# The frame table

For every physical frame: the page that occupies it, whether it was used since
the clock last passed, and whether it is pinned.  A pin is held as a lease;
the frame stays pinned until the lease is handed back.
-/

namespace DemandPaging

/-- What is known about one physical frame. -/
structure Frame (Owner : Type) where
  owner : Option Owner := none
  used : Bool := false
  pinned : Bool := false
  deriving DecidableEq, Repr

namespace Frame

variable {Owner : Type}

/-- A frame may be evicted when it has an owner and is not pinned. -/
def evictable (frame : Frame Owner) : Bool :=
  !frame.pinned && frame.owner.isSome

/-- The frame with an occupant, which counts as a use. -/
def occupy (owner : Owner) (frame : Frame Owner) : Frame Owner :=
  { frame with owner := some owner, used := true }

/-- The frame without its occupant. -/
def vacate (frame : Frame Owner) : Frame Owner :=
  { frame with owner := none, used := false }

def mark (used : Bool) (frame : Frame Owner) : Frame Owner :=
  { frame with used := used }

def pin (frame : Frame Owner) : Frame Owner :=
  { frame with pinned := true }

def unpin (frame : Frame Owner) : Frame Owner :=
  { frame with pinned := false }

end Frame

/-- The right of whoever pinned a frame to unpin it again. -/
structure FrameLease where
  frame : Nat
  deriving DecidableEq, Repr

/-- All frames of a machine, in the order of their numbers. -/
structure FrameTable (Owner : Type) where
  frames : Array (Frame Owner)
  deriving DecidableEq, Repr

namespace FrameTable

variable {Owner : Type}

def empty (numFrames : Nat) : FrameTable Owner where
  frames := Array.replicate numFrames {}

def size (table : FrameTable Owner) : Nat :=
  table.frames.size

def get (table : FrameTable Owner) (frame : Nat) : Except FrameError (Frame Owner) :=
  match table.frames[frame]? with
  | some info => .ok info
  | none => .error (.invalidFrame frame)

/-- The table with frame `frame`, if there is one, replaced by its image under
`change`. -/
def alter (table : FrameTable Owner) (frame : Nat)
    (change : Frame Owner → Frame Owner) : FrameTable Owner where
  frames := table.frames.modify frame change

/-- Replace frame `frame`, which has to exist, by its image under `change`. -/
def update (table : FrameTable Owner) (frame : Nat)
    (change : Frame Owner → Frame Owner) : Except FrameError (FrameTable Owner) :=
  if frame < table.size then
    .ok (table.alter frame change)
  else
    .error (.invalidFrame frame)

/-- The occupant of `frame`; a frame out of range has none. -/
def owner? (table : FrameTable Owner) (frame : Nat) : Option Owner :=
  table.frames[frame]?.bind Frame.owner

/-- Whether `frame` is marked used; a frame out of range is not. -/
def isUsed (table : FrameTable Owner) (frame : Nat) : Bool :=
  table.frames[frame]?.any Frame.used

/-- Whether `frame` is pinned; a frame out of range is not. -/
def isPinned (table : FrameTable Owner) (frame : Nat) : Bool :=
  table.frames[frame]?.any Frame.pinned

/-- Whether `frame` may be evicted; a frame out of range may not. -/
def isEvictable (table : FrameTable Owner) (frame : Nat) : Bool :=
  table.frames[frame]?.any Frame.evictable

def pinnedCount (table : FrameTable Owner) : Nat :=
  table.frames.countP Frame.pinned

/-- The occupants of all frames, in the order of the frames. -/
def owners (table : FrameTable Owner) : Array (Option Owner) :=
  table.frames.map Frame.owner

def install (table : FrameTable Owner) (frame : Nat) (owner : Owner) :
    Except FrameError (FrameTable Owner) :=
  table.update frame (Frame.occupy owner)

/-- Forget the occupant of `frame` and return it. -/
def evict (table : FrameTable Owner) (frame : Nat) :
    Except FrameError (Option Owner × FrameTable Owner) :=
  match table.update frame Frame.vacate with
  | .ok emptied => .ok (table.owner? frame, emptied)
  | .error error => .error error

def markUsed (table : FrameTable Owner) (frame : Nat) :
    Except FrameError (FrameTable Owner) :=
  table.update frame (Frame.mark true)

def clearUsed (table : FrameTable Owner) (frame : Nat) :
    Except FrameError (FrameTable Owner) :=
  table.update frame (Frame.mark false)

/-- Mark `frame` unused and return whether it was used.  A frame out of range
is not. -/
def takeUsed (table : FrameTable Owner) (frame : Nat) : Bool × FrameTable Owner :=
  match table.clearUsed frame with
  | .ok cleared => (table.isUsed frame, cleared)
  | .error _ => (false, table)

def pin (table : FrameTable Owner) (frame : Nat) :
    Except FrameError (FrameLease × FrameTable Owner) :=
  match table.update frame Frame.pin with
  | .ok pinned =>
    if table.isPinned frame then
      .error (.alreadyPinned frame)
    else
      .ok (⟨frame⟩, pinned)
  | .error error => .error error

/-- Take `lease` back.  A lease of a frame out of range unpins nothing. -/
def unpin (table : FrameTable Owner) (lease : FrameLease) : FrameTable Owner :=
  table.alter lease.frame Frame.unpin

@[simp]
theorem size_empty (numFrames : Nat) :
    (empty numFrames : FrameTable Owner).size = numFrames := by
  simp [empty, size]

/-- At first no frame has an owner and none is pinned. -/
@[simp]
theorem owner?_empty (numFrames frame : Nat) :
    (empty numFrames : FrameTable Owner).owner? frame = none := by
  simp [empty, owner?, Array.getElem?_replicate]

@[simp]
theorem isPinned_empty (numFrames frame : Nat) :
    (empty numFrames : FrameTable Owner).isPinned frame = false := by
  simp only [empty, isPinned, Array.getElem?_replicate]
  split <;> rfl

@[simp]
theorem isUsed_empty (numFrames frame : Nat) :
    (empty numFrames : FrameTable Owner).isUsed frame = false := by
  simp only [empty, isUsed, Array.getElem?_replicate]
  split <;> rfl

section Operations

variable {table altered : FrameTable Owner} {frame : Nat} {change : Frame Owner → Frame Owner}

@[simp]
theorem size_alter : (table.alter frame change).size = table.size :=
  Array.size_modify

theorem update_eq_ok (inside : frame < table.size) :
    table.update frame change = .ok (table.alter frame change) := by
  rw [update, if_pos inside]

theorem eq_of_update_eq_ok (done : table.update frame change = .ok altered) :
    altered = table.alter frame change := by
  rw [update] at done
  split at done
  · exact (Except.ok.inj done).symm
  · cases done

/-- The other frames stay as they are. -/
theorem getElem?_frames_alter_of_ne {other : Nat} (differs : frame ≠ other) :
    (table.alter frame change).frames[other]? = table.frames[other]? := by
  rw [alter, Array.getElem?_modify, if_neg differs]

/-- What a change keeps of a frame is read off the altered table as before. -/
theorem read_alter_of_keeps {Value : Type} (read : Option (Frame Owner) → Value)
    (keeps : ∀ info, read (some (change info)) = read (some info)) (other : Nat) :
    read (table.alter frame change).frames[other]? = read table.frames[other]? := by
  simp only [alter, Array.getElem?_modify]
  split
  · cases table.frames[other]? with
    | none => rfl
    | some info => exact keeps info
  · rfl

/-- What a change sets in a frame is read off the altered table there. -/
theorem read_alter_of_sets {Value : Type} (inside : frame < table.size)
    (read : Option (Frame Owner) → Value) {value : Value}
    (sets : ∀ info, read (some (change info)) = value) (other : Nat) :
    read (table.alter frame change).frames[other]? =
      if other = frame then value else read table.frames[other]? := by
  simp only [alter, Array.getElem?_modify]
  by_cases same : other = frame
  · subst other
    rw [if_pos rfl, if_pos rfl, Array.getElem?_eq_getElem inside]
    exact sets _
  · rw [if_neg (Ne.symm same), if_neg same]

theorem owner?_alter_of_keeps (change : Frame Owner → Frame Owner)
    (keeps : ∀ info, (change info).owner = info.owner) (other : Nat) :
    (table.alter frame change).owner? other = table.owner? other :=
  read_alter_of_keeps (·.bind Frame.owner) keeps other

theorem isPinned_alter_of_keeps (change : Frame Owner → Frame Owner)
    (keeps : ∀ info, (change info).pinned = info.pinned) (other : Nat) :
    (table.alter frame change).isPinned other = table.isPinned other :=
  read_alter_of_keeps (·.any Frame.pinned) keeps other

theorem isUsed_alter_of_keeps (change : Frame Owner → Frame Owner)
    (keeps : ∀ info, (change info).used = info.used) (other : Nat) :
    (table.alter frame change).isUsed other = table.isUsed other :=
  read_alter_of_keeps (·.any Frame.used) keeps other

theorem owner?_alter_of_sets (inside : frame < table.size)
    (change : Frame Owner → Frame Owner) {owner : Option Owner}
    (sets : ∀ info, (change info).owner = owner) (other : Nat) :
    (table.alter frame change).owner? other =
      if other = frame then owner else table.owner? other :=
  read_alter_of_sets inside (·.bind Frame.owner) sets other

theorem isPinned_alter_of_sets (inside : frame < table.size)
    (change : Frame Owner → Frame Owner) {pinned : Bool}
    (sets : ∀ info, (change info).pinned = pinned) (other : Nat) :
    (table.alter frame change).isPinned other =
      if other = frame then pinned else table.isPinned other :=
  read_alter_of_sets inside (·.any Frame.pinned) sets other

theorem isUsed_alter_of_sets (inside : frame < table.size)
    (change : Frame Owner → Frame Owner) {used : Bool}
    (sets : ∀ info, (change info).used = used) (other : Nat) :
    (table.alter frame change).isUsed other =
      if other = frame then used else table.isUsed other :=
  read_alter_of_sets inside (·.any Frame.used) sets other

/-- The occupant of a frame is set first and its pin second. -/
theorem owner?_alter_alter (inside : frame < table.size)
    (change pin : Frame Owner → Frame Owner) {owner : Option Owner}
    (sets : ∀ info, (change info).owner = owner)
    (keeps : ∀ info, (pin info).owner = info.owner) (other : Nat) :
    ((table.alter frame change).alter frame pin).owner? other =
      if other = frame then owner else table.owner? other := by
  rw [owner?_alter_of_keeps pin keeps, owner?_alter_of_sets inside change sets]

theorem isPinned_alter_alter (inside : frame < table.size)
    (change pin : Frame Owner → Frame Owner) {pinned : Bool}
    (keeps : ∀ info, (change info).pinned = info.pinned)
    (sets : ∀ info, (pin info).pinned = pinned) (other : Nat) :
    ((table.alter frame change).alter frame pin).isPinned other =
      if other = frame then pinned else table.isPinned other := by
  rw [isPinned_alter_of_sets (by rwa [size_alter]) pin sets, isPinned_alter_of_keeps change keeps]

theorem exists_get_eq_ok (inside : frame < table.size) : ∃ info, table.get frame = .ok info := by
  rw [get, Array.getElem?_eq_getElem inside]
  exact ⟨_, rfl⟩

theorem of_get_eq_ok {info : Frame Owner} (found : table.get frame = .ok info) :
    table.owner? frame = info.owner ∧ table.isUsed frame = info.used := by
  rw [get] at found
  rw [owner?, isUsed]
  cases present : table.frames[frame]? with
  | none =>
    rw [present] at found
    cases found
  | some other =>
    rw [present] at found
    obtain rfl := Except.ok.inj found
    exact ⟨rfl, rfl⟩

theorem lt_size_of_isPinned (pinned : table.isPinned frame = true) : frame < table.size := by
  by_cases inside : frame < table.frames.size
  · exact inside
  · rw [isPinned, Array.getElem?_eq_none (Nat.le_of_not_lt inside)] at pinned
    cases pinned

theorem lt_size_of_owner? {owner : Owner} (owned : table.owner? frame = some owner) :
    frame < table.size := by
  by_cases inside : frame < table.frames.size
  · exact inside
  · rw [owner?, Array.getElem?_eq_none (Nat.le_of_not_lt inside)] at owned
    cases owned

theorem isEvictable_iff :
    table.isEvictable frame = true ↔
      table.isPinned frame = false ∧ ∃ owner, table.owner? frame = some owner := by
  rw [isEvictable, isPinned, owner?]
  cases table.frames[frame]? with
  | none => simp
  | some info => simp [Frame.evictable, Option.isSome_iff_exists]

theorem install_eq_ok (inside : frame < table.size) (owner : Owner) :
    table.install frame owner = .ok (table.alter frame (Frame.occupy owner)) :=
  update_eq_ok inside

theorem evict_eq_ok (inside : frame < table.size) :
    table.evict frame = .ok (table.owner? frame, table.alter frame Frame.vacate) := by
  rw [evict, update_eq_ok inside]

theorem of_evict_eq_ok {owner? : Option Owner} (done : table.evict frame = .ok (owner?, altered)) :
    frame < table.size ∧ altered = table.alter frame Frame.vacate := by
  by_cases inside : frame < table.size
  · rw [evict_eq_ok inside] at done
    exact ⟨inside, (Prod.mk.inj (Except.ok.inj done)).2.symm⟩
  · rw [evict, update, if_neg inside] at done
    cases done

theorem markUsed_eq_ok (inside : frame < table.size) :
    table.markUsed frame = .ok (table.alter frame (Frame.mark true)) :=
  update_eq_ok inside

theorem pin_eq_ok (inside : frame < table.size) (loose : table.isPinned frame = false) :
    table.pin frame = .ok (⟨frame⟩, table.alter frame Frame.pin) := by
  rw [pin, update_eq_ok inside]
  simp [loose]

end Operations

/-- Two tables that differ in used marks at most. -/
structure AgreesButUsed (first second : FrameTable Owner) : Prop where
  size_eq : second.size = first.size
  owner?_eq : ∀ frame, second.owner? frame = first.owner? frame
  isPinned_eq : ∀ frame, second.isPinned frame = first.isPinned frame

namespace AgreesButUsed

theorem refl (table : FrameTable Owner) : AgreesButUsed table table :=
  ⟨rfl, fun _ => rfl, fun _ => rfl⟩

theorem trans {first second third : FrameTable Owner} (left : AgreesButUsed first second)
    (right : AgreesButUsed second third) : AgreesButUsed first third where
  size_eq := right.size_eq.trans left.size_eq
  owner?_eq frame := (right.owner?_eq frame).trans (left.owner?_eq frame)
  isPinned_eq frame := (right.isPinned_eq frame).trans (left.isPinned_eq frame)

theorem isEvictable_eq {first second : FrameTable Owner} (agrees : AgreesButUsed first second)
    (frame : Nat) : second.isEvictable frame = first.isEvictable frame := by
  rw [Bool.eq_iff_iff, isEvictable_iff, isEvictable_iff, agrees.owner?_eq, agrees.isPinned_eq]

end AgreesButUsed

theorem agreesButUsed_mark (table : FrameTable Owner) (frame : Nat) (used : Bool) :
    AgreesButUsed table (table.alter frame (Frame.mark used)) :=
  ⟨size_alter, owner?_alter_of_keeps _ fun _ => rfl, isPinned_alter_of_keeps _ fun _ => rfl⟩

theorem agreesButUsed_takeUsed (table : FrameTable Owner) (frame : Nat) :
    AgreesButUsed table (table.takeUsed frame).2 := by
  rw [takeUsed]
  split
  · rename_i cleared done
    rw [eq_of_update_eq_ok done]
    exact agreesButUsed_mark table frame false
  · exact .refl table

/-- Taking the mark of a frame returns it and clears it. -/
theorem of_takeUsed_eq {table cleared : FrameTable Owner} {frame : Nat} {used : Bool}
    (inside : frame < table.size) (taken : table.takeUsed frame = (used, cleared)) :
    used = table.isUsed frame ∧ ∀ other, cleared.isUsed other =
      if other = frame then false else table.isUsed other := by
  rw [takeUsed, clearUsed, update_eq_ok inside] at taken
  obtain ⟨rfl, rfl⟩ := Prod.mk.inj taken
  exact ⟨rfl, isUsed_alter_of_sets inside (Frame.mark false) fun _ => rfl⟩

end FrameTable

end DemandPaging
