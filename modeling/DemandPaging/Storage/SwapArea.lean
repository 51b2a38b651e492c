import DemandPaging.Storage.Disk
import DemandPaging.Storage.SlotSet

/-!
# Swap areas

A swap area keeps the contents of evicted pages in slots of one page each,
which are the blocks of a disk.  A page keeps its slot from the first time it
is written until it is released.  Free slots are reused lowest first; the disk
grows by one block only when none is free.  Requests that reach the disk take
the trouble that the disk runs into, which is none unless it is given.
-/

namespace DemandPaging

/-- Why a request to a swap area failed. -/
inductive SwapError where
  | disk (error : DiskError)
  | incorrectPageSize (size : Nat)
  | unknownSlot (slot : Nat)
  | closed
  deriving DecidableEq, Repr

namespace SwapError

def message : SwapError → String
  | disk error => s!"swap file error: {error.message}"
  | incorrectPageSize size => s!"buffer of {size} bytes does not match the page size"
  | unknownSlot slot => s!"swap slot {slot} does not exist"
  | closed => "swap file is closed"

def causes : SwapError → List String
  | disk error => error.message :: error.causes
  | _ => []

end SwapError

/-- A swap area for pages named by keys. -/
structure SwapArea (Key : Type) (pageSize : Nat) where
  disk : Disk pageSize
  bindings : KeyedTable Key Nat := {}
  freeSlots : SlotSet := {}
  slotCount : Nat := 0
  closed : Bool := false

namespace SwapArea

variable {Key : Type} {pageSize : Nat}

/-- A swap area without slots on the disk called `name`, which is created or
emptied. -/
def openNamed (volume : Volume) (name : String) :
    Except SwapError (SwapArea Key pageSize × Volume) :=
  match Disk.openNamed volume name true with
  | .ok (disk, volume) => .ok ({ disk := disk }, volume)
  | .error error => .error (.disk error)

def freeSlotCount (area : SwapArea Key pageSize) : Nat :=
  area.freeSlots.size

def boundSlotCount (area : SwapArea Key pageSize) : Nat :=
  area.bindings.size

def fileLength (area : SwapArea Key pageSize) (volume : Volume) : Nat :=
  area.disk.byteLength volume

/-- Take the lowest free slot, or a new one at the end of the disk.  The slot
belongs to no page yet. -/
def allocate (area : SwapArea Key pageSize) (volume : Volume)
    (trouble : Option Trouble := none) :
    Except SwapError (Nat × SwapArea Key pageSize × Volume) :=
  if area.closed then
    .error .closed
  else
    match area.freeSlots.takeLowest? with
    | some (slot, rest) => .ok (slot, { area with freeSlots := rest }, volume)
    | none =>
      match area.disk.tryGrow volume trouble with
      | .error error => .error (.disk error)
      | .ok (slot, volume) => .ok (slot, { area with slotCount := slot + 1 }, volume)

/-- Give back a slot that belongs to no page. -/
def free (area : SwapArea Key pageSize) (slot : Nat) :
    Except SwapError (SwapArea Key pageSize) :=
  if area.slotCount ≤ slot || area.bindings.values.contains slot then
    .error (.unknownSlot slot)
  else
    .ok { area with freeSlots := area.freeSlots.insert slot }

/-- The content of `slot`, for a buffer of `size` bytes. -/
def read (area : SwapArea Key pageSize) (volume : Volume) (slot size : Nat)
    (trouble : Option Trouble := none) : Except SwapError Bytes :=
  if size ≠ pageSize then
    .error (.incorrectPageSize size)
  else if area.closed then
    .error .closed
  else if area.slotCount ≤ slot then
    .error (.unknownSlot slot)
  else
    match area.disk.tryRead volume slot size trouble with
    | .ok bytes => .ok bytes
    | .error error => .error (.disk error)

/-- Remove the file behind the area.  The pages stay bound to their slots, and
closing again does nothing.  The area counts as closed even if its file could
not be removed. -/
def close (area : SwapArea Key pageSize) (volume : Volume)
    (trouble : Option Trouble := none) :
    Except SwapError Unit × SwapArea Key pageSize × Volume :=
  if area.closed then
    (.ok (), area, volume)
  else
    let sealed := { area with closed := true, freeSlots := {} }
    match area.disk.tryRemove volume trouble with
    | .ok volume => (.ok (), sealed, volume)
    | .error error => (.error (.disk error), sealed, volume)

/-- Release every page that satisfies `selected` and return how many there
were. -/
def releaseWhere (area : SwapArea Key pageSize) (selected : Key → Bool) :
    Nat × SwapArea Key pageSize :=
  let (released, kept) := area.bindings.entries.partition fun entry => selected entry.1
  (released.length,
    { area with
      bindings := ⟨kept⟩
      freeSlots := area.freeSlots.insertAll (released.map Prod.snd) })

/-- A swap area opens if its file can have its name. -/
theorem exists_openNamed_eq_ok {volume : Volume} {name : String}
    (named : volume.checkPath (Disk.imageName name) true = .ok ()) :
    ∃ (area : SwapArea Key pageSize) (opened : Volume),
      openNamed volume name = .ok (area, opened) := by
  obtain ⟨file, opened, done⟩ := Volume.exists_openFile_eq_ok named
  rw [openNamed, Disk.openNamed, done]
  exact ⟨_, _, rfl⟩

theorem of_read_eq_ok {area : SwapArea Key pageSize} {volume : Volume} {slot size : Nat}
    {trouble : Option Trouble} {bytes : Bytes}
    (done : area.read volume slot size trouble = .ok bytes) :
    bytes.size = pageSize ∧ area.closed = false ∧ slot < area.slotCount ∧
      bytes = Bytes.slice (volume.content area.disk.file) (slot * pageSize) pageSize := by
  rw [read] at done
  split at done
  · cases done
  split at done
  · cases done
  split at done
  · cases done
  rename_i sizeEq notClosed known
  split at done
  · rename_i content found
    obtain ⟨checked, rfl⟩ := Disk.of_tryRead_eq_ok found
    obtain ⟨rfl, ends⟩ := Disk.checkBlock_eq_ok_iff.mp checked
    obtain rfl := Except.ok.inj done
    refine ⟨?_, by simpa using notClosed, Nat.lt_of_not_le known, rfl⟩
    rw [Disk.byteLength] at ends
    rw [Bytes.slice, Array.size_extract, Nat.min_eq_left (by rwa [Nat.succ_mul] at ends)]
    omega
  · cases done

theorem closed_close (area : SwapArea Key pageSize) (volume : Volume)
    (trouble : Option Trouble) : (area.close volume trouble).2.1.closed = true := by
  rw [close]
  split
  · rename_i closed
    exact closed
  · simp only
    split
    · rfl
    · rfl

theorem closed_of_allocate_eq_ok {area next : SwapArea Key pageSize} {volume grown : Volume}
    {slot : Nat} {trouble : Option Trouble}
    (done : area.allocate volume trouble = .ok (slot, next, grown)) :
    next.closed = area.closed := by
  rw [allocate] at done
  split at done
  · cases done
  split at done
  · cases done
    rfl
  · split at done
    · cases done
    · cases done
      rfl

section Outcomes

variable {area : SwapArea Key pageSize} {volume : Volume}

theorem inside_of_read_eq_ok {slot size : Nat} {trouble : Option Trouble} {bytes : Bytes}
    (done : area.read volume slot size trouble = .ok bytes) :
    (slot + 1) * pageSize ≤ area.disk.byteLength volume := by
  rw [read] at done
  split at done
  · cases done
  split at done
  · cases done
  split at done
  · cases done
  split at done
  · rename_i found
    exact (Disk.checkBlock_eq_ok_iff.mp (Disk.of_tryRead_eq_ok found).1).2
  · cases done

/-- Without a free slot, the file grows by one. -/
theorem allocate_of_full (volume : Volume) (isOpen : area.closed = false)
    (full : area.freeSlots.slots = []) :
    area.allocate volume = .ok (area.disk.blockCount volume,
      { area with slotCount := area.disk.blockCount volume + 1 },
      (area.disk.grow volume).2) := by
  have empty : area.freeSlots.takeLowest? = none := by rw [SlotSet.takeLowest?, full]
  rw [allocate, isOpen, if_neg Bool.false_ne_true, empty]
  rfl

theorem allocate_of_taken (volume : Volume) (trouble : Option Trouble)
    (isOpen : area.closed = false) {slot : Nat} {rest : SlotSet}
    (taken : area.freeSlots.takeLowest? = some (slot, rest)) :
    area.allocate volume trouble = .ok (slot, { area with freeSlots := rest }, volume) := by
  rw [allocate, isOpen, if_neg Bool.false_ne_true, taken]

/-- Closing takes the free slots away and leaves the files alone. -/
theorem of_close_eq {trouble : Option Trouble} {outcome : Except SwapError Unit}
    {next : SwapArea Key pageSize} {closed : Volume}
    (done : area.close volume trouble = (outcome, next, closed)) :
    (next = area ∨ next = { area with closed := true, freeSlots := {} }) ∧
      closed.files = volume.files := by
  rw [close] at done
  split at done
  · obtain ⟨-, rfl, rfl⟩ := by simpa using done
    exact ⟨.inl rfl, rfl⟩
  · split at done
    · rename_i removed taken
      obtain ⟨-, rfl, rfl⟩ := by simpa using done
      refine ⟨.inr rfl, ?_⟩
      rw [Disk.of_tryRemove_eq_ok taken]
    · obtain ⟨-, rfl, rfl⟩ := by simpa using done
      exact ⟨.inr rfl, rfl⟩

end Outcomes

variable [DecidableEq Key]

def slotOf? (area : SwapArea Key pageSize) (key : Key) : Option Nat :=
  area.bindings.find? key

/-- Write `data` to the slot of the page `key`, giving the page a slot first if
it has none.  A slot given for a write that fails becomes free again. -/
def write (area : SwapArea Key pageSize) (volume : Volume) (key : Key) (data : Bytes)
    (trouble : Option Trouble := none) :
    Except SwapError Nat × SwapArea Key pageSize × Volume :=
  if data.size ≠ pageSize then
    (.error (.incorrectPageSize data.size), area, volume)
  else if area.closed then
    (.error .closed, area, volume)
  else
    match area.slotOf? key with
    | some slot =>
      match area.disk.tryWrite volume slot data trouble with
      | (.ok (), volume) => (.ok slot, area, volume)
      | (.error error, volume) => (.error (.disk error), area, volume)
    | none =>
      match area.allocate volume trouble with
      | .error error => (.error error, area, volume)
      | .ok (slot, area, volume) =>
        match area.disk.tryWrite volume slot data trouble with
        | (.ok (), volume) =>
          (.ok slot, { area with bindings := area.bindings.set key slot }, volume)
        | (.error error, volume) =>
          (.error (.disk error),
            { area with freeSlots := area.freeSlots.insert slot }, volume)

/-- Take the slot of the page `key` away from it and return the slot. -/
def release (area : SwapArea Key pageSize) (key : Key) :
    Option Nat × SwapArea Key pageSize :=
  match area.slotOf? key with
  | none => (none, area)
  | some slot =>
    (some slot,
      { area with
        bindings := area.bindings.erase key
        freeSlots := area.freeSlots.insert slot })

theorem closed_write (area : SwapArea Key pageSize) (volume : Volume) (key : Key) (data : Bytes)
    (trouble : Option Trouble) :
    (area.write volume key data trouble).2.1.closed = area.closed := by
  rw [write]
  split
  · rfl
  split
  · rfl
  split
  · split
    · rfl
    · rfl
  · split
    · rfl
    · rename_i allocated
      have same := closed_of_allocate_eq_ok allocated
      split
      · exact same
      · exact same

section Writing

variable {area : SwapArea Key pageSize} {volume : Volume} {key : Key} {slot : Nat} {data : Bytes}
  {trouble : Option Trouble}

theorem write_of_bound (volume : Volume) (trouble : Option Trouble)
    (isOpen : area.closed = false) (fits : data.size = pageSize)
    (bound : area.slotOf? key = some slot) :
    area.write volume key data trouble =
      match area.disk.tryWrite volume slot data trouble with
      | (.ok (), volume) => (.ok slot, area, volume)
      | (.error error, volume) => (.error (.disk error), area, volume) := by
  rw [write, if_neg (fun differs => differs fits), isOpen, if_neg Bool.false_ne_true, bound]

theorem write_of_allocated (isOpen : area.closed = false) {next : SwapArea Key pageSize}
    {grown : Volume} (fits : data.size = pageSize) (unbound : area.slotOf? key = none)
    (allocated : area.allocate volume trouble = .ok (slot, next, grown)) :
    area.write volume key data trouble =
      match next.disk.tryWrite grown slot data trouble with
      | (.ok (), volume) =>
        (.ok slot, { next with bindings := next.bindings.set key slot }, volume)
      | (.error error, volume) =>
        (.error (.disk error), { next with freeSlots := next.freeSlots.insert slot }, volume) := by
  rw [write, if_neg (fun differs => differs fits), isOpen, if_neg Bool.false_ne_true, unbound]
  simp only [allocated]

end Writing

end SwapArea

end DemandPaging
