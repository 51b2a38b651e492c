import DemandPaging.Storage.Volume

/-!
# Disks

A disk is a file of a volume, seen as a growing list of blocks of one size.
Block `n` is the run of bytes of the file that starts at `n * blockSize`.
-/

namespace DemandPaging

/-- Why a request to a disk failed. -/
inductive DiskError where
  | incorrectBlockSize (size : Nat)
  | overCapacity (block : Nat)
  | file (error : FileError)
  deriving DecidableEq, Repr

namespace DiskError

def message : DiskError → String
  | incorrectBlockSize size => s!"buffer of {size} bytes does not match the block size"
  | overCapacity block => s!"block {block} is past the end of the file"
  | file error => s!"disk i/o failed: {error.message}"

def causes : DiskError → List String
  | file error => [error.message]
  | _ => []

end DiskError

/-- Two requests fail with the same error, or succeed with related results. -/
inductive SameOutcome {Error First Second : Type} (related : First → Second → Prop) :
    Except Error First → Except Error Second → Prop
  | error (error : Error) : SameOutcome related (.error error) (.error error)
  | ok {first : First} {second : Second} (relates : related first second) :
      SameOutcome related (.ok first) (.ok second)

theorem SameOutcome.error_or_ok {Error First Second : Type} {related : First → Second → Prop}
    {left : Except Error First} {right : Except Error Second}
    (same : SameOutcome related left right) :
    (∃ error, left = .error error ∧ right = .error error) ∨
      ∃ first second, left = .ok first ∧ right = .ok second ∧ related first second := by
  cases same with
  | error error => exact .inl ⟨error, rfl, rfl⟩
  | ok relates => exact .inr ⟨_, _, rfl, rfl, relates⟩

/-- An open disk: the name it was opened under and the file behind it. -/
structure Disk (blockSize : Nat) where
  name : String
  file : FileNumber
  deriving DecidableEq, Repr

namespace Disk

variable {blockSize : Nat}

/-- The name of the file that holds the disk called `name`. -/
def imageName (name : String) : String :=
  "DISK_IMAGE_" ++ name.map fun letter => if letter = '-' then '_' else letter

/-- Open the disk called `name`.  When `creating`, its file is created if
missing and emptied otherwise. -/
def openNamed (volume : Volume) (name : String) (creating : Bool) :
    Except DiskError (Disk blockSize × Volume) :=
  match volume.openFile (imageName name) creating with
  | .ok (file, volume) => .ok (⟨name, file⟩, volume)
  | .error error => .error (.file error)

def byteLength (disk : Disk blockSize) (volume : Volume) : Nat :=
  (volume.content disk.file).size

def blockCount (disk : Disk blockSize) (volume : Volume) : Nat :=
  disk.byteLength volume / blockSize

/-- Append a block of zero bytes and return its number.  A trailing part of a
block is filled up and counts as the new one. -/
def grow (disk : Disk blockSize) (volume : Volume) : Nat × Volume :=
  let block := disk.blockCount volume
  (block, volume.setLength disk.file ((block + 1) * blockSize))

/-- Whether a buffer of `size` bytes is one block and `block` lies inside the
file; a wrong buffer is reported first. -/
def checkBlock (disk : Disk blockSize) (volume : Volume) (block size : Nat) :
    Except DiskError Unit :=
  if size ≠ blockSize then
    .error (.incorrectBlockSize size)
  else if disk.byteLength volume < (block + 1) * blockSize then
    .error (.overCapacity block)
  else
    .ok ()

def read (disk : Disk blockSize) (volume : Volume) (block size : Nat) :
    Except DiskError Bytes := do
  disk.checkBlock volume block size
  return (volume.content disk.file).slice (block * blockSize) size

def write (disk : Disk blockSize) (volume : Volume) (block : Nat) (data : Bytes) :
    Except DiskError Volume := do
  disk.checkBlock volume block data.size
  return volume.modify disk.file fun bytes => bytes.overwrite (block * blockSize) data

/-- Remove the file of the disk from the directory. -/
def remove (disk : Disk blockSize) (volume : Volume) : Except DiskError Volume :=
  match volume.remove (imageName disk.name) with
  | .ok volume => .ok volume
  | .error error => .error (.file error)

/-- Append a block, unless the request is refused. -/
def tryGrow (disk : Disk blockSize) (volume : Volume) :
    Option Trouble → Except DiskError (Nat × Volume)
  | some (.refused error) => .error (.file error)
  | _ => .ok (disk.grow volume)

/-- The content of `block`, unless the request runs into trouble. -/
def tryRead (disk : Disk blockSize) (volume : Volume) (block size : Nat) :
    Option Trouble → Except DiskError Bytes
  | none => disk.read volume block size
  | some (.refused error) => .error (.file error)
  | some (.brokenOff error _) => do
    disk.checkBlock volume block size
    throw (.file error)

/-- Replace the content of `block` by `data`, or only the part of it that is
through when the request breaks off. -/
def tryWrite (disk : Disk blockSize) (volume : Volume) (block : Nat) (data : Bytes) :
    Option Trouble → Except DiskError Unit × Volume
  | none =>
    match disk.write volume block data with
    | .ok written => (.ok (), written)
    | .error error => (.error error, volume)
  | some (.refused error) => (.error (.file error), volume)
  | some (.brokenOff error reached) =>
    match disk.checkBlock volume block data.size with
    | .ok () =>
      (.error (.file error), volume.modify disk.file fun bytes =>
        bytes.overwrite (block * blockSize) (Bytes.slice data 0 reached))
    | .error error => (.error error, volume)

/-- Remove the file of the disk from the directory, unless the request runs
into trouble. -/
def tryRemove (disk : Disk blockSize) (volume : Volume) :
    Option Trouble → Except DiskError Volume
  | none => disk.remove volume
  | some trouble => .error (.file trouble.error)

section Requests

variable {disk : Disk blockSize} {volume : Volume} {block size : Nat}

theorem checkBlock_eq_ok_iff :
    disk.checkBlock volume block size = .ok () ↔
      size = blockSize ∧ (block + 1) * blockSize ≤ disk.byteLength volume := by
  rw [checkBlock]
  split
  · simp_all
  · split
    · simp_all
    · simp_all

theorem of_tryRead_eq_ok {trouble : Option Trouble} {bytes : Bytes}
    (done : disk.tryRead volume block size trouble = .ok bytes) :
    disk.checkBlock volume block size = .ok () ∧
      bytes = Bytes.slice (volume.content disk.file) (block * blockSize) size := by
  match trouble with
  | none =>
    simp only [tryRead, read] at done
    cases checked : disk.checkBlock volume block size with
    | error error =>
      rw [checked] at done
      cases done
    | ok =>
      rw [checked] at done
      exact ⟨rfl, (Except.ok.inj done).symm⟩
  | some (.refused error) => cases done
  | some (.brokenOff error reached) =>
    simp only [tryRead] at done
    cases checked : disk.checkBlock volume block size with
    | error error =>
      rw [checked] at done
      cases done
    | ok =>
      rw [checked] at done
      cases done

theorem tryRead_eq_ok (checked : disk.checkBlock volume block size = .ok ()) :
    disk.tryRead volume block size none =
      .ok (Bytes.slice (volume.content disk.file) (block * blockSize) size) := by
  simp only [tryRead, read, checked]
  rfl

/-- A file that is removed loses its name and nothing else. -/
theorem of_tryRemove_eq_ok {removed : Volume} {trouble : Option Trouble}
    (done : disk.tryRemove volume trouble = .ok removed) :
    removed = { volume with names := volume.names.erase (imageName disk.name) } := by
  unfold tryRemove remove at done
  split at done
  · split at done
    · rename_i taken
      rw [← Except.ok.inj done]
      exact Volume.of_remove_eq_ok taken
    · cases done
  · cases done

theorem tryWrite_eq_ok {data : Bytes}
    (checked : disk.checkBlock volume block data.size = .ok ()) :
    disk.tryWrite volume block data none = (.ok (), volume.modify disk.file fun bytes =>
      bytes.overwrite (block * blockSize) data) := by
  simp only [tryWrite, write, checked]
  rfl

/-- A request to write that fails leaves the file alone or puts a first part of
the data into the block. -/
theorem tryWrite_cases (disk : Disk blockSize) (volume : Volume) (block : Nat) (data : Bytes)
    (trouble : Option Trouble) :
    (∃ error, disk.tryWrite volume block data trouble = (.error error, volume)) ∨
    disk.checkBlock volume block data.size = .ok () ∧
      ∃ outcome part, part.size ≤ data.size ∧ (outcome = .ok () → part = data) ∧
        disk.tryWrite volume block data trouble = (outcome, volume.modify disk.file fun bytes =>
          bytes.overwrite (block * blockSize) part) := by
  cases checked : disk.checkBlock volume block data.size with
  | error error =>
    refine .inl ?_
    match trouble with
    | none => exact ⟨error, by simp [tryWrite, write, checked, bind, Except.bind]⟩
    | some (.refused refusal) => exact ⟨_, rfl⟩
    | some (.brokenOff refusal reached) => exact ⟨error, by simp [tryWrite, checked]⟩
  | ok =>
    match trouble with
    | none =>
      exact .inr ⟨rfl, .ok (), data, Nat.le_refl _, fun _ => rfl,
        by simp [tryWrite, write, checked, bind, Except.bind, pure, Except.pure]⟩
    | some (.refused refusal) => exact .inl ⟨_, rfl⟩
    | some (.brokenOff refusal reached) =>
      refine .inr ⟨rfl, .error (.file refusal), Bytes.slice data 0 reached, ?_, nofun,
        by simp [tryWrite, checked]⟩
      rw [Bytes.slice, Array.size_extract]
      omega

end Requests

end Disk

end DemandPaging
