import DemandPaging.Proofs.SwapRequests

/-!
# Disks that look the same

A disk shows the bytes of its file, and whether there is a file under its name.
Two disks that look the same, each on a volume of its own, answer every request
alike and look the same afterwards, and so do the swap areas on them.  Under
which numbers the volumes know the files, and what else they hold, does not
matter.
-/

namespace DemandPaging

namespace Volume

/-- A path that can be created names a file of every directory. -/
theorem checkPath_of_eq_ok {volume : Volume} {path : String} {creating : Bool}
    (named : volume.checkPath path creating = .ok ()) (other : Volume) (flag : Bool) :
    other.checkPath path flag = .ok () := by
  unfold checkPath at *
  simp only at *
  split at named
  next => cases named
  next noNul =>
    split at named
    next => cases named
    next nonempty =>
      split at named
      next => cases named
      next short =>
        split at named
        next flat =>
          split at named
          next => cases named
          next fits => rw [if_neg noNul, if_neg nonempty, if_neg short, if_pos flat, if_neg fits]
        next =>
          split at named
          next => cases named
          next => cases named

theorem hasFile_of_openFile_eq_ok {volume opened : Volume} {path : String} {file : FileNumber}
    (done : volume.openFile path true = .ok (file, opened)) : opened.hasFile path = true := by
  unfold openFile at done
  cases checked : volume.checkPath path true with
  | error error =>
    rw [checked] at done
    cases done
  | ok =>
    rw [checked] at done
    simp only [bind, Except.bind] at done
    split at done
    next found =>
      cases done
      unfold hasFile
      exact Option.isSome_iff_exists.mpr ⟨_, found⟩
    next =>
      cases done
      unfold hasFile find?
      rw [KeyedTable.find?_set_self]
      rfl

end Volume

namespace Disk

variable {blockSize : Nat}

/-- Two disks look the same: their files hold the same bytes, and there is a file
under the name of both or of neither. -/
structure LooksLike (disk twin : Disk blockSize) (volume other : Volume) : Prop where
  name_eq : twin.name = disk.name
  hasFile_eq : other.hasFile (imageName disk.name) = volume.hasFile (imageName disk.name)
  content_eq : other.content twin.file = volume.content disk.file
  present : disk.file < volume.files.size
  twin_present : twin.file < other.files.size

namespace LooksLike

variable {disk twin : Disk blockSize} {volume other : Volume}

theorem byteLength_eq (looks : disk.LooksLike twin volume other) :
    twin.byteLength other = disk.byteLength volume := by
  unfold byteLength
  rw [looks.content_eq]

theorem blockCount_eq (looks : disk.LooksLike twin volume other) :
    twin.blockCount other = disk.blockCount volume := by
  unfold blockCount
  rw [looks.byteLength_eq]

theorem checkBlock_eq (looks : disk.LooksLike twin volume other) (block size : Nat) :
    twin.checkBlock other block size = disk.checkBlock volume block size := by
  unfold checkBlock
  rw [looks.byteLength_eq]

theorem tryRead_eq (looks : disk.LooksLike twin volume other) (block size : Nat)
    (trouble : Option Trouble) :
    twin.tryRead other block size trouble = disk.tryRead volume block size trouble := by
  unfold tryRead read
  rw [looks.checkBlock_eq, looks.content_eq]

/-- Both files may be changed in the same way. -/
theorem modify (looks : disk.LooksLike twin volume other) (change : Bytes → Bytes) :
    disk.LooksLike twin (volume.modify disk.file change) (other.modify twin.file change) where
  name_eq := looks.name_eq
  hasFile_eq := looks.hasFile_eq
  content_eq := by
    rw [Volume.content_modify_of_lt looks.present, Volume.content_modify_of_lt looks.twin_present,
      looks.content_eq]
  present := by
    rw [Volume.size_files_modify]
    exact looks.present
  twin_present := by
    rw [Volume.size_files_modify]
    exact looks.twin_present

theorem tryGrow (looks : disk.LooksLike twin volume other) (trouble : Option Trouble) :
    SameOutcome (fun grown twinGrown => twinGrown.1 = grown.1 ∧
        disk.LooksLike twin grown.2 twinGrown.2)
      (disk.tryGrow volume trouble) (twin.tryGrow other trouble) := by
  have grown : twin.grow other = (disk.blockCount volume,
      other.setLength twin.file ((disk.blockCount volume + 1) * blockSize)) := by
    unfold grow
    rw [looks.blockCount_eq]
  unfold Disk.tryGrow
  split
  next => exact .error _
  next =>
    rw [grown]
    exact .ok ⟨rfl, looks.modify _⟩

theorem tryWrite (looks : disk.LooksLike twin volume other) (block : Nat) (data : Bytes)
    (trouble : Option Trouble) :
    ∃ outcome written twinWritten,
      disk.tryWrite volume block data trouble = (outcome, written) ∧
      twin.tryWrite other block data trouble = (outcome, twinWritten) ∧
      disk.LooksLike twin written twinWritten := by
  unfold Disk.tryWrite write
  rw [looks.checkBlock_eq]
  match trouble with
  | none =>
    cases disk.checkBlock volume block data.size with
    | error error => exact ⟨_, _, _, rfl, rfl, looks⟩
    | ok => exact ⟨_, _, _, rfl, rfl, looks.modify _⟩
  | some (.refused error) => exact ⟨_, _, _, rfl, rfl, looks⟩
  | some (.brokenOff error reached) =>
    cases disk.checkBlock volume block data.size with
    | error error => exact ⟨_, _, _, rfl, rfl, looks⟩
    | ok => exact ⟨_, _, _, rfl, rfl, looks.modify _⟩

/-- Both names may be taken away. -/
theorem erase (looks : disk.LooksLike twin volume other) :
    disk.LooksLike twin { volume with names := volume.names.erase (imageName disk.name) }
      { other with names := other.names.erase (imageName disk.name) } where
  name_eq := looks.name_eq
  hasFile_eq := by
    unfold Volume.hasFile Volume.find?
    rw [KeyedTable.find?_erase_self, KeyedTable.find?_erase_self]
  content_eq := looks.content_eq
  present := looks.present
  twin_present := looks.twin_present

theorem tryRemove (looks : disk.LooksLike twin volume other)
    (named : volume.checkPath (imageName disk.name) true = .ok ()) (trouble : Option Trouble) :
    SameOutcome (disk.LooksLike twin) (disk.tryRemove volume trouble)
      (twin.tryRemove other trouble) := by
  unfold Disk.tryRemove
  cases trouble with
  | some trouble => exact .error _
  | none =>
    unfold Disk.remove Volume.remove
    rw [looks.name_eq, looks.hasFile_eq, Volume.checkPath_of_eq_ok named volume false,
      Volume.checkPath_of_eq_ok named other false]
    simp only [bind, Except.bind]
    cases volume.hasFile (imageName disk.name) with
    | false => exact .error _
    | true => exact .ok looks.erase

end LooksLike

end Disk

namespace SwapArea

variable {Key : Type} {pageSize : Nat}

/-- The same area with another disk under it. -/
def onDisk (area : SwapArea Key pageSize) (disk : Disk pageSize) : SwapArea Key pageSize :=
  { area with disk := disk }

@[simp]
theorem disk_onDisk (area : SwapArea Key pageSize) (disk : Disk pageSize) :
    (area.onDisk disk).disk = disk :=
  rfl

@[simp]
theorem closed_onDisk (area : SwapArea Key pageSize) (disk : Disk pageSize) :
    (area.onDisk disk).closed = area.closed :=
  rfl

@[simp]
theorem freeSlots_onDisk (area : SwapArea Key pageSize) (disk : Disk pageSize) :
    (area.onDisk disk).freeSlots = area.freeSlots :=
  rfl

/-- The same is answered, and the areas still differ by their disks only, which
look the same. -/
inductive SameAnswer {Answer : Type} (twin : Disk pageSize) :
    Answer × SwapArea Key pageSize × Volume → Answer × SwapArea Key pageSize × Volume → Prop
  | intro (answer : Answer) {area : SwapArea Key pageSize} {volume other : Volume}
      (looks : area.disk.LooksLike twin volume other) :
      SameAnswer twin (answer, area, volume) (answer, area.onDisk twin, other)

theorem SameAnswer.map {Answer Other : Type} {twin : Disk pageSize}
    {left right : Answer × SwapArea Key pageSize × Volume} (same : SameAnswer twin left right)
    (tell : Answer → Other) :
    SameAnswer twin (tell left.1, left.2) (tell right.1, right.2) := by
  cases same with
  | intro answer looks => exact .intro _ looks

section Twins

variable {area : SwapArea Key pageSize} {twin : Disk pageSize} {volume other : Volume}

theorem read_onDisk (looks : area.disk.LooksLike twin volume other) (slot size : Nat)
    (trouble : Option Trouble) :
    (area.onDisk twin).read other slot size trouble = area.read volume slot size trouble := by
  have same := looks.tryRead_eq slot size trouble
  unfold read
  simp only [onDisk, same]

theorem allocate_onDisk (looks : area.disk.LooksLike twin volume other)
    (trouble : Option Trouble) :
    SameOutcome (SameAnswer twin) (area.allocate volume trouble)
      ((area.onDisk twin).allocate other trouble) := by
  unfold allocate
  rw [closed_onDisk]
  cases area.closed with
  | true => exact .error _
  | false =>
    rw [if_neg Bool.false_ne_true, if_neg Bool.false_ne_true, freeSlots_onDisk, disk_onDisk]
    cases area.freeSlots.takeLowest? with
    | some taken => exact .ok (.intro _ looks)
    | none =>
      rcases (looks.tryGrow trouble).error_or_ok with
        ⟨error, left, right⟩ | ⟨⟨slot, volume⟩, ⟨_, other⟩, left, right, rfl, grown⟩
      · simp only [left, right]
        exact .error _
      · simp only [left, right]
        exact .ok (.intro _ grown)

theorem close_onDisk (looks : area.disk.LooksLike twin volume other)
    (named : volume.checkPath (Disk.imageName area.disk.name) true = .ok ())
    (trouble : Option Trouble) :
    SameAnswer twin (area.close volume trouble) ((area.onDisk twin).close other trouble) := by
  unfold close
  rw [closed_onDisk]
  cases area.closed with
  | true => exact .intro _ looks
  | false =>
    rw [if_neg Bool.false_ne_true, if_neg Bool.false_ne_true, disk_onDisk]
    rcases (looks.tryRemove named trouble).error_or_ok with
      ⟨error, left, right⟩ | ⟨volume, other, left, right, removed⟩
    · simp only [left, right]
      exact .intro _ looks
    · simp only [left, right]
      exact .intro _ removed

variable [DecidableEq Key]

@[simp]
theorem slotOf?_onDisk (area : SwapArea Key pageSize) (disk : Disk pageSize) (key : Key) :
    (area.onDisk disk).slotOf? key = area.slotOf? key :=
  rfl

theorem write_onDisk (looks : area.disk.LooksLike twin volume other) (key : Key) (data : Bytes)
    (trouble : Option Trouble) :
    SameAnswer twin (area.write volume key data trouble)
      ((area.onDisk twin).write other key data trouble) := by
  unfold write
  by_cases misfit : data.size ≠ pageSize
  · rw [if_pos misfit, if_pos misfit]
    exact .intro _ looks
  rw [if_neg misfit, if_neg misfit, closed_onDisk]
  cases area.closed with
  | true => exact .intro _ looks
  | false =>
    rw [if_neg Bool.false_ne_true, if_neg Bool.false_ne_true, slotOf?_onDisk]
    cases area.slotOf? key with
    | some slot =>
      obtain ⟨outcome, _, _, left, right, written⟩ := looks.tryWrite slot data trouble
      simp only [disk_onDisk, left, right]
      cases outcome with
      | error error => exact .intro _ written
      | ok => exact .intro _ written
    | none =>
      rcases (allocate_onDisk looks trouble).error_or_ok with
        ⟨error, left, right⟩ | ⟨_, _, left, right, ⟨slot, grown⟩⟩
      · simp only [left, right]
        exact .intro _ looks
      · simp only [left, right, disk_onDisk]
        obtain ⟨outcome, _, _, left, right, written⟩ := grown.tryWrite slot data trouble
        simp only [left, right]
        cases outcome with
        | error error => exact .intro _ written
        | ok => exact .intro _ written

theorem release_onDisk (area : SwapArea Key pageSize) (disk : Disk pageSize) (key : Key) :
    (area.onDisk disk).release key =
      ((area.release key).1, (area.release key).2.onDisk disk) := by
  unfold release
  rw [slotOf?_onDisk]
  cases area.slotOf? key <;> rfl

theorem disk_release (area : SwapArea Key pageSize) (key : Key) :
    (area.release key).2.disk = area.disk := by
  unfold release
  cases area.slotOf? key <;> rfl

omit [DecidableEq Key] in
theorem disk_of_free_eq_ok {freed : SwapArea Key pageSize} {slot : Nat}
    (done : area.free slot = .ok freed) : freed.disk = area.disk := by
  unfold free at done
  split at done
  next => cases done
  next =>
    cases done
    rfl

omit [DecidableEq Key] in
theorem free_onDisk (area : SwapArea Key pageSize) (disk : Disk pageSize) (slot : Nat) :
    (area.onDisk disk).free slot = (area.free slot).map (onDisk · disk) := by
  unfold free onDisk
  simp only
  split <;> rfl

end Twins

/-- A store that is opened looks the same in every directory: its file is there
and is empty. -/
theorem openNamed_onDisk {volume other : Volume} {name : String}
    (consistent : volume.Consistent) (otherConsistent : other.Consistent)
    (named : volume.checkPath (Disk.imageName name) true = .ok ()) :
    ∃ (area : SwapArea Key pageSize) (twin : Disk pageSize) (opened twinOpened : Volume),
      openNamed volume name = .ok (area, opened) ∧
      openNamed other name = .ok (area.onDisk twin, twinOpened) ∧
      area.disk.name = name ∧ area.disk.LooksLike twin opened twinOpened := by
  obtain ⟨file, opened, done⟩ := Volume.exists_openFile_eq_ok named
  obtain ⟨twinFile, twinOpened, twinDone⟩ :=
    Volume.exists_openFile_eq_ok (Volume.checkPath_of_eq_ok named other true)
  obtain ⟨present, content, -⟩ := Volume.of_openFile_eq_ok consistent done
  obtain ⟨twinPresent, twinContent, -⟩ := Volume.of_openFile_eq_ok otherConsistent twinDone
  refine ⟨{ disk := ⟨name, file⟩ }, ⟨name, twinFile⟩, opened, twinOpened, ?_, ?_, rfl, ?_⟩
  · unfold openNamed Disk.openNamed
    rw [done]
  · unfold openNamed Disk.openNamed
    rw [twinDone]
    rfl
  · constructor
    case name_eq => rfl
    case hasFile_eq =>
      rw [Volume.hasFile_of_openFile_eq_ok done, Volume.hasFile_of_openFile_eq_ok twinDone]
    case content_eq => rw [content, twinContent]
    case present => exact present
    case twin_present => exact twinPresent

end SwapArea

end DemandPaging
