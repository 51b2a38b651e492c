import DemandPaging.Proofs.TwinDisks
import Mathlib.Logic.Function.Basic

/-!
# Calls of a swap store

A swap store is known by its name and has a swap area once it is open.  What it
answers depends on nothing but what it sees: whether there is a file of its name,
and the bytes behind its disk.  What it changes is its file and its name, so
that the files of all other names are spared.
-/

namespace DemandPaging

/-- What is asked of an open swap store. -/
inductive AreaCall (Key : Type) where
  /-- A request that runs into `trouble`, if any, when it reaches the disk. -/
  | request (request : SwapRequest Key) (trouble : Option Trouble)
  | slotOf (key : Key)
  | slotCounts
  | fileLength

/-- What is asked of a swap store. -/
inductive StoreCall (Key : Type) where
  /-- Open the store, whatever became of it before. -/
  | opening
  | call (call : AreaCall Key)

/-- What a swap store answers. -/
inductive StoreAnswer where
  /-- The store was never opened. -/
  | absent
  | opened (outcome : Except SwapError Unit)
  | answered (answer : SwapAnswer)
  | slotOf (slot : Option Nat)
  /-- How many slots there are, and how many of them are free and bound. -/
  | slotCounts (slots free bound : Nat)
  | fileLength (bytes : Nat)

namespace SwapArea

variable {Key : Type} {pageSize : Nat} [DecidableEq Key]

/-- Serve one request, which runs into `trouble` when it reaches the disk. -/
def serve (area : SwapArea Key pageSize) (volume : Volume) (trouble : Option Trouble) :
    SwapRequest Key → SwapAnswer × SwapArea Key pageSize × Volume
  | .write key data =>
    let (outcome, area, volume) := area.write volume key data trouble
    (.wrote outcome, area, volume)
  | .read slot size => (.read (area.read volume slot size trouble), area, volume)
  | .release key =>
    let (slot, area) := area.release key
    (.released slot, area, volume)
  | .releaseWhere selected =>
    let (count, area) := area.releaseWhere selected
    (.releasedAll count, area, volume)
  | .allocate =>
    match area.allocate volume trouble with
    | .ok (slot, area, volume) => (.allocated (.ok slot), area, volume)
    | .error error => (.allocated (.error error), area, volume)
  | .free slot =>
    match area.free slot with
    | .ok area => (.freed (.ok ()), area, volume)
    | .error error => (.freed (.error error), area, volume)
  | .close =>
    let (outcome, area, volume) := area.close volume trouble
    (.closed outcome, area, volume)

/-- Without trouble, these are the requests to a swap area in use. -/
theorem serve_none (use : SwapUse Key pageSize) (request : SwapRequest Key) :
    use.area.serve use.volume none request =
      ((use.serve request).1, (use.serve request).2.area, (use.serve request).2.volume) := by
  cases request with
  | write key data => rfl
  | read slot size => rfl
  | release key => rfl
  | releaseWhere selected => rfl
  | allocate =>
    simp only [serve, SwapUse.serve]
    cases use.area.allocate use.volume <;> rfl
  | free slot =>
    simp only [serve, SwapUse.serve]
    cases use.area.free slot <;> rfl
  | close => rfl

/-- Answer one call of an open store. -/
def call (area : SwapArea Key pageSize) (volume : Volume) :
    AreaCall Key → StoreAnswer × SwapArea Key pageSize × Volume
  | .request request trouble =>
    let (answer, area, volume) := area.serve volume trouble request
    (.answered answer, area, volume)
  | .slotOf key => (.slotOf (area.slotOf? key), area, volume)
  | .slotCounts =>
    (.slotCounts area.slotCount area.freeSlotCount area.boundSlotCount, area, volume)
  | .fileLength => (.fileLength (area.fileLength volume), area, volume)

/-- Answer one call of the store called `name`, which has an area once it is
open. -/
def callNamed (name : String) (area? : Option (SwapArea Key pageSize)) (volume : Volume) :
    StoreCall Key → StoreAnswer × Option (SwapArea Key pageSize) × Volume
  | .opening =>
    match openNamed volume name with
    | .ok (area, volume) => (.opened (.ok ()), some area, volume)
    | .error error => (.opened (.error error), area?, volume)
  | .call call =>
    match area? with
    | none => (.absent, none, volume)
    | some area =>
      let (answer, area, volume) := area.call volume call
      (answer, some area, volume)

end SwapArea

namespace SwapArea

variable {Key : Type} {pageSize : Nat}

/-- A store sees the same in two directories: it is not open and there is a file
of its name in both or in neither, or its disks look the same. -/
inductive SeesAlike (name : String) (volume other : Volume) :
    Option (SwapArea Key pageSize) → Option (SwapArea Key pageSize) → Prop
  | unopened
      (hasFile_eq : other.hasFile (Disk.imageName name) = volume.hasFile (Disk.imageName name)) :
      SeesAlike name volume other none none
  | opened {area : SwapArea Key pageSize} {twin : Disk pageSize} (name_eq : area.disk.name = name)
      (looks : area.disk.LooksLike twin volume other) :
      SeesAlike name volume other (some area) (some (area.onDisk twin))

variable [DecidableEq Key]

section Alike

variable {area : SwapArea Key pageSize} {twin : Disk pageSize} {volume other : Volume}

theorem serve_onDisk (looks : area.disk.LooksLike twin volume other)
    (named : volume.checkPath (Disk.imageName area.disk.name) true = .ok ())
    (trouble : Option Trouble) (request : SwapRequest Key) :
    SameAnswer twin (area.serve volume trouble request)
      ((area.onDisk twin).serve other trouble request) := by
  cases request with
  | write key data => exact (write_onDisk looks key data trouble).map SwapAnswer.wrote
  | read slot size =>
    simp only [serve, read_onDisk looks]
    exact .intro _ looks
  | release key =>
    simp only [serve, release_onDisk]
    apply SameAnswer.intro
    rw [disk_release]
    exact looks
  | releaseWhere selected => exact .intro _ looks
  | allocate =>
    simp only [serve]
    rcases (allocate_onDisk looks trouble).error_or_ok with
      ⟨error, left, right⟩ | ⟨_, _, left, right, ⟨slot, grown⟩⟩
    · simp only [left, right]
      exact .intro _ looks
    · simp only [left, right]
      exact .intro _ grown
  | free slot =>
    simp only [serve, free_onDisk]
    cases done : area.free slot with
    | error error => exact .intro _ looks
    | ok freed =>
      apply SameAnswer.intro
      rw [disk_of_free_eq_ok done]
      exact looks
  | close => exact (close_onDisk looks named trouble).map SwapAnswer.closed

theorem call_onDisk (looks : area.disk.LooksLike twin volume other)
    (named : volume.checkPath (Disk.imageName area.disk.name) true = .ok ())
    (call : AreaCall Key) :
    SameAnswer twin (area.call volume call) ((area.onDisk twin).call other call) := by
  cases call with
  | request request trouble =>
    exact (serve_onDisk looks named trouble request).map StoreAnswer.answered
  | slotOf key => exact .intro _ looks
  | slotCounts => exact .intro _ looks
  | fileLength =>
    simp only [SwapArea.call, fileLength, disk_onDisk, looks.byteLength_eq]
    exact .intro _ looks

/-- A store that sees the same answers the same, and sees the same afterwards. -/
theorem SeesAlike.callNamed {name : String} {area? twin? : Option (SwapArea Key pageSize)}
    (sees : SeesAlike name volume other area? twin?) (consistent : volume.Consistent)
    (otherConsistent : other.Consistent)
    (named : volume.checkPath (Disk.imageName name) true = .ok ()) (call : StoreCall Key) :
    (SwapArea.callNamed name twin? other call).1 =
        (SwapArea.callNamed name area? volume call).1 ∧
      SeesAlike name (SwapArea.callNamed name area? volume call).2.2
        (SwapArea.callNamed name twin? other call).2.2
        (SwapArea.callNamed name area? volume call).2.1
        (SwapArea.callNamed name twin? other call).2.1 := by
  cases call with
  | opening =>
    obtain ⟨area, twin, opened, twinOpened, left, right, name_eq, looks⟩ :=
      @openNamed_onDisk Key pageSize _ _ _ consistent otherConsistent named
    unfold SwapArea.callNamed
    simp only [left, right]
    exact ⟨trivial, .opened name_eq looks⟩
  | call call =>
    cases sees with
    | unopened hasFile_eq => exact ⟨rfl, .unopened hasFile_eq⟩
    | @opened area twin name_eq looks =>
      rw [← name_eq] at named
      unfold SwapArea.callNamed
      dsimp only
      have same := call_onDisk looks named call
      generalize area.call volume call = left, (area.onDisk twin).call other call = right
        at same ⊢
      cases same with
      | intro answer later =>
        exact ⟨rfl, .opened ((later.name_eq.symm.trans looks.name_eq).trans name_eq) later⟩

end Alike

end SwapArea

namespace Volume

/-- Nothing but the file `file` is changed, if anything is. -/
def ChangesOnly (volume : Volume) (file : FileNumber) (next : Volume) : Prop :=
  ∃ change, next = volume.modify file change

theorem ChangesOnly.refl (volume : Volume) (file : FileNumber) :
    volume.ChangesOnly file volume := by
  refine ⟨id, ?_⟩
  have files_eq : volume.files.modify file id = volume.files := by
    apply Array.ext_getElem?
    intro index
    simp [Array.getElem?_modify]
  unfold modify
  rw [files_eq]

theorem ChangesOnly.trans {volume middle next : Volume} {file : FileNumber}
    (first : volume.ChangesOnly file middle) (second : middle.ChangesOnly file next) :
    volume.ChangesOnly file next := by
  obtain ⟨change, rfl⟩ := first
  obtain ⟨later, rfl⟩ := second
  refine ⟨later ∘ change, ?_⟩
  unfold modify
  congr 1
  apply Array.ext_getElem?
  intro index
  simp only [Array.getElem?_modify]
  split
  · rw [Option.map_map]
  · rfl

/-- What a call of a store may do to the directory, and to the file behind the
store, if its own file is to be called `image`. -/
inductive Affects (image : String) (volume : Volume) :
    Option FileNumber → Option FileNumber → Volume → Prop
  | keep (behind? : Option FileNumber) : Affects image volume behind? behind? volume
  | change {file : FileNumber} {next : Volume} (changes : volume.ChangesOnly file next) :
      Affects image volume (some file) (some file) next
  | erase (file : FileNumber) : Affects image volume (some file) (some file)
      { volume with names := volume.names.erase image }
  | reopen (behind? : Option FileNumber) {file : FileNumber} {next : Volume}
      (found : volume.find? image = some file) (changes : volume.ChangesOnly file next) :
      Affects image volume behind? (some file) next
  | create (behind? : Option FileNumber) :
      Affects image volume behind? (some volume.files.size)
        { volume with
          names := volume.names.set image volume.files.size
          files := volume.files.push #[] }

/-- Every name leads to a file, and to the file that is labelled with it. -/
structure Labelled (volume : Volume) (label : FileNumber → String) : Prop where
  present : ∀ name file, volume.find? name = some file → file < volume.files.size
  label_eq : ∀ name file, volume.find? name = some file → label file = name

/-- What is called `name`, and every file so labelled, stays as it is. -/
structure Spares (volume : Volume) (label : FileNumber → String) (name : String) (next : Volume) :
    Prop where
  find?_eq : next.find? name = volume.find? name
  content_eq : ∀ file < volume.files.size, label file = name →
    next.content file = volume.content file
  size_le : volume.files.size ≤ next.files.size

theorem ChangesOnly.size_eq {volume next : Volume} {file : FileNumber}
    (changes : volume.ChangesOnly file next) : next.files.size = volume.files.size := by
  obtain ⟨change, rfl⟩ := changes
  exact size_files_modify

section Affecting

variable {volume next : Volume} {image : String} {behind? after? : Option FileNumber}
  {label : FileNumber → String}

theorem content_modify_of_ne {file other : FileNumber} (differs : file ≠ other)
    (change : Bytes → Bytes) :
    (volume.modify file change).content other = volume.content other := by
  unfold content modify
  rw [Array.getD_eq_getD_getElem?, Array.getD_eq_getD_getElem?, Array.getElem?_modify,
    if_neg differs]

theorem Spares.of_changesOnly {file : FileNumber} {name : String} (elsewhere : label file ≠ name)
    (changes : volume.ChangesOnly file next) : volume.Spares label name next := by
  obtain ⟨change, rfl⟩ := changes
  constructor
  case find?_eq => rfl
  case content_eq =>
    intro other _ labelled
    apply content_modify_of_ne
    rintro rfl
    exact elsewhere labelled
  case size_le => exact Nat.le_of_eq size_files_modify.symm

/-- A call of one store spares the files of all other names. -/
theorem Affects.spares (affects : volume.Affects image behind? after? next)
    (labelled : volume.Labelled label) (own : ∀ file, behind? = some file → label file = image)
    {name : String} (differs : image ≠ name) : volume.Spares label name next := by
  cases affects with
  | keep => exact ⟨rfl, fun _ _ _ => rfl, Nat.le_refl _⟩
  | change changes =>
    apply Spares.of_changesOnly _ changes
    rw [own _ rfl]
    exact differs
  | erase file =>
    constructor
    case find?_eq => exact KeyedTable.find?_erase_of_ne _ differs.symm
    case content_eq => exact fun _ _ _ => rfl
    case size_le => exact Nat.le_refl _
  | reopen _ found changes =>
    apply Spares.of_changesOnly _ changes
    rw [labelled.label_eq _ _ found]
    exact differs
  | create =>
    constructor
    case find?_eq => exact KeyedTable.find?_set_of_ne _ _ differs.symm
    case content_eq =>
      intro file present _
      unfold content
      rw [Array.getD_eq_getD_getElem?, Array.getD_eq_getD_getElem?, Array.getElem?_push_lt present,
        Array.getElem?_eq_getElem present]
    case size_le => simp

theorem Labelled.of_changesOnly (labelled : volume.Labelled label) {file : FileNumber}
    (changes : volume.ChangesOnly file next) : next.Labelled label := by
  obtain ⟨change, rfl⟩ := changes
  constructor
  case present =>
    intro name file found
    rw [size_files_modify]
    exact labelled.present name file found
  case label_eq => exact labelled.label_eq

theorem Affects.size_le (affects : volume.Affects image behind? after? next) :
    volume.files.size ≤ next.files.size := by
  cases affects with
  | keep => exact Nat.le_refl _
  | change changes => exact Nat.le_of_eq changes.size_eq.symm
  | erase => exact Nat.le_refl _
  | reopen _ _ changes => exact Nat.le_of_eq changes.size_eq.symm
  | create => simp

/-- After a call the files can be labelled again, where old files keep their
labels and the file behind the store gets the name of the store. -/
theorem Affects.labelled (affects : volume.Affects image behind? after? next)
    (labelled : volume.Labelled label)
    (own : ∀ file, behind? = some file → file < volume.files.size ∧ label file = image) :
    ∃ relabel, next.Labelled relabel ∧ (∀ file < volume.files.size, relabel file = label file) ∧
      ∀ file, after? = some file → file < next.files.size ∧ relabel file = image := by
  cases affects with
  | keep => exact ⟨label, labelled, fun _ _ => rfl, own⟩
  | change changes =>
    refine ⟨label, labelled.of_changesOnly changes, fun _ _ => rfl, ?_⟩
    rw [changes.size_eq]
    exact own
  | erase file =>
    refine ⟨label, ?_, fun _ _ => rfl, own⟩
    constructor
    case present =>
      intro name file found
      exact labelled.present name file (KeyedTable.find?_erase_eq_some_iff.mp found).2
    case label_eq =>
      intro name file found
      exact labelled.label_eq name file (KeyedTable.find?_erase_eq_some_iff.mp found).2
  | reopen _ found changes =>
    refine ⟨label, labelled.of_changesOnly changes, fun _ _ => rfl, ?_⟩
    rintro _ ⟨⟩
    rw [changes.size_eq]
    exact ⟨labelled.present _ _ found, labelled.label_eq _ _ found⟩
  | create =>
    have sizes : (volume.files.push #[]).size = volume.files.size + 1 := by simp
    have kept : ∀ file < volume.files.size,
        Function.update label volume.files.size image file = label file := by
      intro file present
      exact Function.update_of_ne (Nat.ne_of_lt present) _ _
    have found_cases : ∀ name file,
        (volume.names.set image volume.files.size).find? name = some file →
          name = image ∧ file = volume.files.size ∨ volume.find? name = some file := by
      intro name file found
      rw [KeyedTable.find?_set] at found
      split at found
      next same => exact .inl ⟨same, (Option.some.inj found).symm⟩
      next => exact .inr found
    refine ⟨Function.update label volume.files.size image, ?_, kept, ?_⟩
    · constructor
      case present =>
        intro name file found
        rw [sizes]
        rcases found_cases name file found with ⟨-, rfl⟩ | before
        · exact Nat.lt_succ_self _
        · exact Nat.lt_succ_of_lt (labelled.present name file before)
      case label_eq =>
        intro name file found
        rcases found_cases name file found with ⟨rfl, rfl⟩ | before
        · exact Function.update_self _ _ _
        · rw [kept _ (labelled.present name file before)]
          exact labelled.label_eq name file before
    · rintro _ ⟨⟩
      rw [sizes]
      exact ⟨Nat.lt_succ_self _, Function.update_self _ _ _⟩

end Affecting

end Volume

namespace SwapArea

variable {Key : Type} {pageSize : Nat}

theorem changesOnly_tryGrow {disk : Disk pageSize} {volume grown : Volume} {block : Nat}
    {trouble : Option Trouble} (done : disk.tryGrow volume trouble = .ok (block, grown)) :
    volume.ChangesOnly disk.file grown := by
  unfold Disk.tryGrow at done
  split at done
  next => cases done
  next =>
    cases done
    exact ⟨_, rfl⟩

theorem changesOnly_tryWrite (disk : Disk pageSize) (volume : Volume) (block : Nat) (data : Bytes)
    (trouble : Option Trouble) :
    volume.ChangesOnly disk.file (disk.tryWrite volume block data trouble).2 := by
  rcases disk.tryWrite_cases volume block data trouble with
    ⟨error, failed⟩ | ⟨-, outcome, part, -, -, written⟩
  · rw [failed]
    exact .refl volume disk.file
  · rw [written]
    exact ⟨_, rfl⟩

section Effects

variable {area next : SwapArea Key pageSize} {volume : Volume} {trouble : Option Trouble}

theorem changesOnly_allocate {slot : Nat} {grown : Volume}
    (done : area.allocate volume trouble = .ok (slot, next, grown)) :
    next.disk = area.disk ∧ volume.ChangesOnly area.disk.file grown := by
  unfold allocate at done
  split at done
  next => cases done
  next =>
    split at done
    next =>
      cases done
      exact ⟨rfl, .refl volume _⟩
    next =>
      split at done
      next => cases done
      next grown =>
        cases done
        exact ⟨rfl, changesOnly_tryGrow grown⟩

theorem changesOnly_write [DecidableEq Key] (area : SwapArea Key pageSize) (volume : Volume)
    (key : Key) (data : Bytes) (trouble : Option Trouble) :
    (area.write volume key data trouble).2.1.disk = area.disk ∧
      volume.ChangesOnly area.disk.file (area.write volume key data trouble).2.2 := by
  unfold write
  split
  next => exact ⟨rfl, .refl volume _⟩
  next =>
    split
    next => exact ⟨rfl, .refl volume _⟩
    next =>
      split
      next slot _ =>
        have changes := changesOnly_tryWrite area.disk volume slot data trouble
        generalize area.disk.tryWrite volume slot data trouble = result at changes ⊢
        obtain ⟨outcome, written⟩ := result
        cases outcome <;> exact ⟨rfl, changes⟩
      next =>
        split
        next => exact ⟨rfl, .refl volume _⟩
        next slot next grown allocated =>
          obtain ⟨disk_eq, grows⟩ := changesOnly_allocate allocated
          have changes := changesOnly_tryWrite next.disk grown slot data trouble
          generalize next.disk.tryWrite grown slot data trouble = result at changes ⊢
          obtain ⟨outcome, written⟩ := result
          rw [disk_eq] at changes
          cases outcome <;> exact ⟨disk_eq, grows.trans changes⟩

theorem affects_close (area : SwapArea Key pageSize) (volume : Volume) (trouble : Option Trouble) :
    (area.close volume trouble).2.1.disk = area.disk ∧
      volume.Affects (Disk.imageName area.disk.name) (some area.disk.file) (some area.disk.file)
        (area.close volume trouble).2.2 := by
  unfold close
  split
  next => exact ⟨rfl, .keep _⟩
  next =>
    simp only
    split
    next removed done =>
      refine ⟨rfl, ?_⟩
      obtain rfl := Disk.of_tryRemove_eq_ok done
      exact .erase _
    next => exact ⟨rfl, .keep _⟩

variable [DecidableEq Key]

/-- A call leaves a store on its disk, and touches nothing but the file of the
disk and its name. -/
theorem affects_call (area : SwapArea Key pageSize) (volume : Volume) (call : AreaCall Key) :
    (area.call volume call).2.1.disk = area.disk ∧
      volume.Affects (Disk.imageName area.disk.name) (some area.disk.file) (some area.disk.file)
        (area.call volume call).2.2 := by
  cases call with
  | slotOf key => exact ⟨rfl, .keep _⟩
  | slotCounts => exact ⟨rfl, .keep _⟩
  | fileLength => exact ⟨rfl, .keep _⟩
  | request request trouble =>
    simp only [SwapArea.call]
    cases request with
    | write key data =>
      obtain ⟨disk_eq, changes⟩ := changesOnly_write area volume key data trouble
      exact ⟨disk_eq, .change changes⟩
    | read slot size => exact ⟨rfl, .keep _⟩
    | release key => exact ⟨disk_release area key, .keep _⟩
    | releaseWhere selected => exact ⟨rfl, .keep _⟩
    | allocate =>
      simp only [serve]
      split
      next allocated =>
        obtain ⟨disk_eq, changes⟩ := changesOnly_allocate allocated
        exact ⟨disk_eq, .change changes⟩
      next => exact ⟨rfl, .keep _⟩
    | free slot =>
      simp only [serve]
      split
      next freed => exact ⟨disk_of_free_eq_ok freed, .keep _⟩
      next => exact ⟨rfl, .keep _⟩
    | close => exact affects_close area volume trouble

/-- The number of the file behind a store that was opened. -/
def file? (area? : Option (SwapArea Key pageSize)) : Option FileNumber :=
  area?.map fun area => area.disk.file

omit [DecidableEq Key] in
theorem affects_openNamed {name : String} {opened : Volume}
    (done : openNamed volume name = .ok (area, opened)) (behind? : Option FileNumber) :
    area.disk.name = name ∧
      volume.Affects (Disk.imageName name) behind? (some area.disk.file) opened := by
  unfold openNamed Disk.openNamed Volume.openFile at done
  cases checked : volume.checkPath (Disk.imageName name) true with
  | error error =>
    rw [checked] at done
    cases done
  | ok =>
    rw [checked] at done
    simp only [bind, Except.bind] at done
    cases found : volume.find? (Disk.imageName name) with
    | some file =>
      rw [found] at done
      cases done
      exact ⟨rfl, .reopen behind? found ⟨_, rfl⟩⟩
    | none =>
      rw [found] at done
      cases done
      exact ⟨rfl, .create behind?⟩

theorem affects_callNamed {name : String} {area? : Option (SwapArea Key pageSize)}
    (named : ∀ area, area? = some area → area.disk.name = name) (volume : Volume)
    (call : StoreCall Key) :
    (∀ area, (callNamed name area? volume call).2.1 = some area → area.disk.name = name) ∧
      volume.Affects (Disk.imageName name) (file? area?)
        (file? (callNamed name area? volume call).2.1) (callNamed name area? volume call).2.2 := by
  cases call with
  | opening =>
    unfold callNamed
    dsimp only
    split
    next area opened done =>
      obtain ⟨name_eq, affects⟩ := affects_openNamed done (file? area?)
      refine ⟨?_, affects⟩
      rintro _ ⟨⟩
      exact name_eq
    next => exact ⟨named, .keep _⟩
  | call call =>
    cases area? with
    | none => exact ⟨nofun, .keep _⟩
    | some area =>
      obtain ⟨disk_eq, affects⟩ := affects_call area volume call
      rw [named area rfl] at affects
      unfold callNamed
      simp only [file?, Option.map_some, disk_eq]
      refine ⟨?_, affects⟩
      rintro _ ⟨⟩
      rw [disk_eq]
      exact named area rfl

end Effects

section Closing

variable [DecidableEq Key] {volume : Volume} {name : String}

/-- A store that was opened is open, and there is a file under its name. -/
theorem exists_callNamed_opening
    (named : volume.checkPath (Disk.imageName name) true = .ok ())
    (area? : Option (SwapArea Key pageSize)) :
    ∃ (area : SwapArea Key pageSize) (opened : Volume),
      callNamed name area? volume .opening = (.opened (.ok ()), some area, opened) ∧
      area.disk.name = name ∧ area.closed = false ∧
      opened.hasFile (Disk.imageName name) = true := by
  obtain ⟨file, opened, done⟩ := Volume.exists_openFile_eq_ok named
  refine ⟨{ disk := ⟨name, file⟩ }, opened, ?_, rfl, rfl, Volume.hasFile_of_openFile_eq_ok done⟩
  unfold callNamed openNamed Disk.openNamed
  rw [done]

section Open

variable {area : SwapArea Key pageSize} (isOpen : area.closed = false)
  (named : ∀ volume : Volume, volume.checkPath (Disk.imageName area.disk.name) true = .ok ())

include isOpen named

omit [DecidableEq Key] in
theorem close_of_isOpen (volume : Volume) :
    area.close volume =
      if volume.hasFile (Disk.imageName area.disk.name) then
        (.ok (), { area with closed := true, freeSlots := {} },
          { volume with names := volume.names.erase (Disk.imageName area.disk.name) })
      else
        (.error (.disk (.file .notFound)), { area with closed := true, freeSlots := {} },
          volume) := by
  have removable := Volume.checkPath_of_eq_ok (named volume) volume false
  unfold close Disk.tryRemove Disk.remove Volume.remove
  rw [isOpen, removable, if_neg Bool.false_ne_true]
  cases volume.hasFile (Disk.imageName area.disk.name) <;> rfl

/-- To close an open store is an error if there is no file under its name. -/
theorem answer_close_of_isOpen (name : String) (volume : Volume) :
    (callNamed name (some area) volume (.call (.request .close none))).1 =
      .answered (.closed (if volume.hasFile (Disk.imageName area.disk.name) then .ok ()
        else .error (.disk (.file .notFound)))) := by
  unfold callNamed call serve
  simp only [close_of_isOpen isOpen named]
  split <;> rfl

/-- When an open store was closed, there is no file under its name. -/
theorem hasFile_close_of_isOpen (name : String) (volume : Volume) :
    (callNamed name (some area) volume (.call (.request .close none))).2.2.hasFile
      (Disk.imageName area.disk.name) = false := by
  unfold callNamed call serve
  simp only [close_of_isOpen isOpen named]
  split
  next =>
    unfold Volume.hasFile Volume.find?
    rw [KeyedTable.find?_erase_self]
    rfl
  next absent => exact Bool.eq_false_of_not_eq_true absent

end Open

end Closing

end SwapArea

/-- What others do beside a store is not seen by it. -/
theorem SwapArea.SeesAlike.of_spares {Key : Type} {pageSize : Nat} {name : String}
    {volume other next : Volume} {area? twin? : Option (SwapArea Key pageSize)}
    {label : FileNumber → String} (sees : SeesAlike name volume other area? twin?)
    (spares : volume.Spares label (Disk.imageName name) next)
    (own : ∀ area, area? = some area → label area.disk.file = Disk.imageName name) :
    SeesAlike name next other area? twin? := by
  have hasFile_eq : next.hasFile (Disk.imageName name) = volume.hasFile (Disk.imageName name) := by
    unfold Volume.hasFile
    rw [spares.find?_eq]
  cases sees with
  | unopened same => exact .unopened (same.trans hasFile_eq.symm)
  | @opened area twin name_eq looks =>
    apply SeesAlike.opened name_eq
    constructor
    case name_eq => exact looks.name_eq
    case hasFile_eq =>
      rw [looks.hasFile_eq, name_eq]
      exact hasFile_eq.symm
    case content_eq =>
      rw [looks.content_eq, spares.content_eq _ looks.present (own area rfl)]
    case present => exact Nat.lt_of_lt_of_le looks.present spares.size_le
    case twin_present => exact looks.twin_present

end DemandPaging
