import DemandPaging.Proofs.SwapRequests
import Mathlib.Data.List.Infix
import Mathlib.Logic.Function.Basic

/-!
# A swap area whose file is cut

Others may cut the file of a swap area, or empty it by opening another area of
the same name.  The area finds the place of a new slot by the length of the
file, so a file that was cut can bring forth a slot that a page has already.
As long as this does not happen, the slots that are cut off give errors, and no
page ever shows the data of another one.
-/

namespace DemandPaging

namespace Volume

/-- Cut the file called `name`, if there is one, to at most `length` bytes. -/
def cut (volume : Volume) (name : String) (length : Nat) : Volume :=
  match volume.find? name with
  | some file => volume.setLength file (min length (volume.content file).size)
  | none => volume

/-- What a file still holds is what it held before. -/
structure Shortens (volume shortened : Volume) (file : FileNumber) : Prop where
  present : file < shortened.files.size
  size_le : (shortened.content file).size ≤ (volume.content file).size
  slice_eq : ∀ start count, start + count ≤ (shortened.content file).size →
    Bytes.slice (shortened.content file) start count = Bytes.slice (volume.content file) start count

section Shortening

variable {volume : Volume} {file : FileNumber}

theorem Shortens.refl (present : file < volume.files.size) : volume.Shortens volume file :=
  ⟨present, Nat.le_refl _, fun _ _ _ => rfl⟩

theorem shortens_setLength (present : file < volume.files.size) (other : FileNumber) {length : Nat}
    (shorter : length ≤ (volume.content other).size) :
    volume.Shortens (volume.setLength other length) file := by
  by_cases same : file = other
  · subst other
    have content : (volume.setLength file length).content file =
        (volume.content file).resize length := content_modify_of_lt present
    constructor
    case present => simpa [setLength] using present
    case size_le => rwa [content, Bytes.size_resize]
    case slice_eq =>
      intro start count inside
      rw [content, Bytes.size_resize] at inside
      rw [content, Bytes.slice_resize (inside.trans shorter) inside]
  · have content : (volume.setLength other length).content file = volume.content file := by
      simp [setLength, Volume.content, modify, Array.getD_eq_getD_getElem?, Array.getElem?_modify,
        Ne.symm same]
    constructor
    case present => simpa [setLength] using present
    case size_le => rw [content]
    case slice_eq =>
      intro start count _
      rw [content]

theorem shortens_cut (present : file < volume.files.size) (name : String) (length : Nat) :
    volume.Shortens (volume.cut name length) file := by
  rw [cut]
  split
  · exact shortens_setLength present _ (Nat.min_le_right _ _)
  · exact .refl present

/-- Opening a file anew empties it, and nothing else is shortened. -/
theorem shortens_openFile (present : file < volume.files.size) {name : String}
    {number : FileNumber} {opened : Volume}
    (done : volume.openFile name true = .ok (number, opened)) : volume.Shortens opened file := by
  simp only [openFile] at done
  cases checked : volume.checkPath name true with
  | error error =>
    rw [checked] at done
    cases done
  | ok =>
    rw [checked] at done
    simp only [bind, Except.bind] at done
    split at done
    · obtain ⟨rfl, rfl⟩ := Prod.mk.inj (Except.ok.inj done)
      exact shortens_setLength present _ (Nat.zero_le _)
    · obtain ⟨-, rfl⟩ := Prod.mk.inj (Except.ok.inj done)
      have content : Volume.content { volume with
          names := volume.names.set name volume.files.size
          files := volume.files.push #[] } file = volume.content file := by
        simp [Volume.content, Array.getD_eq_getD_getElem?, Array.getElem?_push_lt, present]
      constructor
      case present => exact Nat.lt_of_lt_of_eq (Nat.lt_succ_of_lt present) (by simp)
      case size_le => exact Nat.le_of_eq (congrArg Array.size content)
      case slice_eq => exact fun start count _ => congrArg (Bytes.slice · start count) content

end Shortening

end Volume

/-- A request to write that runs into no trouble succeeds or leaves the file
alone. -/
theorem Disk.tryWrite_none_cases {blockSize : Nat} (disk : Disk blockSize) (volume : Volume)
    (block : Nat) (data : Bytes) :
    (∃ change, disk.tryWrite volume block data none =
      (.ok (), volume.modify disk.file change)) ∨
    ∃ error, disk.tryWrite volume block data none = (.error error, volume) := by
  cases checked : disk.checkBlock volume block data.size with
  | error error =>
    exact .inr ⟨error, by simp [tryWrite, write, checked, bind, Except.bind]⟩
  | ok => exact .inl ⟨_, tryWrite_eq_ok checked⟩

/-- What can happen to a swap area whose file others can reach. -/
inductive SharedEvent (Key : Type) where
  | request (request : SwapRequest Key)
  /-- Somebody cuts the file to at most `length` bytes. -/
  | cut (length : Nat)
  /-- Somebody opens another area of the same name. -/
  | reopen

/-- A swap area whose file others can reach, with the data that was written to
every page by the last request to write it that succeeded. -/
structure SharedUse (Key : Type) (pageSize : Nat) extends SwapUse Key pageSize where
  lastWritten? : Key → Option Bytes := fun _ => none

namespace SharedUse

variable {Key : Type} {pageSize : Nat} [DecidableEq Key]

/-- The data last written to the pages, when `request` was answered by
`answer`. -/
def recorded (use : SharedUse Key pageSize) : SwapRequest Key → SwapAnswer → Key → Option Bytes
  | .write key data, .wrote (.ok _) => Function.update use.lastWritten? key (some data)
  | _, _ => use.lastWritten?

/-- The state after one event. -/
def happen (use : SharedUse Key pageSize) : SharedEvent Key → SharedUse Key pageSize
  | .request request =>
    let (answer, next) := use.serve request
    { toSwapUse := next, lastWritten? := use.recorded request answer }
  | .cut length =>
    { use with volume := use.volume.cut (Disk.imageName use.area.disk.name) length }
  | .reopen =>
    match use.volume.openFile (Disk.imageName use.area.disk.name) true with
    | .ok (_, volume) => { use with volume := volume }
    | .error _ => use

/-- The state after a run of events. -/
def after (use : SharedUse Key pageSize) (events : List (SharedEvent Key)) :
    SharedUse Key pageSize :=
  events.foldl happen use

@[simp]
theorem after_nil (use : SharedUse Key pageSize) : use.after [] = use :=
  rfl

theorem after_concat (use : SharedUse Key pageSize) (events : List (SharedEvent Key))
    (event : SharedEvent Key) :
    use.after (events ++ [event]) = (use.after events).happen event :=
  List.foldl_append

/-- No page gets in the way of another one. -/
structure KeepsApart (use : SharedUse Key pageSize) : Prop where
  /-- No slot belongs to two pages. -/
  eq_of_slot : ∀ first second slot, use.area.slotOf? first = some slot →
    use.area.slotOf? second = some slot → first = second
  free_unbound : ∀ slot ∈ use.area.freeSlots.slots, ∀ key, use.area.slotOf? key ≠ some slot
  handedOut_unbound : ∀ slot ∈ use.handedOut, ∀ key, use.area.slotOf? key ≠ some slot
  /-- The slot of a page gives an error, or what was written to this page last. -/
  reads : ∀ key slot, use.area.slotOf? key = some slot →
    (∃ error, use.area.read use.volume slot pageSize = .error error) ∨
      ∃ data, use.lastWritten? key = some data ∧
        use.area.read use.volume slot pageSize = .ok data

/-- The slot that the file would grow by. -/
def nextSlot (use : SharedUse Key pageSize) : Nat :=
  use.area.disk.blockCount use.volume

/-- An event makes the file grow by a slot that a page has already, or gives a
page a slot that was handed out. -/
def Collides (use : SharedUse Key pageSize) : SharedEvent Key → Prop
  | .request .allocate =>
    use.area.closed = false ∧ use.area.freeSlots.slots = [] ∧
      ∃ key, use.area.slotOf? key = some use.nextSlot
  | .request (.write key data) =>
    use.area.closed = false ∧ use.area.freeSlots.slots = [] ∧ data.size = pageSize ∧
      use.area.slotOf? key = none ∧
      (use.nextSlot ∈ use.handedOut ∨ ∃ other, use.area.slotOf? other = some use.nextSlot)
  | _ => False

end SharedUse

namespace SwapArea

variable {Key : Type} {pageSize : Nat} [DecidableEq Key] {area : SwapArea Key pageSize}
  {volume : Volume}

/-- Slots that are apart in one file are so in a file as long as need be. -/
theorem Intact.exists_longer (intact : area.Intact volume) (length : Nat) :
    ∃ longer, area.Intact longer ∧ length ≤ area.disk.byteLength longer := by
  obtain ⟨total, atLeast, covers⟩ :
      ∃ total, length ≤ total ∧ area.disk.byteLength volume ≤ total :=
    ⟨max length (area.disk.byteLength volume), Nat.le_max_left _ _, Nat.le_max_right _ _⟩
  let longer : Volume := { files := Array.replicate (area.disk.file + 1) (Bytes.zeros total) }
  have longerLength : area.disk.byteLength longer = total := by
    simp [longer, Disk.byteLength, Volume.content, Array.getD_eq_getD_getElem?, Bytes.zeros]
  refine ⟨longer, { intact with inside := ?_ }, ?_⟩
  · intro key slot bound
    rw [longerLength]
    exact (intact.inside key slot bound).trans covers
  · rw [longerLength]
    exact atLeast

end SwapArea

namespace SharedUse

variable {Key : Type} {pageSize : Nat} [DecidableEq Key]

/-- The slots are apart, and those that are left of the file hold what was
written to their pages last. -/
structure Sound (use : SharedUse Key pageSize) : Prop where
  present : use.area.disk.file < use.volume.files.size
  /-- In a file that was never cut, every slot would be there. -/
  whole : ∃ whole, use.area.Intact whole
  handedOut_unbound : ∀ slot ∈ use.handedOut, ∀ key, use.area.slotOf? key ≠ some slot
  handedOut_notFree : ∀ slot ∈ use.handedOut, slot ∉ use.area.freeSlots.slots
  stored : ∀ key slot, use.area.slotOf? key = some slot →
    (slot + 1) * pageSize ≤ use.area.disk.byteLength use.volume →
    use.lastWritten? key = some (use.area.slotContent use.volume slot)

section Steps

variable {use : SharedUse Key pageSize}

theorem Sound.keepsApart (sound : use.Sound) : use.KeepsApart := by
  obtain ⟨whole, intact⟩ := sound.whole
  constructor
  case eq_of_slot => exact intact.eq_of_slot
  case free_unbound => exact intact.unbound
  case handedOut_unbound => exact sound.handedOut_unbound
  case reads =>
    intro key slot bound
    cases done : use.area.read use.volume slot pageSize with
    | error error => exact .inl ⟨error, rfl⟩
    | ok data =>
      have stored := sound.stored key slot bound (SwapArea.inside_of_read_eq_ok done)
      obtain ⟨-, -, -, rfl⟩ := SwapArea.of_read_eq_ok done
      exact .inr ⟨_, stored, rfl⟩

theorem Sound.shortened (sound : use.Sound) {volume : Volume}
    (shortens : use.volume.Shortens volume use.area.disk.file) :
    Sound { use with volume := volume } where
  present := shortens.present
  whole := sound.whole
  handedOut_unbound := sound.handedOut_unbound
  handedOut_notFree := sound.handedOut_notFree
  stored key slot bound inside := by
    have before := sound.stored key slot bound (inside.trans shortens.size_le)
    rw [Nat.succ_mul] at inside
    exact before.trans (congrArg some (shortens.slice_eq _ _ inside).symm)

/-- The lowest free slot is handed out. -/
theorem Sound.take (sound : use.Sound) {slot : Nat} {rest : SlotSet}
    (taken : use.area.freeSlots.takeLowest? = some (slot, rest)) :
    Sound { use with
      area := { use.area with freeSlots := rest }
      handedOut := insert slot use.handedOut } := by
  obtain ⟨whole, intact⟩ := sound.whole
  have listed := SlotSet.slots_of_takeLowest?_eq_some taken
  have ascending := listed ▸ intact.ascending
  rw [List.pairwise_cons] at ascending
  have kept : ∀ other ∈ rest.slots, other ∈ use.area.freeSlots.slots := by
    intro other member
    rw [listed]
    exact List.mem_cons_of_mem _ member
  have free : slot ∈ use.area.freeSlots.slots := by
    rw [listed]
    exact List.mem_cons_self
  constructor
  case present => exact sound.present
  case whole =>
    exact ⟨whole, { intact with
      ascending := ascending.2
      unbound := fun other member => intact.unbound other (kept other member) }⟩
  case handedOut_unbound =>
    intro other handed
    rcases Finset.mem_insert.mp handed with rfl | handed
    · exact intact.unbound other free
    · exact sound.handedOut_unbound other handed
  case handedOut_notFree =>
    intro other handed member
    rcases Finset.mem_insert.mp handed with rfl | handed
    · exact Nat.lt_irrefl _ (ascending.1 other member)
    · exact sound.handedOut_notFree other handed (kept other member)
  case stored => exact sound.stored

/-- A new slot at the end of the file is handed out. -/
theorem Sound.extend (sound : use.Sound) (positive : 0 < pageSize)
    (full : use.area.freeSlots.slots = [])
    (nobodys : ∀ key, use.area.slotOf? key ≠ some use.nextSlot) :
    Sound { use with
      area := { use.area with slotCount := use.nextSlot + 1 }
      volume := (use.area.disk.grow use.volume).2
      handedOut := insert use.nextSlot use.handedOut } := by
  obtain ⟨whole, intact⟩ := sound.whole
  constructor
  case present =>
    rw [Disk.grow, Volume.setLength, Volume.size_files_modify]
    exact sound.present
  case whole => exact ⟨whole, { intact with }⟩
  case handedOut_unbound =>
    intro other handed
    rcases Finset.mem_insert.mp handed with rfl | handed
    · exact nobodys
    · exact sound.handedOut_unbound other handed
  case handedOut_notFree =>
    intro other _ member
    change other ∈ use.area.freeSlots.slots at member
    rw [full] at member
    exact List.not_mem_nil member
  case stored =>
    intro key slot bound inside
    have grown : use.area.disk.byteLength (use.area.disk.grow use.volume).2 =
        (use.nextSlot + 1) * pageSize := by
      rw [Disk.byteLength, Disk.grow, Volume.setLength, Volume.content_modify_of_lt sound.present,
        Bytes.size_resize, nextSlot]
    change _ ≤ use.area.disk.byteLength (use.area.disk.grow use.volume).2 at inside
    rw [grown] at inside
    -- The page has another slot than the new one, so its slot was there before.
    have differs : slot ≠ use.nextSlot := fun same => nobodys key (same ▸ bound)
    have below : slot + 1 ≤ use.nextSlot := by
      have atMost := Nat.le_of_mul_le_mul_right inside positive
      omega
    have wasInside : (slot + 1) * pageSize ≤ use.area.disk.byteLength use.volume :=
      (Nat.le_div_iff_mul_le positive).mp below
    refine (sound.stored key slot bound wasInside).trans (congrArg some ?_)
    exact (SwapArea.slotContent_grow positive wasInside).2.symm

/-- Data for the page `key` is written to a slot that no other page has. -/
theorem Sound.overwrite (sound : use.Sound) (positive : 0 < pageSize) {key : Key} {slot : Nat}
    {data : Bytes} {change : Bytes → Bytes} (fits : data.size = pageSize)
    (alone : ∀ other, use.area.slotOf? other = some slot → other = key)
    (own : ∀ other, use.area.slotOf? key = some other → other = slot)
    (done : use.area.disk.tryWrite use.volume slot data none =
      (.ok (), use.volume.modify use.area.disk.file change)) :
    Sound { use with
      volume := use.volume.modify use.area.disk.file change
      lastWritten? := Function.update use.lastWritten? key (some data) } := by
  obtain ⟨length, others, reached⟩ := SwapArea.tryWrite_slot positive fits done
  obtain ⟨-, content⟩ := reached rfl
  constructor
  case present =>
    rw [Volume.size_files_modify]
    exact sound.present
  case whole => exact sound.whole
  case handedOut_unbound => exact sound.handedOut_unbound
  case handedOut_notFree => exact sound.handedOut_notFree
  case stored =>
    intro other otherSlot bound inside
    change Function.update use.lastWritten? key (some data) other = _
    by_cases same : other = key
    · subst other
      rw [own otherSlot bound, Function.update_self]
      exact congrArg some content.symm
    · have differs : otherSlot ≠ slot := fun equal => same (alone other (equal ▸ bound))
      rw [Function.update_of_ne same, sound.stored other otherSlot bound (length ▸ inside)]
      exact congrArg some (others otherSlot differs).symm

/-- A slot that was handed out and written is bound to its page. -/
theorem Sound.bind (sound : use.Sound) {key : Key} {slot : Nat} (handed : slot ∈ use.handedOut)
    (written : use.lastWritten? key = some (use.area.slotContent use.volume slot)) :
    Sound { use with
      area := { use.area with bindings := use.area.bindings.set key slot }
      handedOut := use.handedOut.erase slot } := by
  obtain ⟨whole, intact⟩ := sound.whole
  obtain ⟨longer, intact, inside⟩ := intact.exists_longer ((slot + 1) * pageSize)
  have slots : ∀ other,
      SwapArea.slotOf? { use.area with bindings := use.area.bindings.set key slot } other =
        if other = key then some slot else use.area.slotOf? other :=
    fun other => KeyedTable.find?_set use.area.bindings key other slot
  constructor
  case present => exact sound.present
  case whole =>
    exact ⟨longer, intact.bind (sound.handedOut_unbound slot handed)
      (sound.handedOut_notFree slot handed) inside key⟩
  case handedOut_unbound =>
    intro other otherHanded page bound
    obtain ⟨differs, wasHanded⟩ := Finset.mem_erase.mp otherHanded
    rw [slots] at bound
    split at bound
    · exact differs (Option.some.inj bound).symm
    · exact sound.handedOut_unbound other wasHanded page bound
  case handedOut_notFree =>
    exact fun other otherHanded =>
      sound.handedOut_notFree other (Finset.mem_of_mem_erase otherHanded)
  case stored =>
    intro other otherSlot bound inside
    rw [slots] at bound
    split at bound
    · rename_i same
      obtain rfl := Option.some.inj bound
      rw [same]
      exact written
    · exact sound.stored other otherSlot bound inside

theorem Sound.giveBack (sound : use.Sound) {slot : Nat}
    (nobodys : ∀ key, use.area.slotOf? key ≠ some slot) :
    Sound { use with
      area := { use.area with freeSlots := use.area.freeSlots.insert slot }
      handedOut := use.handedOut.erase slot } := by
  obtain ⟨whole, intact⟩ := sound.whole
  constructor
  case present => exact sound.present
  case whole => exact ⟨whole, intact.giveBack nobodys⟩
  case handedOut_unbound =>
    exact fun other handed => sound.handedOut_unbound other (Finset.mem_of_mem_erase handed)
  case handedOut_notFree =>
    intro other handed member
    obtain ⟨differs, wasHanded⟩ := Finset.mem_erase.mp handed
    rcases (SlotSet.mem_insert _ _ _).mp member with same | member
    · exact differs same
    · exact sound.handedOut_notFree other wasHanded member
  case stored => exact sound.stored

theorem Sound.releaseWhere (sound : use.Sound) (selected : Key → Bool) :
    Sound { use with area := (use.area.releaseWhere selected).2 } := by
  obtain ⟨whole, intact⟩ := sound.whole
  have kept : ∀ key slot, (use.area.releaseWhere selected).2.slotOf? key = some slot →
      use.area.slotOf? key = some slot := by
    intro key slot bound
    rw [SwapArea.slotOf?_releaseWhere] at bound
    split at bound
    · cases bound
    · exact bound
  constructor
  case present => exact sound.present
  case whole => exact ⟨whole, intact.releaseWhere selected⟩
  case handedOut_unbound =>
    exact fun slot handed key bound => sound.handedOut_unbound slot handed key (kept key slot bound)
  case handedOut_notFree =>
    intro slot handed member
    rcases (intact.mem_freeSlots_releaseWhere selected slot).mp member with ⟨key, bound, -⟩ | free
    · exact sound.handedOut_unbound slot handed key bound
    · exact sound.handedOut_notFree slot handed free
  case stored => exact fun key slot bound => sound.stored key slot (kept key slot bound)

theorem Sound.close (sound : use.Sound) : Sound (use.happen (.request .close)) := by
  obtain ⟨whole, intact⟩ := sound.whole
  obtain ⟨outcome, next, closed, done⟩ :
      ∃ outcome next closed, use.area.close use.volume = (outcome, next, closed) :=
    ⟨_, _, _, rfl⟩
  obtain ⟨sealed, files⟩ := SwapArea.of_close_eq done
  have contents : ∀ file, closed.content file = use.volume.content file := by
    intro file
    rw [Volume.content, files]
    rfl
  have shortens : use.volume.Shortens closed use.area.disk.file := by
    refine ⟨files ▸ sound.present, ?_, ?_⟩
    · rw [contents]
    · intro start count _
      rw [contents]
  have shortened := sound.shortened shortens
  simp only [happen, SwapUse.serve, done, recorded]
  rcases sealed with rfl | rfl
  · exact shortened
  · exact { shortened with
      whole := ⟨whole, { intact with
        ascending := .nil
        unbound := fun slot member => absurd member List.not_mem_nil }⟩
      handedOut_notFree := fun slot _ => List.not_mem_nil }

/-- A page that has a slot is written to it, if the slot is still there. -/
theorem Sound.write_bound (sound : use.Sound) (positive : 0 < pageSize)
    (isOpen : use.area.closed = false) {key : Key} {slot : Nat} {data : Bytes}
    (fits : data.size = pageSize) (bound : use.area.slotOf? key = some slot) :
    Sound (use.happen (.request (.write key data))) := by
  obtain ⟨whole, intact⟩ := sound.whole
  have reaches := SwapArea.write_of_bound use.volume none isOpen fits bound
  rcases use.area.disk.tryWrite_none_cases use.volume slot data with
      ⟨change, tried⟩ | ⟨error, tried⟩
  · rw [tried] at reaches
    simp only [happen, SwapUse.serve_write reaches, recorded]
    apply sound.overwrite positive fits _ _ tried
    · exact fun other otherBound => intact.eq_of_slot other key slot otherBound bound
    · intro other otherBound
      exact Option.some.inj (otherBound.symm.trans bound)
  · rw [tried] at reaches
    simp only [happen, SwapUse.serve_write reaches, recorded]
    exact sound

/-- A page that has no slot keeps the one that it is given, if it could be
written. -/
theorem Sound.write_unbound (positive : 0 < pageSize) (isOpen : use.area.closed = false)
    {key : Key} {slot : Nat} {data : Bytes} {next : SwapArea Key pageSize} {grown : Volume}
    (fits : data.size = pageSize) (unbound : use.area.slotOf? key = none)
    (allocated : use.area.allocate use.volume = .ok (slot, next, grown))
    (sameBindings : next.bindings = use.area.bindings) (fresh : slot ∉ use.handedOut)
    (handed : Sound { use with
      area := next, volume := grown, handedOut := insert slot use.handedOut }) :
    Sound (use.happen (.request (.write key data))) := by
  have isHanded : slot ∈ insert slot use.handedOut := Finset.mem_insert_self slot use.handedOut
  have reaches := SwapArea.write_of_allocated isOpen fits unbound allocated
  have own : ∀ other, next.slotOf? key = some other → other = slot := by
    intro other keyBound
    rw [SwapArea.slotOf?, sameBindings] at keyBound
    cases unbound.symm.trans keyBound
  have nobodys := handed.handedOut_unbound slot isHanded
  rcases next.disk.tryWrite_none_cases grown slot data with ⟨change, tried⟩ | ⟨error, tried⟩
  · rw [tried] at reaches
    simp only [happen, SwapUse.serve_write reaches, recorded]
    have written := handed.overwrite positive fits
      (fun other otherBound => absurd otherBound (nobodys other)) own tried
    have content := (SwapArea.tryWrite_slot positive fits tried).2.2 rfl
    have bindable := written.bind isHanded
      ((Function.update_self key (some data) use.lastWritten?).trans
        (congrArg some content.2.symm))
    rwa [Finset.erase_insert fresh] at bindable
  · rw [tried] at reaches
    simp only [happen, SwapUse.serve_write reaches, recorded]
    have returned := handed.giveBack nobodys
    rwa [Finset.erase_insert fresh] at returned

theorem Sound.write (sound : use.Sound) (positive : 0 < pageSize) {key : Key} {data : Bytes}
    (apart : ¬ use.Collides (.request (.write key data))) :
    Sound (use.happen (.request (.write key data))) := by
  by_cases fits : data.size = pageSize
  · cases isOpen : use.area.closed with
    | true =>
      simp only [happen, SwapUse.serve_write_of_closed isOpen key fits, recorded]
      exact sound
    | false =>
      cases bound : use.area.slotOf? key with
      | some slot => exact sound.write_bound positive isOpen fits bound
      | none =>
        cases taken : use.area.freeSlots.takeLowest? with
        | some lowest =>
          have listed := SlotSet.slots_of_takeLowest?_eq_some taken
          have fresh : lowest.1 ∉ use.handedOut := fun handed =>
            sound.handedOut_notFree lowest.1 handed (listed ▸ List.mem_cons_self)
          exact Sound.write_unbound positive isOpen fits bound
            (SwapArea.allocate_of_taken use.volume none isOpen taken) rfl fresh (sound.take taken)
        | none =>
          have full := SlotSet.slots_of_takeLowest?_eq_none taken
          have clear : ¬ (use.nextSlot ∈ use.handedOut ∨
              ∃ other, use.area.slotOf? other = some use.nextSlot) :=
            fun inTheWay => apart ⟨isOpen, full, fits, bound, inTheWay⟩
          rw [not_or, not_exists] at clear
          exact Sound.write_unbound positive isOpen fits bound
            (SwapArea.allocate_of_full use.volume isOpen full) rfl clear.1
            (sound.extend positive full clear.2)
  · simp only [happen, SwapUse.serve_write_of_size_ne fits, recorded]
    exact sound

theorem Sound.allocate (sound : use.Sound) (positive : 0 < pageSize)
    (apart : ¬ use.Collides (.request .allocate)) :
    Sound (use.happen (.request .allocate)) := by
  cases isOpen : use.area.closed with
  | true =>
    simp only [happen, SwapUse.serve_allocate_of_closed isOpen, recorded]
    exact sound
  | false =>
    cases taken : use.area.freeSlots.takeLowest? with
    | some lowest =>
      simp only [happen, recorded,
        SwapUse.serve_allocate (SwapArea.allocate_of_taken use.volume none isOpen taken)]
      exact sound.take taken
    | none =>
      have full := SlotSet.slots_of_takeLowest?_eq_none taken
      simp only [happen, recorded,
        SwapUse.serve_allocate (SwapArea.allocate_of_full use.volume isOpen full)]
      apply sound.extend positive full
      exact not_exists.mp fun inTheWay => apart ⟨isOpen, full, inTheWay⟩

theorem Sound.free (sound : use.Sound) (slot : Nat) :
    Sound (use.happen (.request (.free slot))) := by
  obtain ⟨whole, intact⟩ := sound.whole
  by_cases accepted : slot < use.area.slotCount ∧ ¬ ∃ key, use.area.slotOf? key = some slot
  · simp only [happen, SwapUse.serve_free_ok intact accepted.1 accepted.2, recorded]
    exact sound.giveBack (not_exists.mp accepted.2)
  · simp only [happen, SwapUse.serve_free_error intact accepted, recorded]
    exact sound

/-- As long as no event collides, the slots stay apart. -/
theorem Sound.happen (sound : use.Sound) (positive : 0 < pageSize) {event : SharedEvent Key}
    (apart : ¬ use.Collides event) : Sound (use.happen event) := by
  cases event with
  | request request =>
    cases request with
    | write key data => exact sound.write positive apart
    | read slot size => exact sound
    | release key =>
      obtain ⟨whole, intact⟩ := sound.whole
      simp only [SharedUse.happen, SwapUse.serve_release intact, recorded]
      exact sound.releaseWhere fun other => other = key
    | releaseWhere selected => exact sound.releaseWhere selected
    | allocate => exact sound.allocate positive apart
    | free slot => exact sound.free slot
    | close => exact sound.close
  | cut length => exact sound.shortened (Volume.shortens_cut sound.present _ length)
  | reopen =>
    rw [SharedUse.happen]
    split
    · rename_i opened
      exact sound.shortened (Volume.shortens_openFile sound.present opened)
    · exact sound

theorem not_keepsApart_of_allocate (isOpen : use.area.closed = false)
    (full : use.area.freeSlots.slots = []) {key : Key}
    (bound : use.area.slotOf? key = some use.nextSlot) :
    ¬ (use.happen (.request .allocate)).KeepsApart := by
  intro apart
  simp only [SharedUse.happen,
    SwapUse.serve_allocate (SwapArea.allocate_of_full use.volume isOpen full)] at apart
  exact apart.handedOut_unbound use.nextSlot (Finset.mem_insert_self _ _) key bound

theorem Sound.not_keepsApart_of_write (sound : use.Sound) (isOpen : use.area.closed = false)
    (full : use.area.freeSlots.slots = []) {key : Key} {data : Bytes}
    (fits : data.size = pageSize) (unbound : use.area.slotOf? key = none)
    (inTheWay : use.nextSlot ∈ use.handedOut ∨
      ∃ other, use.area.slotOf? other = some use.nextSlot) :
    ¬ (use.happen (.request (.write key data))).KeepsApart := by
  intro apart
  have checked : use.area.disk.checkBlock (use.area.disk.grow use.volume).2
      (use.area.disk.blockCount use.volume) data.size = .ok () := by
    rw [Disk.checkBlock_eq_ok_iff, Disk.byteLength, Disk.grow, Volume.setLength,
      Volume.content_modify_of_lt sound.present, Bytes.size_resize]
    exact ⟨fits, Nat.le_refl _⟩
  have reaches := SwapArea.write_of_allocated isOpen fits unbound
    (SwapArea.allocate_of_full use.volume isOpen full)
  simp only [Disk.tryWrite_eq_ok checked] at reaches
  simp only [SharedUse.happen, SwapUse.serve_write reaches] at apart
  have slots : ∀ other,
      SwapArea.slotOf? { use.area with
        slotCount := use.nextSlot + 1
        bindings := use.area.bindings.set key use.nextSlot } other =
          if other = key then some use.nextSlot else use.area.slotOf? other :=
    fun other => KeyedTable.find?_set use.area.bindings key other use.nextSlot
  have bound := (slots key).trans (if_pos rfl)
  rcases inTheWay with handed | ⟨other, otherBound⟩
  · exact apart.handedOut_unbound use.nextSlot handed key bound
  · have differs : other ≠ key := by
      rintro rfl
      rw [unbound] at otherBound
      cases otherBound
    have stillBound := (slots other).trans ((if_neg differs).trans otherBound)
    exact differs (apart.eq_of_slot other key use.nextSlot stillBound bound)

/-- An event that collides brings two pages together, or a page and a slot that
was handed out. -/
theorem Sound.not_keepsApart (sound : use.Sound) {event : SharedEvent Key}
    (collides : use.Collides event) : ¬ (use.happen event).KeepsApart := by
  cases event with
  | request request =>
    cases request with
    | allocate =>
      obtain ⟨isOpen, full, key, bound⟩ := collides
      exact not_keepsApart_of_allocate isOpen full bound
    | write key data =>
      obtain ⟨isOpen, full, fits, unbound, inTheWay⟩ := collides
      exact sound.not_keepsApart_of_write isOpen full fits unbound inTheWay
    | _ => exact collides.elim
  | _ => exact collides.elim

/-- The file of an area that nobody else touched is as long as its slots, so it
never collides. -/
theorem not_collides_of_running (running : use.Running) (positive : 0 < pageSize)
    (event : SharedEvent Key) : ¬ use.Collides event := by
  have balanced := running.balanced
  have next : use.nextSlot = use.area.slotCount := by
    have fileLength_eq := balanced.fileLength_eq
    rw [SwapArea.fileLength] at fileLength_eq
    rw [nextSlot, Disk.blockCount, fileLength_eq, Nat.mul_div_cancel _ positive]
  have beyond : ∀ key, use.area.slotOf? key ≠ some use.nextSlot := by
    intro key bound
    have below := (balanced.lt_slotCount_iff _).mpr (.inl ⟨key, bound⟩)
    omega
  intro collides
  cases event with
  | request request =>
    cases request with
    | allocate =>
      obtain ⟨-, -, key, bound⟩ := collides
      exact beyond key bound
    | write key data =>
      obtain ⟨-, -, -, -, handed | ⟨other, bound⟩⟩ := collides
      · have below := (balanced.lt_slotCount_iff _).mpr (.inr (.inr handed))
        omega
      · exact beyond other bound
    | _ => exact collides.elim
  | _ => exact collides.elim

end Steps

section Runs

variable {use : SharedUse Key pageSize}

theorem after_requests (requests : List (SwapRequest Key)) :
    (use.after (requests.map .request)).toSwapUse = use.toSwapUse.after requests := by
  induction requests generalizing use with
  | nil => rfl
  | cons request rest ih => exact ih

/-- As long as nobody else reaches the file, no request collides. -/
theorem not_collides_of_requests (running : use.Running) (positive : 0 < pageSize)
    {requests : List (SwapRequest Key)} (staysOpen : .close ∉ requests) :
    ∀ earlier event, earlier ++ [event] <+: requests.map .request →
      ¬ (use.after earlier).Collides event := by
  rintro earlier event ⟨later, whole⟩
  rw [List.append_assoc] at whole
  obtain ⟨first, second, rfl, rfl, -⟩ := List.map_eq_append_iff.mp whole.symm
  rw [List.mem_append, not_or] at staysOpen
  have still := running.after positive staysOpen.1
  rw [← after_requests] at still
  exact not_collides_of_running still positive event

/-- A run in which no event collides leaves the slots apart. -/
theorem Sound.after (sound : use.Sound) (positive : 0 < pageSize)
    {events : List (SharedEvent Key)}
    (apart : ∀ earlier event, earlier ++ [event] <+: events →
      ¬ (use.after earlier).Collides event) : (use.after events).Sound := by
  induction events using List.reverseRecOn with
  | nil => exact sound
  | append_singleton events event ih =>
    rw [after_concat]
    apply Sound.happen _ positive (apart events event List.prefix_rfl)
    exact ih fun earlier event early => apart earlier event (early.trans (List.prefix_append _ _))

/-- Before the first event that collides, the slots are apart. -/
theorem Sound.of_keepsApart (sound : use.Sound) (positive : 0 < pageSize)
    {events : List (SharedEvent Key)}
    (apart : ∀ earlier, earlier <+: events → (use.after earlier).KeepsApart) :
    ∀ earlier, earlier <+: events → (use.after earlier).Sound := by
  intro earlier early
  induction earlier using List.reverseRecOn with
  | nil => exact sound
  | append_singleton earlier event ih =>
    have before := ih ((List.prefix_append _ _).trans early)
    have after := apart _ early
    rw [after_concat] at after ⊢
    exact before.happen positive fun collides => before.not_keepsApart collides after

theorem sound_openNamed {volume opened : Volume} {name : String} {area : SwapArea Key pageSize}
    (consistent : volume.Consistent)
    (done : SwapArea.openNamed volume name = .ok (area, opened)) :
    Sound { area := area, volume := opened } := by
  have running := SwapUse.running_openNamed consistent done
  constructor
  case present => exact running.balanced.present
  case whole => exact ⟨opened, running.balanced.toIntact⟩
  case handedOut_unbound => exact running.balanced.nobodys
  case handedOut_notFree => exact running.balanced.notFree
  case stored =>
    intro key slot bound
    rw [SwapArea.slotOf?_of_empty (SwapArea.bindings_openNamed done).1] at bound
    cases bound

end Runs

/-- Whatever happens to its file, a swap area keeps its pages apart exactly as
long as the file does not grow by a slot that is taken. -/
theorem keepsApart_iff_not_collides (positive : 0 < pageSize) {volume opened : Volume}
    {name : String} {area : SwapArea Key pageSize} (consistent : volume.Consistent)
    (done : SwapArea.openNamed volume name = .ok (area, opened))
    (events : List (SharedEvent Key)) :
    (∀ earlier, earlier <+: events →
        (after { area := area, volume := opened } earlier).KeepsApart) ↔
      ∀ earlier event, earlier ++ [event] <+: events →
        ¬ (after { area := area, volume := opened } earlier).Collides event := by
  have started := sound_openNamed consistent done
  constructor
  · intro apart earlier event early collides
    have before := started.of_keepsApart positive apart earlier
      ((List.prefix_append _ _).trans early)
    have after := apart _ early
    rw [after_concat] at after
    exact before.not_keepsApart collides after
  · intro apart earlier early
    have sound := started.after positive fun first event first_early =>
      apart first event (first_early.trans early)
    exact sound.keepsApart

theorem openNamed_pages : SwapArea.openNamed {} "pages" =
    .ok (({ disk := ⟨"pages", 0⟩ } : SwapArea Nat 4),
      { names := ⟨[("DISK_IMAGE_pages", 0)]⟩, files := #[#[]] }) := by
  have name : Disk.imageName "pages" = "DISK_IMAGE_pages" := by cbv
  rw [SwapArea.openNamed, Disk.openNamed, name]
  rfl

/-- Page 7 gives its slot back, and the slot of page 8 is cut off. -/
def cutPages : List (SharedEvent Nat) :=
  [.request (.write 7 #[1, 2, 3, 4]), .request (.write 8 #[5, 6, 7, 8]),
    .request (.release 7), .cut 4]

/-- After that, page 9 gets the slot of page 7.  Page 8 cannot be read any more,
and no page gets in the way of another one. -/
theorem keepsApart_iff_not_collides_cut :
    ∃ (area : SwapArea Nat 4) (opened : Volume), 0 < 4 ∧ Volume.Consistent {} ∧
      SwapArea.openNamed {} "pages" = .ok (area, opened) ∧
      (∀ earlier, earlier <+: cutPages ++ [.request (.write 9 #[9, 9, 9, 9])] →
        (after { area := area, volume := opened } earlier).KeepsApart) ∧
      ∃ use, after { area := area, volume := opened }
          (cutPages ++ [.request (.write 9 #[9, 9, 9, 9])]) = use ∧
        use.area.slotOf? 9 = some 0 ∧ use.area.slotOf? 8 = some 1 ∧
        (use.area.read use.volume 1 4).toOption = none := by
  refine ⟨_, _, by decide, Volume.consistent_empty, openNamed_pages, ?_, _, rfl, ?_⟩
  · apply (keepsApart_iff_not_collides (by decide) Volume.consistent_empty openNamed_pages _).mpr
    intro earlier event early
    rcases List.prefix_concat_iff.mp early with last | early
    · obtain ⟨rfl, same⟩ := List.append_inj' last rfl
      obtain rfl := List.singleton_inj.mp same
      rintro ⟨-, full, -⟩
      exact absurd full (by decide +kernel)
    · have requests : cutPages = [.write 7 #[1, 2, 3, 4], .write 8 #[5, 6, 7, 8],
        .release 7].map .request ++ [.cut 4] := rfl
      rw [requests] at early
      rcases List.prefix_concat_iff.mp early with last | early
      · obtain ⟨-, same⟩ := List.append_inj' last rfl
        obtain rfl := List.singleton_inj.mp same
        exact id
      · have running := SwapUse.running_openNamed Volume.consistent_empty openNamed_pages
        exact not_collides_of_requests running (by decide) (by simp) earlier event early
  · decide +kernel

/-- The file is cut to nothing after the first page was written.  The second
page is then given the slot of the first one. -/
theorem not_keepsApart_of_cut :
    ∃ (area : SwapArea Nat 4) (opened : Volume),
      SwapArea.openNamed {} "pages" = .ok (area, opened) ∧
      ¬ (after { area := area, volume := opened }
        [.request (.write 7 #[1, 2, 3, 4]), .cut 0,
          .request (.write 8 #[5, 6, 7, 8])]).KeepsApart := by
  refine ⟨_, _, openNamed_pages, fun apart => ?_⟩
  have same := apart.eq_of_slot 7 8 0 (by decide +kernel) (by decide +kernel)
  cases same

end SharedUse

end DemandPaging
