import DemandPaging.Proofs.FaultContents

/-!
# Accesses and the contents of pages

A write to a resident page changes the content of this page and of no other,
and makes the page dirty.  A new space starts with what its image shows, and a
space that goes away takes its slots with it.
-/

namespace DemandPaging

namespace Manager

variable {pageSize : Nat}

section Changes

variable {manager : Manager pageSize} {content : PageId → Bytes} {spared : Option PageId}
  {page : PageId} {entry : PageEntry}

namespace Contains

/-- Bytes may be written into the frame of a page that nobody else is in. -/
theorem overwrite {offset : Nat} {data : Bytes} (contains : manager.Contains content none)
    (settled : manager.Settled) (found : manager.entry page = .ok entry)
    (valid : entry.valid = true) (inside : offset + data.size ≤ pageSize) :
    Contains { manager with
        memory := manager.memory.overwrite (entry.frame * pageSize + offset) data }
      (Function.update content page ((content page).overwrite offset data)) (some page) := by
  have placed := place_of_valid found valid
  refine { contains with resident := ?_, backed := ?_ }
  · intro other otherEntry otherFound otherValid
    have inFrame := contains.resident other otherEntry otherFound otherValid
    unfold frameContent at inFrame ⊢
    rw [PhysicalMemory.content_overwrite]
    by_cases same : other = page
    · subst same
      obtain rfl := Except.ok.inj (found.symm.trans otherFound)
      rw [Function.update_self, ← inFrame]
      exact Bytes.slice_overwrite_of_inside inside
    · rw [Function.update_of_ne same, ← inFrame]
      apply Bytes.slice_overwrite_of_apart
      have differs : otherEntry.frame ≠ entry.frame := by
        intro sameFrame
        have otherPlaced := place_of_valid otherFound otherValid
        rw [sameFrame] at otherPlaced
        exact same (settled.eq_of_place_eq otherPlaced placed)
      have apart := @SwapArea.slots_apart pageSize _ _ differs
      omega
  · intro other otherEntry bytes otherFound clean notSpared backed
    have differs : other ≠ page := fun same => notSpared (congrArg some same.symm)
    rw [Function.update_of_ne differs]
    exact contains.backed other otherEntry bytes otherFound clean
      (Option.some_ne_none other).symm backed

/-- A resident page may be marked as used, and has to be marked as dirty if its
content is not in its slot. -/
theorem touch {wrote : Bool} (contains : manager.Contains content spared)
    (found : manager.entry page = .ok entry) (valid : entry.valid = true)
    (others : ∀ other, spared = some other → other = page ∧ wrote = true)
    (writable : wrote = true → ¬manager.ShownReadOnly page) :
    (manager.modifyEntry page fun entry =>
      { entry with used := true, dirty := entry.dirty || wrote }).Contains content none := by
  apply contains.modifyEntry found
  · intro other differs isSpared
    exact absurd (others other isSpared).1 differs
  constructor
  case resident => exact contains.resident page entry found
  case backed =>
    intro clean _
    obtain ⟨wasClean, readOnly⟩ := Bool.or_eq_false_iff.mp clean
    refine ⟨wasClean, fun isSpared => ?_⟩
    rw [(others page isSpared).2] at readOnly
    cases readOnly
  case unused =>
    intro invalid
    rw [show entry.valid = false from invalid] at valid
    cases valid
  case unwritten =>
    intro shown
    obtain ⟨clean, marked⟩ := (contains.unwritten page shown).2 entry found
    refine ⟨Bool.or_eq_false_iff.mpr ⟨clean, ?_⟩, marked⟩
    by_contra written
    exact writable (Bool.not_eq_false _ ▸ written) shown

end Contains

theorem touch_eq {frame : Nat} {wrote : Bool} (inside : frame < manager.frames.size) :
    ∃ frames, manager.touch page frame wrote = (.ok (),
      { manager.modifyEntry page fun entry =>
          { entry with used := true, dirty := entry.dirty || wrote } with frames := frames }) := by
  refine ⟨manager.frames.alter frame (Frame.mark true), ?_⟩
  simp only [Manager.touch, frames_modifyEntry, FrameTable.markUsed_eq_ok inside]

theorem Settled.frame_lt (settled : manager.Settled) (found : manager.entry page = .ok entry)
    (valid : entry.valid = true) : entry.frame < manager.frames.size := by
  exact FrameTable.lt_size_of_owner?
    ((settled.owner_iff entry.frame page).mpr (place_of_valid found valid))

theorem sameSpaces_touch (manager : Manager pageSize) (page : PageId) (frame : Nat)
    (wrote : Bool) : SameSpaces manager (manager.touch page frame wrote).2 := by
  have marked := sameSpaces_modifyEntry manager page fun entry =>
    { entry with used := true, dirty := entry.dirty || wrote }
  rw [Manager.touch]
  split
  · exact marked
  · exact { marked with }

theorem sameSpaces_accessResident? {offset : Nat} {access : Access}
    {outcome : Except PagingError Bytes × Manager pageSize}
    (looked : manager.accessResident? page offset access = some outcome) :
    SameSpaces manager outcome.2 := by
  rcases accessResident?_cases looked with same | ⟨memory, frame, wrote, -, same⟩
  · rw [same]
    exact .refl manager
  · rw [same]
    have changed : SameSpaces manager { manager with memory := memory } :=
      { SameSpaces.refl manager with }
    exact changed.trans (sameSpaces_touch _ page frame wrote)

theorem swap_accessResident? {offset : Nat} {access : Access}
    {outcome : Except PagingError Bytes × Manager pageSize}
    (looked : manager.accessResident? page offset access = some outcome) :
    outcome.2.swap = manager.swap := by
  rcases accessResident?_cases looked with same | ⟨memory, frame, wrote, -, same⟩
  · rw [same]
  · rw [same, Manager.touch]
    split <;> rfl

namespace Mirrors

/-- Bytes that are read from a resident page are bytes of its content. -/
theorem readResident {offset count : Nat} (mirrors : manager.Mirrors content)
    (found : manager.entry page = .ok entry) (valid : entry.valid = true)
    (inside : offset + count ≤ pageSize) :
    (manager.readResident page entry offset count).2.Contains content none ∧
      ∀ bytes, (manager.readResident page entry offset count).1 = .ok bytes →
        bytes = Bytes.slice (content page) offset count ∧ bytes.size = count := by
  rw [Manager.readResident]
  cases done : manager.memory.read (entry.frame * pageSize + offset) count with
  | error error => exact ⟨mirrors.contains, fun _ failed => by cases failed⟩
  | ok bytes =>
    obtain ⟨ends, rfl⟩ := PhysicalMemory.of_read_eq_ok done
    obtain ⟨frames, touched⟩ :=
      @touch_eq _ manager page _ false (mirrors.settled.frame_lt found valid)
    have marked := @mirrors.contains.touch _ _ _ _ _ _ false found valid
      (fun _ isSpared => by cases isSpared) (fun wrote => absurd wrote Bool.false_ne_true)
    simp only [touched]
    refine ⟨marked.of_same { SameContents.refl _ with }, ?_⟩
    rintro bytes ⟨⟩
    constructor
    · rw [← mirrors.contains.resident page entry found valid]
      exact (Bytes.slice_slice inside).symm
    · apply Bytes.size_slice
      rwa [PhysicalMemory.size_content]

/-- Bytes that are written to a resident page change its content, and an error
changes nothing. -/
theorem writeResident {offset : Nat} {data : Bytes} (mirrors : manager.Mirrors content)
    (found : manager.entry page = .ok entry) (valid : entry.valid = true)
    (inside : offset + data.size ≤ pageSize) :
    (∃ error, (manager.writeResident page entry offset data).1 = .error error ∧
        (manager.writeResident page entry offset data).2.Contains content none) ∨
      (∃ bytes, (manager.writeResident page entry offset data).1 = .ok bytes ∧
        (manager.writeResident page entry offset data).2.Contains
          (Function.update content page ((content page).overwrite offset data)) none) := by
  rw [Manager.writeResident]
  by_cases readOnly : entry.readOnly = true
  · rw [if_pos readOnly]
    exact .inl ⟨_, rfl, mirrors.contains⟩
  rw [if_neg readOnly]
  cases done : manager.memory.write (entry.frame * pageSize + offset) data with
  | error error => exact .inl ⟨_, rfl, mirrors.contains⟩
  | ok memory =>
    obtain ⟨-, rfl⟩ := PhysicalMemory.of_write_eq_ok done
    have written := mirrors.contains.overwrite mirrors.settled found valid inside
    have writable : ¬manager.ShownReadOnly page := fun shown =>
      readOnly (((mirrors.contains.unwritten page shown).2 entry found).2 valid)
    have marked := @written.touch _ _ _ _ _ _ true found valid
      (fun other same => ⟨(Option.some.inj same).symm, rfl⟩) (fun _ => writable)
    obtain ⟨frames, touched⟩ := @touch_eq _ { manager with
        memory := manager.memory.overwrite (entry.frame * pageSize + offset) data } page
      entry.frame true (mirrors.settled.frame_lt found valid)
    simp only [touched]
    exact .inr ⟨_, rfl, marked.of_same { SameContents.refl _ with }⟩

theorem look_read {offset count : Nat} {outcome : Except PagingError Bytes × Manager pageSize}
    (mirrors : manager.Mirrors content) (inside : offset + count ≤ pageSize)
    (looked : manager.accessResident? page offset (.read count) = some outcome) :
    outcome.2.Mirrors content ∧ ∀ bytes, outcome.1 = .ok bytes →
      bytes = Bytes.slice (content page) offset count ∧ bytes.size = count := by
  have settled := mirrors.settled.of_same (sameAccounts_accessResident? looked)
  rw [accessResident?] at looked
  split at looked
  · obtain rfl := Option.some.inj looked
    exact ⟨mirrors, fun _ failed => by cases failed⟩
  · rename_i entry found
    split at looked
    · rename_i valid
      obtain rfl := Option.some.inj looked
      obtain ⟨contains, bytes⟩ := mirrors.readResident found valid inside
      exact ⟨⟨settled, contains⟩, bytes⟩
    · cases looked

theorem look_write {offset : Nat} {data : Bytes}
    {outcome : Except PagingError Bytes × Manager pageSize}
    (mirrors : manager.Mirrors content) (inside : offset + data.size ≤ pageSize)
    (looked : manager.accessResident? page offset (.write data) = some outcome) :
    (∃ error, outcome.1 = .error error ∧ outcome.2.Mirrors content) ∨
      (∃ bytes, outcome.1 = .ok bytes ∧ (∃ entry, manager.entry page = .ok entry) ∧
        outcome.2.Mirrors
          (Function.update content page ((content page).overwrite offset data))) := by
  have settled := mirrors.settled.of_same (sameAccounts_accessResident? looked)
  rw [accessResident?] at looked
  split at looked
  · obtain rfl := Option.some.inj looked
    exact .inl ⟨_, rfl, mirrors⟩
  · rename_i entry found
    split at looked
    · rename_i valid
      obtain rfl := Option.some.inj looked
      rcases mirrors.writeResident found valid inside with
          ⟨error, failed, contains⟩ | ⟨bytes, done, contains⟩
      · exact .inl ⟨error, failed, settled, contains⟩
      · exact .inr ⟨bytes, done, ⟨entry, found⟩, settled, contains⟩
    · cases looked

/-- An access ends with a look at the page, or in the error of a fault; until
then no content changes. -/
theorem access_cases (mirrors : manager.Mirrors content) (page : PageId) (offset : Nat)
    (access : Access) :
    (∃ last : Manager pageSize, last.Mirrors content ∧ SameSpaces manager last ∧
        last.accessResident? page offset access = some (manager.access page offset access)) ∨
      ∃ error, (manager.access page offset access).1 = .error error ∧
        (manager.access page offset access).2.Mirrors content ∧
        SameSpaces manager (manager.access page offset access).2 := by
  let holds := fun current : Manager pageSize =>
    current.Mirrors content ∧ SameSpaces manager current
  have faults : ∀ current, holds current → holds (current.fault page).2 := by
    intro current ⟨kept, spaces⟩
    exact ⟨kept.fault page, spaces.trans (kept.settled.sameSpaces_fault page)⟩
  rcases accessWithin_cases holds faults ⟨mirrors, SameSpaces.refl manager⟩ with
      ⟨last, ⟨kept, spaces⟩, looked⟩ | ended
  · exact .inl ⟨last, kept, spaces, looked⟩
  · exact .inr ended

theorem access_read {offset count : Nat} (mirrors : manager.Mirrors content)
    (inside : offset + count ≤ pageSize) :
    (manager.access page offset (.read count)).2.Mirrors content ∧
      SameSpaces manager (manager.access page offset (.read count)).2 ∧
      ∀ bytes, (manager.access page offset (.read count)).1 = .ok bytes →
        bytes = Bytes.slice (content page) offset count ∧ bytes.size = count := by
  rcases mirrors.access_cases page offset (.read count) with
      ⟨last, kept, spaces, looked⟩ | ⟨error, failed, ended, spaces⟩
  · obtain ⟨after, bytes⟩ := kept.look_read inside looked
    exact ⟨after, spaces.trans (sameSpaces_accessResident? looked), bytes⟩
  · refine ⟨ended, spaces, fun bytes done => ?_⟩
    rw [failed] at done
    cases done

theorem access_write {offset : Nat} {data : Bytes} (mirrors : manager.Mirrors content)
    (inside : offset + data.size ≤ pageSize) :
    SameSpaces manager (manager.access page offset (.write data)).2 ∧
      ((∃ error, (manager.access page offset (.write data)).1 = .error error ∧
          (manager.access page offset (.write data)).2.Mirrors content) ∨
        (∃ bytes, (manager.access page offset (.write data)).1 = .ok bytes ∧
          (∃ entry, manager.entry page = .ok entry) ∧
          (manager.access page offset (.write data)).2.Mirrors
            (Function.update content page ((content page).overwrite offset data)))) := by
  rcases mirrors.access_cases page offset (.write data) with
      ⟨last, kept, spaces, looked⟩ | ⟨error, failed, ended, spaces⟩
  · refine ⟨spaces.trans (sameSpaces_accessResident? looked), ?_⟩
    rcases kept.look_write inside looked with
        ⟨error, failed, after⟩ | ⟨bytes, done, exists_entry, after⟩
    · exact .inl ⟨error, failed, after⟩
    · exact .inr ⟨bytes, done, spaces.exists_entry_iff.mp exists_entry, after⟩
  · exact ⟨spaces, .inl ⟨error, failed, ended⟩⟩

end Mirrors

theorem Contains.congr {other : PageId → Bytes} (contains : manager.Contains content spared)
    (same : ∀ page entry, manager.entry page = .ok entry → other page = content page) :
    manager.Contains other spared :=
  { contains with
    resident := fun page entry found valid => by
      rw [same page entry found]
      exact contains.resident page entry found valid
    backed := fun page entry bytes found clean notSpared backed => by
      rw [same page entry found]
      exact contains.backed page entry bytes found clean notSpared backed }

theorem image?_createSpace {numPages : Nat} {image : Image pageSize} {space : SpaceId} :
    (manager.createSpace numPages image).2.image? space =
      if space = manager.nextSpace then some image else manager.image? space := by
  simp only [image?, createSpace, KeyedTable.find?_set]
  split <;> rfl

theorem numPages?_createSpace {numPages : Nat} {image : Image pageSize} {space : SpaceId} :
    (manager.createSpace numPages image).2.numPages? space =
      if space = manager.nextSpace then some numPages else manager.numPages? space := by
  simp only [numPages?, createSpace, KeyedTable.find?_set]
  split
  · simp
  · rfl

/-- A page of a new space has a fresh entry, and every other page the one it
had. -/
theorem entry_createSpace_cases {numPages : Nat} {image : Image pageSize}
    (found : (manager.createSpace numPages image).2.entry page = .ok entry) :
    (page.space = manager.nextSpace ∧ page.vpn < numPages ∧ entry = { vpn := page.vpn }) ∨
      (page.space ≠ manager.nextSpace ∧ manager.entry page = .ok entry) := by
  rw [entry_createSpace] at found
  split at found
  · rename_i same
    have inside := PageTable.exists_get_eq_ok_iff.mp ⟨entry, found⟩
    rw [PageTable.size_empty] at inside
    exact .inl ⟨same, inside, PageTable.get_empty found⟩
  · rename_i differs
    exact .inr ⟨differs, found⟩

/-- A space that does not exist yet has no slots. -/
theorem Mirrors.slotOf?_eq_none (mirrors : manager.Mirrors content)
    (new : page.space = manager.nextSpace) : manager.swap.slotOf? page = none := by
  rw [Option.eq_none_iff_forall_ne_some]
  intro slot slotted
  obtain ⟨entry, found⟩ := mirrors.contains.bound page slot slotted
  rw [Manager.entry, new, spaces_eq_none_of_nextSpace_le mirrors.settled (Nat.le_refl _)] at found
  cases found

/-- A new space has the contents that its image shows. -/
theorem Mirrors.createSpace {numPages : Nat} {image : Image pageSize}
    {initially : PageId → Bytes} (mirrors : manager.Mirrors content)
    (old : ∀ page, page.space ≠ manager.nextSpace → initially page = content page)
    (new : ∀ vpn bytes, vpn < numPages → image.initialContent? vpn = some bytes →
      bytes = initially ⟨manager.nextSpace, vpn⟩) :
    (manager.createSpace numPages image).2.Mirrors initially := by
  have contains := mirrors.contains
  refine ⟨Accounted.createSpace mirrors.settled numPages image, ?_⟩
  constructor
  case intact => exact contains.intact
  case bound =>
    intro page slot slotted
    have differs : page.space ≠ manager.nextSpace := by
      intro same
      have slotless := mirrors.slotOf?_eq_none same
      rw [show manager.swap.slotOf? page = some slot from slotted] at slotless
      cases slotless
    obtain ⟨entry, found⟩ := contains.bound page slot slotted
    exact ⟨entry, by rw [entry_createSpace, if_neg differs, found]⟩
  case resident =>
    intro page entry found valid
    rcases entry_createSpace_cases found with ⟨-, -, rfl⟩ | ⟨differs, before⟩
    · cases valid
    · rw [old page differs]
      exact contains.resident page entry before valid
  case backed =>
    intro page entry bytes found clean notSpared backed
    have shown := @image?_createSpace _ manager numPages image page.space
    rcases entry_createSpace_cases found with ⟨same, inside, rfl⟩ | ⟨differs, before⟩
    · rw [if_pos same] at shown
      have stored : (manager.createSpace numPages image).2.stored? page = none := by
        change (manager.swap.slotOf? page).map _ = none
        rw [mirrors.slotOf?_eq_none same]
        rfl
      rw [backing?, stored, shown] at backed
      cases page
      subst same
      exact new _ bytes inside backed
    · rw [if_neg differs] at shown
      have sameBacking : (manager.createSpace numPages image).2.backing? page =
          manager.backing? page := backing?_congr rfl shown
      rw [sameBacking] at backed
      rw [old page differs]
      exact contains.backed page entry bytes before clean notSpared backed
  case unused =>
    intro page entry found invalid
    rcases entry_createSpace_cases found with ⟨-, -, rfl⟩ | ⟨differs, before⟩
    · exact ⟨rfl, rfl⟩
    · exact contains.unused page entry before invalid
  case unwritten =>
    intro page readOnly
    by_cases same : page.space = manager.nextSpace
    · refine ⟨mirrors.slotOf?_eq_none same, fun entry found => ?_⟩
      rcases entry_createSpace_cases found with ⟨-, -, rfl⟩ | ⟨differs, -⟩
      · exact ⟨rfl, fun valid => by cases valid⟩
      · exact absurd same differs
    · have shown := @image?_createSpace _ manager numPages image page.space
      rw [if_neg same] at shown
      rw [shownReadOnly_congr shown] at readOnly
      obtain ⟨slotless, flags⟩ := contains.unwritten page readOnly
      refine ⟨slotless, fun entry found => ?_⟩
      rcases entry_createSpace_cases found with ⟨isNew, -, -⟩ | ⟨-, before⟩
      · exact absurd isNew same
      · exact flags entry before

/-- The manager after a space was destroyed. -/
def without (manager : Manager pageSize) (space : SpaceId) (frames : FrameTable PageId)
    (pool : FramePool) : Manager pageSize :=
  { manager with
    spaces := manager.spaces.erase space
    frames := frames
    pool := pool
    swap := (manager.swap.releaseWhere fun page => page.space == space).2 }

theorem Settled.destroySpace_eq (settled : manager.Settled) (space : SpaceId) :
    (manager.spaces.find? space = none ∧
      manager.destroySpace space = (.error .unknownSpace, manager)) ∨
    ∃ frames pool, manager.destroySpace space = (.ok (), manager.without space frames pool) := by
  cases found : manager.spaces.find? space with
  | none => exact .inl ⟨rfl, by rw [Manager.destroySpace, detachSpace, found]⟩
  | some record =>
    obtain ⟨frames, pool, detached, -⟩ := detachSpace_eq_ok settled found
    refine .inr ⟨frames, pool, ?_⟩
    rw [Manager.destroySpace, detached]
    rfl

section Without

variable {space other : SpaceId} {frames : FrameTable PageId} {pool : FramePool}

theorem find?_spaces_without :
    (manager.without space frames pool).spaces.find? other =
      if other = space then none else manager.spaces.find? other := by
  by_cases same : other = space
  · rw [if_pos same, same]
    exact KeyedTable.find?_erase_self _ _
  · rw [if_neg same]
    exact KeyedTable.find?_erase_of_ne _ same

theorem slotOf?_without :
    (manager.without space frames pool).swap.slotOf? page =
      if page.space = space then none else manager.swap.slotOf? page := by
  have released := SwapArea.slotOf?_releaseWhere manager.swap (fun page => page.space == space) page
  simp only [beq_iff_eq] at released
  exact released

/-- A space that goes away leaves the contents of all other pages alone. -/
theorem Contains.without (contains : manager.Contains content none) (space : SpaceId)
    (frames : FrameTable PageId) (pool : FramePool) :
    (manager.without space frames pool).Contains content none := by
  have entries : ∀ page entry, (manager.without space frames pool).entry page = .ok entry →
      page.space ≠ space ∧ manager.entry page = .ok entry := by
    intro page entry found
    rw [@entry_of_spaces_eq_erase _ manager space page _ rfl] at found
    split at found
    · cases found
    · exact ⟨‹_›, found⟩
  have images : ∀ page : PageId, page.space ≠ space →
      (manager.without space frames pool).image? page.space = manager.image? page.space := by
    intro page differs
    rw [image?, image?, find?_spaces_without, if_neg differs]
  constructor
  case intact => exact contains.intact.releaseWhere fun page => page.space == space
  case bound =>
    intro page slot slotted
    rw [slotOf?_without] at slotted
    split at slotted
    · cases slotted
    · rename_i differs
      rw [@entry_of_spaces_eq_erase _ manager space page _ rfl, if_neg differs]
      exact contains.bound page slot slotted
  case resident =>
    intro page entry found
    exact contains.resident page entry (entries page entry found).2
  case backed =>
    intro page entry bytes found clean notSpared backed
    obtain ⟨differs, before⟩ := entries page entry found
    have stored : (manager.without space frames pool).stored? page = manager.stored? page := by
      change Option.map _ _ = Option.map _ _
      rw [slotOf?_without, if_neg differs]
      rfl
    rw [backing?_congr stored (images page differs)] at backed
    exact contains.backed page entry bytes before clean notSpared backed
  case unused =>
    intro page entry found
    exact contains.unused page entry (entries page entry found).2
  case unwritten =>
    intro page readOnly
    have differs : page.space ≠ space := by
      rintro same
      obtain ⟨image, _, _, alive, -⟩ := readOnly
      rw [image?, find?_spaces_without, if_pos same] at alive
      cases alive
    rw [shownReadOnly_congr (images page differs)] at readOnly
    obtain ⟨slotless, flags⟩ := contains.unwritten page readOnly
    rw [slotOf?_without, if_neg differs]
    exact ⟨slotless, fun entry found => flags entry (entries page entry found).2⟩

end Without

namespace Mirrors

theorem destroySpace (mirrors : manager.Mirrors content) (space : SpaceId) :
    (manager.destroySpace space).2.Mirrors content := by
  refine ⟨mirrors.settled.destroySpace space, ?_⟩
  rcases mirrors.settled.destroySpace_eq space with ⟨-, done⟩ | ⟨frames, pool, done⟩
  · rw [done]
    exact mirrors.contains
  · rw [done]
    exact mirrors.contains.without space frames pool

theorem shutdown (mirrors : manager.Mirrors content) : manager.shutdown.2.Mirrors content := by
  refine ⟨mirrors.settled.of_same { SameAccounts.refl manager with }, ?_⟩
  have waited := mirrors.contains.of_same (SameContents.takeTrouble manager)
  rw [Manager.shutdown]
  cases done : manager.swap.close manager.volume.takeTrouble.2 manager.volume.takeTrouble.1 with
  | mk outcome rest =>
    obtain ⟨swap, volume⟩ := rest
    obtain ⟨intact, slots, stored⟩ := waited.intact.close done
    simp only [done]
    exact mirrors.contains.of_same { SameContents.refl manager with
      slotOf?_eq := slots
      stored?_eq := stored
      intact := fun _ => intact }

end Mirrors

end Changes

end Manager

end DemandPaging
