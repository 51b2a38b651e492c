import DemandPaging.Proofs.FaultPhases
import DemandPaging.Proofs.SwapContents

/-!
# The content of pages

The content of a page is in its frame while the page is resident, and in its
swap slot or its image otherwise; a resident page that is not dirty has its
content in both places.  This module states what it means for the pages of a
manager to have given contents, and what each small change of the manager does
to them.
-/

namespace DemandPaging

namespace Image

variable {pageSize : Nat}

/-- The content that a page has at first; none if its section cannot produce
it. -/
def initialContent? (image : Image pageSize) (vpn : Nat) : Option Bytes :=
  match image.findSection vpn with
  | some (index, number) => (image.loadPage index number).toOption.map Vector.toArray
  | none => some (Bytes.zeros pageSize)

end Image

namespace Manager

variable {pageSize : Nat}

/-- The bytes that the swap area keeps for a page. -/
def stored? (manager : Manager pageSize) (page : PageId) : Option Bytes :=
  manager.swap.stored? manager.volume page

/-- The bytes that a page would be loaded with: those in its slot if it has
one, and its initial content otherwise. -/
def backing? (manager : Manager pageSize) (page : PageId) : Option Bytes :=
  match manager.stored? page with
  | some bytes => some bytes
  | none => (manager.image? page.space).bind fun image => image.initialContent? page.vpn

/-- Whether a page belongs to a read-only section. -/
def ShownReadOnly (manager : Manager pageSize) (page : PageId) : Prop :=
  ∃ image index number, manager.image? page.space = some image ∧
    image.findSection page.vpn = some (index, number) ∧ image.readOnly index = true

/-- The pages have the given contents.  A page that is just being written to
swap may be `spared`: its content need not be in its slot yet. -/
structure Contains (manager : Manager pageSize) (content : PageId → Bytes)
    (spared : Option PageId) : Prop where
  intact : manager.swap.Intact manager.volume
  bound : ∀ page slot, manager.swap.slotOf? page = some slot →
    ∃ entry, manager.entry page = .ok entry
  /-- A resident page has its content in its frame. -/
  resident : ∀ page entry, manager.entry page = .ok entry → entry.valid = true →
    manager.frameContent entry.frame = content page
  /-- A page that is not dirty has its content in its slot or its image. -/
  backed : ∀ page entry bytes, manager.entry page = .ok entry → entry.dirty = false →
    spared ≠ some page → manager.backing? page = some bytes → bytes = content page
  unused : ∀ page entry, manager.entry page = .ok entry → entry.valid = false →
    entry.dirty = false ∧ entry.used = false
  unwritten : ∀ page, manager.ShownReadOnly page → manager.swap.slotOf? page = none ∧
    ∀ entry, manager.entry page = .ok entry →
      entry.dirty = false ∧ (entry.valid = true → entry.readOnly = true)

/-- An entry may take the place of another one of the same page. -/
structure EntryFits (manager : Manager pageSize) (content : PageId → Bytes)
    (spared sparedNext : Option PageId) (page : PageId) (before after : PageEntry) : Prop where
  resident : after.valid = true → manager.frameContent after.frame = content page
  backed : after.dirty = false → sparedNext ≠ some page →
    before.dirty = false ∧ spared ≠ some page
  unused : after.valid = false → after.dirty = false ∧ after.used = false
  unwritten : manager.ShownReadOnly page →
    after.dirty = false ∧ (after.valid = true → after.readOnly = true)

/-- The same spaces are alive, with the same pages. -/
structure SameSpaces (first second : Manager pageSize) : Prop where
  image?_eq : ∀ space, second.image? space = first.image? space
  numPages?_eq : ∀ space, second.numPages? space = first.numPages? space
  nextSpace_eq : second.nextSpace = first.nextSpace

structure SameContents (first second : Manager pageSize) : Prop
    extends SameSpaces first second where
  entry_eq : ∀ page, second.entry page = first.entry page
  frameContent_eq : ∀ frame, second.frameContent frame = first.frameContent frame
  slotOf?_eq : ∀ page, second.swap.slotOf? page = first.swap.slotOf? page
  stored?_eq : ∀ page, second.stored? page = first.stored? page
  intact : first.swap.Intact first.volume → second.swap.Intact second.volume

section Effects

variable {manager next : Manager pageSize} {page other : PageId} {frame : Nat}

theorem entry_modifyEntry_eq_ok_iff {change : PageEntry → PageEntry} {entry : PageEntry} :
    (manager.modifyEntry page change).entry other = .ok entry ↔
      ∃ before, manager.entry other = .ok before ∧
        entry = if other = page then change before else before := by
  rw [entry_modifyEntry]
  split
  · cases manager.entry other with
    | error error => simp [Except.map]
    | ok before => simp [Except.map, eq_comm]
  · cases manager.entry other with
    | error error => simp
    | ok before => simp [eq_comm]

theorem backing?_congr (stored : next.stored? other = manager.stored? other)
    (image : next.image? other.space = manager.image? other.space) :
    next.backing? other = manager.backing? other := by
  rw [backing?, backing?, stored, image]

theorem shownReadOnly_congr (image : next.image? other.space = manager.image? other.space) :
    next.ShownReadOnly other ↔ manager.ShownReadOnly other := by
  rw [ShownReadOnly, ShownReadOnly, image]

theorem readOnly_of_shownReadOnly {image : Image pageSize} {index number : Nat}
    (alive : manager.image? page.space = some image)
    (located : image.findSection page.vpn = some (index, number))
    (shown : manager.ShownReadOnly page) : image.readOnly index = true := by
  obtain ⟨_, _, _, sameAlive, sameLocated, readOnly⟩ := shown
  obtain rfl := Option.some.inj (alive.symm.trans sameAlive)
  obtain ⟨rfl, rfl⟩ := Prod.mk.inj (Option.some.inj (located.symm.trans sameLocated))
  exact readOnly

theorem not_shownReadOnly {image : Image pageSize}
    (alive : manager.image? page.space = some image)
    (located : image.findSection page.vpn = none) : ¬manager.ShownReadOnly page := by
  rintro ⟨_, _, _, sameAlive, sameLocated, -⟩
  obtain rfl := Option.some.inj (alive.symm.trans sameAlive)
  rw [located] at sameLocated
  cases sameLocated

namespace SameSpaces

theorem refl (manager : Manager pageSize) : SameSpaces manager manager :=
  ⟨fun _ => rfl, fun _ => rfl, rfl⟩

theorem trans {third : Manager pageSize} (before : SameSpaces manager next)
    (after : SameSpaces next third) : SameSpaces manager third where
  image?_eq space := (after.image?_eq space).trans (before.image?_eq space)
  numPages?_eq space := (after.numPages?_eq space).trans (before.numPages?_eq space)
  nextSpace_eq := after.nextSpace_eq.trans before.nextSpace_eq

theorem exists_entry_iff (same : SameSpaces manager next) :
    (∃ entry, next.entry page = .ok entry) ↔ ∃ entry, manager.entry page = .ok entry := by
  rw [exists_entry_eq_ok_iff, exists_entry_eq_ok_iff, same.numPages?_eq]

end SameSpaces

namespace SameContents

theorem backing?_eq (same : SameContents manager next) :
    next.backing? page = manager.backing? page :=
  backing?_congr (same.stored?_eq _) (same.image?_eq _)

theorem refl (manager : Manager pageSize) : SameContents manager manager :=
  ⟨.refl manager, fun _ => rfl, fun _ => rfl, fun _ => rfl, fun _ => rfl, id⟩

theorem withBooks (manager : Manager pageSize) (log : EventLog) (statistics : Statistics) :
    SameContents manager (manager.withBooks log statistics) :=
  { SameContents.refl manager with }

theorem settle (manager : Manager pageSize) (page : PageId) (lease : FrameLease) :
    SameContents manager (manager.settle page lease) :=
  { SameContents.refl manager with }

theorem transit (manager : Manager pageSize) (transit : KeyedTable PageId Nat) :
    SameContents manager { manager with inTransit := transit } :=
  { SameContents.refl manager with }

theorem landed (manager : Manager pageSize) (page : PageId) :
    SameContents manager (manager.landed page) :=
  { SameContents.refl manager with }

theorem takeTrouble (manager : Manager pageSize) :
    SameContents manager { manager with volume := manager.volume.takeTrouble.2 } :=
  { SameContents.refl manager with
    intact := fun intact => intact.of_content_eq fun _ => Volume.content_takeTrouble }

theorem shownReadOnly_iff (same : SameContents manager next) :
    next.ShownReadOnly page ↔ manager.ShownReadOnly page :=
  shownReadOnly_congr (same.image?_eq _)

end SameContents

theorem frameContent_fillFrame {bytes : Bytes} (inside : frame < manager.memory.numFrames)
    (fits : bytes.size = pageSize) (otherFrame : Nat) :
    (manager.fillFrame frame bytes).frameContent otherFrame =
      if otherFrame = frame then bytes else manager.frameContent otherFrame := by
  have room : frame * pageSize + pageSize ≤ manager.memory.content.size := by
    rw [← Nat.succ_mul, PhysicalMemory.size_content]
    exact Nat.mul_le_mul_right _ inside
  unfold frameContent fillFrame
  rw [PhysicalMemory.content_overwrite]
  by_cases same : otherFrame = frame
  · rw [if_pos same, same]
    exact Bytes.slice_overwrite_self fits room
  · rw [if_neg same]
    apply Bytes.slice_overwrite_of_apart
    have apart := @SwapArea.slots_apart pageSize _ _ same
    omega

/-- Copying the used marks changes no entry but in its used mark, and no entry
of a page in no frame. -/
theorem entry_of_syncUsedMarks {holdings : Nat → Option Holding} {entry : PageEntry}
    (accounted : manager.Accounted holdings)
    (found : manager.syncUsedMarks.entry other = .ok entry) :
    ∃ before used, manager.entry other = .ok before ∧ entry = { before with used := used } ∧
      (before.valid = false → used = before.used) := by
  revert entry
  refine syncUsedMarks_induction (fun current => ∀ {entry}, current.entry other = .ok entry →
    ∃ before used, manager.entry other = .ok before ∧ entry = { before with used := used } ∧
      (before.valid = false → used = before.used)) ?_ ?_
  · exact fun found => ⟨_, _, found, rfl, fun _ => rfl⟩
  · rintro current owner mark ⟨frame, owned⟩ kept entry found
    obtain ⟨marked, markedFound, rfl⟩ := entry_modifyEntry_eq_ok_iff.mp found
    obtain ⟨before, used, beforeFound, rfl, same⟩ := kept markedFound
    by_cases isOwner : other = owner
    · refine ⟨before, mark, beforeFound, by rw [if_pos isOwner], ?_⟩
      intro invalid
      obtain ⟨owning, owningFound, placed⟩ :=
        place_eq_ok_iff.mp ((accounted.owner_iff frame owner).mp owned)
      rw [← isOwner, beforeFound] at owningFound
      obtain rfl := Except.ok.inj owningFound
      rw [(PageEntry.frame?_eq_some_iff.mp placed).1] at invalid
      cases invalid
    · exact ⟨before, used, beforeFound, by rw [if_neg isOwner], same⟩

theorem entry_evicted {victim : PageId} {dirty : Bool} :
    (manager.evicted page frame victim dirty).entry other =
      ((manager.seized page frame).modifyEntry victim PageEntry.invalidate).entry other := by
  unfold evicted
  generalize manager.seized page frame = seized
  rfl

theorem entry_of_evicted {holdings : Nat → Option Holding} {victim : PageId} {dirty : Bool}
    {entry : PageEntry} (accounted : manager.Accounted holdings)
    (found : (manager.evicted page frame victim dirty).entry other = .ok entry) :
    ∃ before used, manager.entry other = .ok before ∧
      (before.valid = false → used = before.used) ∧
      entry = if other = victim then before.invalidate else { before with used := used } := by
  have swept := accounted.of_same (sameAccounts_swept manager)
  rw [entry_evicted] at found
  obtain ⟨synced, syncedFound, rfl⟩ := entry_modifyEntry_eq_ok_iff.mp found
  rw [entry_seized] at syncedFound
  obtain ⟨before, used, beforeFound, rfl, same⟩ := entry_of_syncUsedMarks swept syncedFound
  refine ⟨before, used, beforeFound, same, ?_⟩
  split <;> rfl

theorem sameSpaces_modifyEntry (manager : Manager pageSize) (page : PageId)
    (change : PageEntry → PageEntry) : SameSpaces manager (manager.modifyEntry page change) :=
  ⟨image?_modifyEntry, numPages?_modifyEntry, rfl⟩

theorem sameSpaces_evicted (manager : Manager pageSize) (page : PageId) (frame : Nat)
    (victim : PageId) (dirty : Bool) :
    SameSpaces manager (manager.evicted page frame victim dirty) := by
  have synced : SameSpaces manager manager.swept.syncUsedMarks := by
    apply syncUsedMarks_induction (SameSpaces manager)
    · exact { SameSpaces.refl manager with }
    · intro current page used _ kept
      exact kept.trans (sameSpaces_modifyEntry _ _ _)
  have seized : SameSpaces manager (manager.seized page frame) := by
    unfold seized
    generalize manager.swept.syncUsedMarks = current at synced
    exact { synced with }
  have unmapped := seized.trans (sameSpaces_modifyEntry _ victim PageEntry.invalidate)
  unfold evicted
  generalize (manager.seized page frame).modifyEntry victim PageEntry.invalidate = current at *
  exact unmapped.trans (SameContents.withBooks _ _ _).toSameSpaces

end Effects

namespace Contains

variable {manager next : Manager pageSize} {content : PageId → Bytes} {spared : Option PageId}
  {holdings : Nat → Option Holding} {page victim : PageId} {frame : Nat} {bytes : Bytes}

theorem of_same (contains : manager.Contains content spared)
    (same : SameContents manager next) : next.Contains content spared := by
  constructor
  case intact => exact same.intact contains.intact
  case bound =>
    simp only [same.slotOf?_eq, same.entry_eq]
    exact contains.bound
  case resident =>
    simp only [same.entry_eq, same.frameContent_eq]
    exact contains.resident
  case backed =>
    simp only [same.entry_eq, same.backing?_eq]
    exact contains.backed
  case unused =>
    simp only [same.entry_eq]
    exact contains.unused
  case unwritten =>
    simp only [same.shownReadOnly_iff, same.slotOf?_eq, same.entry_eq]
    exact contains.unwritten

theorem fits_self {entry : PageEntry} {sparedNext : Option PageId}
    (contains : manager.Contains content spared) (found : manager.entry page = .ok entry)
    (spares : spared = some page → sparedNext = some page) :
    manager.EntryFits content spared sparedNext page entry entry where
  resident := contains.resident page entry found
  backed clean notSpared := ⟨clean, fun isSpared => notSpared (spares isSpared)⟩
  unused := contains.unused page entry found
  unwritten readOnly := (contains.unwritten page readOnly).2 entry found

/-- The contents stay as they are if nothing but entries changes, each to one
that fits. -/
theorem of_entries {sparedNext : Option PageId} (contains : manager.Contains content spared)
    (spaces : SameSpaces manager next) (memory : next.memory = manager.memory)
    (swap : next.swap = manager.swap) (volume : next.volume = manager.volume)
    (changes : ∀ other after, next.entry other = .ok after → ∃ before,
      manager.entry other = .ok before ∧
        manager.EntryFits content spared sparedNext other before after) :
    next.Contains content sparedNext := by
  have stored : ∀ other, next.stored? other = manager.stored? other := by
    intro other
    rw [stored?, stored?, swap, volume]
  have images := spaces.image?_eq
  constructor
  case intact =>
    rw [swap, volume]
    exact contains.intact
  case bound =>
    intro other slot slotted
    rw [swap] at slotted
    rw [spaces.exists_entry_iff]
    exact contains.bound other slot slotted
  case resident =>
    intro other after afterFound valid
    obtain ⟨before, -, fits⟩ := changes other after afterFound
    rw [frameContent, memory]
    exact fits.resident valid
  case backed =>
    intro other after bytes afterFound clean notSpared backed
    obtain ⟨before, beforeFound, fits⟩ := changes other after afterFound
    obtain ⟨cleanBefore, notSparedBefore⟩ := fits.backed clean notSpared
    rw [backing?_congr (stored other) (images other.space)] at backed
    exact contains.backed other before bytes beforeFound cleanBefore notSparedBefore backed
  case unused =>
    intro other after afterFound
    obtain ⟨before, -, fits⟩ := changes other after afterFound
    exact fits.unused
  case unwritten =>
    intro other readOnly
    rw [shownReadOnly_congr (images other.space)] at readOnly
    rw [swap]
    refine ⟨(contains.unwritten other readOnly).1, fun after afterFound => ?_⟩
    obtain ⟨before, -, fits⟩ := changes other after afterFound
    exact fits.unwritten readOnly

theorem evicted {entry : PageEntry} (contains : manager.Contains content none)
    (accounted : manager.Accounted holdings) (found : manager.entry victim = .ok entry)
    (saves : entry.dirty = true → spared = some victim) (page : PageId) (frame : Nat)
    (dirty : Bool) :
    (manager.evicted page frame victim dirty).Contains content spared := by
  obtain ⟨memory, swap, volume⟩ := evicted_eq manager page frame victim dirty
  apply contains.of_entries (sameSpaces_evicted manager page frame victim dirty) memory swap volume
  intro other after afterFound
  obtain ⟨before, used, beforeFound, same, rfl⟩ := entry_of_evicted accounted afterFound
  refine ⟨before, beforeFound, ?_⟩
  by_cases isVictim : other = victim
  · rw [if_pos isVictim]
    subst isVictim
    obtain rfl := Except.ok.inj (found.symm.trans beforeFound)
    refine ⟨nofun, fun _ notSpared => ⟨?_, nofun⟩, fun _ => ⟨rfl, rfl⟩, fun _ => ⟨rfl, nofun⟩⟩
    by_contra dirty
    exact notSpared (saves (Bool.not_eq_false _ ▸ dirty))
  · rw [if_neg isVictim]
    have fits := @contains.fits_self _ _ _ _ _ _ spared beforeFound nofun
    refine { fits with unused := fun invalid => ?_ }
    rw [same invalid]
    exact fits.unused invalid

/-- A request to write a page to swap harms no other page. -/
theorem saved {entry : PageEntry} {data : Bytes} {outcome : Except SwapError Nat}
    {swap : SwapArea PageId pageSize} {volume : Volume}
    (contains : manager.Contains content (some victim))
    (writes : SwapArea.Writes manager.swap manager.volume victim data outcome swap volume)
    (found : manager.entry victim = .ok entry) (writable : ¬manager.ShownReadOnly victim) :
    Contains { manager with swap := swap, volume := volume } content (some victim) := by
  constructor
  case intact => exact writes.intact
  case bound =>
    intro other slot slotted
    by_cases isVictim : other = victim
    · exact ⟨entry, isVictim ▸ found⟩
    · change swap.slotOf? other = some slot at slotted
      rw [writes.slotOf?_other other isVictim] at slotted
      exact contains.bound other slot slotted
  case resident => exact contains.resident
  case backed =>
    intro other otherEntry bytes otherFound clean notSpared backed
    have differs : other ≠ victim := fun same => notSpared (congrArg some same.symm)
    have same : backing? { manager with swap := swap, volume := volume } other =
        manager.backing? other :=
      backing?_congr (writes.stored?_other other differs) rfl
    rw [same] at backed
    exact contains.backed other otherEntry bytes otherFound clean notSpared backed
  case unused => exact contains.unused
  case unwritten =>
    intro other readOnly
    have differs : other ≠ victim := fun same => writable (same ▸ readOnly)
    obtain ⟨slotless, flags⟩ := contains.unwritten other readOnly
    exact ⟨(writes.slotOf?_other other differs).trans slotless, flags⟩

/-- A page whose slot has its content is spared no longer. -/
theorem land (contains : manager.Contains content (some victim))
    (stored : manager.stored? victim = some (content victim)) : manager.Contains content none := by
  refine { contains with backed := fun other entry bytes found clean _ backed => ?_ }
  by_cases isVictim : other = victim
  · subst isVictim
    rw [backing?, stored] at backed
    exact (Option.some.inj backed).symm
  · exact contains.backed other entry bytes found clean
      (fun same => isVictim (Option.some.inj same).symm) backed

theorem fillFrame (contains : manager.Contains content spared)
    (inside : frame < manager.memory.numFrames) (fits : bytes.size = pageSize)
    (vacant : ∀ other entry, manager.entry other = .ok entry → entry.valid = true →
      entry.frame ≠ frame) :
    (manager.fillFrame frame bytes).Contains content spared := by
  refine { contains with resident := fun other entry found valid => ?_ }
  rw [frameContent_fillFrame inside fits, if_neg (vacant other entry found valid)]
  exact contains.resident other entry found valid

theorem modifyEntry {entry : PageEntry} {change : PageEntry → PageEntry}
    {sparedNext : Option PageId} (contains : manager.Contains content spared)
    (found : manager.entry page = .ok entry)
    (spares : ∀ other, other ≠ page → spared = some other → sparedNext = some other)
    (fits : manager.EntryFits content spared sparedNext page entry (change entry)) :
    (manager.modifyEntry page change).Contains content sparedNext := by
  apply contains.of_entries (sameSpaces_modifyEntry manager page change) rfl rfl rfl
  intro other after afterFound
  obtain ⟨before, beforeFound, rfl⟩ := entry_modifyEntry_eq_ok_iff.mp afterFound
  refine ⟨before, beforeFound, ?_⟩
  by_cases same : other = page
  · rw [if_pos same]
    subst same
    obtain rfl := Except.ok.inj (found.symm.trans beforeFound)
    exact fits
  · rw [if_neg same]
    exact contains.fits_self beforeFound (spares other same)

theorem markReadOnly {entry : PageEntry} (contains : manager.Contains content spared)
    (found : manager.entry page = .ok entry) (away : entry.valid = false) (readOnly : Bool) :
    (manager.markReadOnly page readOnly).Contains content spared := by
  apply contains.modifyEntry found (fun _ _ => id)
  have fits := contains.fits_self found id
  refine { fits with unwritten := fun shown => ⟨(fits.unwritten shown).1, fun valid => ?_⟩ }
  rw [show entry.valid = true from valid] at away
  cases away

theorem mapped {entry : PageEntry} {dirty : Bool} (contains : manager.Contains content spared)
    (found : manager.entry page = .ok entry) (away : entry.valid = false)
    (filled : manager.frameContent frame = content page)
    (others : ∀ other, spared = some other → other = page ∧ dirty = true)
    (writable : dirty = true → ¬manager.ShownReadOnly page)
    (marked : manager.ShownReadOnly page → entry.readOnly = true) :
    (manager.mapped page frame dirty).Contains content none := by
  have occupied : Contains { manager with
      frames := manager.frames.alter frame (Frame.occupy page) } content spared :=
    contains.of_same { SameContents.refl manager with }
  apply occupied.modifyEntry found
  · intro other differs isSpared
    exact absurd (others other isSpared).1 differs
  constructor
  case resident => exact fun _ => filled
  case backed =>
    intro clean _
    refine ⟨(contains.unused page entry found away).1, fun isSpared => ?_⟩
    rw [(others page isSpared).2] at clean
    cases clean
  case unused => exact nofun
  case unwritten =>
    intro shown
    refine ⟨?_, fun _ => marked shown⟩
    by_contra dirtied
    exact writable (Bool.not_eq_false _ ▸ dirtied) shown

end Contains

end Manager

end DemandPaging
