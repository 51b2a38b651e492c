import DemandPaging.Proofs.FrameAccounting

/-!
# The accounts when spaces come and go

A new space adds pages that are in no frame.  A space that is destroyed takes
its pages with it, and the frames they were in become free; no frame is lost,
whichever pages were resident.
-/

namespace DemandPaging

namespace Manager

variable {pageSize : Nat} {manager : Manager pageSize}

theorem spaces_eq_none_of_nextSpace_le {holdings : Nat → Option Holding} {space : SpaceId}
    (accounted : manager.Accounted holdings) (new : manager.nextSpace ≤ space) :
    manager.spaces.find? space = none := by
  rw [Option.eq_none_iff_forall_ne_some]
  intro record found
  have member := (KeyedTable.mem_keys_iff _ _).mpr ⟨record, found⟩
  exact absurd (accounted.space_lt space member) (Nat.not_lt.mpr new)

section Creation

variable {numPages : Nat} {image : Image pageSize} {page : PageId}

theorem entry_createSpace :
    (manager.createSpace numPages image).2.entry page =
      if page.space = manager.nextSpace then (PageTable.empty numPages).get page.vpn
      else manager.entry page := by
  simp only [createSpace, entry]
  by_cases same : page.space = manager.nextSpace
  · rw [if_pos same, same, KeyedTable.find?_set_self]
  · rw [if_neg same, KeyedTable.find?_set_of_ne _ _ same]

theorem entry_createSpace_new {vpn : Nat} (inside : vpn < numPages) :
    (manager.createSpace numPages image).2.entry ⟨manager.nextSpace, vpn⟩ = .ok { vpn := vpn } := by
  obtain ⟨entry, found⟩ : ∃ entry, (PageTable.empty numPages).get vpn = .ok entry := by
    rwa [PageTable.exists_get_eq_ok_iff, PageTable.size_empty]
  rw [entry_createSpace, if_pos rfl, found, PageTable.get_empty found]

theorem place_createSpace_new {vpn : Nat} (inside : vpn < numPages) :
    (manager.createSpace numPages image).2.place ⟨manager.nextSpace, vpn⟩ = .ok none :=
  place_eq_ok_iff.mpr ⟨_, entry_createSpace_new inside, rfl⟩

theorem place_createSpace_eq_some_iff {holdings : Nat → Option Holding} {frame : Nat}
    (accounted : manager.Accounted holdings) :
    (manager.createSpace numPages image).2.place page = .ok (some frame) ↔
      manager.place page = .ok (some frame) := by
  simp only [place, entry_createSpace]
  split
  · rename_i same
    have absent : manager.entry page = .error .unknownSpace := by
      rw [entry, same, spaces_eq_none_of_nextSpace_le accounted (Nat.le_refl _)]
    rw [absent]
    cases found : (PageTable.empty numPages).get page.vpn with
    | error error => simp [Except.map]
    | ok entry => simp [Except.map, PageTable.get_empty found, PageEntry.frame?]
  · rfl

theorem Accounted.createSpace {holdings : Nat → Option Holding}
    (accounted : manager.Accounted holdings) (numPages : Nat) (image : Image pageSize) :
    (manager.createSpace numPages image).2.Accounted holdings := by
  refine { accounted with
    nodup_spaces := KeyedTable.nodup_keys_set accounted.nodup_spaces _ _
    space_lt := fun space member => ?old
    owner_iff := fun frame page => ?owner
    away := fun thread holding page held moves => ?away }
  case old =>
    obtain ⟨record, found⟩ := (KeyedTable.mem_keys_iff _ _).mp member
    by_cases same : space = manager.nextSpace
    · exact same ▸ Nat.lt_succ_self _
    · change (manager.spaces.set _ _).find? space = some record at found
      rw [KeyedTable.find?_set_of_ne _ _ same] at found
      exact Nat.lt_succ_of_lt
        (accounted.space_lt space ((KeyedTable.mem_keys_iff _ _).mpr ⟨record, found⟩))
  case owner =>
    rw [place_createSpace_eq_some_iff accounted]
    exact accounted.owner_iff frame page
  case away =>
    have placed := accounted.away thread holding page held moves
    obtain ⟨entry, found, -⟩ := place_eq_ok_iff.mp placed
    have old : page.space ≠ manager.nextSpace := by
      intro same
      rw [Manager.entry, spaces_eq_none_of_nextSpace_le accounted (Nat.le_of_eq same.symm)] at found
      cases found
    rw [place, entry_createSpace, if_neg old]
    exact placed

end Creation

section Destruction

variable {space : SpaceId} {page : PageId}

/-- Freeing frames that are taken succeeds, and no other frame changes. -/
theorem freeAll_eq_ok {frames : List Nat} (distinct : frames.Nodup)
    (taken : ∀ frame ∈ frames, manager.pool.isAllocated frame = true)
    (sizes : manager.frames.size = manager.pool.numFrames) :
    ∃ table pool,
      manager.freeAll frames = (.ok (), { manager with frames := table, pool := pool }) ∧
      pool.numFrames = manager.pool.numFrames ∧ table.size = manager.frames.size ∧
      (∀ frame, table.owner? frame =
        if frame ∈ frames then none else manager.frames.owner? frame) ∧
      (∀ frame, table.isPinned frame = manager.frames.isPinned frame) ∧
      ∀ frame, pool.isAllocated frame = true ↔
        frame ∉ frames ∧ manager.pool.isAllocated frame = true := by
  induction frames generalizing manager with
  | nil => exact ⟨manager.frames, manager.pool, by simp [freeAll]⟩
  | cons first rest ih =>
    rw [List.nodup_cons] at distinct
    have firstTaken := taken first List.mem_cons_self
    have inside : first < manager.frames.size :=
      sizes ▸ (FramePool.isAllocated_iff.mp firstTaken).1
    obtain ⟨pool, freed, numFrames, allocated⟩ := FramePool.free_of_isAllocated firstTaken
    obtain ⟨lastTable, lastPool, done, sameFrames, sameSize, owners, pins, allocations⟩ :=
      @ih { manager with frames := manager.frames.alter first Frame.vacate, pool := pool }
        distinct.2
        (fun frame member => (allocated frame).mpr
          ⟨fun same => distinct.1 (same ▸ member), taken frame (List.mem_cons_of_mem _ member)⟩)
        (by rw [FrameTable.size_alter, sizes, numFrames])
    refine ⟨lastTable, lastPool, ?_, sameFrames.trans numFrames, ?_, fun frame => ?_,
      fun frame => ?_, fun frame => ?_⟩
    · rw [freeAll, FrameTable.evict_eq_ok inside]
      simp only [freed]
      exact done
    · rw [sameSize, FrameTable.size_alter]
    · rw [owners, FrameTable.owner?_alter_of_sets inside Frame.vacate fun _ => rfl]
      grind
    · rw [pins, FrameTable.isPinned_alter_of_keeps Frame.vacate fun _ => rfl]
    · rw [allocations, allocated]
      grind

/-- Frames that become free lose their used marks, and no others do. -/
theorem isUsed_of_freeAll_eq_ok {frames : List Nat} {next : Manager pageSize}
    (freed : manager.freeAll frames = (.ok (), next)) (frame : Nat) :
    next.frames.isUsed frame =
      if frame ∈ frames then false else manager.frames.isUsed frame := by
  induction frames generalizing manager with
  | nil =>
    obtain rfl := (Prod.mk.inj freed).2
    rfl
  | cons first rest ih =>
    rw [freeAll] at freed
    split at freed
    · cases (Prod.mk.inj freed).1
    rename_i table evicted
    split at freed
    · cases (Prod.mk.inj freed).1
    have vacated := FrameTable.of_evict_eq_ok evicted
    rw [ih freed, vacated.2]
    by_cases isFirst : frame = first
    · simp [isFirst, FrameTable.isUsed_alter_of_sets vacated.1 Frame.vacate fun _ => rfl]
    · simp [isFirst, FrameTable.isUsed_alter_of_sets vacated.1 Frame.vacate fun _ => rfl]

theorem entry_of_spaces_eq_erase {next : Manager pageSize}
    (erased : next.spaces = manager.spaces.erase space) :
    next.entry page =
      if page.space = space then .error .unknownSpace else manager.entry page := by
  simp only [entry, erased]
  by_cases same : page.space = space
  · rw [if_pos same, same, KeyedTable.find?_erase_self]
  · rw [if_neg same, KeyedTable.find?_erase_of_ne _ same]

theorem place_of_spaces_eq_erase {next : Manager pageSize}
    (erased : next.spaces = manager.spaces.erase space) (frame? : Option Nat) :
    next.place page = .ok frame? ↔ page.space ≠ space ∧ manager.place page = .ok frame? := by
  rw [place, place, entry_of_spaces_eq_erase erased]
  by_cases same : page.space = space
  · simp [same, Except.map]
  · simp [same]

theorem inTransitOf_eq_false_iff :
    manager.inTransitOf space = false ↔
      ∀ page frame, manager.inTransit.find? page = some frame → page.space ≠ space := by
  simp only [inTransitOf, List.any_eq_false, beq_iff_eq, KeyedTable.mem_keys_iff]
  grind

theorem mem_residentFrames_iff_place {record : SpaceRecord pageSize} {frame : Nat}
    (found : manager.spaces.find? space = some record) :
    frame ∈ record.table.residentFrames ↔
      ∃ page, page.space = space ∧ manager.place page = .ok (some frame) := by
  simp only [PageTable.mem_residentFrames_iff, place_eq_ok_iff, PageEntry.frame?_eq_some_iff,
    entry_eq_ok_iff]
  constructor
  · rintro ⟨vpn, entry, get, valid, same⟩
    exact ⟨⟨space, vpn⟩, rfl, entry, ⟨record, found, get⟩, valid, same⟩
  · rintro ⟨page, rfl, entry, ⟨other, otherFound, get⟩, valid, same⟩
    rw [found] at otherFound
    obtain rfl := Option.some.inj otherFound
    exact ⟨page.vpn, entry, get, valid, same⟩

theorem Accounted.nodup_residentFrames {holdings : Nat → Option Holding}
    {record : SpaceRecord pageSize} (accounted : manager.Accounted holdings)
    (found : manager.spaces.find? space = some record) : record.table.residentFrames.Nodup := by
  have placed : ∀ vpn entry, record.table.get vpn = .ok entry → entry.valid = true →
      manager.place ⟨space, vpn⟩ = .ok (some entry.frame) := by
    intro vpn entry get valid
    exact place_of_valid (entry_eq_ok_iff.mpr ⟨record, found, get⟩) valid
  apply PageTable.nodup_residentFrames
  intro first second firstEntry secondEntry firstGet secondGet firstValid secondValid same
  have equal := accounted.eq_of_place_eq (placed first firstEntry firstGet firstValid)
    (same ▸ placed second secondEntry secondGet secondValid)
  exact congrArg PageId.vpn equal

/-- The frames that a space gives back when it is destroyed. -/
structure Vacates (first second : Manager pageSize) (space : SpaceId) : Prop where
  numFrames_pool : second.pool.numFrames = first.pool.numFrames
  size_frames : second.frames.size = first.frames.size
  isAllocated_iff : ∀ frame, second.pool.isAllocated frame = true ↔
    (¬∃ page, page.space = space ∧ first.place page = .ok (some frame)) ∧
      first.pool.isAllocated frame = true
  owner?_iff : ∀ frame page, second.frames.owner? frame = some page ↔
    page.space ≠ space ∧ first.frames.owner? frame = some page
  isPinned_eq : ∀ frame, second.frames.isPinned frame = first.frames.isPinned frame

/-- A space that exists can be removed; exactly its frames become free. -/
theorem detachSpace_eq_ok {holdings : Nat → Option Holding}
    {record : SpaceRecord pageSize} (accounted : manager.Accounted holdings)
    (found : manager.spaces.find? space = some record) :
    ∃ table pool,
      manager.detachSpace space = (.ok (), { manager with
        spaces := manager.spaces.erase space, frames := table, pool := pool }) ∧
      Vacates manager (manager.detachSpace space).2 space := by
  have resident : ∀ frame, frame ∈ record.table.residentFrames ↔
      ∃ page, page.space = space ∧ manager.place page = .ok (some frame) :=
    fun frame => mem_residentFrames_iff_place found
  obtain ⟨table, pool, freed, numFrames, size, owners, pins, allocations⟩ :=
    @freeAll_eq_ok _ { manager with spaces := manager.spaces.erase space } _
      (accounted.nodup_residentFrames found)
      (fun frame member => by
        obtain ⟨page, -, placed⟩ := (resident frame).mp member
        exact (accounted.allocated_iff frame).mpr
          (.inl ⟨page, (accounted.owner_iff frame page).mpr placed⟩))
      accounted.size_frames
  have detached : manager.detachSpace space = (.ok (), { manager with
      spaces := manager.spaces.erase space, frames := table, pool := pool }) := by
    rw [detachSpace, found]
    exact freed
  refine ⟨table, pool, detached, ?_⟩
  rw [detached]
  refine ⟨numFrames, size, fun frame => ?_, fun frame page => ?_, pins⟩
  · rw [← resident]
    exact allocations frame
  · have owned := accounted.owner_iff frame page
    have free := resident frame
    rw [owners]
    split
    · rename_i member
      obtain ⟨owner, inSpace, placed⟩ := free.mp member
      have ownerOwned := (accounted.owner_iff frame owner).mpr placed
      grind
    · grind

theorem Accounted.detachSpace {holdings : Nat → Option Holding}
    (accounted : manager.Accounted holdings) (still : manager.inTransitOf space = false) :
    (manager.detachSpace space).2.Accounted holdings := by
  cases found : manager.spaces.find? space with
  | none =>
    rw [Manager.detachSpace, found]
    exact accounted
  | some record =>
    obtain ⟨table, pool, detached, vacates⟩ := detachSpace_eq_ok accounted found
    rw [detached] at vacates ⊢
    have places : ∀ page frame?, Manager.place { manager with
        spaces := manager.spaces.erase space, frames := table, pool := pool } page = .ok frame? ↔
        page.space ≠ space ∧ manager.place page = .ok frame? :=
      fun page => place_of_spaces_eq_erase rfl
    constructor
    case size_frames =>
      rw [vacates.size_frames, vacates.numFrames_pool, accounted.size_frames]
    case numFrames_memory =>
      rw [vacates.numFrames_pool]
      exact accounted.numFrames_memory
    case nodup_spaces => exact KeyedTable.nodup_keys_erase accounted.nodup_spaces space
    case space_lt =>
      intro other member
      apply accounted.space_lt other
      exact (List.filter_sublist.map Prod.fst).subset member
    case owner_iff =>
      intro frame page
      rw [vacates.owner?_iff, places, accounted.owner_iff]
    case allocated_iff =>
      intro frame
      have owned := fun page => accounted.owner_iff frame page
      have loose : ∀ page, manager.frames.owner? frame = some page → _ :=
        fun page => accounted.isPinned_eq_false
      simp only [vacates.isAllocated_iff, vacates.owner?_iff, vacates.isPinned_eq,
        accounted.allocated_iff]
      grind
    case pinned_iff =>
      intro frame
      rw [vacates.isPinned_eq]
      exact accounted.pinned_iff frame
    case transit_iff => exact accounted.transit_iff
    case vacant =>
      intro thread holding held
      rw [Option.eq_none_iff_forall_ne_some]
      intro page owned
      have before := ((vacates.owner?_iff _ _).mp owned).2
      rw [accounted.vacant thread holding held] at before
      cases before
    case away =>
      -- A page that is moved is in transit, and so is none of this space.
      intro thread holding page held moves
      refine (places page none).mpr ⟨?_, accounted.away thread holding page held moves⟩
      exact inTransitOf_eq_false_iff.mp still page holding.frame
        ((accounted.transit_iff page holding.frame).mpr ⟨thread, holding, held, rfl, moves⟩)
    case victim_ne => exact accounted.victim_ne
    case exclusive => exact accounted.exclusive

theorem sameAccounts_releaseSlots (manager : Manager pageSize) (space : SpaceId) :
    SameAccounts manager (manager.releaseSlots space) :=
  ⟨⟨rfl, rfl, rfl, rfl, rfl⟩, fun _ => rfl, fun _ => rfl, fun _ => rfl, fun _ => rfl, fun _ => rfl⟩

end Destruction

end Manager

end DemandPaging
