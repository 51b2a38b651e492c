import DemandPaging.Proofs.SwapBound
import DemandPaging.Proofs.TransferLimits

/-!
# What a space leaves behind

A space that is destroyed gives back all its frames and all its slots, and no
other space notices.  From then on nothing can be reached through it, however
many spaces are created later, and when the last space is gone every frame is
free and no slot is bound.
-/

namespace DemandPaging

theorem KeyedTable.sum_values_eq {Key Value : Type} [DecidableEq Key]
    {table : KeyedTable Key Value} {key : Key} {value : Value} (distinct : table.keys.Nodup)
    (found : table.find? key = some value) (measure : Value → Nat) :
    (table.values.map measure).sum =
      measure value + ((table.erase key).values.map measure).sum := by
  have alone := filter_entries_eq distinct key
  rw [found, Option.map_some, Option.toList_some] at alone
  have split := (List.filter_append_perm (fun entry => entry.1 = key) table.entries).symm
  rw [alone] at split
  have summed := ((split.map Prod.snd).map measure).sum_nat
  simpa [values, erase] using summed

theorem SlotSet.perm_insertAll {set : SlotSet} {added : List Nat}
    (ascending : set.slots.Pairwise (· < ·)) (distinct : added.Nodup)
    (fresh : ∀ slot ∈ added, slot ∉ set.slots) :
    (set.insertAll added).slots.Perm (added ++ set.slots) := by
  have nodup : ∀ {slots : List Nat}, slots.Pairwise (· < ·) → slots.Nodup :=
    fun ascends => ascends.imp Nat.ne_of_lt
  have apart : (added ++ set.slots).Nodup := by
    rw [List.nodup_append]
    refine ⟨distinct, nodup ascending, ?_⟩
    rintro slot isAdded _ isFree rfl
    exact fresh slot isAdded isFree
  rw [List.perm_ext_iff_of_nodup (nodup (pairwise_insertAll ascending added)) apart]
  intro slot
  rw [mem_insertAll, List.mem_append]

/-- Every slot that is released is free then, and none was before. -/
theorem SwapArea.Intact.freeSlotCount_releaseWhere {Key : Type} [DecidableEq Key] {pageSize : Nat}
    {area : SwapArea Key pageSize} {volume : Volume} (intact : area.Intact volume)
    (selected : Key → Bool) :
    (area.releaseWhere selected).2.freeSlotCount =
      area.freeSlotCount + area.bindings.entries.countP fun entry => selected entry.1 := by
  have bound : ∀ entry ∈ area.bindings.entries, area.slotOf? entry.1 = some entry.2 :=
    fun entry member => (KeyedTable.mem_entries_iff intact.nodup_keys entry.1 entry.2).mp member
  have released : ∀ entry ∈ area.bindings.entries.filter (fun entry => selected entry.1),
      area.slotOf? entry.1 = some entry.2 :=
    fun entry member => bound entry (List.mem_filter.mp member).1
  have distinct : ((area.bindings.entries.filter fun entry => selected entry.1).map
      Prod.snd).Nodup := by
    refine List.Nodup.map_on ?_ ((List.Nodup.of_map _ intact.nodup_keys).filter _)
    intro first firstMember second secondMember same
    have firstBound := released first firstMember
    rw [same] at firstBound
    exact Prod.ext (intact.eq_of_slot _ _ _ firstBound (released second secondMember)) same
  have fresh : ∀ slot ∈ (area.bindings.entries.filter fun entry => selected entry.1).map Prod.snd,
      slot ∉ area.freeSlots.slots := by
    intro slot member free
    obtain ⟨entry, listed, rfl⟩ := List.mem_map.mp member
    exact intact.unbound entry.2 free entry.1 (released entry listed)
  have counted := (SlotSet.perm_insertAll intact.ascending distinct fresh).length_eq
  rw [List.length_append, List.length_map, ← List.countP_eq_length_filter, Nat.add_comm] at counted
  simpa [freeSlotCount, SlotSet.size, SwapArea.releaseWhere, List.partition_eq_filter_filter,
    Function.comp_def] using counted

namespace Manager

variable {pageSize : Nat}

/-- The number of pages of a space that are in a frame. -/
def residentCount (manager : Manager pageSize) (space : SpaceId) : Nat :=
  ((manager.spaces.find? space).map fun record =>
    record.table.entries.countP PageEntry.valid).getD 0

/-- The number of slots that are bound to pages of a space. -/
def boundCount (manager : Manager pageSize) (space : SpaceId) : Nat :=
  manager.swap.bindings.entries.countP fun entry => entry.1.space == space

section Destroying

variable {manager : Manager pageSize} {space : SpaceId} {record : SpaceRecord pageSize}

theorem Settled.destroySpace_of_alive (settled : manager.Settled)
    (alive : manager.spaces.find? space = some record) :
    ∃ frames pool, manager.destroySpace space = (.ok (), manager.without space frames pool) ∧
      Vacates manager (manager.without space frames pool) space := by
  obtain ⟨frames, pool, detached, vacates⟩ := detachSpace_eq_ok settled alive
  refine ⟨frames, pool, ?_, ?_⟩
  · rw [Manager.destroySpace, detached]
    rfl
  · rw [detached] at vacates
    exact { vacates with }

theorem validEntries_eq (settled : manager.Settled)
    (alive : manager.spaces.find? space = some record) (frames : FrameTable PageId)
    (pool : FramePool) :
    manager.validEntries =
      manager.residentCount space + (manager.without space frames pool).validEntries := by
  rw [residentCount, alive]
  exact KeyedTable.sum_values_eq settled.nodup_spaces alive
    fun record => record.table.entries.countP PageEntry.valid

theorem freeFrames_destroySpace (settled : manager.Settled)
    (alive : manager.spaces.find? space = some record) :
    (manager.destroySpace space).2.freeFrames =
      manager.freeFrames + manager.residentCount space := by
  obtain ⟨frames, pool, done, vacates⟩ := settled.destroySpace_of_alive alive
  have before := manager.freeFrames_add_validEntries settled
  have after := (manager.destroySpace space).2.freeFrames_add_validEntries
    (settled.destroySpace space)
  have numFrames : (manager.without space frames pool).numFrames = manager.numFrames :=
    vacates.numFrames_pool
  rw [validEntries_eq settled alive frames pool] at before
  simp only [done] at after ⊢
  omega

end Destroying

/-- No fault is under way, and `space` has been a space but is none any more. -/
structure Gone (manager : Manager pageSize) (space : SpaceId) : Prop where
  settled : manager.Settled
  past : space < manager.nextSpace
  absent : manager.numPages? space = none

section Staying

variable {manager next : Manager pageSize} {space : SpaceId} {page : PageId}

theorem Gone.of_same (gone : manager.Gone space) (settled : next.Settled)
    (same : SameSpaces manager next) : next.Gone space :=
  ⟨settled, same.nextSpace_eq ▸ gone.past, (same.numPages?_eq space).trans gone.absent⟩

/-- A space that was created some time stays what it is, or it goes away. -/
structure Ages (before after : Manager pageSize) (space : SpaceId) : Prop where
  past : space < after.nextSpace
  stays_or_goes : (after.image? space = before.image? space ∧
      after.numPages? space = before.numPages? space) ∨
    after.numPages? space = none

theorem SameSpaces.ages (spaces : SameSpaces manager next) (past : space < manager.nextSpace) :
    Ages manager next space :=
  ⟨spaces.nextSpace_eq ▸ past, .inl ⟨spaces.image?_eq space, spaces.numPages?_eq space⟩⟩

theorem Part.ages (part : Part manager next) (settled : manager.Settled)
    (past : space < manager.nextSpace) : Ages manager next space := by
  cases part with
  | fault page => exact (settled.sameSpaces_fault page).ages past
  | look _ looked => exact (sameSpaces_accessResident? looked).ages past
  | createSpace =>
    -- A new space never gets the number of an old one.
    have old := Nat.ne_of_lt past
    refine ⟨Nat.lt_succ_of_lt past, .inl ⟨?_, ?_⟩⟩
    · rw [image?_createSpace, if_neg old]
    · rw [numPages?_createSpace, if_neg old]
  | destroySpace other =>
    rcases settled.destroySpace_eq other with ⟨-, done⟩ | ⟨frames, pool, done⟩
    · rw [done]
      exact (SameSpaces.refl manager).ages past
    · rw [done]
      refine ⟨past, ?_⟩
      by_cases destroyed : space = other
      · right
        rw [numPages?, find?_spaces_without, if_pos destroyed, Option.map_none]
      · left
        rw [image?, image?, numPages?, numPages?, find?_spaces_without, if_neg destroyed]
        exact ⟨rfl, rfl⟩
  | shutdown =>
    exact @SameSpaces.ages _ _ _ space { SameSpaces.refl manager with } past

theorem keeps_gone (space : SpaceId) : Keeps fun manager : Manager pageSize =>
    manager.Gone space := by
  intro manager next part gone
  have settled := keeps_settled _ _ part gone.settled
  obtain ⟨past, ⟨-, same⟩ | absent⟩ := part.ages gone.settled gone.past
  · exact ⟨settled, past, same.trans gone.absent⟩
  · exact ⟨settled, past, absent⟩

theorem Gone.afterCalls (gone : manager.Gone space) (calls : List (ManagerCall pageSize)) :
    (manager.afterCalls calls).Gone space :=
  (keeps_gone space).afterCalls
    (fun _ log gone => gone.of_same (gone.settled.withLog log) { SameSpaces.refl _ with })
    gone calls

theorem Settled.nextSpace_call (settled : manager.Settled) (call : ManagerCall pageSize) :
    (manager.call call).nextSpace = manager.nextSpace + call.created := by
  cases call with
  | createSpace numPages image => rfl
  | fault page => exact (settled.sameSpaces_fault page).nextSpace_eq
  | look page offset access inside =>
    cases looked : manager.accessResident? page offset access with
    | none => simp only [Manager.call, looked, ManagerCall.created, Nat.add_zero]
    | some outcome =>
      simp only [Manager.call, looked, ManagerCall.created, Nat.add_zero]
      exact (sameSpaces_accessResident? looked).nextSpace_eq
  | destroySpace space =>
    rcases settled.destroySpace_eq space with ⟨-, done⟩ | ⟨frames, pool, done⟩
    · exact congrArg (·.2.nextSpace) done
    · exact congrArg (·.2.nextSpace) done
  | shutdown | drainEvents => rfl

/-- Numbers are handed out one after the other, and to new spaces only. -/
theorem Settled.nextSpace_afterCalls (settled : manager.Settled)
    (calls : List (ManagerCall pageSize)) :
    (manager.afterCalls calls).nextSpace =
      manager.nextSpace + (calls.map ManagerCall.created).sum := by
  induction calls generalizing manager with
  | nil => rfl
  | cons call rest ih =>
    rw [afterCalls_cons, ih (settled.call call), settled.nextSpace_call, List.map_cons,
      List.sum_cons, Nat.add_assoc]

/-- Numbers of 32 bits suffice for fewer than `2 ^ 32 - 1` spaces. -/
theorem nextSpace_lt {config : Configuration} {volume : Volume}
    (started : Manager.start config volume = .ok manager) {calls : List (ManagerCall pageSize)}
    (few : (calls.map ManagerCall.created).sum < 2 ^ 32 - 1) :
    (manager.afterCalls calls).nextSpace < 2 ^ 32 := by
  have first : manager.nextSpace = 1 := by
    obtain ⟨_, _, _, -, -, rfl⟩ := of_start_eq_ok started
    rfl
  rw [(settled_start started).nextSpace_afterCalls, first, Nat.add_comm]
  exact Nat.add_lt_of_lt_sub few

theorem entry_of_absent (absent : manager.numPages? page.space = none) :
    manager.entry page = .error .unknownSpace := by
  rw [Manager.entry, Option.map_eq_none_iff.mp absent]

/-- A fault on a page that does not exist is counted and recorded, and does
nothing else. -/
theorem fault_of_entry_eq_error {error : PagingError}
    (missing : manager.entry page = .error error) :
    manager.fault page = (.error error,
      (manager.recordStart page).record (.faultFailed page error.message)) := by
  have missingStill : (manager.recordStart page).entry page = .error error := missing
  simp only [Manager.fault, resolve, FaultStage.remaining, passStages, advance, arrive,
    missingStill, recordOutcome]

end Staying

/-- Nothing can be done through a handle of a space that does not exist. -/
structure Unusable (manager : Manager pageSize) (space : AddressSpace) : Prop where
  entry : ∀ vpn, space.entry manager vpn = .error .unknownSpace
  fault : ∀ vpn, (space.fault manager vpn).1 = .error .unknownSpace ∧
    (space.fault manager vpn).2 = { manager with
      log := (space.fault manager vpn).2.log
      statistics := manager.statistics.bump .pageFault }
  readBytes : ∀ address length, address < addressLimit → 0 < length →
    space.readBytes manager address length = (⟨0, some .unknownSpace⟩, #[], manager)
  writeBytes : ∀ address data, address < addressLimit → 0 < data.size →
    space.writeBytes manager address data = (⟨0, some .unknownSpace⟩, manager)
  destroy : (space.destroy manager).2.2 = manager

theorem Gone.unusable {manager : Manager pageSize} {space : AddressSpace}
    (gone : manager.Gone space.id) : manager.Unusable space := by
  have missing : ∀ vpn, manager.entry (space.page vpn) = .error .unknownSpace :=
    fun vpn => @entry_of_absent _ manager (space.page vpn) gone.absent
  constructor
  case entry => exact missing
  case fault =>
    intro vpn
    rw [AddressSpace.fault, fault_of_entry_eq_error (missing vpn)]
    exact ⟨rfl, rfl⟩
  case readBytes =>
    intro address length inside nonempty
    rw [AddressSpace.readBytes, walk, walkFrom, dif_pos nonempty, if_neg (by omega)]
    simp only [AddressSpace.readChunk, access_of_entry_eq_error (missing _)]
  case writeBytes =>
    intro address data inside nonempty
    rw [AddressSpace.writeBytes, walk, walkFrom, dif_pos nonempty, if_neg (by omega)]
    simp only [AddressSpace.writeChunk, access_of_entry_eq_error (missing _)]
  case destroy =>
    rw [AddressSpace.destroy]
    split
    · rfl
    · simp only [Manager.destroySpace, detachSpace, Option.map_eq_none_iff.mp gone.absent]

/-- Everything that `space` held was given back, and nothing else changed. -/
structure GivesBack (before after : Manager pageSize) (space : SpaceId) : Prop where
  absent : after.numPages? space = none
  unowned : ∀ frame page, after.frames.owner? frame = some page → page.space ≠ space
  unbound : ∀ page, page.space = space → after.swap.slotOf? page = none
  inTransit_eq : after.inTransit.entries = []
  freeFrames_eq : after.freeFrames = before.freeFrames + before.residentCount space
  freeSlotCount_eq : after.swap.freeSlotCount = before.swap.freeSlotCount + before.boundCount space
  memory_eq : after.memory = before.memory
  statistics_eq : after.statistics = before.statistics
  numPages?_eq : ∀ other, other ≠ space → after.numPages? other = before.numPages? other
  entry_eq : ∀ page, page.space ≠ space → after.entry page = before.entry page
  owner?_iff : ∀ frame page, page.space ≠ space →
    (after.frames.owner? frame = some page ↔ before.frames.owner? frame = some page)
  slotOf?_eq : ∀ page, page.space ≠ space → after.swap.slotOf? page = before.swap.slotOf? page
  stored?_eq : ∀ page, page.space ≠ space → after.stored? page = before.stored? page

theorem Mirrors.givesBack {manager : Manager pageSize} {content : PageId → Bytes}
    {space : SpaceId} {record : SpaceRecord pageSize} (mirrors : manager.Mirrors content)
    (alive : manager.spaces.find? space = some record) :
    GivesBack manager (manager.destroySpace space).2 space := by
  have freeFrames := freeFrames_destroySpace mirrors.settled alive
  have still := KeyedTable.entries_eq_nil (mirrors.settled.destroySpace space).find?_inTransit
  obtain ⟨frames, pool, done, vacates⟩ := mirrors.settled.destroySpace_of_alive alive
  have slots : ∀ page, (manager.without space frames pool).swap.slotOf? page =
      if page.space = space then none else manager.swap.slotOf? page := fun _ => slotOf?_without
  rw [done] at freeFrames still ⊢
  constructor
  case absent => rw [numPages?, find?_spaces_without, if_pos rfl, Option.map_none]
  case unowned => exact fun frame page owned => ((vacates.owner?_iff frame page).mp owned).1
  case unbound => exact fun page inside => (slots page).trans (if_pos inside)
  case inTransit_eq => exact still
  case freeFrames_eq => exact freeFrames
  case freeSlotCount_eq =>
    exact mirrors.contains.intact.freeSlotCount_releaseWhere fun page => page.space == space
  case memory_eq => rfl
  case statistics_eq => rfl
  case numPages?_eq =>
    intro other differs
    rw [numPages?, numPages?, find?_spaces_without, if_neg differs]
  case entry_eq =>
    intro page outside
    exact (entry_of_spaces_eq_erase rfl).trans (if_neg outside)
  case owner?_iff =>
    intro frame page outside
    rw [vacates.owner?_iff]
    exact and_iff_right outside
  case slotOf?_eq => exact fun page outside => (slots page).trans (if_neg outside)
  case stored?_eq =>
    intro page outside
    exact congrArg (Option.map _) ((slots page).trans (if_neg outside))

/-- Without spaces nothing is held. -/
theorem Mirrors.vacant {manager : Manager pageSize} {content : PageId → Bytes}
    (mirrors : manager.Mirrors content) (deserted : ∀ space, manager.numPages? space = none) :
    manager.freeFrames = manager.numFrames ∧ manager.swap.boundSlotCount = 0 := by
  constructor
  · have counted := manager.freeFrames_add_validEntries mirrors.settled
    have empty : manager.spaces.entries = [] :=
      KeyedTable.entries_eq_nil fun space => Option.map_eq_none_iff.mp (deserted space)
    have none : manager.validEntries = 0 := by
      rw [validEntries, KeyedTable.values, empty]
      rfl
    omega
  · rw [SwapArea.boundSlotCount, KeyedTable.size, List.length_eq_zero_iff]
    apply KeyedTable.entries_eq_nil
    intro page
    rw [Option.eq_none_iff_forall_ne_some]
    intro slot bound
    obtain ⟨numPages, alive, -⟩ :=
      exists_entry_eq_ok_iff.mp (mirrors.contains.bound page slot bound)
    cases (deserted page.space).symm.trans alive

/-- What it means to destroy a space that is alive. -/
structure Departs (manager : Manager pageSize) (space : AddressSpace) : Prop where
  succeeds : (space.destroy manager).1 = .ok ()
  givesBack : GivesBack manager (space.destroy manager).2.2 space.id
  /-- Whatever is done later, nothing can be done through the space. -/
  unusable : ∀ later handle, handle.id = space.id →
    ((space.destroy manager).2.2.afterCalls later).Unusable handle
  /-- Through the same handle it can be destroyed any number of times. -/
  again : ∀ other : Manager pageSize, (space.destroy manager).2.1.destroy other =
    (.ok (), (space.destroy manager).2.1, other)
  /-- Once every space is gone, nothing is held. -/
  last : ∀ later,
    (∀ other, ((space.destroy manager).2.2.afterCalls later).numPages? other = none) →
      ((space.destroy manager).2.2.afterCalls later).freeFrames =
          ((space.destroy manager).2.2.afterCalls later).numFrames ∧
        ((space.destroy manager).2.2.afterCalls later).swap.boundSlotCount = 0

/-- After every run, whether the swap area is open or not, a space that is
destroyed gives back what it holds and is gone for good. -/
theorem departs_afterCalls {config : Configuration} {volume : Volume}
    {manager : Manager pageSize} (started : Manager.start config volume = .ok manager)
    (calls : List (ManagerCall pageSize)) {space : AddressSpace} {numPages : Nat}
    (alive : (manager.afterCalls calls).numPages? space.id = some numPages)
    (first : space.destroyed = false) : (manager.afterCalls calls).Departs space := by
  obtain ⟨content, mirrors⟩ := (follows_start started).mirrors.afterCalls calls
  generalize manager.afterCalls calls = current at *
  obtain ⟨record, found, -⟩ := Option.map_eq_some_iff.mp alive
  have destroyed : space.destroy current = ((current.destroySpace space.id).1,
      { space with destroyed := true }, (current.destroySpace space.id).2) := by
    rw [AddressSpace.destroy, first, if_neg Bool.false_ne_true]
  have givesBack := mirrors.givesBack found
  have gone : (current.destroySpace space.id).2.Gone space.id := by
    refine ⟨mirrors.settled.destroySpace _, ?_, givesBack.absent⟩
    have known := (KeyedTable.mem_keys_iff _ _).mpr ⟨record, found⟩
    obtain ⟨frames, pool, done, -⟩ := mirrors.settled.destroySpace_of_alive found
    rw [done]
    exact mirrors.settled.space_lt _ known
  constructor
  case succeeds =>
    obtain ⟨frames, pool, done, -⟩ := mirrors.settled.destroySpace_of_alive found
    rw [destroyed, done]
  case givesBack =>
    rw [destroyed]
    exact givesBack
  case unusable =>
    intro later handle same
    rw [destroyed]
    exact Gone.unusable (same ▸ gone.afterCalls later)
  case again =>
    intro other
    rw [destroyed]
    exact if_pos rfl
  case last =>
    intro later deserted
    rw [destroyed] at deserted ⊢
    obtain ⟨_, mirrorsLater⟩ := (mirrors.destroySpace space.id).afterCalls later
    exact mirrorsLater.vacant deserted

/-- A space with one of its two pages in the only frame. -/
theorem departs_afterCalls_fault :
    ∃ manager : Manager 4, Manager.start { numFrames := 1 } {} = .ok manager ∧
      (manager.afterCalls [
        .createSpace 2 (Program.synthetic 0 0).image,
        .fault ⟨1, 0⟩]).numPages? 1 = some 2 ∧
      (manager.afterCalls [
        .createSpace 2 (Program.synthetic 0 0).image,
        .fault ⟨1, 0⟩]).Departs { id := 1, numPages := 2, strategy := .demand } := by
  obtain ⟨manager, started⟩ := exists_start_eq_ok { numFrames := 1 } {}
    (by decide : Nat.isPowerOfTwo 4) checkPath_swapFile
  have alive : (manager.afterCalls [
      .createSpace 2 (Program.synthetic 0 0).image,
      .fault ⟨1, 0⟩]).numPages? 1 = some 2 := by
    have created := Accounted.createSpace (settled_start started) 2 (Program.synthetic 0 0).image
    have first : 1 = manager.nextSpace := by
      obtain ⟨_, _, _, -, -, rfl⟩ := of_start_eq_ok started
      rfl
    apply ((Settled.sameSpaces_fault created ⟨1, 0⟩).numPages?_eq 1).trans
    rw [numPages?_createSpace, if_pos first]
  exact ⟨manager, started, alive, departs_afterCalls started _ alive rfl⟩

end Manager

end DemandPaging
