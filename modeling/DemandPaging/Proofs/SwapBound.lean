import DemandPaging.Proofs.DirtyBits
import DemandPaging.Proofs.FaultSuccess
import DemandPaging.Proofs.ManagerCalls
import Mathlib.Data.List.Infix

/-!
# The size of the swap area

A page keeps its slot until its space is destroyed, so every slot that is bound
belongs to a page that exists.  The swap area grows only for a page without a
slot, and only when every slot is bound; therefore it never has more slots than
there were pages at one time, however many spaces come and go.
-/

namespace DemandPaging

namespace Manager

variable {pageSize : Nat}

/-- The number of pages of all spaces that are alive. -/
def livePages (manager : Manager pageSize) : Nat :=
  (manager.spaces.values.map fun record => record.table.size).sum

/-- The pages of all spaces that are alive. -/
def pageIds (manager : Manager pageSize) : List PageId :=
  manager.spaces.entries.flatMap fun entry =>
    (List.range entry.2.table.size).map fun vpn => { space := entry.1, vpn := vpn }

section Counting

variable {manager next : Manager pageSize}

theorem length_pageIds (manager : Manager pageSize) :
    manager.pageIds.length = manager.livePages := by
  simp only [pageIds, livePages, KeyedTable.values, List.length_flatMap, List.map_map,
    List.length_map, List.length_range]
  rfl

theorem mem_pageIds_iff (distinct : manager.spaces.keys.Nodup) {page : PageId} :
    page ∈ manager.pageIds ↔ ∃ entry, manager.entry page = .ok entry := by
  simp only [exists_entry_eq_ok_iff, numPages?, Option.map_eq_some_iff, pageIds, List.mem_flatMap,
    List.mem_map, List.mem_range]
  constructor
  · rintro ⟨⟨space, record⟩, member, vpn, inside, rfl⟩
    have found := (KeyedTable.mem_entries_iff distinct space record).mp member
    exact ⟨_, ⟨record, found, rfl⟩, inside⟩
  · rintro ⟨numPages, ⟨record, found, rfl⟩, inside⟩
    have member := (KeyedTable.mem_entries_iff distinct page.space record).mpr found
    exact ⟨(page.space, record), member, page.vpn, inside, rfl⟩

theorem nodup_pageIds (distinct : manager.spaces.keys.Nodup) : manager.pageIds.Nodup := by
  rw [pageIds, List.nodup_flatMap]
  constructor
  · intro entry _
    apply List.nodup_range.map
    exact fun first second same => congrArg PageId.vpn same
  · have apart : manager.spaces.entries.Pairwise fun first second => first.1 ≠ second.1 :=
      List.pairwise_map.mp distinct
    apply apart.imp
    intro first second differs page inFirst inSecond
    obtain ⟨_, -, rfl⟩ := List.mem_map.mp inFirst
    obtain ⟨_, -, same⟩ := List.mem_map.mp inSecond
    exact differs (congrArg PageId.space same).symm

theorem SameSpaces.livePages_eq (same : SameSpaces manager next)
    (before : manager.spaces.keys.Nodup) (after : next.spaces.keys.Nodup) :
    next.livePages = manager.livePages := by
  rw [← length_pageIds, ← length_pageIds]
  apply List.Perm.length_eq
  rw [List.perm_ext_iff_of_nodup (nodup_pageIds after) (nodup_pageIds before)]
  intro page
  rw [mem_pageIds_iff after, mem_pageIds_iff before, same.exists_entry_iff]

/-- If a page that exists has no slot, fewer slots are bound than pages exist. -/
theorem Contains.boundSlotCount_lt {content : PageId → Bytes} {spared : Option PageId}
    {page : PageId} (contains : manager.Contains content spared)
    (distinct : manager.spaces.keys.Nodup) (alive : ∃ entry, manager.entry page = .ok entry)
    (unbound : manager.swap.slotOf? page = none) :
    manager.swap.boundSlotCount < manager.livePages := by
  have notBound : page ∉ manager.swap.bindings.keys := by
    rw [KeyedTable.mem_keys_iff, not_exists]
    intro slot bound
    cases unbound.symm.trans bound
  have listed : page :: manager.swap.bindings.keys ⊆ manager.pageIds := by
    rw [List.cons_subset]
    refine ⟨(mem_pageIds_iff distinct).mpr alive, fun other isBound => ?_⟩
    obtain ⟨slot, bound⟩ := (KeyedTable.mem_keys_iff _ _).mp isBound
    exact (mem_pageIds_iff distinct).mpr (contains.bound other slot bound)
  have apart : (page :: manager.swap.bindings.keys).Nodup :=
    List.nodup_cons.mpr ⟨notBound, contains.intact.nodup_keys⟩
  have counted := (List.subperm_of_subset apart listed).length_le
  rw [length_pageIds, List.length_cons, KeyedTable.keys, List.length_map] at counted
  exact counted

end Counting

/-- The slots of an open swap area are balanced, and there are at most `most` of
them. -/
structure Provisioned (manager : Manager pageSize) (most : Nat) : Prop where
  balanced : manager.swap.closed = false → manager.swap.Balanced manager.volume ∅
  slotCount_le : manager.swap.slotCount ≤ most

section Steps

variable {manager next : Manager pageSize} {page : PageId} {phase nextPhase : FaultPhase}
  {most : Nat}

theorem Provisioned.of_same (provisioned : manager.Provisioned most)
    (swap : next.swap = manager.swap) (volume : next.volume = manager.volume) :
    next.Provisioned most := by
  constructor
  · rw [swap, volume]
    exact provisioned.balanced
  · rw [swap]
    exact provisioned.slotCount_le

theorem Provisioned.withBooks (provisioned : manager.Provisioned most) (log : EventLog)
    (statistics : Statistics) : (manager.withBooks log statistics).Provisioned most :=
  provisioned.of_same rfl rfl

theorem Provisioned.transit (provisioned : manager.Provisioned most)
    (transit : KeyedTable PageId Nat) : Provisioned { manager with inTransit := transit } most :=
  provisioned.of_same rfl rfl

theorem Provisioned.takeTrouble (provisioned : manager.Provisioned most) :
    Provisioned { manager with volume := manager.volume.takeTrouble.2 } most where
  balanced isOpen := (provisioned.balanced isOpen).of_files_eq rfl
  slotCount_le := provisioned.slotCount_le

/-- A page that is written to the swap area makes it grow only if there are more
pages than slots. -/
theorem Provisioned.saved {content : PageId → Bytes} {spared : Option PageId} {victim : PageId}
    {data : Bytes} {outcome : Except SwapError Nat} {swap : SwapArea PageId pageSize}
    {volume : Volume} (provisioned : manager.Provisioned most)
    (contains : manager.Contains content spared) (distinct : manager.spaces.keys.Nodup)
    (alive : ∃ entry, manager.entry victim = .ok entry) (room : manager.livePages ≤ most)
    (fits : data.size = pageSize)
    (done : manager.swap.write manager.volume.takeTrouble.2 victim data
      manager.volume.takeTrouble.1 = (outcome, swap, volume)) :
    Provisioned { manager with swap := swap, volume := volume } most := by
  cases closed : manager.swap.closed with
  | true =>
    rw [SwapArea.write, if_neg (fun differs => differs fits), if_pos closed] at done
    obtain ⟨-, rfl, rfl⟩ := by simpa using done
    exact provisioned.takeTrouble
  | false =>
    have balanced : manager.swap.Balanced manager.volume.takeTrouble.2 ∅ :=
      provisioned.takeTrouble.balanced closed
    have counted := balanced.slotCount_eq
    obtain ⟨kept, grows⟩ := balanced.of_write manager.memory.pageSize_pos closed fits done
    refine ⟨fun _ => kept, ?_⟩
    rcases grows with same | ⟨full, unbound, grown⟩
    · exact same.trans_le provisioned.slotCount_le
    · have fewer := contains.boundSlotCount_lt distinct alive unbound
      rw [SwapArea.freeSlotCount, SlotSet.size, full, List.length_nil, Finset.card_empty] at counted
      change swap.slotCount ≤ most
      omega

theorem Passes.provisioned {content : PageId → Bytes}
    (passes : Passes page manager phase next nextPhase)
    (represents : manager.Represents content page phase) (room : manager.livePages ≤ most)
    (provisioned : manager.Provisioned most) : next.Provisioned most := by
  cases passes with
  | @drop _ frame victim =>
    obtain ⟨-, swap, volume⟩ := evicted_eq manager page frame victim false
    have left : (manager.evicted page frame victim false).Provisioned most :=
      provisioned.of_same swap volume
    rw [record_bump]
    exact left.withBooks _ _
  | @unmap _ frame victim =>
    obtain ⟨-, swap, volume⟩ := evicted_eq manager page frame victim true
    have left : (manager.evicted page frame victim true).Provisioned most :=
      provisioned.of_same swap volume
    exact left.transit _
  | @save frame victim data _ _ _ done =>
    obtain ⟨inFrame, rfl, -⟩ := represents.during
    have fits := represents.size_frameContent rfl
    rw [inFrame] at fits
    obtain ⟨entry, alive, -⟩ := represents.exists_entry rfl (.inr rfl)
    exact provisioned.saved represents.contains represents.accounted.nodup_spaces ⟨entry, alive⟩
      room fits done
  | fetch => exact provisioned.takeTrouble.of_same rfl rfl
  | miss => exact provisioned.takeTrouble
  | _ => exact provisioned.of_same rfl rfl

theorem PassesThrough.provisioned {content : PageId → Bytes}
    (path : PassesThrough page manager phase next nextPhase)
    (represents : manager.Represents content page phase) (room : manager.livePages ≤ most)
    (provisioned : manager.Provisioned most) : next.Provisioned most := by
  induction path with
  | stay => exact provisioned
  | go path step ih =>
    have there := path.represents represents
    have same := path.sameSpaces.livePages_eq represents.accounted.nodup_spaces
      there.accounted.nodup_spaces
    exact step.provisioned there (same.trans_le room) ih

theorem Provisioned.recordOutcome (provisioned : manager.Provisioned most) (page : PageId)
    (outcome : Except PagingError Resolution) :
    (manager.recordOutcome page outcome).Provisioned most := by
  cases outcome with
  | ok resolution => exact provisioned.withBooks _ _
  | error error => exact provisioned.withBooks _ _

/-- A fault needs no more slots than there are pages. -/
theorem Provisioned.fault {content : PageId → Bytes} (provisioned : manager.Provisioned most)
    (mirrors : manager.Mirrors content) (room : manager.livePages ≤ most) (page : PageId) :
    (manager.fault page).2.Provisioned most := by
  have resolved := (mirrors.settled.path page).provisioned (mirrors.arriving page) room
    (provisioned.withBooks _ _)
  exact resolved.recordOutcome page _

theorem Provisioned.touch (provisioned : manager.Provisioned most) (page : PageId) (frame : Nat)
    (wrote : Bool) : (manager.touch page frame wrote).2.Provisioned most := by
  rw [Manager.touch]
  split
  · exact provisioned.of_same rfl rfl
  · exact provisioned.of_same rfl rfl

theorem Provisioned.accessResident? {offset : Nat} {access : Access}
    {outcome : Except PagingError Bytes × Manager pageSize}
    (provisioned : manager.Provisioned most)
    (looked : manager.accessResident? page offset access = some outcome) :
    outcome.2.Provisioned most := by
  rcases accessResident?_cases looked with same | ⟨memory, frame, wrote, -, same⟩
  · rw [same]
    exact provisioned
  · have changed : Provisioned { manager with memory := memory } most :=
      provisioned.of_same rfl rfl
    rw [same]
    exact changed.touch page frame wrote

theorem Provisioned.destroySpace (provisioned : manager.Provisioned most)
    (settled : manager.Settled) (space : SpaceId) :
    (manager.destroySpace space).2.Provisioned most := by
  rcases settled.destroySpace_eq space with ⟨-, done⟩ | ⟨frames, pool, done⟩
  · rw [done]
    exact provisioned
  · rw [done]
    exact ⟨fun isOpen => (provisioned.balanced isOpen).releaseWhere fun page => page.space == space,
      provisioned.slotCount_le⟩

/-- Closing the swap area takes no slot away. -/
theorem Provisioned.shutdown (provisioned : manager.Provisioned most) :
    manager.shutdown.2.Provisioned most := by
  rw [Manager.shutdown]
  have closed := manager.swap.closed_close manager.volume.takeTrouble.2
    manager.volume.takeTrouble.1
  cases done : manager.swap.close manager.volume.takeTrouble.2 manager.volume.takeTrouble.1 with
  | mk outcome rest =>
    obtain ⟨swap, volume⟩ := rest
    rw [done] at closed
    have sameCount : swap.slotCount = manager.swap.slotCount := by
      rcases (SwapArea.of_close_eq done).1 with rfl | rfl
      · rfl
      · rfl
    simp only [done]
    refine ⟨fun isOpen => ?_, sameCount.trans_le provisioned.slotCount_le⟩
    cases closed.symm.trans isOpen

theorem Provisioned.part {content : PageId → Bytes} (provisioned : manager.Provisioned most)
    (mirrors : manager.Mirrors content) (room : manager.livePages ≤ most)
    (part : Part manager next) : next.Provisioned most := by
  cases part with
  | fault page => exact provisioned.fault mirrors room page
  | look _ looked => exact provisioned.accessResident? looked
  | createSpace => exact provisioned.of_same rfl rfl
  | destroySpace => exact provisioned.destroySpace mirrors.settled _
  | shutdown => exact provisioned.shutdown

theorem Mirrors.withLog {content : PageId → Bytes} (mirrors : manager.Mirrors content)
    (log : EventLog) : Mirrors { manager with log := log } content :=
  ⟨mirrors.settled.withLog log, mirrors.contains.of_same { SameContents.refl manager with }⟩

theorem Mirrors.afterCalls {content : PageId → Bytes} (mirrors : manager.Mirrors content)
    (calls : List (ManagerCall pageSize)) :
    ∃ content, (manager.afterCalls calls).Mirrors content := by
  apply keeps_mirrors.afterCalls _ ⟨content, mirrors⟩
  rintro current log ⟨content, mirrors⟩
  exact ⟨content, mirrors.withLog log⟩

theorem Provisioned.call {content : PageId → Bytes} (provisioned : manager.Provisioned most)
    (mirrors : manager.Mirrors content) (room : manager.livePages ≤ most)
    (call : ManagerCall pageSize) : (manager.call call).Provisioned most := by
  rcases manager.call_cases call with part | ⟨log, same⟩
  · exact provisioned.part mirrors room part
  · rw [same]
    exact provisioned.of_same rfl rfl

/-- At every moment there are at most as many slots as there were pages at some
moment before. -/
theorem Provisioned.afterCalls {content : PageId → Bytes}
    (provisioned : manager.Provisioned manager.livePages) (mirrors : manager.Mirrors content)
    (calls : List (ManagerCall pageSize)) :
    ∃ earlier, earlier <+: calls ∧
      (manager.afterCalls calls).Provisioned (manager.afterCalls earlier).livePages := by
  induction calls using List.reverseRecOn with
  | nil => exact ⟨[], List.prefix_rfl, provisioned⟩
  | append_singleton calls call ih =>
    obtain ⟨earlier, early, before⟩ := ih
    obtain ⟨_, mirrorsNow⟩ := mirrors.afterCalls calls
    have early := early.trans (List.prefix_append calls [call])
    rw [afterCalls_concat]
    rcases Nat.le_total (manager.afterCalls calls).livePages
        (manager.afterCalls earlier).livePages with fewer | more
    · exact ⟨earlier, early, before.call mirrorsNow fewer call⟩
    · have roomy : (manager.afterCalls calls).Provisioned (manager.afterCalls calls).livePages :=
        ⟨before.balanced, before.slotCount_le.trans more⟩
      exact ⟨calls, List.prefix_append _ _, roomy.call mirrorsNow (Nat.le_refl _) call⟩

theorem provisioned_start {config : Configuration} {volume : Volume}
    (consistent : volume.Consistent) (started : Manager.start config volume = .ok manager) :
    manager.Provisioned manager.livePages := by
  obtain ⟨memory, swap, opened, -, done, rfl⟩ := of_start_eq_ok started
  obtain ⟨balanced, -, -⟩ := SwapArea.balanced_openNamed consistent done
  refine ⟨fun _ => balanced, ?_⟩
  have counted := balanced.slotCount_eq
  obtain ⟨bindings, freeSlots⟩ := SwapArea.bindings_openNamed done
  rw [SwapArea.boundSlotCount, SwapArea.freeSlotCount, bindings, freeSlots] at counted
  exact Nat.le_of_eq counted

/-- The swap area is open, and all its slots are accounted for. -/
structure Stocked (manager : Manager pageSize) : Prop where
  mirrors : ∃ content, manager.Mirrors content
  isOpen : manager.swap.closed = false
  provisioned : ∃ most, manager.Provisioned most

theorem SpacePart.closed_eq (part : SpacePart manager next) (settled : manager.Settled) :
    next.swap.closed = manager.swap.closed := by
  cases part with
  | fault page => exact settled.closed_fault page
  | look _ looked => rw [swap_accessResident? looked]
  | createSpace => rfl
  | destroySpace space =>
    rcases settled.destroySpace_eq space with ⟨-, done⟩ | ⟨frames, pool, done⟩
    · rw [done]
    · rw [done]
      rfl

theorem keeps_stocked : KeepsOnSpaces (Stocked : Manager pageSize → Prop) := by
  intro manager next part stocked
  obtain ⟨content, mirrors⟩ := stocked.mirrors
  obtain ⟨most, provisioned⟩ := stocked.provisioned
  -- There is room for all pages under a bound that is high enough.
  have roomy : manager.Provisioned (max most manager.livePages) :=
    ⟨provisioned.balanced, provisioned.slotCount_le.trans (Nat.le_max_left _ _)⟩
  constructor
  case mirrors => exact keeps_mirrors _ _ part.part ⟨content, mirrors⟩
  case isOpen => exact (part.closed_eq mirrors.settled).trans stocked.isOpen
  case provisioned => exact ⟨_, roomy.part mirrors (Nat.le_max_right _ _) part.part⟩

theorem stocked_start {config : Configuration} {volume : Volume} (consistent : volume.Consistent)
    (started : Manager.start config volume = .ok manager) : manager.Stocked := by
  refine ⟨⟨_, (follows_start started).mirrors⟩, ?_, _, provisioned_start consistent started⟩
  obtain ⟨memory, swap, opened, -, done, rfl⟩ := of_start_eq_ok started
  exact (SwapArea.balanced_openNamed consistent done).2.1

/-- No slot is lost: each belongs to a page or is free. -/
theorem Stocked.lt_slotCount_iff (stocked : manager.Stocked) (slot : Nat) :
    slot < manager.swap.slotCount ↔
      (∃ page, manager.swap.slotOf? page = some slot) ∨ slot ∈ manager.swap.freeSlots.slots := by
  obtain ⟨most, provisioned⟩ := stocked.provisioned
  simpa using (provisioned.balanced stocked.isOpen).lt_slotCount_iff slot

end Steps

/-- What the swap area of a manager that started as `start` may take up after
`calls`. -/
structure SwapBounded (start : Manager pageSize) (calls : List (ManagerCall pageSize)) :
    Prop where
  /-- Every bound slot belongs to a page of a space that is alive. -/
  live : ∀ page slot, (start.afterCalls calls).swap.slotOf? page = some slot →
    ∃ numPages, (start.afterCalls calls).numPages? page.space = some numPages ∧
      page.vpn < numPages
  /-- There are no more slots than there were pages at some moment of the run. -/
  slotCount_le : ∃ earlier, earlier <+: calls ∧
    (start.afterCalls calls).swap.slotCount ≤ (start.afterCalls earlier).livePages

/-- However many spaces come and go, and whatever fails on the way, the swap area
is bounded by the pages that were alive at the same time. -/
theorem swapBounded_afterCalls {config : Configuration} {volume : Volume}
    {manager : Manager pageSize} (consistent : volume.Consistent)
    (started : Manager.start config volume = .ok manager)
    (calls : List (ManagerCall pageSize)) : manager.SwapBounded calls := by
  have mirrors := (follows_start started).mirrors
  constructor
  case live =>
    intro page slot bound
    obtain ⟨_, now⟩ := mirrors.afterCalls calls
    exact exists_entry_eq_ok_iff.mp (now.contains.bound page slot bound)
  case slotCount_le =>
    obtain ⟨earlier, early, now⟩ := (provisioned_start consistent started).afterCalls mirrors calls
    exact ⟨earlier, early, now.slotCount_le⟩

/-- A page that has to leave the only frame, and a space that ends. -/
theorem swapBounded_afterCalls_evict :
    ∃ manager : Manager 4, Volume.Consistent {} ∧
      Manager.start { numFrames := 1 } {} = .ok manager ∧
      manager.SwapBounded [
        .createSpace 2 (Program.synthetic 0 0).image,
        .fault ⟨1, 0⟩,
        .look ⟨1, 0⟩ 0 (.write #[7]) (by decide),
        .fault ⟨1, 1⟩,
        .destroySpace 1] := by
  obtain ⟨manager, started⟩ := exists_start_eq_ok { numFrames := 1 } {}
    (by decide : Nat.isPowerOfTwo 4) checkPath_swapFile
  exact ⟨manager, Volume.consistent_empty, started,
    swapBounded_afterCalls Volume.consistent_empty started _⟩

end Manager

end DemandPaging
