import DemandPaging.Proofs.DirtyBits
import DemandPaging.Proofs.FaultSuccess
import DemandPaging.Proofs.ProgramPages

/-!
# Where transfers stop

As long as the swap area is open and nothing goes wrong outside, a transfer
stops only where the program has no right to go on: at the end of its space
and, if it writes, before a page of a read-only section.  Neither the number of
frames nor anything that other spaces do has a part in this.
-/

namespace DemandPaging

namespace Image

variable {pageSize : Nat}

/-- Every page that a section covers can be produced. -/
def Complete (image : Image pageSize) : Prop :=
  ∀ vpn index number, image.findSection vpn = some (index, number) →
    ∃ content, image.loadPage index number = .ok content

/-- Whether a page belongs to a read-only section. -/
def showsReadOnly (image : Image pageSize) (vpn : Nat) : Bool :=
  (image.findSection vpn).any fun place => image.readOnly place.1

theorem Complete.exists_initialContent {image : Image pageSize} (complete : image.Complete)
    (vpn : Nat) : ∃ bytes, image.initialContent? vpn = some bytes := by
  rw [initialContent?]
  split
  · rename_i index number located
    obtain ⟨content, loaded⟩ := complete vpn index number located
    rw [loaded]
    exact ⟨_, rfl⟩
  · exact ⟨_, rfl⟩

end Image

/-- A program that is held in memory shows all its pages. -/
theorem Program.complete_image {pageSize : Nat} (program : Program pageSize) :
    program.image.Complete := by
  intro vpn index number located
  obtain ⟨-, inside, -⟩ := Image.of_findSection_eq_some located
  obtain ⟨part, present, within⟩ := Program.exists_section inside
  exact ⟨part.pageContent pageSize number, Program.loadPage_eq_ok present within⟩

/-- Why the byte at `position` of a space of `numPages` pages cannot be read;
none if it can. -/
def readRefusal? (pageSize numPages position : Nat) : Option PagingError :=
  if position < numPages * pageSize then none else some (.invalidAddress (position / pageSize))

/-- Why the byte at `position` of a space of `numPages` pages cannot be written;
none if it can. -/
def Image.writeRefusal? {pageSize : Nat} (image : Image pageSize) (numPages position : Nat) :
    Option PagingError :=
  if position < numPages * pageSize then
    if image.showsReadOnly (position / pageSize) then
      some (.readOnlyPage (position / pageSize))
    else
      none
  else
    some (.invalidAddress (position / pageSize))

/-- The outcome of a request that fails only if it is refused. -/
def unlessRefused : Option PagingError → Except PagingError Unit
  | none => .ok ()
  | some error => .error error

theorem unlessRefused_eq_ok_iff {refusal : Option PagingError} :
    unlessRefused refusal = .ok () ↔ refusal = none := by
  cases refusal <;> simp [unlessRefused]

theorem unlessRefused_eq_error_iff {refusal : Option PagingError} {error : PagingError} :
    unlessRefused refusal = .error error ↔ refusal = some error := by
  cases refusal <;> simp [unlessRefused]

/-- A transfer of `length` bytes at `address` stops at the first byte that is
refused, for the reason for which it is refused, and nowhere else. -/
structure ExactTransfer (refusal? : Nat → Option PagingError) (address length : Nat)
    (transfer : Transfer) : Prop where
  moved_le : transfer.moved ≤ length
  accepted : ∀ done < transfer.moved, refusal? (address + done) = none
  stopped_eq_none_iff : transfer.stopped = none ↔ transfer.moved = length
  refused : transfer.moved < length → ∃ error,
    refusal? (address + transfer.moved) = some error ∧ transfer.stopped = some error

section Walks

variable {pageSize : Nat} {refusal? : Nat → Option PagingError} {address length : Nat}

/-- A walk is exact if each part of it is copied or refused as its first byte
is. -/
theorem exactTransfer_walkFrom {State : Type} (positive : 0 < pageSize)
    {copy : Chunk → State → Except PagingError Unit × State} (holds : State → Prop)
    (copies : ∀ done state, done < length → holds state →
      holds (copy (Chunk.next pageSize address length done) state).2 ∧
        (copy (Chunk.next pageSize address length done) state).1 =
          unlessRefused (refusal? (address + done)))
    (uniform : ∀ first second, first / pageSize = second / pageSize →
      refusal? first = refusal? second)
    (limited : ∀ position, refusal? position = none → position + 1 < addressLimit)
    {done : Nat} {state : State} (within : done ≤ length) (inside : address + done < addressLimit)
    (before : ∀ earlier < done, refusal? (address + earlier) = none) (start : holds state) :
    ExactTransfer refusal? address length (walkFrom positive address length copy done state).1 := by
  fun_induction walkFrom positive address length copy done state with
  | case1 done state unfinished outside => omega
  | case2 done state unfinished _ chunk _ error failed copied =>
    obtain ⟨-, outcome⟩ := copies done state unfinished start
    rw [copied] at outcome
    have refused := unlessRefused_eq_error_iff.mp outcome.symm
    have stopped : ¬some error = none := Option.some_ne_none error
    exact ⟨within, before, iff_of_false stopped (Nat.ne_of_lt unfinished),
      fun _ => ⟨_, refused, rfl⟩⟩
  | case3 done state unfinished _ chunk counts moved copied ih =>
    obtain ⟨kept, outcome⟩ := copies done state unfinished start
    rw [copied] at kept outcome
    have accepted := unlessRefused_eq_ok_iff.mp outcome.symm
    have ends : done + chunk.count ≤ length := Chunk.next_ends address unfinished
    have whole : ∀ earlier < done + chunk.count, refusal? (address + earlier) = none := by
      intro earlier below
      by_cases old : earlier < done
      · exact before earlier old
      · -- All bytes of a part lie in one page and are refused like its first one.
        rw [← accepted]
        exact uniform _ _ (Chunk.next_page positive address length (Nat.le_of_not_lt old) below)
    refine ih ends ?_ whole kept
    have last := limited _ (whole (done + chunk.count - 1) (by omega))
    omega
  | case4 done state finished =>
    have whole : done = length := Nat.le_antisymm within (Nat.le_of_not_lt finished)
    exact ⟨within, before, iff_of_true rfl whole, fun unfinished => absurd unfinished finished⟩

end Walks

section Refusals

variable {pageSize numPages : Nat} {image : Image pageSize}

theorem readRefusal?_eq_none_iff {position : Nat} :
    readRefusal? pageSize numPages position = none ↔ position < numPages * pageSize := by
  rw [readRefusal?]
  split <;> simp [*]

theorem lt_of_writeRefusal?_eq_none {position : Nat}
    (accepted : image.writeRefusal? numPages position = none) : position < numPages * pageSize := by
  rw [Image.writeRefusal?] at accepted
  split at accepted
  · assumption
  · cases accepted

theorem readRefusal?_congr (positive : 0 < pageSize) {first second : Nat}
    (samePage : first / pageSize = second / pageSize) :
    readRefusal? pageSize numPages first = readRefusal? pageSize numPages second := by
  simp only [readRefusal?, ← Nat.div_lt_iff_lt_mul positive, samePage]

theorem writeRefusal?_congr (positive : 0 < pageSize) {first second : Nat}
    (samePage : first / pageSize = second / pageSize) :
    image.writeRefusal? numPages first = image.writeRefusal? numPages second := by
  simp only [Image.writeRefusal?, ← Nat.div_lt_iff_lt_mul positive, samePage]

end Refusals

/-- A transfer that is nowhere refused goes to its end. -/
theorem ExactTransfer.stopped_eq_none {refusal? : Nat → Option PagingError}
    {address length : Nat} {transfer : Transfer}
    (exact : ExactTransfer refusal? address length transfer)
    (accepted : ∀ done < length, refusal? (address + done) = none) : transfer.stopped = none := by
  rw [exact.stopped_eq_none_iff]
  apply Nat.le_antisymm exact.moved_le
  apply Nat.le_of_not_lt
  intro early
  obtain ⟨error, refused, -⟩ := exact.refused early
  rw [accepted _ early] at refused
  cases refused

theorem ExactTransfer.moved_eq_of_read {pageSize numPages address length : Nat}
    {transfer : Transfer}
    (exact : ExactTransfer (readRefusal? pageSize numPages) address length transfer) :
    transfer.moved = min length (numPages * pageSize - address) := by
  have bound := exact.moved_le
  have reached : transfer.moved = 0 ∨ address + (transfer.moved - 1) < numPages * pageSize := by
    rcases Nat.eq_zero_or_pos transfer.moved with none | some
    · exact .inl none
    · exact .inr (readRefusal?_eq_none_iff.mp (exact.accepted _ (Nat.sub_one_lt_of_lt some)))
  rcases Nat.lt_or_ge transfer.moved length with early | whole
  · obtain ⟨error, refused, -⟩ := exact.refused early
    have beyond : ¬address + transfer.moved < numPages * pageSize := by
      intro inside
      rw [readRefusal?_eq_none_iff.mpr inside] at refused
      cases refused
    omega
  · omega

namespace Manager

variable {pageSize : Nat}

/-- A space of `numPages` pages with `image` is alive, and nothing keeps its
accesses from succeeding. -/
structure Serves (manager : Manager pageSize) (space : SpaceId) (image : Image pageSize)
    (numPages : Nat) : Prop where
  mirrors : ∃ content, manager.Mirrors content
  ready : manager.Ready
  isOpen : manager.swap.closed = false
  image?_eq : manager.image? space = some image
  numPages?_eq : manager.numPages? space = some numPages

section Accesses

variable {manager : Manager pageSize} {page : PageId} {entry : PageEntry}
  {image : Image pageSize} {numPages offset : Nat} {access : Access}
  {outcome : Except PagingError Bytes × Manager pageSize}

theorem entry_eq_error (alive : manager.numPages? page.space = some numPages)
    (beyond : numPages ≤ page.vpn) : manager.entry page = .error (.invalidAddress page.vpn) := by
  obtain ⟨record, found, rfl⟩ := Option.map_eq_some_iff.mp alive
  rw [Manager.entry, found]
  simp only [PageTable.get, Array.getElem?_eq_none beyond]

theorem shownReadOnly_iff (alive : manager.image? page.space = some image) :
    manager.ShownReadOnly page ↔ image.showsReadOnly page.vpn = true := by
  rw [Image.showsReadOnly, Option.any_eq_true]
  constructor
  · rintro ⟨shown, index, number, sameAlive, located, readOnly⟩
    obtain rfl := Option.some.inj (alive.symm.trans sameAlive)
    exact ⟨_, located, readOnly⟩
  · rintro ⟨⟨index, number⟩, located, readOnly⟩
    exact ⟨image, index, number, alive, located, readOnly⟩

/-- The mark of a resident page tells whether it belongs to a read-only
section. -/
theorem Mirrors.readOnly_eq {content : PageId → Bytes} (mirrors : manager.Mirrors content)
    (ready : manager.Ready) (alive : manager.image? page.space = some image)
    (found : manager.entry page = .ok entry) (valid : entry.valid = true) :
    entry.readOnly = image.showsReadOnly page.vpn := by
  rw [Bool.eq_iff_iff, ← shownReadOnly_iff alive]
  constructor
  · exact ready.shown page entry found
  · intro shown
    exact ((mirrors.contains.unwritten page shown).2 entry found).2 valid

namespace Serves

variable {next : Manager pageSize} {space : SpaceId} {vpn : Nat}

theorem of_same (serves : manager.Serves space image numPages) (spaces : SameSpaces manager next)
    (mirrors : ∃ content, next.Mirrors content) (ready : next.Ready)
    (closed : next.swap.closed = manager.swap.closed) : next.Serves space image numPages :=
  ⟨mirrors, ready, closed.trans serves.isOpen, (spaces.image?_eq _).trans serves.image?_eq,
    (spaces.numPages?_eq _).trans serves.numPages?_eq⟩

theorem exists_entry (serves : manager.Serves space image numPages) (inside : vpn < numPages) :
    ∃ entry, manager.entry ⟨space, vpn⟩ = .ok entry :=
  exists_entry_eq_ok_iff.mpr ⟨numPages, serves.numPages?_eq, inside⟩

theorem look (serves : manager.Serves space image numPages)
    (fits : offset + access.length ≤ pageSize)
    (looked : manager.accessResident? page offset access = some outcome) :
    outcome.2.Serves space image numPages :=
  serves.of_same (sameSpaces_accessResident? looked)
    (keeps_mirrors _ _ (.look fits looked) serves.mirrors) (serves.ready.accessResident? looked)
    (congrArg SwapArea.closed (swap_accessResident? looked))

/-- A fault on a page of the space brings it in. -/
theorem fault (serves : manager.Serves space image numPages) (complete : image.Complete)
    (inside : vpn < numPages) :
    (manager.fault ⟨space, vpn⟩).2.Serves space image numPages ∧
      (∃ resolution, (manager.fault ⟨space, vpn⟩).1 = .ok resolution) ∧
      ∃ entry, (manager.fault ⟨space, vpn⟩).2.entry ⟨space, vpn⟩ = .ok entry ∧
        entry.valid = true := by
  obtain ⟨content, mirrors⟩ := serves.mirrors
  obtain ⟨bytes, initially⟩ := complete.exists_initialContent vpn
  refine ⟨?_, mirrors.fault_ok serves.ready serves.isOpen serves.image?_eq initially
    (serves.exists_entry inside)⟩
  exact serves.of_same (mirrors.settled.sameSpaces_fault _) ⟨content, mirrors.fault _⟩
    (serves.ready.fault mirrors.settled _) (mirrors.settled.closed_fault _)

/-- A page of the space is found in a frame at the second look at the latest. -/
theorem exists_resident (serves : manager.Serves space image numPages)
    (complete : image.Complete) (inside : vpn < numPages) (offset : Nat) (access : Access) :
    ∃ (last : Manager pageSize) (entry : PageEntry), last.Serves space image numPages ∧
      last.entry ⟨space, vpn⟩ = .ok entry ∧ entry.valid = true ∧
      last.accessResident? ⟨space, vpn⟩ offset access =
        some (manager.access ⟨space, vpn⟩ offset access) := by
  obtain ⟨entry, found⟩ := serves.exists_entry inside
  cases valid : entry.valid with
  | true => exact ⟨manager, entry, serves, found, valid, access_of_valid found valid _ _⟩
  | false =>
    -- The first look finds no frame, and the fault that follows cannot fail.
    obtain ⟨faulted, ⟨resolution, resolved⟩, resident, foundThen, there⟩ :=
      serves.fault complete inside
    exact ⟨_, resident, faulted, foundThen, there,
      access_of_fault_eq_ok found valid (Prod.ext resolved rfl) foundThen there _ _⟩

/-- The frame of a resident page ends inside the memory. -/
theorem frame_ends (serves : manager.Serves space image numPages)
    (found : manager.entry page = .ok entry) (valid : entry.valid = true) :
    entry.frame * pageSize + pageSize ≤ manager.memory.capacity := by
  obtain ⟨content, mirrors⟩ := serves.mirrors
  have below := mirrors.settled.frame_lt found valid
  rw [mirrors.settled.size_frames, ← mirrors.settled.numFrames_memory] at below
  exact PhysicalMemory.frame_ends_le_capacity below

theorem touch_eq_ok (serves : manager.Serves space image numPages)
    (found : manager.entry page = .ok entry) (valid : entry.valid = true)
    (memory : PhysicalMemory pageSize) (wrote : Bool) :
    (touch { manager with memory := memory } page entry.frame wrote).1 = .ok () := by
  obtain ⟨content, mirrors⟩ := serves.mirrors
  obtain ⟨frames, done⟩ := @touch_eq _ { manager with memory := memory } page _ wrote
    (mirrors.settled.frame_lt found valid)
  rw [done]

/-- A read inside a page of the space succeeds. -/
theorem access_read {count : Nat} (serves : manager.Serves space image numPages)
    (complete : image.Complete) (inside : vpn < numPages) (fits : offset + count ≤ pageSize) :
    (manager.access ⟨space, vpn⟩ offset (.read count)).2.Serves space image numPages ∧
      ∃ bytes, (manager.access ⟨space, vpn⟩ offset (.read count)).1 = .ok bytes := by
  obtain ⟨last, entry, lastServes, found, valid, looked⟩ :=
    serves.exists_resident complete inside offset (.read count)
  refine ⟨lastServes.look fits looked, ?_⟩
  rw [accessResident?, found] at looked
  simp only [valid, if_true] at looked
  rw [← Option.some.inj looked, readResident]
  have ends := lastServes.frame_ends found valid
  rw [PhysicalMemory.read_eq_ok (by omega)]
  simp only [lastServes.touch_eq_ok found valid last.memory false]
  exact ⟨_, rfl⟩

/-- A write inside a page of the space succeeds unless the page belongs to a
read-only section. -/
theorem access_write {data : Bytes} (serves : manager.Serves space image numPages)
    (complete : image.Complete) (inside : vpn < numPages) (fits : offset + data.size ≤ pageSize) :
    (manager.access ⟨space, vpn⟩ offset (.write data)).2.Serves space image numPages ∧
      if image.showsReadOnly vpn then
        (manager.access ⟨space, vpn⟩ offset (.write data)).1 = .error (.readOnlyPage vpn)
      else
        ∃ bytes, (manager.access ⟨space, vpn⟩ offset (.write data)).1 = .ok bytes := by
  obtain ⟨last, entry, lastServes, found, valid, looked⟩ :=
    serves.exists_resident complete inside offset (.write data)
  refine ⟨lastServes.look fits looked, ?_⟩
  obtain ⟨content, mirrors⟩ := lastServes.mirrors
  rw [accessResident?, found] at looked
  simp only [valid, if_true] at looked
  rw [← Option.some.inj looked, writeResident,
    mirrors.readOnly_eq lastServes.ready lastServes.image?_eq found valid]
  by_cases readOnly : image.showsReadOnly vpn = true
  · rw [if_pos readOnly, if_pos readOnly]
  · rw [if_neg readOnly, if_neg readOnly]
    have ends := lastServes.frame_ends found valid
    rw [PhysicalMemory.write_eq_ok (by omega)]
    simp only [lastServes.touch_eq_ok found valid _ true]
    exact ⟨_, rfl⟩

theorem access_beyond (serves : manager.Serves space image numPages) (beyond : numPages ≤ vpn)
    (offset : Nat) (access : Access) :
    manager.access ⟨space, vpn⟩ offset access = (.error (.invalidAddress vpn), manager) :=
  access_of_entry_eq_error (entry_eq_error serves.numPages?_eq beyond)

section Transfers

variable {space : AddressSpace} {address length done : Nat} {data : Bytes}

theorem readChunk (serves : manager.Serves space.id image numPages) (complete : image.Complete)
    (bytes : Bytes) :
    (space.readChunk (Chunk.next pageSize address length done) (bytes, manager)).2.2.Serves
        space.id image numPages ∧
      (space.readChunk (Chunk.next pageSize address length done) (bytes, manager)).1 =
        unlessRefused (readRefusal? pageSize numPages (address + done)) := by
  have positive := manager.memory.pageSize_pos
  have fits := Chunk.next_inside positive address length done
  rw [AddressSpace.readChunk, AddressSpace.page, readRefusal?]
  by_cases inside : address + done < numPages * pageSize
  · have below : (Chunk.next pageSize address length done).vpn < numPages :=
      (Nat.div_lt_iff_lt_mul positive).mpr inside
    obtain ⟨accessed, more, read⟩ := serves.access_read complete below fits
    generalize manager.access _ _ _ = outcome at accessed read ⊢
    obtain ⟨_, next⟩ := outcome
    subst read
    rw [if_pos inside]
    exact ⟨accessed, rfl⟩
  · have beyond : numPages ≤ (Chunk.next pageSize address length done).vpn :=
      Nat.le_of_not_lt fun below => inside ((Nat.div_lt_iff_lt_mul positive).mp below)
    rw [serves.access_beyond beyond, if_neg inside]
    exact ⟨serves, rfl⟩

theorem writeChunk (serves : manager.Serves space.id image numPages) (complete : image.Complete) :
    (space.writeChunk data (Chunk.next pageSize address data.size done) manager).2.Serves
        space.id image numPages ∧
      (space.writeChunk data (Chunk.next pageSize address data.size done) manager).1 =
        unlessRefused (image.writeRefusal? numPages (address + done)) := by
  have positive := manager.memory.pageSize_pos
  have fits := Chunk.next_inside positive address data.size done
  have short := @Bytes.size_slice_le data (Chunk.next pageSize address data.size done).start
    (Chunk.next pageSize address data.size done).count
  rw [AddressSpace.writeChunk, AddressSpace.page, Image.writeRefusal?]
  by_cases inside : address + done < numPages * pageSize
  · have below : (Chunk.next pageSize address data.size done).vpn < numPages :=
      (Nat.div_lt_iff_lt_mul positive).mpr inside
    obtain ⟨accessed, wrote⟩ := serves.access_write complete below
      (Nat.le_trans (Nat.add_le_add_left short _) fits)
    rw [if_pos inside]
    change if image.showsReadOnly ((address + done) / pageSize) = true then _ else _ at wrote
    generalize manager.access _ _ _ = outcome at accessed wrote ⊢
    obtain ⟨_, next⟩ := outcome
    split at wrote
    · rename_i readOnly
      obtain rfl := wrote
      rw [if_pos readOnly]
      exact ⟨accessed, rfl⟩
    · rename_i writable
      obtain ⟨bytes, rfl⟩ := wrote
      rw [if_neg writable]
      exact ⟨accessed, rfl⟩
  · have beyond : numPages ≤ (Chunk.next pageSize address data.size done).vpn :=
      Nat.le_of_not_lt fun below => inside ((Nat.div_lt_iff_lt_mul positive).mp below)
    simp only [serves.access_beyond beyond, if_neg inside]
    exact ⟨serves, rfl⟩

theorem served_readBytes (serves : manager.Serves space.id image numPages)
    (complete : image.Complete) (address length : Nat) :
    (space.readBytes manager address length).2.2.Serves space.id image numPages := by
  apply walkFrom_keeps manager.memory.pageSize_pos
    (fun state : Bytes × Manager pageSize => state.2.Serves space.id image numPages) _ serves
  exact fun done state _ kept => (kept.readChunk complete state.1).1

theorem served_writeBytes (serves : manager.Serves space.id image numPages)
    (complete : image.Complete) (address : Nat) (data : Bytes) :
    (space.writeBytes manager address data).2.Serves space.id image numPages := by
  apply walkFrom_keeps manager.memory.pageSize_pos
    (fun current : Manager pageSize => current.Serves space.id image numPages) _ serves
  exact fun done current _ kept => (kept.writeChunk complete).1

theorem readBytes (serves : manager.Serves space.id image numPages) (complete : image.Complete)
    (reach : numPages * pageSize < addressLimit) (addressed : address < addressLimit)
    (length : Nat) :
    ExactTransfer (readRefusal? pageSize numPages) address length
      (space.readBytes manager address length).1 := by
  have positive := manager.memory.pageSize_pos
  apply exactTransfer_walkFrom positive
    (fun state : Bytes × Manager pageSize => state.2.Serves space.id image numPages)
  case copies => exact fun done state _ kept => kept.readChunk complete state.1
  case uniform => exact fun _ _ => readRefusal?_congr positive
  case limited =>
    intro position accepted
    have below := readRefusal?_eq_none_iff.mp accepted
    omega
  case within => exact Nat.zero_le length
  case inside => exact addressed
  case before => exact fun _ none => absurd none (Nat.not_lt_zero _)
  case start => exact serves

theorem writeBytes (serves : manager.Serves space.id image numPages) (complete : image.Complete)
    (reach : numPages * pageSize < addressLimit) (addressed : address < addressLimit)
    (data : Bytes) :
    ExactTransfer (image.writeRefusal? numPages) address data.size
      (space.writeBytes manager address data).1 := by
  have positive := manager.memory.pageSize_pos
  apply exactTransfer_walkFrom positive
    (fun current : Manager pageSize => current.Serves space.id image numPages)
  case copies => exact fun done current _ kept => kept.writeChunk complete
  case uniform => exact fun _ _ => writeRefusal?_congr positive
  case limited =>
    intro position accepted
    have below := lt_of_writeRefusal?_eq_none accepted
    omega
  case within => exact Nat.zero_le data.size
  case inside => exact addressed
  case before => exact fun _ none => absurd none (Nat.not_lt_zero _)
  case start => exact serves

end Transfers

end Serves

end Accesses

end Manager

end DemandPaging
