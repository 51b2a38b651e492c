import DemandPaging.Proofs.BlankFaults
import DemandPaging.Proofs.Runs

/-!
# Operations do not look at bytes

Every operation on a wiped manager answers what it answers on the manager
itself, up to the bytes that it reads, and leaves the same manager behind,
wiped.
-/

namespace DemandPaging

namespace Access

def blank : Access → Access
  | read count => read count
  | write data => write data.blank

end Access

namespace Manager

variable {pageSize : Nat} (manager : Manager pageSize) (page : PageId)

theorem touch_blank (frame : Nat) (wrote : Bool) :
    manager.blank.touch page frame wrote = Prod.map id blank (manager.touch page frame wrote) := by
  simp only [touch, modifyEntry_blank, blank_frames]
  split <;> rfl

theorem readResident_blank (entry : PageEntry) (offset count : Nat) :
    manager.blank.readResident page entry offset count =
      Prod.map (Except.map Bytes.blank) blank (manager.readResident page entry offset count) := by
  have read : manager.blank.memory.read (entry.frame * pageSize + offset) count =
      (manager.memory.read (entry.frame * pageSize + offset) count).map Bytes.blank :=
    manager.memory.read_blank _ count
  simp only [readResident, read, touch_blank]
  cases manager.memory.read (entry.frame * pageSize + offset) count with
  | error error => rfl
  | ok bytes =>
    obtain ⟨error | ⟨⟩, touched⟩ := manager.touch page entry.frame false <;> rfl

theorem writeResident_blank (entry : PageEntry) (offset : Nat) (data : Bytes) :
    manager.blank.writeResident page entry offset data.blank =
      Prod.map (Except.map Bytes.blank) blank (manager.writeResident page entry offset data) := by
  have written : manager.blank.memory.write (entry.frame * pageSize + offset) data.blank =
      (manager.memory.write (entry.frame * pageSize + offset) data).map PhysicalMemory.blank :=
    manager.memory.write_blank _ data
  simp only [writeResident, written]
  split
  · rfl
  · cases manager.memory.write (entry.frame * pageSize + offset) data with
    | error error => rfl
    | ok memory =>
      have touched : touch { manager.blank with memory := memory.blank } page entry.frame true =
          Prod.map id blank (touch { manager with memory := memory } page entry.frame true) :=
        touch_blank { manager with memory := memory } page entry.frame true
      simp only [Except.map, touched]
      obtain ⟨error | ⟨⟩, marked⟩ :=
        touch { manager with memory := memory } page entry.frame true <;> rfl

theorem accessResident?_blank (offset : Nat) (access : Access) :
    manager.blank.accessResident? page offset access.blank =
      (manager.accessResident? page offset access).map
        (Prod.map (Except.map Bytes.blank) blank) := by
  simp only [accessResident?, entry_blank]
  cases manager.entry page with
  | error error => rfl
  | ok entry =>
    simp only
    split
    · cases access with
      | read count => exact congrArg some (manager.readResident_blank page entry offset count)
      | write data => exact congrArg some (manager.writeResident_blank page entry offset data)
    · rfl

theorem accessWithin_blank (offset : Nat) (access : Access) (looks : Nat) :
    manager.blank.accessWithin page offset access.blank looks =
      Prod.map (Except.map Bytes.blank) blank (manager.accessWithin page offset access looks) := by
  induction looks generalizing manager with
  | zero => rfl
  | succ looks ih =>
    simp only [accessWithin, accessResident?_blank, fault_blank]
    cases manager.accessResident? page offset access with
    | some outcome => rfl
    | none =>
      obtain ⟨error | resolution, faulted⟩ := manager.fault page
      · rfl
      · exact ih faulted

theorem access_blank (offset : Nat) (access : Access) :
    manager.blank.access page offset access.blank =
      Prod.map (Except.map Bytes.blank) blank (manager.access page offset access) :=
  manager.accessWithin_blank page offset access maxLooks

theorem createSpace_blank (numPages : Nat) (image : Image pageSize) :
    manager.blank.createSpace numPages image.blank =
      Prod.map id blank (manager.createSpace numPages image) := by
  have placed : manager.blank.spaces.set manager.nextSpace
      { table := PageTable.empty numPages, image := image.blank } =
        (manager.spaces.set manager.nextSpace
          { table := PageTable.empty numPages, image := image }).mapValues SpaceRecord.blank :=
    KeyedTable.set_mapValues SpaceRecord.blank manager.spaces manager.nextSpace
      { table := PageTable.empty numPages, image := image }
  exact congrArg (fun spaces => (manager.nextSpace,
    { manager.blank with nextSpace := manager.nextSpace + 1, spaces := spaces })) placed

theorem freeAll_blank (frames : List Nat) :
    manager.blank.freeAll frames = Prod.map id blank (manager.freeAll frames) := by
  induction frames generalizing manager with
  | nil => rfl
  | cons frame rest ih =>
    have samePool : manager.blank.pool.free frame = manager.pool.free frame := rfl
    simp only [freeAll, blank_frames, samePool]
    cases manager.frames.evict frame with
    | error error => rfl
    | ok left =>
      simp only
      cases manager.pool.free frame with
      | error error => rfl
      | ok pool => exact ih { manager with frames := left.2, pool := pool }

theorem destroySpace_blank (space : SpaceId) :
    manager.blank.destroySpace space = Prod.map id blank (manager.destroySpace space) := by
  have detached : manager.blank.detachSpace space =
      Prod.map id blank (manager.detachSpace space) := by
    have found : manager.blank.spaces.find? space =
        (manager.spaces.find? space).map SpaceRecord.blank := KeyedTable.find?_mapValues _ _ _
    have erased : manager.blank.spaces.erase space =
        (manager.spaces.erase space).mapValues SpaceRecord.blank :=
      KeyedTable.erase_mapValues _ _ _
    simp only [detachSpace, found, erased]
    cases manager.spaces.find? space with
    | none => rfl
    | some record =>
      exact freeAll_blank { manager with spaces := manager.spaces.erase space }
        record.table.residentFrames
  simp only [destroySpace, detached]
  obtain ⟨error | ⟨⟩, left⟩ := manager.detachSpace space <;> rfl

theorem shutdown_blank : manager.blank.shutdown = Prod.map id blank manager.shutdown := by
  have closed : manager.blank.swap.close manager.blank.volume.takeTrouble.2
      manager.blank.volume.takeTrouble.1 = Prod.map id (Prod.map id Volume.blank)
        (manager.swap.close manager.volume.takeTrouble.2 manager.volume.takeTrouble.1) :=
    manager.swap.close_blank manager.volume.takeTrouble.2 _
  simp only [shutdown, closed]
  rfl

end Manager

/-- A walk carries over to other states if the steps of its parts do. -/
theorem walkFrom_map {State Other : Type} {pageSize : Nat} (positive : 0 < pageSize)
    {address length : Nat} {copy : Chunk → State → Except PagingError Unit × State}
    {other : Chunk → Other → Except PagingError Unit × Other} {change : State → Other}
    (commutes : ∀ chunk state, other chunk (change state) = Prod.map id change (copy chunk state))
    (done : Nat) (state : State) :
    walkFrom positive address length other done (change state) =
      Prod.map id change (walkFrom positive address length copy done state) := by
  fun_induction walkFrom positive address length copy done state with
  | case1 done state unfinished outside =>
    rw [walkFrom, dif_pos unfinished, if_pos outside]
    rfl
  | case2 done state unfinished inside chunk _ error failed copied =>
    have step : other chunk (change state) = (.error error, change failed) := by
      rw [commutes, copied]
      rfl
    rw [walkFrom, dif_pos unfinished, if_neg inside]
    simp only [chunk] at step
    simp only [step]
    rfl
  | case3 done state unfinished inside chunk _ moved copied ih =>
    have step : other chunk (change state) = (.ok (), change moved) := by
      rw [commutes, copied]
      rfl
    rw [walkFrom, dif_pos unfinished, if_neg inside]
    simp only [chunk] at step
    simp only [step]
    exact ih
  | case4 done state finished =>
    rw [walkFrom, dif_neg finished]
    rfl

namespace Manager

variable {pageSize : Nat} (space : AddressSpace) (manager : Manager pageSize)

theorem faultEach_blank (vpns : List Nat) :
    space.faultEach manager.blank vpns =
      Prod.map id blank (space.faultEach manager vpns) := by
  induction vpns generalizing manager with
  | nil => rfl
  | cons vpn rest ih =>
    simp only [AddressSpace.faultEach, fault_blank]
    obtain ⟨error | resolution, faulted⟩ := manager.fault (space.page vpn)
    · rfl
    · exact ih faulted

theorem create_blank (numPages : Nat) (image : Image pageSize) (strategy : PagingStrategy) :
    AddressSpace.create manager.blank numPages image.blank strategy =
      Prod.map id blank (AddressSpace.create manager numPages image strategy) := by
  have free : manager.blank.freeFrames = manager.freeFrames := rfl
  cases strategy with
  | demand =>
    simp only [AddressSpace.create, createSpace_blank]
    rfl
  | eager =>
    simp only [AddressSpace.create, free, createSpace_blank, Prod.map_fst, Prod.map_snd, id,
      faultEach_blank]
    split
    · rfl
    · obtain ⟨error | ⟨⟩, filled⟩ :=
        AddressSpace.faultEach _ (manager.createSpace numPages image).2 _
      · simp only [Prod.map, id, destroySpace_blank]
      · rfl

theorem readChunk_blank (chunk : Chunk) (state : Bytes × Manager pageSize) :
    space.readChunk chunk (Prod.map Bytes.blank blank state) =
      Prod.map id (Prod.map Bytes.blank blank) (space.readChunk chunk state) := by
  obtain ⟨bytes, manager⟩ := state
  have accessed : manager.blank.access (space.page chunk.vpn) chunk.offset (.read chunk.count) =
      Prod.map (Except.map Bytes.blank) blank
        (manager.access (space.page chunk.vpn) chunk.offset (.read chunk.count)) :=
    manager.access_blank _ _ (.read chunk.count)
  simp only [AddressSpace.readChunk, Prod.map, accessed]
  obtain ⟨error | more, next⟩ :=
    manager.access (space.page chunk.vpn) chunk.offset (.read chunk.count)
  · rfl
  · exact congrArg (fun joined => (_, joined, next.blank)) (Bytes.blank_append bytes more).symm

theorem writeChunk_blank (data : Bytes) (chunk : Chunk) :
    space.writeChunk data.blank chunk manager.blank =
      Prod.map id blank (space.writeChunk data chunk manager) := by
  have accessed : manager.blank.access (space.page chunk.vpn) chunk.offset
      (.write (Bytes.blank (Bytes.slice data chunk.start chunk.count))) =
        Prod.map (Except.map Bytes.blank) blank (manager.access (space.page chunk.vpn)
          chunk.offset (.write (Bytes.slice data chunk.start chunk.count))) :=
    manager.access_blank _ _ (.write _)
  simp only [AddressSpace.writeChunk, ← Bytes.blank_slice, accessed]
  obtain ⟨error | more, next⟩ := manager.access (space.page chunk.vpn) chunk.offset
    (.write (Bytes.slice data chunk.start chunk.count)) <;> rfl

theorem readBytes_blank (address length : Nat) :
    space.readBytes manager.blank address length =
      Prod.map id (Prod.map Bytes.blank blank) (space.readBytes manager address length) :=
  walkFrom_map manager.memory.pageSize_pos (readChunk_blank space) 0 (#[], manager)

theorem writeBytes_blank (address : Nat) (data : Bytes) :
    space.writeBytes manager.blank address data.blank =
      Prod.map id blank (space.writeBytes manager address data) := by
  rw [AddressSpace.writeBytes, Bytes.size_blank]
  exact walkFrom_map manager.memory.pageSize_pos
    (fun chunk current => writeChunk_blank space current data chunk) 0 manager

theorem writeAll_blank (address : Nat) (data : Bytes) :
    ProcessImage.writeAll space manager.blank address data.blank =
      Prod.map id blank (ProcessImage.writeAll space manager address data) := by
  simp only [ProcessImage.writeAll, writeBytes_blank]
  obtain ⟨⟨moved, _ | error⟩, next⟩ := space.writeBytes manager address data <;> rfl

theorem writePieces_blank (pieces : List (Nat × Bytes)) :
    ProcessImage.writePieces space manager.blank (pieces.map (Prod.map id Bytes.blank)) =
      Prod.map id blank (ProcessImage.writePieces space manager pieces) := by
  induction pieces generalizing manager with
  | nil => rfl
  | cons piece rest ih =>
    simp only [List.map_cons, Prod.map, id, ProcessImage.writePieces, writeAll_blank]
    obtain ⟨error | ⟨⟩, written⟩ := ProcessImage.writeAll space manager piece.1 piece.2
    · rfl
    · exact ih written

section Pairs

variable {first second : Manager pageSize} {image other : Image pageSize}

theorem create_congr (same : second.blank = first.blank) (sameImage : other.blank = image.blank)
    (numPages : Nat) (strategy : PagingStrategy) :
    Prod.map id blank (AddressSpace.create second numPages other strategy) =
      Prod.map id blank (AddressSpace.create first numPages image strategy) := by
  rw [← create_blank, ← create_blank, same, sameImage]

theorem writeBytes_congr {data more : Bytes} (same : second.blank = first.blank)
    (sameSize : more.size = data.size) (address : Nat) :
    Prod.map id blank (space.writeBytes second address more) =
      Prod.map id blank (space.writeBytes first address data) := by
  rw [← writeBytes_blank, ← writeBytes_blank, same, Bytes.blank_eq_blank_iff.mpr sameSize]

theorem destroySpace_congr (same : second.blank = first.blank) (space : SpaceId) :
    Prod.map id blank (second.destroySpace space) =
      Prod.map id blank (first.destroySpace space) := by
  rw [← destroySpace_blank, ← destroySpace_blank, same]

end Pairs

theorem layOut_blank (image : Image pageSize) (pages : Nat) (indices : List Nat) :
    ProcessImage.layOut image.blank pages indices = ProcessImage.layOut image pages indices := by
  induction indices generalizing pages with
  | nil => rfl
  | cons index rest ih =>
    rw [ProcessImage.layOut, ProcessImage.layOut, ih]
    rfl

/-- A program is loaded in the same way whatever the bytes of its image are. -/
theorem load_congr {first second : Manager pageSize} {image other : Image pageSize}
    (same : second.blank = first.blank) (sameImage : other.blank = image.blank)
    (arguments : List String) (strategy : PagingStrategy) :
    Prod.map id blank (ProcessImage.load second other arguments strategy) =
      Prod.map id blank (ProcessImage.load first image arguments strategy) := by
  have count : other.blank.sectionCount = image.blank.sectionCount := by rw [sameImage]
  have entryPoint : other.blank.entryPoint = image.blank.entryPoint := by rw [sameImage]
  change other.sectionCount = image.sectionCount at count
  change other.entryPoint = image.entryPoint at entryPoint
  have laidOut : ProcessImage.layOut other 0 (List.range other.sectionCount) =
      ProcessImage.layOut image 0 (List.range image.sectionCount) := by
    rw [count, ← layOut_blank other, sameImage, layOut_blank]
  rw [ProcessImage.load, ProcessImage.load, laidOut]
  split
  · exact congrArg (Prod.mk _) same
  split
  · exact congrArg (Prod.mk _) same
  simp only [entryPoint]
  rename_i sectionPages _ _
  have created := create_congr same sameImage (sectionPages + stackPages + 1) strategy
  generalize AddressSpace.create second _ other strategy = secondCreated at created ⊢
  generalize AddressSpace.create first _ image strategy = firstCreated at created ⊢
  obtain ⟨outcome, second⟩ := secondCreated
  obtain ⟨_, first⟩ := firstCreated
  obtain ⟨rfl, same⟩ := Prod.mk.inj created
  cases outcome with
  | error error => exact congrArg (Prod.mk _) same
  | ok space =>
    have written : ∀ pieces, Prod.map id blank (ProcessImage.writePieces space second pieces) =
        Prod.map id blank (ProcessImage.writePieces space first pieces) := by
      intro pieces
      rw [← writePieces_blank, ← writePieces_blank, same]
    simp only [id]
    generalize ProcessImage.argumentPieces _ _ _ = pieces
    specialize written pieces
    generalize ProcessImage.writePieces space second pieces = secondWritten at written ⊢
    generalize ProcessImage.writePieces space first pieces = firstWritten at written ⊢
    obtain ⟨outcome, second⟩ := secondWritten
    obtain ⟨_, first⟩ := firstWritten
    obtain ⟨rfl, same⟩ := Prod.mk.inj written
    cases outcome with
    | error error =>
      exact congrArg (fun outcome => (Except.error error, outcome.2))
        (destroySpace_congr same space.id)
    | ok => exact congrArg (Prod.mk _) same

end Manager

end DemandPaging
