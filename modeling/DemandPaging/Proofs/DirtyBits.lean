import DemandPaging.Proofs.FlatMemory

/-!
# Dirty bits are sound

A page that is not dirty may be dropped: the bytes that it would be loaded with
are its content.  A page of a read-only section never becomes dirty, and once
it was loaded it stays marked as long as its space is alive.
-/

namespace DemandPaging

namespace Manager

variable {pageSize : Nat} {manager next : Manager pageSize} {page : PageId}

/-- A page of a read-only section is marked, or is gone for good. -/
structure Marked (manager : Manager pageSize) (page : PageId) : Prop where
  space_lt : page.space < manager.nextSpace
  readOnly : ∀ entry, manager.entry page = .ok entry →
    entry.readOnly = true ∧ manager.ShownReadOnly page

namespace Marked

theorem of_entries (marked : manager.Marked page) (spaces : SameSpaces manager next)
    (entries : ∀ after, next.entry page = .ok after → ∃ before,
      manager.entry page = .ok before ∧
        (before.readOnly = true → manager.ShownReadOnly page → after.readOnly = true)) :
    next.Marked page := by
  refine ⟨spaces.nextSpace_eq ▸ marked.space_lt, fun after found => ?_⟩
  obtain ⟨before, beforeFound, keeps⟩ := entries after found
  obtain ⟨readOnly, shown⟩ := marked.readOnly before beforeFound
  exact ⟨keeps readOnly shown, (shownReadOnly_congr (spaces.image?_eq _)).mpr shown⟩

theorem of_same (marked : manager.Marked page) (spaces : SameSpaces manager next)
    (same : next.entry page = manager.entry page) : next.Marked page :=
  marked.of_entries spaces fun after found => ⟨after, same ▸ found, fun readOnly _ => readOnly⟩

theorem of_sameContents (marked : manager.Marked page) (same : SameContents manager next) :
    next.Marked page :=
  marked.of_same same.toSameSpaces (same.entry_eq page)

theorem modifyEntry {other : PageId} {change : PageEntry → PageEntry}
    (marked : manager.Marked page)
    (keeps : ∀ entry, entry.readOnly = true → manager.ShownReadOnly page → page = other →
      (change entry).readOnly = true) : (manager.modifyEntry other change).Marked page := by
  apply marked.of_entries (sameSpaces_modifyEntry manager other change)
  intro after found
  obtain ⟨before, beforeFound, rfl⟩ := entry_modifyEntry_eq_ok_iff.mp found
  refine ⟨before, beforeFound, fun readOnly shown => ?_⟩
  split
  · exact keeps before readOnly shown ‹_›
  · exact readOnly

theorem mapped (marked : manager.Marked page) (other : PageId) (frame : Nat) (dirty : Bool) :
    (manager.mapped other frame dirty).Marked page := by
  have occupied : Marked { manager with
      frames := manager.frames.alter frame (Frame.occupy other) } page :=
    marked.of_same { SameSpaces.refl manager with } rfl
  apply occupied.modifyEntry
  exact fun _ readOnly _ _ => readOnly

theorem filled {other : PageId} {readOnly : Bool} (marked : manager.Marked page) (frame : Nat)
    (bytes : Bytes) (log : EventLog) (statistics : Statistics)
    (keeps : manager.ShownReadOnly other → readOnly = true) :
    (((manager.fillFrame frame bytes).markReadOnly other readOnly).withBooks log
      statistics).Marked page := by
  have filled : (manager.fillFrame frame bytes).Marked page :=
    marked.of_same { SameSpaces.refl manager with } rfl
  have changed : ((manager.fillFrame frame bytes).markReadOnly other readOnly).Marked page := by
    apply filled.modifyEntry
    rintro _ _ shown rfl
    exact keeps shown
  exact changed.of_sameContents (SameContents.withBooks _ log statistics)

theorem evicted {holdings : Nat → Option Holding} (marked : manager.Marked page)
    (accounted : manager.Accounted holdings) (other : PageId) (frame : Nat) (victim : PageId)
    (dirty : Bool) : (manager.evicted other frame victim dirty).Marked page := by
  apply marked.of_entries (sameSpaces_evicted manager other frame victim dirty)
  intro after found
  obtain ⟨before, used, beforeFound, -, rfl⟩ := entry_of_evicted accounted found
  refine ⟨before, beforeFound, fun readOnly _ => ?_⟩
  split <;> exact readOnly

end Marked

/-- No step of a fault takes the mark away from a page that a read-only section
shows. -/
theorem Passes.marked {other : PageId} {phase nextPhase : FaultPhase}
    {holdings : Nat → Option Holding} (passes : Passes other manager phase next nextPhase)
    (accounted : manager.Accounted holdings) (marked : manager.Marked page) :
    next.Marked page := by
  cases passes with
  | @drop _ frame victim =>
    have left := marked.evicted accounted other frame victim false
    rw [record_bump]
    exact left.of_sameContents (SameContents.withBooks _ _ _)
  | @unmap _ frame victim =>
    have left := marked.evicted accounted other frame victim true
    exact left.of_sameContents (SameContents.transit _ _)
  | @restore frame victim =>
    have landed : (manager.landed victim).Marked page :=
      marked.of_same { SameSpaces.refl manager with } rfl
    have restored := landed.mapped victim frame true
    exact restored.of_sameContents (SameContents.settle _ other ⟨frame⟩)
  | @map frame =>
    have shown := marked.mapped other frame false
    exact shown.of_sameContents (SameContents.settle _ other ⟨frame⟩)
  | «show» slotless alive located =>
    exact marked.filled _ _ _ _ (readOnly_of_shownReadOnly alive located)
  | clear slotless alive located =>
    exact marked.filled _ _ _ _ fun shown => absurd shown (not_shownReadOnly alive located)
  | _ => exact marked.of_same { SameSpaces.refl manager with } rfl

theorem PassesThrough.marked {other : PageId} {phase nextPhase : FaultPhase}
    {holdings : Nat → Option Holding} (path : PassesThrough other manager phase next nextPhase)
    (accounted : manager.Accounted (Function.update holdings 0 (phase.holding? other)))
    (marked : manager.Marked page) : next.Marked page := by
  induction path with
  | stay => exact marked
  | go path step ih => exact step.marked (path.accounted accounted) ih

namespace Marked

theorem fault (marked : manager.Marked page) (settled : manager.Settled) (other : PageId) :
    (manager.fault other).2.Marked page := by
  have started := marked.of_sameContents (SameContents.recordStart manager other)
  have resolved := (settled.path other).marked (settled.arriving other) started
  exact resolved.of_sameContents (SameContents.recordOutcome _ other _)

theorem touch (marked : manager.Marked page) (other : PageId) (frame : Nat) (wrote : Bool) :
    (manager.touch other frame wrote).2.Marked page := by
  have changed := @marked.modifyEntry _ _ _ other
    (fun entry => { entry with used := true, dirty := entry.dirty || wrote })
    fun _ readOnly _ _ => readOnly
  rw [Manager.touch]
  split
  · exact changed
  · exact changed.of_same { SameSpaces.refl _ with } rfl

theorem accessResident? {other : PageId} {offset : Nat} {access : Access}
    {outcome : Except PagingError Bytes × Manager pageSize} (marked : manager.Marked page)
    (looked : manager.accessResident? other offset access = some outcome) :
    outcome.2.Marked page := by
  rcases accessResident?_cases looked with same | ⟨memory, frame, wrote, -, same⟩
  · rw [same]
    exact marked
  · rw [same]
    have changed : Marked { manager with memory := memory } page :=
      marked.of_same { SameSpaces.refl manager with } rfl
    exact changed.touch other frame wrote

theorem createSpace (marked : manager.Marked page) (numPages : Nat) (image : Image pageSize) :
    (manager.createSpace numPages image).2.Marked page := by
  have old : page.space ≠ manager.nextSpace := Nat.ne_of_lt marked.space_lt
  refine ⟨Nat.lt_succ_of_lt marked.space_lt, fun entry found => ?_⟩
  rw [entry_createSpace, if_neg old] at found
  obtain ⟨readOnly, shown⟩ := marked.readOnly entry found
  refine ⟨readOnly, ?_⟩
  rwa [shownReadOnly_congr]
  rw [image?_createSpace, if_neg old]

theorem destroySpace (marked : manager.Marked page) (settled : manager.Settled)
    (space : SpaceId) : (manager.destroySpace space).2.Marked page := by
  rcases settled.destroySpace_eq space with ⟨-, done⟩ | ⟨frames, pool, done⟩
  · rw [done]
    exact marked
  rw [done]
  refine ⟨marked.space_lt, fun entry found => ?_⟩
  rw [@entry_of_spaces_eq_erase _ manager space page _ rfl] at found
  split at found
  · cases found
  · rename_i differs
    obtain ⟨readOnly, shown⟩ := marked.readOnly entry found
    refine ⟨readOnly, ?_⟩
    rwa [shownReadOnly_congr]
    rw [image?, image?, find?_spaces_without, if_neg differs]

end Marked

theorem keeps_marked (page : PageId) :
    Keeps fun manager : Manager pageSize => manager.Settled ∧ manager.Marked page := by
  rintro manager next part ⟨settled, marked⟩
  refine ⟨keeps_settled manager next part settled, ?_⟩
  cases part with
  | fault => exact marked.fault settled _
  | look _ looked => exact marked.accessResident? looked
  | createSpace => exact marked.createSpace _ _
  | destroySpace => exact marked.destroySpace settled _
  | shutdown => exact marked.of_same { SameSpaces.refl manager with } rfl

theorem keeps_mirrors :
    Keeps fun manager : Manager pageSize => ∃ content, manager.Mirrors content := by
  rintro manager next part ⟨content, mirrors⟩
  cases part with
  | fault => exact ⟨content, mirrors.fault _⟩
  | @look _ _ access _ inside looked =>
    cases access with
    | read count => exact ⟨content, (mirrors.look_read inside looked).1⟩
    | write data =>
      rcases mirrors.look_write inside looked with ⟨error, -, after⟩ | ⟨bytes, -, -, after⟩
      · exact ⟨content, after⟩
      · exact ⟨_, after⟩
  | createSpace numPages image =>
    let initially : PageId → Bytes := fun page =>
      if page.space = manager.nextSpace then (image.initialContent? page.vpn).getD #[]
      else content page
    refine ⟨initially, mirrors.createSpace ?_ ?_⟩
    · intro page old
      exact if_neg old
    · intro vpn bytes _ initial
      simp [initially, initial]
  | destroySpace => exact ⟨content, mirrors.destroySpace _⟩
  | shutdown => exact ⟨content, mirrors.shutdown⟩

theorem Mirrors.marked {content : PageId → Bytes} {entry : PageEntry}
    (mirrors : manager.Mirrors content) (shown : manager.ShownReadOnly page)
    (found : manager.entry page = .ok entry) (valid : entry.valid = true) :
    manager.Marked page := by
  refine ⟨?_, fun other otherFound => ?_⟩
  · obtain ⟨record, alive, -⟩ := entry_eq_ok_iff.mp found
    exact mirrors.settled.space_lt _ ((KeyedTable.mem_keys_iff _ _).mpr ⟨record, alive⟩)
  · obtain rfl := Except.ok.inj (found.symm.trans otherFound)
    exact ⟨((mirrors.contains.unwritten page shown).2 entry found).2 valid, shown⟩

/-- The dirty bits of a manager, which was `start` once, say truly which pages
may be dropped; the flat arrays tell what was last written to a page. -/
structure DirtyBitsSound (start manager : Manager pageSize) (memory : FlatMemory) : Prop where
  /-- Every moment in between is reached by parts of operations. -/
  reached : Works start manager
  /-- What is in the frame of a page that is not dirty can be loaded again. -/
  clean : ∀ page entry bytes, manager.entry page = .ok entry → entry.valid = true →
    entry.dirty = false → manager.backing? page = some bytes →
    manager.frameContent entry.frame = bytes
  /-- What was last written to a page in no frame can be loaded. -/
  away : ∀ page entry, manager.entry page = .ok entry → entry.valid = false →
    entry.dirty = false ∧ entry.used = false ∧
      ∀ bytes, manager.backing? page = some bytes → memory.page pageSize page = bytes
  unwritten : ∀ page, manager.ShownReadOnly page → manager.swap.slotOf? page = none ∧
    ∀ entry, manager.entry page = .ok entry → entry.dirty = false
  /-- A page of a read-only section that was in a frame at any moment is marked
  ever since. -/
  remains : ∀ moment page entry last, Works start moment → Works moment manager →
    moment.ShownReadOnly page → moment.entry page = .ok entry → entry.valid = true →
    manager.entry page = .ok last → last.readOnly = true

/-- After every run, requests to the swap area failing or not and sections
producing their pages or not, the dirty bits are sound. -/
theorem dirtyBitsSound_after {config : Configuration} {volume : Volume}
    (started : Manager.start config volume = .ok manager)
    (filler : SpaceId → Nat → Page pageSize) {operations : List (Operation pageSize)}
    (own : ∀ operation ∈ operations, operation.isOwn = true) :
    DirtyBitsSound manager (manager.after operations)
      (manager.flatAfter filler (fun _ => none) operations) := by
  have start := follows_start started
  have contains := (start.after filler own).mirrors.contains
  constructor
  case reached => exact works_after own
  case clean =>
    intro page entry bytes found valid clean backed
    rw [contains.resident page entry found valid]
    exact (contains.backed page entry bytes found clean (Option.some_ne_none page).symm
      backed).symm
  case away =>
    intro page entry found invalid
    obtain ⟨clean, unused⟩ := contains.unused page entry found invalid
    refine ⟨clean, unused, fun bytes backed => ?_⟩
    exact (contains.backed page entry bytes found clean (Option.some_ne_none page).symm
      backed).symm
  case unwritten =>
    intro page shown
    obtain ⟨slotless, flags⟩ := contains.unwritten page shown
    exact ⟨slotless, fun entry found => (flags entry found).1⟩
  case remains =>
    intro moment page entry last before after shown found valid lastFound
    obtain ⟨content, mirrors⟩ := keeps_mirrors.works before ⟨_, start.mirrors⟩
    -- From that moment on the mark is kept on its own, without the contents.
    have marked := mirrors.marked shown found valid
    have kept := (keeps_marked page).works after ⟨mirrors.settled, marked⟩
    exact (kept.2.readOnly last lastFound).1

/-- Two spaces that share one frame: a written page has to leave it. -/
theorem dirtyBitsSound_after_write :
    ∃ manager : Manager 4, Manager.start { numFrames := 1 } {} = .ok manager ∧
      DirtyBitsSound manager
        (manager.after [
          .create 3 (Program.synthetic 1 1).image .demand,
          .write { id := 1, numPages := 3, strategy := .demand } 5 #[1, 2, 3, 4],
          .read { id := 1, numPages := 3, strategy := .demand } 0 4])
        (manager.flatAfter (fun _ _ => .replicate 4 0) (fun _ => none) [
          .create 3 (Program.synthetic 1 1).image .demand,
          .write { id := 1, numPages := 3, strategy := .demand } 5 #[1, 2, 3, 4],
          .read { id := 1, numPages := 3, strategy := .demand } 0 4]) := by
  obtain ⟨manager, started⟩ := exists_start_eq_ok { numFrames := 1 } {}
    (by decide : Nat.isPowerOfTwo 4) checkPath_swapFile
  refine ⟨manager, started, dirtyBitsSound_after started _ ?_⟩
  simp [Operation.isOwn]

end Manager

end DemandPaging
