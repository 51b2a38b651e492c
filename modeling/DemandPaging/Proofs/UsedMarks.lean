import DemandPaging.Proofs.AccessContents
import DemandPaging.Proofs.VictimSelection

/-!
# The two used marks of a page

Whether a page was used since the clock last passed is written down twice: in
the entry of the page and in the frame that the page is in.  The clock clears
the marks of frames only, and the entries follow in one go once it has found a
victim.  The two never differ between operations, because a clock that finds no
victim has cleared nothing, and because a page that enters or leaves a frame
takes both marks with it.
-/

namespace DemandPaging

namespace Manager

variable {pageSize : Nat} {manager next : Manager pageSize} {page other : PageId}
  {entry : PageEntry} {frame : Nat} {holdings : Nat → Option Holding}

/-- The entry of a page is marked as used exactly if the page is in a frame that
is, and no frame without a page is. -/
structure MarksAgree (manager : Manager pageSize) : Prop where
  entries : ∀ page entry, manager.entry page = .ok entry →
    entry.used = entry.frame?.any manager.frames.isUsed
  vacant : ∀ frame, manager.frames.owner? frame = none → manager.frames.isUsed frame = false

namespace MarksAgree

theorem of_same (agree : manager.MarksAgree)
    (entries : ∀ page, next.entry page = manager.entry page)
    (marks : ∀ frame, next.frames.isUsed frame = manager.frames.isUsed frame)
    (owners : ∀ frame, next.frames.owner? frame = manager.frames.owner? frame) :
    next.MarksAgree where
  entries page entry found := by
    rw [entries] at found
    rw [funext marks]
    exact agree.entries page entry found
  vacant frame empty := by
    rw [owners] at empty
    rw [marks]
    exact agree.vacant frame empty

/-- What happens to one frame and to the page in it concerns no other page. -/
theorem of_frame (agree : manager.MarksAgree) (frame : Nat)
    (entries : ∀ page after, next.entry page = .ok after →
      after.used = after.frame?.any next.frames.isUsed ∨
        manager.entry page = .ok after ∧ after.frame? ≠ some frame)
    (marks : ∀ other ≠ frame, next.frames.isUsed other = manager.frames.isUsed other)
    (owners : ∀ other ≠ frame, next.frames.owner? other = manager.frames.owner? other)
    (vacant : next.frames.owner? frame = none → next.frames.isUsed frame = false) :
    next.MarksAgree where
  entries page after found := by
    rcases entries page after found with fits | ⟨before, elsewhere⟩
    · exact fits
    · rw [agree.entries page after before]
      cases placed : after.frame? with
      | none => rfl
      | some other =>
        rw [placed] at elsewhere
        exact (marks other fun same => elsewhere (congrArg some same)).symm
  vacant other empty := by
    by_cases same : other = frame
    · subst same
      exact vacant empty
    · rw [owners other same] at empty
      rw [marks other same]
      exact agree.vacant other empty

theorem modifyEntry {change : PageEntry → PageEntry} (agree : manager.MarksAgree)
    (keeps : ∀ entry, (change entry).used = entry.used ∧ (change entry).frame? = entry.frame?) :
    (manager.modifyEntry page change).MarksAgree where
  entries other entry found := by
    obtain ⟨before, beforeFound, rfl⟩ := entry_modifyEntry_eq_ok_iff.mp found
    have fits := agree.entries other before beforeFound
    split
    · rw [(keeps before).1, (keeps before).2]
      exact fits
    · exact fits
  vacant := agree.vacant

theorem withBooks (agree : manager.MarksAgree) (log : EventLog) (statistics : Statistics) :
    (manager.withBooks log statistics).MarksAgree :=
  agree.of_same (fun _ => rfl) (fun _ => rfl) fun _ => rfl

theorem transit (agree : manager.MarksAgree) (transit : KeyedTable PageId Nat) :
    MarksAgree { manager with inTransit := transit } :=
  agree.of_same (fun _ => rfl) (fun _ => rfl) fun _ => rfl

theorem settle (agree : manager.MarksAgree) (page : PageId) (lease : FrameLease) :
    (manager.settle page lease).MarksAgree :=
  agree.of_same (fun _ => rfl)
    (FrameTable.isUsed_alter_of_keeps Frame.unpin fun _ => rfl)
    (FrameTable.owner?_alter_of_keeps Frame.unpin fun _ => rfl)

/-- When the marks have been copied, the entry of every page in a frame has the
mark of its frame. -/
theorem used_of_syncUsedMarks (accounted : manager.Accounted holdings)
    (owned : manager.frames.owner? frame = some page)
    (found : manager.syncUsedMarks.entry page = .ok entry) :
    entry.used = manager.frames.isUsed frame := by
  -- The frames are passed through in order, and those passed already have been copied.
  have copied : ∀ frame page entry, frame < manager.frames.size →
      manager.frames.owner? frame = some page →
      manager.syncUsedMarks.entry page = .ok entry → entry.used = manager.frames.isUsed frame := by
    apply syncUsedMarks_inductionUpTo fun passed (current : Manager pageSize) =>
      ∀ frame page entry, frame < passed → manager.frames.owner? frame = some page →
        current.entry page = .ok entry → entry.used = manager.frames.isUsed frame
    case start => exact fun _ _ _ passed => absurd passed (Nat.not_lt_zero _)
    case skip =>
      intro here current empty kept frame page entry passed owned found
      have differs : frame ≠ here := by
        rintro rfl
        cases empty.symm.trans owned
      exact kept frame page entry (by omega) owned found
    case mark =>
      intro here occupant current occupied kept frame page entry passed owned found
      obtain ⟨before, beforeFound, rfl⟩ := entry_modifyEntry_eq_ok_iff.mp found
      by_cases same : page = occupant
      · obtain rfl := accounted.eq_of_owner?_eq owned (same ▸ occupied)
        rw [if_pos same]
      · have differs : frame ≠ here := by
          rintro rfl
          exact same (Option.some.inj (owned.symm.trans occupied))
        rw [if_neg same]
        exact kept frame page before (by omega) owned beforeFound
  exact copied frame page entry (FrameTable.lt_size_of_owner? owned) owned found

theorem swept_vacant (agree : manager.MarksAgree) (empty : manager.frames.owner? frame = none) :
    manager.swept.frames.isUsed frame = false := by
  have unevictable : manager.frames.isEvictable frame = false := by
    rw [← Bool.not_eq_true, FrameTable.isEvictable_iff]
    rintro ⟨-, owner, owned⟩
    cases empty.symm.trans owned
  exact (Clock.isUsed_selectVictim_of_unevictable unevictable).trans (agree.vacant frame empty)

/-- Once the marks have been copied, nothing is left of what the clock did. -/
theorem synced (agree : manager.MarksAgree) (accounted : manager.Accounted holdings) :
    manager.swept.syncUsedMarks.MarksAgree := by
  have sweptAccounted := accounted.of_same (sameAccounts_swept manager)
  have frames : manager.swept.syncUsedMarks.frames = manager.swept.frames := by
    obtain ⟨spaces, same⟩ := syncUsedMarks_eq manager.swept
    rw [same]
  constructor
  case entries =>
    intro page entry found
    obtain ⟨before, used, beforeFound, rfl, keeps⟩ := entry_of_syncUsedMarks sweptAccounted found
    rw [frames]
    change used = before.frame?.any manager.swept.frames.isUsed
    cases placed : before.frame? with
    | none =>
      have unused := agree.entries page before beforeFound
      rw [placed] at unused
      exact (keeps (PageEntry.frame?_eq_none_iff.mp placed)).trans unused
    | some frame =>
      have owned := sweptAccounted.owner?_of_frame? beforeFound placed
      exact used_of_syncUsedMarks sweptAccounted owned found
  case vacant =>
    intro frame empty
    rw [frames] at empty ⊢
    rw [(sameAccounts_swept manager).owner?_eq] at empty
    exact agree.swept_vacant empty

theorem lease (agree : manager.MarksAgree) (frame : Nat) (pool : FramePool)
    (transit : KeyedTable PageId Nat) :
    MarksAgree { manager with
      pool := pool
      frames := manager.frames.alter frame Frame.pin
      inTransit := transit } :=
  agree.of_same (fun _ => rfl)
    (FrameTable.isUsed_alter_of_keeps Frame.pin fun _ => rfl)
    (FrameTable.owner?_alter_of_keeps Frame.pin fun _ => rfl)

/-- A page that loses its frame leaves no mark in it and takes none along. -/
theorem evicted {victim : PageId} (agree : manager.MarksAgree)
    (accounted : manager.Accounted holdings)
    (owned : manager.frames.owner? frame = some victim) (page : PageId) (dirty : Bool) :
    (manager.evicted page frame victim dirty).MarksAgree := by
  have same := sameAccounts_synced manager
  have syncedAgree := agree.synced accounted
  have syncedAccounted := accounted.of_same same
  have ownedStill := (same.owner?_eq frame).trans owned
  generalize syncedEq : manager.swept.syncUsedMarks = synced at *
  have inside := FrameTable.lt_size_of_owner? ownedStill
  have marks : ∀ other, (manager.evicted page frame victim dirty).frames.isUsed other =
      if other = frame then false else synced.frames.isUsed other := by
    intro other
    simp only [Manager.evicted, seized, syncedEq]
    change ((synced.frames.alter frame Frame.vacate).alter frame Frame.pin).isUsed other = _
    rw [FrameTable.isUsed_alter_of_keeps Frame.pin fun _ => rfl,
      FrameTable.isUsed_alter_of_sets inside Frame.vacate fun _ => rfl]
  have owners : ∀ other, (manager.evicted page frame victim dirty).frames.owner? other =
      if other = frame then none else synced.frames.owner? other := by
    intro other
    simp only [Manager.evicted, seized, syncedEq]
    change ((synced.frames.alter frame Frame.vacate).alter frame Frame.pin).owner? other = _
    rw [FrameTable.owner?_alter_alter inside Frame.vacate Frame.pin (fun _ => rfl) fun _ => rfl]
  apply syncedAgree.of_frame frame
  case entries =>
    intro other after found
    rw [entry_evicted] at found
    obtain ⟨before, beforeFound, rfl⟩ := entry_modifyEntry_eq_ok_iff.mp found
    rw [entry_seized, syncedEq] at beforeFound
    by_cases isVictim : other = victim
    · rw [if_pos isVictim]
      exact .inl rfl
    · rw [if_neg isVictim]
      refine .inr ⟨beforeFound, fun placed => isVictim ?_⟩
      have otherOwned := syncedAccounted.owner?_of_frame? beforeFound placed
      exact Option.some.inj (otherOwned.symm.trans ownedStill)
  case marks => exact fun other differs => (marks other).trans (if_neg differs)
  case owners => exact fun other differs => (owners other).trans (if_neg differs)
  case vacant => exact fun _ => (marks frame).trans (if_pos rfl)

/-- A page that is mapped into a frame that a fault holds is marked, and so is
the frame. -/
theorem mapped {thread : Nat} {holding : Holding} (agree : manager.MarksAgree)
    (accounted : manager.Accounted holdings) (held : holdings thread = some holding)
    (page : PageId) (dirty : Bool) : (manager.mapped page holding.frame dirty).MarksAgree := by
  have inside := accounted.frame_lt_size held
  have empty := accounted.vacant thread holding held
  have marks : ∀ other, (manager.mapped page holding.frame dirty).frames.isUsed other =
      if other = holding.frame then true else manager.frames.isUsed other :=
    FrameTable.isUsed_alter_of_sets inside (Frame.occupy page) fun _ => rfl
  have owners : ∀ other, (manager.mapped page holding.frame dirty).frames.owner? other =
      if other = holding.frame then some page else manager.frames.owner? other :=
    FrameTable.owner?_alter_of_sets inside (Frame.occupy page) fun _ => rfl
  apply agree.of_frame holding.frame
  case entries =>
    intro other after found
    obtain ⟨before, beforeFound, rfl⟩ := entry_modifyEntry_eq_ok_iff.mp found
    by_cases isPage : other = page
    · rw [if_pos isPage]
      exact .inl ((marks holding.frame).trans (if_pos rfl)).symm
    · rw [if_neg isPage]
      refine .inr ⟨beforeFound, fun placed => ?_⟩
      have owned := accounted.owner?_of_frame? beforeFound placed
      cases empty.symm.trans owned
  case marks => exact fun other differs => (marks other).trans (if_neg differs)
  case owners => exact fun other differs => (owners other).trans (if_neg differs)
  case vacant =>
    intro unowned
    rw [owners, if_pos rfl] at unowned
    cases unowned

/-- A frame that a fault gives back was not marked while it was held. -/
theorem vacated {thread : Nat} {holding : Holding} (agree : manager.MarksAgree)
    (accounted : manager.Accounted holdings) (held : holdings thread = some holding)
    (pool : FramePool) : (manager.vacated holding.frame pool).MarksAgree := by
  have inside := accounted.frame_lt_size held
  have empty := accounted.vacant thread holding held
  refine agree.of_same (fun _ => rfl) (fun other => ?_) fun other => ?_
  · change (manager.frames.alter holding.frame Frame.vacate).isUsed other = _
    rw [FrameTable.isUsed_alter_of_sets inside Frame.vacate fun _ => rfl]
    split
    · rename_i same
      rw [same, agree.vacant _ empty]
    · rfl
  · change (manager.frames.alter holding.frame Frame.vacate).owner? other = _
    rw [FrameTable.owner?_alter_of_sets inside Frame.vacate fun _ => rfl]
    split
    · rename_i same
      rw [same, empty]
    · rfl

theorem filled (agree : manager.MarksAgree) (frame : Nat) (bytes : Bytes) (page : PageId)
    (readOnly : Bool) (log : EventLog) (statistics : Statistics) :
    (((manager.fillFrame frame bytes).markReadOnly page readOnly).withBooks log
      statistics).MarksAgree := by
  have filled : (manager.fillFrame frame bytes).MarksAgree :=
    agree.of_same (fun _ => rfl) (fun _ => rfl) fun _ => rfl
  have marked : ((manager.fillFrame frame bytes).markReadOnly page readOnly).MarksAgree :=
    filled.modifyEntry fun _ => ⟨rfl, rfl⟩
  exact marked.withBooks log statistics

end MarksAgree

/-- Every step of a fault keeps the marks in agreement, whatever other faults
hold. -/
theorem Passes.marksAgree {phase nextPhase : FaultPhase} {thread : Nat}
    (passes : Passes page manager phase next nextPhase)
    (accounted : manager.Accounted (Function.update holdings thread (phase.holding? page)))
    (agree : manager.MarksAgree) : next.MarksAgree := by
  have held : Function.update holdings thread (phase.holding? page) thread =
      phase.holding? page := Function.update_self ..
  cases passes with
  | missing | resident | locate => exact agree
  | exhausted _ _ none =>
    -- A clock that finds no victim has not cleared any mark that would have to be copied.
    have same : manager.swept.frames = manager.frames := Clock.table_selectVictim_of_none none
    exact agree.of_same (fun _ => rfl) (fun _ => by rw [same]) fun _ => by rw [same]
  | @lease frame pool => exact agree.lease frame pool _
  | drop _ _ _ _ owned =>
    rw [record_bump]
    exact (agree.evicted accounted owned page false).withBooks _ _
  | unmap _ _ _ _ owned => exact (agree.evicted accounted owned page true).transit _
  | land => exact (agree.transit _).withBooks _ _
  | @restore frame victim error =>
    have landed : (manager.landed victim).MarksAgree := agree.transit _
    have mapped := landed.mapped (accounted.land held rfl) (Function.update_self ..) victim true
    exact mapped.settle page ⟨frame⟩
  | «show» | clear => exact agree.filled _ _ _ _ _ _
  | unshown | abandon => exact (agree.vacated accounted held _).settle page _
  | map => exact (agree.mapped accounted held page false).settle page _
  | save | fetch | miss => exact agree.of_same (fun _ => rfl) (fun _ => rfl) fun _ => rfl
  | receive => exact agree.withBooks _ _

theorem PassesThrough.marksAgree {phase nextPhase : FaultPhase} {thread : Nat}
    (path : PassesThrough page manager phase next nextPhase)
    (accounted : manager.Accounted (Function.update holdings thread (phase.holding? page)))
    (agree : manager.MarksAgree) : next.MarksAgree := by
  induction path with
  | stay => exact agree
  | go path step ih => exact step.marksAgree (path.accounted accounted) ih

namespace MarksAgree

theorem fault (agree : manager.MarksAgree) (settled : manager.Settled) (page : PageId) :
    (manager.fault page).2.MarksAgree := by
  have resolved := (settled.path page).marksAgree (settled.arriving page)
    (agree.withBooks _ _)
  rw [Manager.fault]
  simp only
  cases ((manager.recordStart page).resolve page).1 with
  | ok resolution => exact resolved.withBooks _ _
  | error error => exact resolved.withBooks _ _

/-- A page that is touched in its frame is marked, and so is the frame. -/
theorem touch (agree : manager.MarksAgree) (settled : manager.Settled)
    (found : manager.entry page = .ok entry) (valid : entry.valid = true) (wrote : Bool) :
    (manager.touch page entry.frame wrote).2.MarksAgree := by
  have inside := settled.frame_lt found valid
  have placed := place_of_valid found valid
  have marks := FrameTable.isUsed_alter_of_sets inside (Frame.mark true) fun _ => rfl
  have owners : ∀ other, (manager.frames.alter entry.frame (Frame.mark true)).owner? other =
      manager.frames.owner? other := FrameTable.owner?_alter_of_keeps (Frame.mark true) fun _ => rfl
  simp only [Manager.touch, frames_modifyEntry, FrameTable.markUsed_eq_ok inside]
  apply agree.of_frame entry.frame
  case entries =>
    intro other after afterFound
    obtain ⟨before, beforeFound, rfl⟩ := entry_modifyEntry_eq_ok_iff.mp afterFound
    by_cases isPage : other = page
    · rw [if_pos isPage]
      subst isPage
      obtain rfl := Except.ok.inj (found.symm.trans beforeFound)
      have frame : entry.frame? = some entry.frame :=
        PageEntry.frame?_eq_some_iff.mpr ⟨valid, rfl⟩
      left
      change true = entry.frame?.any _
      rw [frame]
      exact ((marks entry.frame).trans (if_pos rfl)).symm
    · rw [if_neg isPage]
      refine .inr ⟨beforeFound, fun otherPlaced => isPage ?_⟩
      exact settled.eq_of_place_eq (place_eq_ok_iff.mpr ⟨before, beforeFound, otherPlaced⟩) placed
  case marks => exact fun other differs => (marks other).trans (if_neg differs)
  case owners => exact fun other _ => owners other
  case vacant =>
    intro unowned
    rw [owners, (settled.owner_iff entry.frame page).mpr placed] at unowned
    cases unowned

theorem accessResident? {offset : Nat} {access : Access}
    {outcome : Except PagingError Bytes × Manager pageSize} (agree : manager.MarksAgree)
    (settled : manager.Settled)
    (looked : manager.accessResident? page offset access = some outcome) :
    outcome.2.MarksAgree := by
  rcases accessResident?_touches looked with
    same | ⟨entry, memory, wrote, found, valid, numFrames, same⟩
  · rw [same]
    exact agree
  · rw [same]
    have changed : MarksAgree { manager with memory := memory } :=
      agree.of_same (fun _ => rfl) (fun _ => rfl) fun _ => rfl
    have settledStill : Settled { manager with memory := memory } :=
      settled.of_same { SameAccounts.refl manager with numFrames_memory := numFrames }
    exact changed.touch settledStill found valid wrote

theorem createSpace (agree : manager.MarksAgree) (numPages : Nat) (image : Image pageSize) :
    (manager.createSpace numPages image).2.MarksAgree := by
  refine { agree with entries := fun page entry found => ?_ }
  rcases entry_createSpace_cases found with ⟨-, -, rfl⟩ | ⟨-, before⟩
  · rfl
  · exact agree.entries page entry before

theorem destroySpace (agree : manager.MarksAgree) (settled : manager.Settled) (space : SpaceId) :
    (manager.destroySpace space).2.MarksAgree := by
  cases found : manager.spaces.find? space with
  | none =>
    rw [Manager.destroySpace, detachSpace, found]
    exact agree
  | some record =>
    obtain ⟨table, pool, detached, vacates⟩ := detachSpace_eq_ok settled found
    have marks := isUsed_of_freeAll_eq_ok
      (show freeAll { manager with spaces := manager.spaces.erase space }
        record.table.residentFrames = _ by rw [← detached, detachSpace, found])
    have resident : ∀ frame, frame ∈ record.table.residentFrames ↔
        ∃ page, page.space = space ∧ manager.place page = .ok (some frame) :=
      fun _ => mem_residentFrames_iff_place found
    rw [detached] at vacates
    rw [Manager.destroySpace, detached]
    constructor
    case entries =>
      intro page entry entryFound
      rw [entry_of_spaces_eq_erase rfl] at entryFound
      split at entryFound
      · cases entryFound
      rename_i differs
      rw [agree.entries page entry entryFound]
      cases placed : entry.frame? with
      | none => rfl
      | some frame =>
        have stays : frame ∉ record.table.residentFrames := by
          rintro leaves
          obtain ⟨other, inSpace, otherPlaced⟩ := (resident frame).mp leaves
          have same := settled.eq_of_place_eq otherPlaced
            (place_eq_ok_iff.mpr ⟨entry, entryFound, placed⟩)
          exact differs (same ▸ inSpace)
        exact ((marks frame).trans (if_neg stays)).symm
    case vacant =>
      intro frame empty
      refine (marks frame).trans ?_
      split
      · rfl
      rename_i stays
      apply agree.vacant
      rw [Option.eq_none_iff_forall_ne_some]
      intro page owned
      have leaves : page.space = space := by
        by_contra differs
        cases empty.symm.trans ((vacates.owner?_iff frame page).mpr ⟨differs, owned⟩)
      exact stays ((resident frame).mpr ⟨page, leaves, (settled.owner_iff frame page).mp owned⟩)

end MarksAgree

theorem keeps_marksAgree :
    Keeps fun manager : Manager pageSize => manager.Settled ∧ manager.MarksAgree := by
  rintro manager next part ⟨settled, agree⟩
  refine ⟨keeps_settled manager next part settled, ?_⟩
  cases part with
  | fault => exact agree.fault settled _
  | look _ looked => exact agree.accessResident? settled looked
  | createSpace => exact agree.createSpace _ _
  | destroySpace => exact agree.destroySpace settled _
  | shutdown => exact agree.of_same (fun _ => rfl) (fun _ => rfl) fun _ => rfl

theorem MarksAgree.perform (agree : manager.MarksAgree) (settled : manager.Settled)
    (operation : Operation pageSize) : (manager.perform operation).2.MarksAgree := by
  by_cases own : operation.isOwn = true
  · exact (keeps_marksAgree.perform own ⟨settled, agree⟩).2
  · cases operation with
    | disturb volume => exact agree.of_same (fun _ => rfl) (fun _ => rfl) fun _ => rfl
    | replace space image =>
      exact agree.of_same (entry_withImage manager space image) (fun _ => rfl) fun _ => rfl
    | _ => exact absurd rfl own

theorem MarksAgree.after (agree : manager.MarksAgree) (settled : manager.Settled)
    (operations : List (Operation pageSize)) : (manager.after operations).MarksAgree := by
  induction operations generalizing manager with
  | nil => exact agree
  | cons operation rest ih => exact ih (agree.perform settled operation) (settled.perform operation)

theorem marksAgree_start {config : Configuration} {volume : Volume}
    (started : Manager.start config volume = .ok manager) : manager.MarksAgree := by
  obtain ⟨memory, swap, opened, -, -, rfl⟩ := of_start_eq_ok started
  exact ⟨fun _ _ found => (nomatch found), fun _ _ => FrameTable.isUsed_empty _ _⟩

/-- The two copies of the used mark are the same, and where there is no page in
a frame, neither the page nor the frame has one. -/
structure UsedMarksExact (manager : Manager pageSize) : Prop where
  resident : ∀ page entry, manager.entry page = .ok entry → entry.valid = true →
    ∃ frame, manager.frames.get entry.frame = .ok frame ∧ frame.owner = some page ∧
      frame.used = entry.used
  away : ∀ page entry, manager.entry page = .ok entry → entry.valid = false →
    entry.used = false
  vacant : ∀ number frame, manager.frames.get number = .ok frame → frame.owner = none →
    frame.used = false

/-- After every run, whatever failed on the way, the used marks of entries and of
frames have not drifted apart. -/
theorem usedMarksExact_after {config : Configuration} {volume : Volume}
    (started : Manager.start config volume = .ok manager)
    (operations : List (Operation pageSize)) : (manager.after operations).UsedMarksExact := by
  have settled := (settled_start started).after operations
  have agree := (marksAgree_start started).after (settled_start started) operations
  constructor
  case resident =>
    intro page entry found valid
    have placed : entry.frame? = some entry.frame := PageEntry.frame?_eq_some_iff.mpr ⟨valid, rfl⟩
    have owned := Accounted.owner?_of_frame? settled found placed
    have used := agree.entries page entry found
    rw [placed] at used
    obtain ⟨frame, present⟩ := FrameTable.exists_get_eq_ok (settled.frame_lt found valid)
    obtain ⟨owner, mark⟩ := FrameTable.of_get_eq_ok present
    exact ⟨frame, present, owner.symm.trans owned, (used.trans mark).symm⟩
  case away =>
    intro page entry found invalid
    have used := agree.entries page entry found
    rwa [PageEntry.frame?_eq_none_iff.mpr invalid] at used
  case vacant =>
    intro number frame present empty
    obtain ⟨owner, mark⟩ := FrameTable.of_get_eq_ok present
    exact mark.symm.trans (agree.vacant number (owner.trans empty))

/-- A written page has to leave the only frame, which fails once the swap area is
closed: the page gets its frame and its marks back. -/
theorem usedMarksExact_after_refusal :
    ∃ manager : Manager 4, Manager.start { numFrames := 1 } {} = .ok manager ∧
      (manager.after [
        .create 3 (Program.synthetic 1 1).image .demand,
        .read { id := 1, numPages := 3, strategy := .demand } 0 4,
        .write { id := 1, numPages := 3, strategy := .demand } 5 #[1, 2, 3, 4],
        .shutdown,
        .fault { id := 1, numPages := 3, strategy := .demand } 0]).UsedMarksExact := by
  obtain ⟨manager, started⟩ := exists_start_eq_ok { numFrames := 1 } {}
    (by decide : Nat.isPowerOfTwo 4) checkPath_swapFile
  exact ⟨manager, started, usedMarksExact_after started _⟩

end Manager

end DemandPaging
