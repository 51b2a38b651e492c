import DemandPaging.Proofs.FaultPhases

/-!
# What a stage of a fault comes to

As long as the accounts of frames are kept, the bookkeeping never refuses, so
that every stage of a fault is a sequence of the steps listed by `Passes`, and
a whole fault is one from its arrival to its end.
-/

namespace DemandPaging

namespace Manager

variable {pageSize : Nat}

inductive PassesThrough (page : PageId) :
    Manager pageSize → FaultPhase → Manager pageSize → FaultPhase → Prop where
  | stay {manager phase} : PassesThrough page manager phase manager phase
  | go {first firstPhase second secondPhase third thirdPhase} :
      PassesThrough page first firstPhase second secondPhase →
      Passes page second secondPhase third thirdPhase →
      PassesThrough page first firstPhase third thirdPhase

section Paths

variable {manager next last : Manager pageSize} {page : PageId}
  {phase nextPhase lastPhase : FaultPhase} {holdings : Nat → Option Holding} {thread frame : Nat}

theorem Passes.passesThrough (passes : Passes page manager phase next nextPhase) :
    PassesThrough page manager phase next nextPhase :=
  .go .stay passes

theorem PassesThrough.trans (first : PassesThrough page manager phase next nextPhase)
    (second : PassesThrough page next nextPhase last lastPhase) :
    PassesThrough page manager phase last lastPhase := by
  induction second with
  | stay => exact first
  | go _ step ih => exact .go ih step

/-- Faults keep the accounts, whatever other faults hold. -/
theorem PassesThrough.accounted (path : PassesThrough page manager phase next nextPhase)
    (accounted : manager.Accounted (Function.update holdings thread (phase.holding? page))) :
    next.Accounted (Function.update holdings thread (nextPhase.holding? page)) := by
  induction path with
  | stay => exact accounted
  | go _ step ih => exact step.accounted ih

end Paths

section Bookkeeping

variable {manager : Manager pageSize} {page : PageId} {holdings : Nat → Option Holding}
  {thread : Nat} {holding : Holding}

theorem Accounted.frame_lt_size (accounted : manager.Accounted holdings)
    (held : holdings thread = some holding) : holding.frame < manager.frames.size :=
  FrameTable.lt_size_of_isPinned
    ((accounted.pinned_iff holding.frame).mpr ⟨thread, holding, held, rfl⟩)

theorem Accounted.frame_lt (accounted : manager.Accounted holdings)
    (held : holdings thread = some holding) : holding.frame < manager.pool.numFrames :=
  accounted.size_frames ▸ accounted.frame_lt_size held

theorem abandon_eq (accounted : manager.Accounted holdings)
    (held : holdings thread = some holding) (page : PageId) (error : PagingError) :
    ∃ pool, manager.pool.free holding.frame = .ok pool ∧
      manager.abandon page ⟨holding.frame⟩ error =
        (.finished (.error error),
          (manager.vacated holding.frame pool).settle page ⟨holding.frame⟩) := by
  have inside := accounted.frame_lt_size held
  have pinned := (accounted.pinned_iff holding.frame).mpr ⟨thread, holding, held, rfl⟩
  obtain ⟨pool, freed, -⟩ :=
    FramePool.free_of_isAllocated ((accounted.allocated_iff holding.frame).mpr (.inr pinned))
  refine ⟨pool, freed, ?_⟩
  simp only [abandon, FrameTable.evict_eq_ok inside, settle, freed]
  rfl

theorem restoreVictim_eq (accounted : manager.Accounted holdings)
    (held : holdings thread = some holding) (victim : PageId) :
    manager.restoreVictim holding.frame victim = manager.mapped victim holding.frame true := by
  have inside := accounted.frame_lt_size held
  simp only [restoreVictim, frames_modifyEntry, FrameTable.install_eq_ok inside]
  rfl

theorem Accounted.exists_entry {moved : PageId} (accounted : manager.Accounted holdings)
    (held : holdings thread = some holding) (moves : holding.Moves moved) :
    ∃ entry, manager.entry moved = .ok entry ∧ entry.valid = false := by
  obtain ⟨entry, found, invalid⟩ :=
    place_eq_ok_iff.mp (accounted.away thread holding moved held moves)
  exact ⟨entry, found, PageEntry.frame?_eq_none_iff.mp invalid⟩

theorem conclude_ok_eq (accounted : manager.Accounted holdings)
    (held : holdings thread = some holding) (source : ContentSource) :
    manager.conclude holding.page ⟨holding.frame⟩ (.ok source) =
      (.finished (.ok (.loaded holding.frame source)),
        (manager.mapped holding.page holding.frame false).settle holding.page
          ⟨holding.frame⟩) := by
  have inside := accounted.frame_lt_size held
  obtain ⟨entry, found, -⟩ := accounted.exists_entry held (.inl rfl)
  have foundStill : Manager.entry { manager with
      frames := manager.frames.alter holding.frame (Frame.occupy holding.page) } holding.page =
      .ok entry := found
  simp only [conclude, FrameTable.install_eq_ok inside, foundStill]
  rfl

end Bookkeeping

section Stages

variable {manager : Manager pageSize} {page : PageId} {holdings : Nat → Option Holding}
  {thread frame : Nat}

/-- What a stage leads to: where the fault is then, and the manager. -/
def Leads (page : PageId) (manager : Manager pageSize) (phase : FaultPhase)
    (outcome : FaultStage × Manager pageSize) : Prop :=
  PassesThrough page manager phase outcome.2 outcome.1.phase

theorem setReadOnly_eq_ok {entry : PageEntry} (found : manager.entry page = .ok entry)
    (readOnly : Bool) :
    manager.setReadOnly page readOnly = .ok (manager.markReadOnly page readOnly) := by
  rw [setReadOnly, found]
  rfl

theorem leads_conclude {source : ContentSource}
    (accounted : manager.Accounted
      (Function.update holdings thread (FaultPhase.holding? page (.filled frame source)))) :
    Leads page manager (.filled frame source) (manager.conclude page ⟨frame⟩ (.ok source)) := by
  have concluded := conclude_ok_eq accounted (Function.update_self ..) source
  rw [Leads, concluded]
  exact Passes.map.passesThrough

theorem leads_startLoading
    (accounted : manager.Accounted
      (Function.update holdings thread (FaultPhase.holding? page (.leased frame)))) :
    Leads page manager (.leased frame) (manager.startLoading page ⟨frame⟩) := by
  have held := Function.update_self thread (FaultPhase.holding? page (.leased frame)) holdings
  have inside := accounted.frame_lt held
  rw [← accounted.numFrames_memory] at inside
  obtain ⟨entry, found, -⟩ := accounted.exists_entry held (.inl rfl)
  obtain ⟨record, alive, -⟩ := entry_eq_ok_iff.mp found
  have image : manager.image? page.space = some record.image := by
    rw [image?, alive]
    rfl
  rw [startLoading]
  cases slotless : manager.swap.slotOf? page with
  | some slot => exact (Passes.locate slotless).passesThrough
  | none =>
    simp only [fillFromImage, alive]
    cases located : record.image.findSection page.vpn with
    | none =>
      have filled := @Passes.clear _ _ _ frame _ slotless image located
      have marked := setReadOnly_eq_ok
        (show (manager.fillFrame frame (Bytes.zeros pageSize)).entry page = .ok entry from found)
        false
      simp only [fillWithZeros, PhysicalMemory.zeroFrame_eq_ok inside]
      rw [fillFrame] at marked
      simp only [marked]
      exact filled.passesThrough.trans (leads_conclude (filled.accounted accounted))
    | some place =>
      obtain ⟨index, number⟩ := place
      simp only [fillFromSection]
      cases shown : record.image.loadPage index number with
      | error error =>
        obtain ⟨pool, freed, abandoned⟩ := abandon_eq accounted held page (.image error)
        simp only [conclude, abandoned]
        exact (Passes.unshown slotless image located shown freed).passesThrough
      | ok content =>
        have filled := @Passes.show _ _ _ frame _ _ _ _ slotless image located shown
        have marked := setReadOnly_eq_ok
          (show (manager.fillFrame frame content.toArray).entry page = .ok entry from found)
          (record.image.readOnly index)
        simp only [PhysicalMemory.writeFrame_eq_ok inside content.size_toArray]
        rw [fillFrame] at marked
        simp only [marked]
        exact filled.passesThrough.trans (leads_conclude (filled.accounted accounted))

theorem entry_syncUsedMarks {entry : PageEntry} (found : manager.entry page = .ok entry) :
    ∃ used, manager.syncUsedMarks.entry page = .ok { entry with used := used } := by
  refine syncUsedMarks_induction
    (fun current => ∃ used, current.entry page = .ok { entry with used := used })
    ⟨entry.used, found⟩ ?_
  rintro current owner mark - ⟨used, foundStill⟩
  rw [entry_modifyEntry, foundStill]
  split
  · exact ⟨mark, rfl⟩
  · exact ⟨used, rfl⟩

/-- Either no frame can be evicted, or the one that the clock chooses is taken
away from the page in it. -/
theorem takeVictim_cases (manager : Manager pageSize) :
    ((manager.clock.selectVictim manager.frames).victim = none ∧
      manager.takeVictim = (.error .outOfFrames, manager.swept)) ∨
    ∃ frame victim, (manager.clock.selectVictim manager.frames).victim = some frame ∧
      manager.frames.owner? frame = some victim ∧
      manager.takeVictim = (.ok (⟨frame⟩, victim), { manager.swept.syncUsedMarks with
        frames := (manager.swept.syncUsedMarks.frames.alter frame Frame.vacate).alter frame
          Frame.pin }) := by
  have same := sameAccounts_synced manager
  rw [takeVictim]
  cases chosen : (manager.clock.selectVictim manager.frames).victim with
  | none => exact .inl ⟨rfl, rfl⟩
  | some frame =>
    obtain ⟨loose, victim, owned⟩ :=
      FrameTable.isEvictable_iff.mp (Clock.isEvictable_of_selectVictim chosen)
    refine .inr ⟨frame, victim, rfl, owned, ?_⟩
    have ownedStill := (same.owner?_eq frame).trans owned
    have looseStill := (same.isPinned_eq frame).trans loose
    have inside := FrameTable.lt_size_of_owner? ownedStill
    rw [swept] at ownedStill looseStill inside
    have vacant : (FrameTable.alter _ frame Frame.vacate).isPinned frame = false :=
      (FrameTable.isPinned_alter_of_keeps Frame.vacate (fun _ => rfl) frame).trans looseStill
    simp only [FrameTable.evict_eq_ok inside, ownedStill,
      FrameTable.pin_eq_ok (by rwa [FrameTable.size_alter]) vacant]
    rfl

/-- The victim's content goes to swap if it is dirty and is dropped if it is
not. -/
theorem leads_startEviction {error : FrameError} {victim : PageId}
    (accounted : manager.Accounted (Function.update holdings thread none))
    (away : manager.place page = .ok none) (still : manager.inTransit.find? page = none)
    (full : manager.pool.allocate = .error error)
    (chosen : (manager.clock.selectVictim manager.frames).victim = some frame)
    (owned : manager.frames.owner? frame = some victim) :
    Leads page manager .arriving
      ((manager.seized page frame).startEviction page ⟨frame⟩ victim) := by
  have inside := FrameTable.lt_size_of_owner? owned
  rw [accounted.size_frames, ← accounted.numFrames_memory] at inside
  obtain ⟨entry, found, -⟩ := place_eq_ok_iff.mp ((accounted.owner_iff frame victim).mp owned)
  obtain ⟨used, foundStill⟩ := entry_syncUsedMarks (show manager.swept.entry victim = _ from found)
  have foundLast : (manager.seized page frame).entry victim = .ok { entry with used := used } :=
    entry_seized.trans foundStill
  simp only [startEviction, foundLast]
  split
  · rename_i dirty
    have left := Passes.unmap away still full chosen owned found dirty
    have saving : (manager.evicted page frame victim true).startSaving page ⟨frame⟩ victim =
        (.savingVictim ⟨frame⟩ victim (manager.frameContent frame),
          { manager.evicted page frame victim true with
            inTransit :=
              (manager.evicted page frame victim true).inTransit.set victim frame }) := by
      simp only [startSaving, (evicted_eq manager page frame victim true).1,
        PhysicalMemory.readFrame_eq_ok inside]
      rfl
    rw [evicted] at saving
    simp only [dirty, saving]
    exact left.passesThrough
  · rename_i clean
    have left := Passes.drop away still full chosen owned found (by simpa using clean)
    rw [Bool.not_eq_true] at clean
    simp only [clean]
    exact left.passesThrough.trans (leads_startLoading (left.accounted accounted))

theorem leads_arrive (accounted : manager.Accounted (Function.update holdings thread none))
    (ready : manager.awaits page = false) :
    Leads page manager .arriving (manager.arrive page) := by
  rw [arrive]
  cases found : manager.entry page with
  | error error => exact (Passes.missing found).passesThrough
  | ok entry =>
    by_cases valid : entry.valid = true
    · simp only [valid, if_true]
      exact (Passes.resident found valid).passesThrough
    · have invalid : entry.valid = false := by simpa using valid
      have away : manager.place page = .ok none := place_of_away found invalid
      have still : manager.inTransit.find? page = none := by
        simpa [awaits, found, invalid, KeyedTable.contains] using ready
      simp only [invalid, obtainFrame]
      cases taken : manager.pool.allocate with
      | ok result =>
        obtain ⟨frame, pool⟩ := result
        obtain ⟨inside, free, -⟩ := FramePool.of_allocate_eq_ok taken
        rw [← accounted.size_frames] at inside
        have leased := Passes.lease away still taken
        simp only [FrameTable.pin_eq_ok inside (accounted.of_free free).2]
        exact leased.passesThrough.trans (leads_startLoading (leased.accounted accounted))
      | error error =>
        rcases takeVictim_cases manager with
            ⟨none, searched⟩ | ⟨frame, victim, chosen, owned, searched⟩
        · simp only [searched]
          exact (Passes.exhausted away taken none).passesThrough
        · simp only [searched]
          exact leads_startEviction accounted away still taken chosen owned

/-- Every stage of a fault consists of steps of the fault, if the fault does not
have to wait. -/
theorem leads_advance {stage : FaultStage}
    (accounted : manager.Accounted
      (Function.update holdings thread (stage.phase.holding? page)))
    (ready : stage = .arriving → manager.awaits page = false) :
    Leads page manager stage.phase (manager.advance page stage) := by
  have held := Function.update_self thread (stage.phase.holding? page) holdings
  cases stage with
  | arriving => exact leads_arrive accounted (ready rfl)
  | savingVictim lease victim content => exact (Passes.save rfl).passesThrough
  | victimSaved lease victim outcome =>
    cases outcome with
    | ok slot =>
      have landed := @Passes.land _ page manager lease.frame victim slot
      exact landed.passesThrough.trans (leads_startLoading (landed.accounted accounted))
    | error error =>
      have restored := restoreVictim_eq (accounted.land held rfl) (Function.update_self ..) victim
      have step := @Passes.restore _ page manager lease.frame victim error
      simp only [advance, afterSaving, withdraw]
      rw [Leads, restored]
      exact step.passesThrough
  | fetching lease slot =>
    have inside := accounted.frame_lt held
    rw [← accounted.numFrames_memory] at inside
    simp only [advance, Manager.fetch]
    split
    · rename_i failed
      exact (Passes.miss failed).passesThrough
    · rename_i content done
      obtain ⟨fits, -⟩ := SwapArea.of_read_eq_ok done
      simp only [PhysicalMemory.writeFrame_eq_ok inside fits]
      exact (Passes.fetch done).passesThrough
  | fetched lease slot outcome =>
    cases outcome with
    | ok =>
      have received := @Passes.receive _ page manager lease.frame slot
      exact received.passesThrough.trans (leads_conclude (received.accounted accounted))
    | error error =>
      obtain ⟨pool, freed, abandoned⟩ := abandon_eq accounted held page error
      simp only [advance, afterFetching, conclude]
      rw [Leads, abandoned]
      exact (Passes.abandon freed).passesThrough
  | finished outcome => exact .stay

end Stages

section Ends

variable {manager : Manager pageSize} {page : PageId} {lease : FrameLease}

theorem remaining_conclude (loaded : Except PagingError ContentSource) :
    (manager.conclude page lease loaded).1.remaining = 0 := by
  cases loaded with
  | error error => rfl
  | ok source =>
    rw [conclude]
    split
    · rfl
    · simp only
      split <;> rfl

theorem remaining_startLoading :
    (manager.startLoading page lease).1.remaining ≤ FaultStage.remaining (.fetching lease 0) := by
  rw [startLoading]
  split
  · exact Nat.le_refl _
  · rw [remaining_conclude]
    exact Nat.zero_le _

theorem remaining_startEviction {victim : PageId} :
    (manager.startEviction page lease victim).1.remaining ≤
      FaultStage.remaining (.savingVictim lease victim #[]) := by
  rw [startEviction]
  split
  · exact Nat.zero_le _
  · simp only
    split
    · rw [startSaving]
      split
      · exact Nat.zero_le _
      · exact Nat.le_refl _
    · exact Nat.le_trans remaining_startLoading (by simp [FaultStage.remaining])

/-- Every stage brings a fault closer to its end. -/
theorem remaining_advance (manager : Manager pageSize) (page : PageId) (stage : FaultStage) :
    (manager.advance page stage).1.remaining ≤ stage.remaining - 1 := by
  cases stage with
  | arriving =>
    simp only [advance, arrive]
    split
    · exact Nat.zero_le _
    split
    · exact Nat.zero_le _
    split
    · exact Nat.zero_le _
    split
    · exact remaining_startEviction
    · exact Nat.le_trans remaining_startLoading (by simp [FaultStage.remaining])
  | savingVictim lease victim content => exact Nat.le_refl _
  | victimSaved lease victim outcome =>
    cases outcome with
    | ok slot => exact remaining_startLoading
    | error error => exact Nat.zero_le _
  | fetching lease slot =>
    simp only [advance, fetch]
    split
    · exact Nat.le_refl _
    split <;> exact Nat.le_refl _
  | fetched lease slot outcome =>
    cases outcome with
    | ok => exact Nat.le_of_eq (remaining_conclude _)
    | error error => exact Nat.le_of_eq (remaining_conclude _)
  | finished outcome => exact Nat.le_refl _

/-- A fault with nothing going on in between is a sequence of steps to its
end. -/
theorem passesThrough_passStages {stages : Nat} {stage : FaultStage}
    {holdings : Nat → Option Holding} {thread : Nat}
    (accounted : manager.Accounted
      (Function.update holdings thread (stage.phase.holding? page)))
    (ready : stage = .arriving → manager.awaits page = false)
    (enough : stage.remaining ≤ stages) :
    PassesThrough page manager stage.phase (manager.passStages page stages stage).2
      (.finished (manager.passStages page stages stage).1) := by
  induction stages generalizing manager stage with
  | zero =>
    cases stage with
    | finished outcome => exact .stay
    | _ => cases enough
  | succ stages ih =>
    have closer := remaining_advance manager page stage
    have led : Leads page manager stage.phase (manager.advance page stage) :=
      leads_advance accounted ready
    have rest := ih (led.accounted accounted)
      (fun same => by
        -- No stage leads back to the arrival, so a fault waits at most once.
        rw [same] at closer
        have top : stage.remaining ≤ 5 := by cases stage <;> simp [FaultStage.remaining]
        change 5 ≤ stage.remaining - 1 at closer
        omega)
      (by omega)
    cases stage with
    | finished outcome => exact .stay
    | _ => exact led.trans rest

theorem awaits_eq_false (still : manager.inTransit.find? page = none) :
    manager.awaits page = false := by
  rw [awaits]
  split
  · simp [KeyedTable.contains, still]
  · rfl

/-- When nothing is in transit, a fault is a sequence of steps from its arrival
to its end. -/
theorem passesThrough_resolve (accounted : manager.Accounted fun _ => none) :
    PassesThrough page manager .arriving (manager.resolve page).2
      (.finished (manager.resolve page).1) := by
  have still : manager.inTransit.find? page = none :=
    accounted.not_inTransit fun _ _ held => by cases held
  refine @passesThrough_passStages _ manager page _ .arriving (fun _ => none) 0 ?_ ?_ ?_
  · rwa [FaultStage.phase, FaultPhase.holding?, Function.update_eq_self]
  · exact fun _ => awaits_eq_false still
  · exact Nat.le_refl _

end Ends

end Manager

end DemandPaging
