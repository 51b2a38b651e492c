import DemandPaging.Proofs.FaultContents

/-!
# What a fault can reach

A fault reaches its page, one frame, and the page that was in that frame.
This module says what it means that nothing else changed, and shows it for the
steps of a fault: first for taking the frame away from its page, then for
everything that is done with the frame afterwards.
-/

namespace DemandPaging

namespace PageEntry

/-- The entry apart from its used mark. -/
def unmarked (entry : PageEntry) : PageEntry :=
  { entry with used := false }

/-- A dirty entry that gets its frame back is as it was. -/
theorem unmarked_install_invalidate {entry : PageEntry} (valid : entry.valid = true)
    (dirty : entry.dirty = true) :
    unmarked { entry.invalidate.install entry.frame with dirty := true } = entry.unmarked := by
  simp [unmarked, install, invalidate, valid, dirty]

end PageEntry

namespace FaultPhase

/-- The frame that a fault holds for its own page alone. -/
def frame? : FaultPhase → Option Nat
  | leased frame => some frame
  | fetching frame _ => some frame
  | fetched frame _ _ => some frame
  | filled frame _ => some frame
  | _ => none

theorem holding?_of_frame?_eq_some {phase : FaultPhase} {frame : Nat}
    (holds : phase.frame? = some frame) (page : PageId) :
    phase.holding? page = some { frame := frame, page := page } := by
  cases phase with
  | leased | fetching | fetched | filled =>
    obtain rfl := Option.some.inj holds
    rfl
  | _ => cases holds

end FaultPhase

namespace Manager

variable {pageSize : Nat}

/-- What the entry of a page says, apart from its used mark. -/
def unmarkedEntry (manager : Manager pageSize) (page : PageId) : Except PagingError PageEntry :=
  (manager.entry page).map PageEntry.unmarked

/-- Nothing changed but the entry of `page`, what `frame` holds, and the page
`victim?` that was in `frame` before.  Records, most counters and the marks of
frames are left out of account, and so are slots that belong to no page. -/
structure Confined (before after : Manager pageSize) (page : PageId) (frame : Nat)
    (victim? : Option PageId) : Prop extends SameSpaces before after where
  apart : victim? ≠ some page
  numFrames_eq : after.numFrames = before.numFrames
  unmarkedEntry_eq : ∀ other, other ≠ page → victim? ≠ some other →
    after.unmarkedEntry other = before.unmarkedEntry other
  /-- Used marks are brought up to date only if a page has to leave. -/
  entry_eq : victim? = none → ∀ other, other ≠ page → after.entry other = before.entry other
  /-- The page that left can be brought in again as it was. -/
  left : ∀ victim, victim? = some victim →
    after.entry victim = (before.entry victim).map PageEntry.invalidate ∧
      after.backing? victim = some (before.frameContent frame)
  frameContent_eq : ∀ other, other ≠ frame →
    after.frameContent other = before.frameContent other
  owner?_eq : ∀ other, other ≠ frame → after.frames.owner? other = before.frames.owner? other
  isAllocated_eq : ∀ other, other ≠ frame →
    after.pool.isAllocated other = before.pool.isAllocated other
  slotOf?_eq : ∀ other, victim? ≠ some other →
    after.swap.slotOf? other = before.swap.slotOf? other
  stored?_eq : ∀ other, victim? ≠ some other → after.stored? other = before.stored? other
  evictions_eq : victim? = none → after.statistics.evictions = before.statistics.evictions

namespace Confined

variable {before between after : Manager pageSize} {page : PageId} {frame : Nat}
  {victim? : Option PageId}

theorem refl (manager : Manager pageSize) (page : PageId) (frame : Nat) :
    Confined manager manager page frame none where
  toSameSpaces := .refl manager
  apart := nofun
  numFrames_eq := rfl
  unmarkedEntry_eq _ _ _ := rfl
  entry_eq _ _ _ := rfl
  left := nofun
  frameContent_eq _ _ := rfl
  owner?_eq _ _ := rfl
  isAllocated_eq _ _ := rfl
  slotOf?_eq _ _ := rfl
  stored?_eq _ _ := rfl
  evictions_eq _ := rfl

theorem withBooks (manager : Manager pageSize) (page : PageId) (frame : Nat) (log : EventLog)
    {statistics : Statistics} (same : statistics.evictions = manager.statistics.evictions) :
    Confined manager (manager.withBooks log statistics) page frame none :=
  { refl manager page frame with
    toSameSpaces := (SameContents.withBooks _ _ _).toSameSpaces
    evictions_eq := fun _ => same }

theorem backing?_eq {other : PageId} (confined : Confined before after page frame victim?)
    (apart : victim? ≠ some other) : after.backing? other = before.backing? other :=
  backing?_congr (confined.stored?_eq other apart) (confined.image?_eq other.space)

theorem place_of_ne {other : PageId} (confined : Confined before after page frame none)
    (differs : other ≠ page) : after.place other = before.place other := by
  rw [place, place, confined.entry_eq rfl other differs]

/-- What is done later with the frame leaves the page alone that was in it. -/
theorem trans (first : Confined before between page frame victim?)
    (second : Confined between after page frame none) :
    Confined before after page frame victim? where
  toSameSpaces := first.toSameSpaces.trans second.toSameSpaces
  apart := first.apart
  numFrames_eq := second.numFrames_eq.trans first.numFrames_eq
  unmarkedEntry_eq other differs spared :=
    (second.unmarkedEntry_eq other differs nofun).trans
      (first.unmarkedEntry_eq other differs spared)
  entry_eq free other differs :=
    (second.entry_eq rfl other differs).trans (first.entry_eq free other differs)
  left victim isVictim := by
    obtain ⟨entry, backing⟩ := first.left victim isVictim
    have differs : victim ≠ page := fun same => first.apart (same ▸ isVictim)
    exact ⟨(second.entry_eq rfl victim differs).trans entry,
      (second.backing?_eq nofun).trans backing⟩
  frameContent_eq other differs :=
    (second.frameContent_eq other differs).trans (first.frameContent_eq other differs)
  owner?_eq other differs := (second.owner?_eq other differs).trans (first.owner?_eq other differs)
  isAllocated_eq other differs :=
    (second.isAllocated_eq other differs).trans (first.isAllocated_eq other differs)
  slotOf?_eq other spared := (second.slotOf?_eq other nofun).trans (first.slotOf?_eq other spared)
  stored?_eq other spared := (second.stored?_eq other nofun).trans (first.stored?_eq other spared)
  evictions_eq free := (second.evictions_eq rfl).trans (first.evictions_eq free)

theorem fillFrame {manager : Manager pageSize} {bytes : Bytes} (page : PageId)
    (inside : frame < manager.memory.numFrames) (fits : bytes.size = pageSize) :
    Confined manager (manager.fillFrame frame bytes) page frame none :=
  { refl manager page frame with
    toSameSpaces := { SameSpaces.refl manager with }
    frameContent_eq := fun other differs => by
      rw [frameContent_fillFrame inside fits, if_neg differs] }

theorem modifyEntry (manager : Manager pageSize) (page : PageId) (frame : Nat)
    (change : PageEntry → PageEntry) :
    Confined manager (manager.modifyEntry page change) page frame none :=
  have entries : ∀ other, other ≠ page →
      (manager.modifyEntry page change).entry other = manager.entry other := by
    intro other differs
    rw [entry_modifyEntry, if_neg differs]
  { refl manager page frame with
    toSameSpaces := sameSpaces_modifyEntry manager page change
    unmarkedEntry_eq := fun other differs _ => congrArg _ (entries other differs)
    entry_eq := fun _ => entries
    left := nofun }

theorem takeTrouble (manager : Manager pageSize) (page : PageId) (frame : Nat) :
    Confined manager { manager with volume := manager.volume.takeTrouble.2 } page frame none :=
  { refl manager page frame with toSameSpaces := { SameSpaces.refl manager with } }

/-- A fault that lets go of its frame reaches nothing else in doing so. -/
theorem of_letsGo {resident? : Option PageId}
    (lets : LetsGo before after { frame := frame, page := page } resident?)
    (spaces : SameSpaces before after) (memory : after.memory = before.memory)
    (swap : after.swap = before.swap) (volume : after.volume = before.volume)
    (statistics : after.statistics = before.statistics)
    (entries : ∀ other, other ≠ page → after.entry other = before.entry other) :
    Confined before after page frame none where
  toSameSpaces := spaces
  apart := nofun
  numFrames_eq := lets.numFrames_pool
  unmarkedEntry_eq other differs _ := congrArg _ (entries other differs)
  entry_eq _ := entries
  left := nofun
  frameContent_eq other _ := by rw [frameContent, frameContent, memory]
  owner?_eq other differs := by rw [lets.owner?_eq, if_neg differs]
  isAllocated_eq other differs := by
    rw [Bool.eq_iff_iff, lets.isAllocated_iff]
    exact and_iff_right fun same => absurd same differs
  slotOf?_eq other _ := by rw [swap]
  stored?_eq other _ := by rw [stored?, stored?, swap, volume]
  evictions_eq _ := by rw [statistics]

end Confined

section Steps

variable {manager next : Manager pageSize} {content : PageId → Bytes} {page : PageId}
  {phase nextPhase : FaultPhase} {frame : Nat}

/-- The last step of a fault gives its frame to its page. -/
theorem Represents.letsGo_filled {source : ContentSource}
    (represents : manager.Represents content page (.filled frame source)) :
    LetsGo manager ((manager.mapped page frame false).settle page ⟨frame⟩)
      { frame := frame, page := page } (some page) := by
  have held := @Represents.held page (.filled frame source) _ rfl
  apply @letsGo_mapped _ manager _ _ _ manager.inTransit page page represents.accounted held
    (.inl rfl)
  intro other
  simp [KeyedTable.find?_erase, Holding.Moves]

/-- Once a fault holds a frame for its page, its steps reach nothing but the
two. -/
theorem Passes.confined (passes : Passes page manager phase next nextPhase)
    (represents : manager.Represents content page phase) (holds : phase.frame? = some frame) :
    Confined manager next page frame none := by
  have holding := FaultPhase.holding?_of_frame?_eq_some holds page
  have held := Represents.held holding
  have inside := represents.frame_lt holding
  have accounted := represents.accounted
  cases passes with
  | missing | resident | exhausted | lease | drop | unmap | save | land | restore => cases holds
  | locate => exact .refl _ _ _
  | receive => exact .withBooks _ _ _ _ rfl
  | miss => exact .takeTrouble _ _ _
  | @fetch _ slot bytes done =>
    obtain rfl := Option.some.inj holds
    obtain ⟨fits, -⟩ := SwapArea.of_read_eq_ok done
    exact (Confined.takeTrouble manager page _).trans (.fillFrame page inside fits)
  | @«show» _ image index number bytes =>
    obtain rfl := Option.some.inj holds
    have filled := Confined.fillFrame page inside bytes.size_toArray
    exact (filled.trans (.modifyEntry _ _ _ _)).trans (.withBooks _ _ _ _ rfl)
  | clear =>
    obtain rfl := Option.some.inj holds
    have fits : (Bytes.zeros pageSize).size = pageSize := Array.size_replicate
    have filled := Confined.fillFrame page inside fits
    exact (filled.trans (.modifyEntry _ _ _ _)).trans (.withBooks _ _ _ _ rfl)
  | unshown _ _ _ _ freed | abandon freed =>
    obtain rfl := Option.some.inj holds
    apply Confined.of_letsGo (letsGo_vacated accounted held freed) _ rfl rfl rfl rfl
    · exact fun _ _ => rfl
    · exact { SameSpaces.refl manager with }
  | map =>
    obtain rfl := Option.some.inj holds
    apply Confined.of_letsGo represents.letsGo_filled _ rfl rfl rfl rfl
    · intro other differs
      exact (entry_modifyEntry ..).trans (if_neg differs)
    · exact ⟨image?_modifyEntry, numPages?_modifyEntry, rfl⟩

theorem unmarkedEntry_modifyEntry {change : PageEntry → PageEntry}
    (keeps : ∀ entry, (change entry).unmarked = entry.unmarked) (other : PageId) :
    (manager.modifyEntry page change).unmarkedEntry other = manager.unmarkedEntry other := by
  rw [unmarkedEntry, unmarkedEntry, entry_modifyEntry]
  split
  · cases manager.entry other with
    | error error => rfl
    | ok entry => exact congrArg Except.ok (keeps entry)
  · rfl

/-- The used mark has no say in where a page is. -/
theorem place_congr {other : PageId}
    (same : next.unmarkedEntry other = manager.unmarkedEntry other) :
    next.place other = manager.place other := by
  have unmarked : ∀ current : Manager pageSize,
      current.place other = (current.unmarkedEntry other).map PageEntry.frame? := by
    intro current
    rw [place, unmarkedEntry]
    cases current.entry other <;> rfl
  rw [unmarked, unmarked, same]

theorem unmarkedEntry_syncUsedMarks (other : PageId) :
    manager.syncUsedMarks.unmarkedEntry other = manager.unmarkedEntry other := by
  apply syncUsedMarks_induction fun current =>
    current.unmarkedEntry other = manager.unmarkedEntry other
  · rfl
  · intro current page used _ kept
    apply (unmarkedEntry_modifyEntry _ other).trans kept
    exact fun _ => rfl

section Evicted

variable {victim other : PageId} {dirty : Bool}

theorem unmarkedEntry_seized :
    (manager.seized page frame).unmarkedEntry other = manager.unmarkedEntry other := by
  rw [unmarkedEntry, entry_seized]
  exact unmarkedEntry_syncUsedMarks other

theorem unmarkedEntry_evicted (differs : other ≠ victim) :
    (manager.evicted page frame victim dirty).unmarkedEntry other =
      manager.unmarkedEntry other := by
  rw [unmarkedEntry, entry_evicted, entry_modifyEntry, if_neg differs]
  exact unmarkedEntry_seized

theorem entry_evicted_victim :
    (manager.evicted page frame victim dirty).entry victim =
      (manager.entry victim).map PageEntry.invalidate := by
  have same : (manager.seized page frame).unmarkedEntry victim = manager.unmarkedEntry victim :=
    unmarkedEntry_seized
  rw [entry_evicted, entry_modifyEntry, if_pos rfl]
  -- An entry loses its used mark together with its frame.
  calc
    ((manager.seized page frame).entry victim).map PageEntry.invalidate =
        ((manager.seized page frame).unmarkedEntry victim).map PageEntry.invalidate := by
      rw [unmarkedEntry]
      cases (manager.seized page frame).entry victim <;> rfl
    _ = (manager.entry victim).map PageEntry.invalidate := by
      rw [same, unmarkedEntry]
      cases manager.entry victim <;> rfl

/-- The entry of a page in no frame does not even change in its used mark. -/
theorem entry_evicted_of_away {holdings : Nat → Option Holding} {entry : PageEntry}
    (accounted : manager.Accounted holdings) (found : manager.entry other = .ok entry)
    (away : entry.valid = false) (differs : other ≠ victim) :
    (manager.evicted page frame victim dirty).entry other = .ok entry := by
  obtain ⟨after, afterFound⟩ :=
    (sameSpaces_evicted manager page frame victim dirty).exists_entry_iff.mpr ⟨entry, found⟩
  obtain ⟨before, used, beforeFound, same, afterEq⟩ := entry_of_evicted accounted afterFound
  obtain rfl := Except.ok.inj (found.symm.trans beforeFound)
  rw [afterFound, afterEq, if_neg differs, same away]

theorem pool_evicted : (manager.evicted page frame victim dirty).pool = manager.pool := by
  obtain ⟨spaces, synced⟩ := syncUsedMarks_eq manager.swept
  simp only [evicted, seized, synced, bump, record, Manager.modifyEntry]
  rfl

theorem owner?_evicted {holdings : Nat → Option Holding} (accounted : manager.Accounted holdings)
    (owned : manager.frames.owner? frame = some victim) (other : Nat) :
    (manager.evicted page frame victim dirty).frames.owner? other =
      if other = frame then none else manager.frames.owner? other := by
  rw [(takesHold_evicted accounted owned page dirty).owner?_eq,
    (sameAccounts_synced manager).owner?_eq]

/-- A frame is taken away from its page without reaching anything else, once
the content of the page is kept elsewhere. -/
theorem Confined.evicted {holdings : Nat → Option Holding} {swap : SwapArea PageId pageSize}
    {volume : Volume} (accounted : manager.Accounted holdings)
    (owned : manager.frames.owner? frame = some victim) (differs : victim ≠ page)
    (kept : backing? { manager with swap := swap, volume := volume } victim =
      some (manager.frameContent frame))
    (slots : ∀ other, other ≠ victim → swap.slotOf? other = manager.swap.slotOf? other)
    (stored : ∀ other, other ≠ victim → swap.stored? volume other = manager.stored? other)
    (transit : KeyedTable PageId Nat) :
    Confined manager { manager.evicted page frame victim dirty with
      swap := swap, volume := volume, inTransit := transit } page frame (some victim) := by
  have spaces := sameSpaces_evicted manager page frame victim dirty
  have memory := (evicted_eq manager page frame victim dirty).1
  have pool := @pool_evicted _ manager page frame victim dirty
  have owners := @owner?_evicted _ manager page frame victim dirty _ accounted owned
  have entries := fun other => @unmarkedEntry_evicted _ manager page frame victim other dirty
  have unmapped := @entry_evicted_victim _ manager page frame victim dirty
  generalize manager.evicted page frame victim dirty = evicted at *
  constructor
  case toSameSpaces => exact { spaces with }
  case apart => exact fun same => differs (Option.some.inj same)
  case numFrames_eq => exact congrArg FramePool.numFrames pool
  case unmarkedEntry_eq =>
    exact fun other _ spared => entries other fun same => spared (congrArg some same.symm)
  case entry_eq => rintro ⟨⟩
  case left =>
    rintro _ ⟨⟩
    refine ⟨unmapped, Eq.trans ?_ kept⟩
    exact backing?_congr rfl (spaces.image?_eq victim.space)
  case frameContent_eq =>
    intro other _
    rw [frameContent, frameContent, memory]
  case owner?_eq => exact fun other differs => (owners other).trans (if_neg differs)
  case isAllocated_eq => exact fun other _ => congrArg (FramePool.isAllocated · other) pool
  case slotOf?_eq => exact fun other spared => slots other fun same => spared (same ▸ rfl)
  case stored?_eq => exact fun other spared => stored other fun same => spared (same ▸ rfl)
  case evictions_eq => rintro ⟨⟩

end Evicted

end Steps

end Manager

end DemandPaging
