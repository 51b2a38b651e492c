import DemandPaging.Proofs.FrameOwnership
import DemandPaging.Proofs.PageContents

/-!
# Faults keep the contents of pages

While a fault is under way, the content of the page that it brings in and the
content of the page that has to leave are in different places in each of its
phases.  Every step of the fault finds them where the step before left them, so
a fault changes the content of no page, whether it succeeds or fails.
-/

namespace DemandPaging

namespace FaultPhase

def victim? : FaultPhase → Option PageId
  | saving _ victim _ => some victim
  | saved _ victim _ => some victim
  | _ => none

end FaultPhase

namespace Manager

variable {pageSize : Nat}

/-- What holds of contents in a phase of a fault on `page`. -/
def During (manager : Manager pageSize) (content : PageId → Bytes) (page : PageId) :
    FaultPhase → Prop
  | .saving frame victim bytes =>
    manager.frameContent frame = content victim ∧ bytes = content victim ∧
      ¬manager.ShownReadOnly victim
  | .saved frame victim outcome =>
    manager.frameContent frame = content victim ∧ ¬manager.ShownReadOnly victim ∧
      ∀ slot, outcome = .ok slot → manager.stored? victim = some (content victim)
  | .fetching _ slot => manager.swap.slotOf? page = some slot
  | .fetched frame slot outcome =>
    manager.swap.slotOf? page = some slot ∧
      (outcome = .ok () → manager.frameContent frame = content page)
  | .filled frame _ =>
    manager.frameContent frame = content page ∧
      (manager.ShownReadOnly page → ∀ entry, manager.entry page = .ok entry →
        entry.readOnly = true)
  | _ => True

/-- The pages have the given contents while a fault on `page` is in a phase. -/
structure Represents (manager : Manager pageSize) (content : PageId → Bytes) (page : PageId)
    (phase : FaultPhase) : Prop where
  accounted : manager.Accounted (Function.update (fun _ => none) 0 (phase.holding? page))
  contains : manager.Contains content phase.victim?
  during : manager.During content page phase

section Steps

variable {manager next : Manager pageSize} {content : PageId → Bytes} {page : PageId}
  {phase nextPhase : FaultPhase} {holdings : Nat → Option Holding} {thread frame : Nat}

theorem Accounted.frame_ne {holding : Holding} (accounted : manager.Accounted holdings)
    (held : holdings thread = some holding) (other : PageId) (entry : PageEntry)
    (found : manager.entry other = .ok entry) (valid : entry.valid = true) :
    entry.frame ≠ holding.frame := by
  intro same
  have placed : manager.place other = .ok (some holding.frame) :=
    same ▸ place_of_valid found valid
  have owned := (accounted.owner_iff holding.frame other).mpr placed
  rw [accounted.vacant thread holding held] at owned
  cases owned

namespace Represents

variable {holding : Holding}

theorem held (holds : phase.holding? page = some holding) :
    Function.update (fun _ => none) 0 (phase.holding? page) 0 = some holding := by
  rw [Function.update_self, holds]

theorem exists_entry {moved : PageId} (represents : manager.Represents content page phase)
    (holds : phase.holding? page = some holding) (moves : holding.Moves moved) :
    ∃ entry, manager.entry moved = .ok entry ∧ entry.valid = false :=
  represents.accounted.exists_entry (held holds) moves

theorem frame_lt (represents : manager.Represents content page phase)
    (holds : phase.holding? page = some holding) : holding.frame < manager.memory.numFrames := by
  rw [represents.accounted.numFrames_memory]
  exact represents.accounted.frame_lt (held holds)

theorem frame_ne (represents : manager.Represents content page phase)
    (holds : phase.holding? page = some holding) (other : PageId) (entry : PageEntry)
    (found : manager.entry other = .ok entry) (valid : entry.valid = true) :
    entry.frame ≠ holding.frame :=
  represents.accounted.frame_ne (held holds) other entry found valid

theorem size_frameContent (represents : manager.Represents content page phase)
    (holds : phase.holding? page = some holding) :
    (manager.frameContent holding.frame).size = pageSize := by
  have inside := represents.frame_lt holds
  apply Bytes.size_slice
  rw [← Nat.succ_mul, PhysicalMemory.size_content]
  exact Nat.mul_le_mul_right _ inside

theorem frameContent_fillFrame {bytes : Bytes}
    (represents : manager.Represents content page phase)
    (holds : phase.holding? page = some holding) (fits : bytes.size = pageSize) :
    (manager.fillFrame holding.frame bytes).frameContent holding.frame = bytes := by
  rw [Manager.frameContent_fillFrame (represents.frame_lt holds) fits, if_pos rfl]

theorem unmap {victim : PageId} {entry : PageEntry}
    (represents : manager.Represents content page .arriving)
    (owned : manager.frames.owner? frame = some victim)
    (found : manager.entry victim = .ok entry) (dirty : entry.dirty = true)
    {unmapped : Manager pageSize} (memory : unmapped.memory = manager.memory)
    (images : ∀ space, unmapped.image? space = manager.image? space)
    (transit : KeyedTable PageId Nat) :
    During { unmapped with inTransit := transit } content page
      (.saving frame victim (manager.frameContent frame)) := by
  have placed := (represents.accounted.owner_iff frame victim).mp owned
  obtain ⟨other, otherFound, there⟩ := place_eq_ok_iff.mp placed
  rw [found] at otherFound
  obtain rfl := Except.ok.inj otherFound
  obtain ⟨valid, same⟩ := PageEntry.frame?_eq_some_iff.mp there
  have inFrame := represents.contains.resident victim entry found valid
  rw [same] at inFrame
  refine ⟨?_, inFrame, fun readOnly => ?_⟩
  · rw [← inFrame]
    exact congrArg (fun memory => Bytes.slice memory.content _ _) memory
  · have readOnly : unmapped.ShownReadOnly victim := readOnly
    rw [shownReadOnly_congr (images victim.space)] at readOnly
    have clean := ((represents.contains.unwritten victim readOnly).2 entry found).1
    rw [clean] at dirty
    cases dirty

theorem initialContent_eq {image : Image pageSize} {bytes : Bytes}
    (represents : manager.Represents content page (.leased frame))
    (slotless : manager.swap.slotOf? page = none) (alive : manager.image? page.space = some image)
    (initially : image.initialContent? page.vpn = some bytes) : bytes = content page := by
  obtain ⟨entry, found, away⟩ := represents.exists_entry rfl (.inl rfl)
  have clean := (represents.contains.unused page entry found away).1
  apply represents.contains.backed page entry bytes found clean (Option.some_ne_none page).symm
  rw [backing?, stored?, SwapArea.stored?, slotless, alive]
  exact initially

theorem fill {bytes : Bytes} (represents : manager.Represents content page (.leased frame))
    (fits : bytes.size = pageSize) (readOnly : Bool) :
    ((manager.fillFrame frame bytes).markReadOnly page readOnly).Contains content none := by
  obtain ⟨entry, found, away⟩ := represents.exists_entry rfl (.inl rfl)
  have filled := represents.contains.fillFrame (represents.frame_lt rfl) fits
    (represents.frame_ne rfl)
  exact filled.markReadOnly found away readOnly

theorem filled {image : Image pageSize} {bytes : Bytes} {readOnly : Bool}
    {log : EventLog} {statistics : Statistics} {source : ContentSource}
    (represents : manager.Represents content page (.leased frame))
    (slotless : manager.swap.slotOf? page = none) (alive : manager.image? page.space = some image)
    (initially : image.initialContent? page.vpn = some bytes) (fits : bytes.size = pageSize)
    (marks : manager.ShownReadOnly page → readOnly = true) :
    During (((manager.fillFrame frame bytes).markReadOnly page readOnly).withBooks log statistics)
      content page (.filled frame source) := by
  refine ⟨?_, fun shown entry found => ?_⟩
  · have inFrame := represents.frameContent_fillFrame rfl fits
    exact inFrame.trans (represents.initialContent_eq slotless alive initially)
  · obtain ⟨before, -, rfl⟩ := entry_modifyEntry_eq_ok_iff.mp found
    have shownBefore := (shownReadOnly_congr (image?_modifyEntry page.space)).mp shown
    rw [if_pos rfl]
    exact marks shownBefore

end Represents

/-- Every step of a fault keeps the contents of all pages. -/
theorem Passes.represents (passes : Passes page manager phase next nextPhase)
    (represents : manager.Represents content page phase) :
    next.Represents content page nextPhase := by
  have accounted := passes.accounted represents.accounted
  have contains := represents.contains
  have during := represents.during
  cases passes with
  | missing | resident => exact ⟨accounted, contains, trivial⟩
  | exhausted | lease =>
    refine ⟨accounted, contains.of_same ?_, trivial⟩
    exact { SameContents.refl manager with }
  | @drop _ frame victim _ _ _ _ _ _ found clean =>
    -- The content of a clean victim is in its slot or its image, too.
    have saves : ¬_ = true := Bool.eq_false_iff.mp clean
    have left : Contains _ _ none := contains.evicted represents.accounted found
      (fun dirty => absurd dirty saves) page frame false
    rw [record_bump] at accounted ⊢
    exact ⟨accounted, left.of_same (SameContents.withBooks _ _ _), trivial⟩
  | @unmap _ frame victim _ _ _ _ _ owned found dirty =>
    -- Until it is saved, the content of a dirty victim is in the frame only.
    have left := contains.evicted represents.accounted found (fun _ => rfl) page frame true
    refine ⟨accounted, left.of_same (SameContents.transit _ _), ?_⟩
    exact represents.unmap owned found dirty (evicted_eq manager page frame victim true).1
      (sameSpaces_evicted manager page frame victim true).image?_eq _
  | @save frame victim bytes outcome swap volume done =>
    obtain ⟨inFrame, rfl, writable⟩ := during
    obtain ⟨entry, found, -⟩ := represents.exists_entry rfl (.inr rfl)
    have fits := represents.size_frameContent rfl
    rw [inFrame] at fits
    have waited := contains.of_same (SameContents.takeTrouble manager)
    have writes := SwapArea.writes_write waited.intact manager.memory.pageSize_pos fits done
    exact ⟨accounted, waited.saved writes found writable, inFrame, writable, writes.stored⟩
  | @land frame victim slot =>
    obtain ⟨-, -, stored⟩ := during
    have landed := (contains.land (stored slot rfl)).of_same (SameContents.landed manager victim)
    exact ⟨accounted, landed.of_same (SameContents.withBooks _ _ _), trivial⟩
  | @restore frame victim error =>
    obtain ⟨inFrame, writable, -⟩ := during
    obtain ⟨entry, found, away⟩ := represents.exists_entry rfl (.inr rfl)
    -- A write that failed may have spoilt the slot, so the victim is dirty again.
    have landed := contains.of_same (SameContents.landed manager victim)
    have mapped := @landed.mapped _ _ _ _ victim frame entry true found away inFrame
      (fun other same => ⟨(Option.some.inj same).symm, rfl⟩) (fun _ => writable)
      (fun readOnly => absurd readOnly writable)
    exact ⟨accounted, mapped.of_same (SameContents.settle _ _ _), trivial⟩
  | locate slotted => exact ⟨accounted, contains, slotted⟩
  | @«show» frame image index number bytes slotless alive located shown =>
    have filled := represents.fill bytes.size_toArray (image.readOnly index)
    refine ⟨accounted, filled.of_same (SameContents.withBooks _ _ _), ?_⟩
    apply represents.filled slotless alive _ bytes.size_toArray
    · exact readOnly_of_shownReadOnly alive located
    · simp [Image.initialContent?, located, shown, Except.toOption]
  | @clear frame image slotless alive located =>
    have fits : (Bytes.zeros pageSize).size = pageSize := Array.size_replicate
    have filled := represents.fill fits false
    refine ⟨accounted, filled.of_same (SameContents.withBooks _ _ _), ?_⟩
    apply represents.filled slotless alive _ fits
    · exact fun shown => absurd shown (not_shownReadOnly alive located)
    · simp [Image.initialContent?, located]
  | unshown slotless image located shown freed =>
    exact ⟨accounted, contains.of_same { SameContents.refl manager with }, trivial⟩
  | @fetch frame slot bytes done =>
    obtain ⟨fits, -, -, rfl⟩ := SwapArea.of_read_eq_ok done
    obtain ⟨entry, found, away⟩ := represents.exists_entry rfl (.inl rfl)
    have waited := contains.of_same (SameContents.takeTrouble manager)
    refine ⟨accounted, ?_, during, fun _ => ?_⟩
    · exact waited.fillFrame (represents.frame_lt rfl) fits (represents.frame_ne rfl)
    · apply (represents.frameContent_fillFrame rfl fits).trans
      have clean := (contains.unused page entry found away).1
      apply contains.backed page entry _ found clean (Option.some_ne_none page).symm
      rw [backing?, stored?, SwapArea.stored?, show _ = some slot from during]
      rfl
  | miss done =>
    have waited := contains.of_same (SameContents.takeTrouble manager)
    exact ⟨accounted, waited, during, fun received => by cases received⟩
  | receive =>
    -- The mark need not be looked at: a page with a slot is not read-only.
    obtain ⟨slotted, received⟩ := during
    refine ⟨accounted, contains.of_same (SameContents.withBooks _ _ _), received rfl, ?_⟩
    intro readOnly
    rw [(contains.unwritten page readOnly).1] at slotted
    cases slotted
  | abandon freed =>
    exact ⟨accounted, contains.of_same { SameContents.refl manager with }, trivial⟩
  | @map frame source =>
    obtain ⟨inFrame, marked⟩ := during
    obtain ⟨entry, found, away⟩ := represents.exists_entry rfl (.inl rfl)
    have mapped := @contains.mapped _ _ _ _ page frame entry false found away inFrame
      (fun _ isSpared => by cases isSpared) (fun dirty => absurd dirty Bool.false_ne_true)
      (fun readOnly => marked readOnly entry found)
    exact ⟨accounted, mapped.of_same (SameContents.settle _ _ _), trivial⟩

theorem Passes.sameSpaces (passes : Passes page manager phase next nextPhase) :
    SameSpaces manager next := by
  cases passes with
  | @drop _ frame victim =>
    have left := sameSpaces_evicted manager page frame victim false
    rw [record_bump]
    exact left.trans (SameContents.withBooks _ _ _).toSameSpaces
  | @unmap _ frame victim =>
    have left := sameSpaces_evicted manager page frame victim true
    exact left.trans (SameContents.transit _ _).toSameSpaces
  | «show» | clear | restore | map =>
    exact ⟨image?_modifyEntry, numPages?_modifyEntry, rfl⟩
  | _ => exact { SameSpaces.refl manager with }

theorem PassesThrough.sameSpaces (path : PassesThrough page manager phase next nextPhase) :
    SameSpaces manager next := by
  induction path with
  | stay => exact .refl _
  | go _ step ih => exact ih.trans step.sameSpaces

theorem PassesThrough.represents (path : PassesThrough page manager phase next nextPhase)
    (represents : manager.Represents content page phase) :
    next.Represents content page nextPhase := by
  induction path with
  | stay => exact represents
  | go _ step ih => exact step.represents ih

end Steps

/-- No fault is under way, and the pages have the given contents. -/
structure Mirrors (manager : Manager pageSize) (content : PageId → Bytes) : Prop where
  settled : manager.Settled
  contains : manager.Contains content none

theorem SameContents.recordStart (manager : Manager pageSize) (page : PageId) :
    SameContents manager (manager.recordStart page) :=
  .withBooks _ _ _

theorem SameContents.recordOutcome (manager : Manager pageSize) (page : PageId)
    (outcome : Except PagingError Resolution) :
    SameContents manager (manager.recordOutcome page outcome) := by
  cases outcome with
  | ok resolution => exact SameContents.withBooks _ _ _
  | error error => exact SameContents.withBooks _ _ _

theorem Settled.sameSpaces_fault {manager : Manager pageSize} (settled : manager.Settled)
    (page : PageId) : SameSpaces manager (manager.fault page).2 := by
  have started := SameContents.recordStart manager page
  have resolved := (settled.path page).sameSpaces
  have ended := SameContents.recordOutcome ((manager.recordStart page).resolve page).2 page
  exact (started.toSameSpaces.trans resolved).trans (ended _).toSameSpaces

theorem Mirrors.arriving {manager : Manager pageSize} {content : PageId → Bytes}
    (mirrors : manager.Mirrors content) (page : PageId) :
    (manager.recordStart page).Represents content page .arriving :=
  ⟨mirrors.settled.arriving page, mirrors.contains.of_same (.recordStart _ _), trivial⟩

/-- A fault changes the content of no page, whatever becomes of it. -/
theorem Mirrors.fault {manager : Manager pageSize} {content : PageId → Bytes}
    (mirrors : manager.Mirrors content) (page : PageId) :
    (manager.fault page).2.Mirrors content := by
  have resolved := (mirrors.settled.path page).represents (mirrors.arriving page)
  refine ⟨mirrors.settled.fault page, resolved.contains.of_same ?_⟩
  exact SameContents.recordOutcome _ page _

end Manager

end DemandPaging
