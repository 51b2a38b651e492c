import DemandPaging.Proofs.FaultProgress
import DemandPaging.Proofs.SwapBound

/-!
# How faults end

After any run of calls, a fault ends in one of four ways, and each of them
determines what the manager is like then.  A fault that succeeds changes its
page, one frame and at most one other page.  A fault that fails either has
done nothing, or it has made a frame free.
-/

namespace DemandPaging

namespace Image

variable {pageSize : Nat}

/-- Why the initial content of a page cannot be produced, if it cannot. -/
def failure? (image : Image pageSize) (vpn : Nat) : Option SectionError :=
  match image.findSection vpn with
  | none => none
  | some (index, number) =>
    match image.loadPage index number with
    | .ok _ => none
    | .error error => some error

theorem failure?_of_loadPage {image : Image pageSize} {vpn index number : Nat}
    (located : image.findSection vpn = some (index, number)) :
    image.failure? vpn =
      match image.loadPage index number with
      | .ok _ => none
      | .error error => some error := by
  rw [failure?, located]

theorem failure?_of_uncovered {image : Image pageSize} {vpn : Nat}
    (located : image.findSection vpn = none) : image.failure? vpn = none := by
  rw [failure?, located]

/-- An image with one section, which can produce none of its pages. -/
def unproducible : Image pageSize where
  sectionCount := 1
  firstPage _ := 0
  pageCount _ := 1
  readOnly _ := false
  loadPage index _ := .error (.noSuchSection index)
  entryPoint := 0

end Image

namespace Manager

variable {pageSize : Nat}

section Causes

variable {manager : Manager pageSize} {page : PageId} {frame otherFrame : Nat}
  {victim? otherVictim? : Option PageId} {swap otherSwap : SwapArea PageId pageSize}
  {volume otherVolume : Volume} {victim otherVictim : PageId} {dirty otherDirty : Bool}

theorem Evicts.unique (first : manager.Evicts frame victim dirty)
    (second : manager.Evicts otherFrame otherVictim otherDirty) :
    otherFrame = frame ∧ otherVictim = victim ∧ otherDirty = dirty := by
  obtain rfl := Option.some.inj (second.chosen.symm.trans first.chosen)
  obtain rfl := Option.some.inj (second.owned.symm.trans first.owned)
  obtain ⟨entry, found, rfl⟩ := first.marked
  obtain ⟨_, foundAgain, rfl⟩ := second.marked
  obtain rfl := Except.ok.inj (found.symm.trans foundAgain)
  exact ⟨rfl, rfl, rfl⟩

theorem Full.not_free (full : manager.Full) (inside : frame < manager.numFrames)
    (free : manager.pool.isAllocated frame = false) : False := by
  rw [full frame inside] at free
  cases free

/-- There is one frame that a fault obtains. -/
theorem Obtains.unique (first : manager.Obtains frame victim? swap volume)
    (second : manager.Obtains otherFrame otherVictim? otherSwap otherVolume) :
    otherFrame = frame ∧ otherVictim? = victim? := by
  cases first with
  | free inside free lowest =>
    cases second with
    | free otherInside otherFree otherLowest =>
      rcases Nat.lt_trichotomy otherFrame frame with below | same | above
      · cases otherFree.symm.trans (lowest _ below)
      · exact ⟨same, rfl⟩
      · cases free.symm.trans (otherLowest _ above)
    | clean evicts | dirty evicts => exact (evicts.full.not_free inside free).elim
  | clean evicts | dirty evicts =>
    cases second with
    | free inside free => exact (evicts.full.not_free inside free).elim
    | clean others | dirty others =>
      obtain ⟨sameFrame, sameVictim, -⟩ := evicts.unique others
      exact ⟨sameFrame, congrArg some sameVictim⟩

/-- A fault that obtains a frame is not refused one. -/
theorem Obtains.not_refused {error : PagingError}
    (obtains : manager.Obtains frame victim? swap volume) (away : manager.place page = .ok none) :
    ¬manager.Refused page error := by
  intro refused
  cases refused with
  | missing missing =>
    obtain ⟨entry, found, -⟩ := place_eq_ok_iff.mp away
    cases missing.symm.trans found
  | exhausted _ full none =>
    cases obtains with
    | free inside free => exact full.not_free inside free
    | clean evicts | dirty evicts => cases none.symm.trans evicts.chosen
  | unsaved _ others failed =>
    cases obtains with
    | free inside free => exact others.full.not_free inside free
    | clean evicts => cases (evicts.unique others).2.2
    | dirty evicts done =>
      obtain ⟨rfl, rfl, -⟩ := evicts.unique others
      cases (Prod.mk.inj (done.symm.trans failed)).1

theorem Unfilled.obtains {error : PagingError}
    (unfilled : manager.Unfilled page frame victim? error) :
    manager.place page = .ok none ∧ ∃ swap volume, manager.Obtains frame victim? swap volume := by
  cases unfilled with
  | unread away obtains | unshown away obtains => exact ⟨away, _, _, obtains⟩

/-- What is supplied for a page is what it could be brought in from. -/
theorem Supplies.backing?_eq {source : ContentSource} {bytes : Bytes} {readOnly : Bool}
    (supplies : manager.Supplies page source bytes readOnly) :
    manager.backing? page = some bytes := by
  rw [backing?]
  cases supplies with
  | swap slotted stored => rw [stored]
  | executable slotless alive located shown =>
    simp [stored?, SwapArea.stored?, slotless, alive, Image.initialContent?, located, shown,
      Except.toOption]
  | zeroFill slotless alive located =>
    simp [stored?, SwapArea.stored?, slotless, alive, Image.initialContent?, located]

theorem Supplies.failure?_eq {source : ContentSource} {bytes : Bytes} {readOnly : Bool}
    {image : Image pageSize} (supplies : manager.Supplies page source bytes readOnly)
    (slotless : manager.swap.slotOf? page = none)
    (alive : manager.image? page.space = some image) : image.failure? page.vpn = none := by
  cases supplies with
  | swap slotted => cases slotless.symm.trans slotted
  | executable _ aliveToo located shown =>
    obtain rfl := Option.some.inj (alive.symm.trans aliveToo)
    rw [Image.failure?_of_loadPage located, shown]
  | zeroFill _ aliveToo located =>
    obtain rfl := Option.some.inj (alive.symm.trans aliveToo)
    exact Image.failure?_of_uncovered located

end Causes

section Faults

variable {manager before after : Manager pageSize} {content : PageId → Bytes} {page : PageId}
  {phase nextPhase : FaultPhase} {outcome : Except PagingError Resolution}

theorem PassesThrough.progress (path : PassesThrough page manager phase after nextPhase)
    (represents : manager.Represents content page phase) (mirrors : before.Mirrors content)
    (recoverable : before.Recoverable) (progress : Progress before manager page phase) :
    Progress before after page nextPhase := by
  induction path with
  | stay => exact progress
  | go path step ih => exact step.progress (path.represents represents) mirrors recoverable ih

theorem Ends.recordOutcome (ends : before.Ends page outcome after) :
    before.Ends page outcome (after.recordOutcome page outcome) := by
  cases ends with
  | resident placed same =>
    refine .resident placed ?_
    rw [same]
    rfl
  | loaded loads => exact .loaded { loads with
      toConfined := loads.toConfined.trans (.withBooks _ _ _ _ rfl) }
  | refused refused undone => exact .refused refused { undone with
      toSameSpaces := { undone.toSameSpaces with } }
  | givenUp unfilled givenUp => exact .givenUp unfilled { givenUp with
      toConfined := givenUp.toConfined.trans (.withBooks _ _ _ _ rfl) }

/-- Every fault follows the rules to its end. -/
theorem Mirrors.ends_fault (mirrors : manager.Mirrors content)
    (recoverable : manager.Recoverable) (page : PageId) :
    manager.Ends page (manager.fault page).1 (manager.fault page).2 := by
  have resolved : manager.Ends page _ _ := (mirrors.settled.path page).progress
    (mirrors.arriving page) mirrors recoverable rfl
  exact resolved.recordOutcome

end Faults

section Runs

variable {manager next before after : Manager pageSize} {page : PageId} {frame : Nat}
  {victim? : Option PageId}

theorem Recoverable.of_places (recoverable : manager.Recoverable)
    (places : ∀ page frame, next.place page = .ok (some frame) →
      manager.place page = .ok (some frame) ∧
        next.image? page.space = manager.image? page.space ∧
        (next.swap.slotOf? page = none → manager.swap.slotOf? page = none)) :
    next.Recoverable := by
  intro page frame placed slotless
  obtain ⟨before, image, slots⟩ := places page frame placed
  rw [image]
  exact recoverable page frame before (slots slotless)

theorem Undone.recoverable (undone : Undone before after) (recoverable : before.Recoverable) :
    after.Recoverable := by
  apply recoverable.of_places
  intro page frame placed
  rw [place_congr (undone.unmarkedEntry_eq page)] at placed
  exact ⟨placed, undone.image?_eq page.space, fun slotless => undone.slotOf?_eq page ▸ slotless⟩

/-- A page in a frame that a fault did not bring in was there before, with the
same slot. -/
theorem Confined.place_before {other : PageId} {otherFrame : Nat}
    (confined : Confined before after page frame victim?)
    (placed : after.place other = .ok (some otherFrame)) (differs : other ≠ page) :
    victim? ≠ some other ∧ before.place other = .ok (some otherFrame) := by
  have spared : victim? ≠ some other := by
    intro isVictim
    rw [place, (confined.left other isVictim).1] at placed
    cases found : before.entry other with
    | error error => simp [found, Except.map] at placed
    | ok entry => simp [found, Except.map] at placed
  refine ⟨spared, ?_⟩
  rwa [place_congr (confined.unmarkedEntry_eq other differs spared)] at placed

theorem Confined.recoverable (confined : Confined before after page frame victim?)
    (recoverable : before.Recoverable)
    (itself : ∀ other, after.place page = .ok (some other) →
      ∃ bytes, before.backing? page = some bytes) : after.Recoverable := by
  intro other otherFrame placed slotless
  rw [confined.image?_eq]
  by_cases same : other = page
  · subst same
    obtain ⟨bytes, backed⟩ := itself otherFrame placed
    rw [confined.slotOf?_eq other confined.apart] at slotless
    rw [backing?, stored?, SwapArea.stored?, slotless] at backed
    exact ⟨bytes, backed⟩
  · obtain ⟨spared, placedBefore⟩ := confined.place_before placed same
    rw [confined.slotOf?_eq other spared] at slotless
    exact recoverable other otherFrame placedBefore slotless

theorem Ends.recoverable {outcome : Except PagingError Resolution}
    (ends : before.Ends page outcome after) (recoverable : before.Recoverable) :
    after.Recoverable := by
  cases ends with
  | resident _ same =>
    rw [same]
    exact recoverable
  | loaded loads =>
    obtain ⟨entry, readOnly, -, -, supplies, -⟩ := loads.supplied
    exact loads.toConfined.recoverable recoverable fun _ _ => ⟨_, supplies.backing?_eq⟩
  | refused _ undone => exact undone.recoverable recoverable
  | givenUp _ givenUp =>
    apply givenUp.toConfined.recoverable recoverable
    intro other placed
    obtain ⟨entry, -, away, found⟩ := givenUp.entry_page
    have nowhere := place_of_away found away
    cases nowhere.symm.trans placed

theorem slotOf?_shutdown (manager : Manager pageSize) (page : PageId) :
    manager.shutdown.2.swap.slotOf? page = manager.swap.slotOf? page := by
  rw [Manager.shutdown]
  cases done : manager.swap.close manager.volume.takeTrouble.2 manager.volume.takeTrouble.1 with
  | mk outcome rest =>
    obtain ⟨swap, volume⟩ := rest
    rcases (SwapArea.of_close_eq done).1 with rfl | rfl
    · simp only [done]
    · simp only [done]
      rfl

/-- What faults rely on at any moment between two calls: the pages have some
contents, and every page in a frame could be brought in again. -/
structure Dependable (manager : Manager pageSize) : Prop where
  mirrors : ∃ content, manager.Mirrors content
  recoverable : manager.Recoverable

theorem keeps_dependable : Keeps (Dependable : Manager pageSize → Prop) := by
  rintro manager next part ⟨⟨content, mirrors⟩, recoverable⟩
  refine ⟨keeps_mirrors _ _ part ⟨content, mirrors⟩, ?_⟩
  cases part with
  | fault page => exact (mirrors.ends_fault recoverable page).recoverable recoverable
  | look _ looked =>
    apply recoverable.of_places
    intro page frame placed
    rw [(sameAccounts_accessResident? looked).place_eq] at placed
    refine ⟨placed, (sameSpaces_accessResident? looked).image?_eq _, fun slotless => ?_⟩
    rwa [swap_accessResident? looked] at slotless
  | createSpace numPages image =>
    apply recoverable.of_places
    intro page frame placed
    have old := (place_createSpace_eq_some_iff mirrors.settled).mp placed
    obtain ⟨entry, found, -⟩ := place_eq_ok_iff.mp old
    have differs : page.space ≠ manager.nextSpace := by
      intro same
      have absent := spaces_eq_none_of_nextSpace_le mirrors.settled (Nat.le_of_eq same.symm)
      rw [Manager.entry, absent] at found
      cases found
    exact ⟨old, image?_createSpace.trans (if_neg differs), id⟩
  | destroySpace space =>
    rcases mirrors.settled.destroySpace_eq space with ⟨-, done⟩ | ⟨frames, pool, done⟩
    · rw [done]
      exact recoverable
    · rw [done]
      apply recoverable.of_places
      intro page frame placed
      obtain ⟨differs, before⟩ := (place_of_spaces_eq_erase rfl _).mp placed
      refine ⟨before, ?_, fun slotless => ?_⟩
      · rw [image?, image?, find?_spaces_without, if_neg differs]
      · rwa [slotOf?_without, if_neg differs] at slotless
  | shutdown =>
    apply recoverable.of_places
    intro page frame placed
    exact ⟨placed, rfl, fun slotless => manager.slotOf?_shutdown page ▸ slotless⟩

theorem Dependable.withLog (dependable : manager.Dependable) (log : EventLog) :
    Dependable { manager with log := log } := by
  obtain ⟨⟨content, mirrors⟩, recoverable⟩ := dependable
  exact ⟨⟨content, mirrors.withLog log⟩, recoverable⟩

theorem Dependable.afterCalls (dependable : manager.Dependable)
    (calls : List (ManagerCall pageSize)) : (manager.afterCalls calls).Dependable :=
  keeps_dependable.afterCalls (fun _ log dependable => dependable.withLog log) dependable calls

theorem dependable_start {config : Configuration} {volume : Volume}
    (started : Manager.start config volume = .ok manager) : manager.Dependable := by
  refine ⟨⟨_, (follows_start started).mirrors⟩, ?_⟩
  obtain ⟨memory, swap, opened, -, -, rfl⟩ := of_start_eq_ok started
  intro page frame placed
  cases placed

theorem Dependable.ends_fault (dependable : manager.Dependable) (page : PageId) :
    manager.Ends page (manager.fault page).1 (manager.fault page).2 := by
  obtain ⟨⟨content, mirrors⟩, recoverable⟩ := dependable
  exact mirrors.ends_fault recoverable page

end Runs

section Succeeding

variable {before after : Manager pageSize} {page : PageId} {frame : Nat}
  {outcome : Except PagingError Resolution}

theorem Refused.place_ne {error : PagingError} (refused : before.Refused page error) :
    before.place page ≠ .ok (some frame) := by
  intro placed
  cases refused with
  | missing missing =>
    obtain ⟨entry, found, -⟩ := place_eq_ok_iff.mp placed
    cases missing.symm.trans found
  | exhausted away | unsaved away => cases away.symm.trans placed

theorem Ends.of_resident (ends : before.Ends page outcome after)
    (placed : before.place page = .ok (some frame)) :
    outcome = .ok (.alreadyResident frame) ∧
      after = { before with
        log := after.log
        statistics := before.statistics.bump .pageFault } := by
  cases ends with
  | resident there same =>
    obtain rfl := Option.some.inj (Except.ok.inj (placed.symm.trans there))
    exact ⟨rfl, same⟩
  | loaded loads =>
    obtain ⟨entry, -, found, away, -⟩ := loads.supplied
    have nowhere := place_of_away found away
    cases nowhere.symm.trans placed
  | refused refused => exact absurd placed refused.place_ne
  | givenUp unfilled => cases unfilled.obtains.1.symm.trans placed

theorem Ends.of_away {resolution : Resolution} (ends : before.Ends page (.ok resolution) after)
    (away : before.place page = .ok none) :
    ∃ frame victim? source, resolution = .loaded frame source ∧
      Loads before after page frame victim? source := by
  cases ends with
  | resident placed => cases away.symm.trans placed
  | loaded loads => exact ⟨_, _, _, rfl, loads⟩

/-- With a free frame, all that can go wrong for a page without a slot is that
its section cannot produce it. -/
theorem Ends.of_free {image : Image pageSize} (ends : before.Ends page outcome after)
    (away : before.place page = .ok none) (slotless : before.swap.slotOf? page = none)
    (alive : before.image? page.space = some image) (inside : frame < before.numFrames)
    (free : before.pool.isAllocated frame = false) :
    (image.failure? page.vpn = none ∧ ∃ taken source, outcome = .ok (.loaded taken source) ∧
      before.pool.isAllocated taken = false ∧ Loads before after page taken none source) ∨
    ∃ error taken, image.failure? page.vpn = some error ∧ outcome = .error (.image error) ∧
      before.pool.isAllocated taken = false ∧ GivenUp before after page taken none := by
  have obtained : ∀ {taken victim? swap volume}, before.Obtains taken victim? swap volume →
      victim? = none ∧ before.pool.isAllocated taken = false := by
    intro taken victim? swap volume obtains
    cases obtains with
    | free _ free _ => exact ⟨rfl, free⟩
    | clean evicts | dirty evicts => exact (evicts.full.not_free inside free).elim
  cases ends with
  | resident placed => cases away.symm.trans placed
  | @loaded taken victim? source _ loads =>
    obtain ⟨volume, obtains⟩ := loads.obtained
    obtain ⟨rfl, taken⟩ := obtained obtains
    obtain ⟨_, _, -, -, supplies, -⟩ := loads.supplied
    exact .inl ⟨supplies.failure?_eq slotless alive, _, _, rfl, taken, loads⟩
  | refused refused =>
    cases refused with
    | missing missing =>
      obtain ⟨entry, found, -⟩ := place_eq_ok_iff.mp away
      cases missing.symm.trans found
    | exhausted _ full => exact (full.not_free inside free).elim
    | unsaved _ evicts => exact (evicts.full.not_free inside free).elim
  | givenUp unfilled givenUp =>
    obtain ⟨-, _, _, obtains⟩ := unfilled.obtains
    obtain ⟨rfl, taken⟩ := obtained obtains
    cases unfilled with
    | unread _ _ slotted => cases slotless.symm.trans slotted
    | unshown _ _ _ aliveToo located shown =>
      obtain rfl := Option.some.inj (alive.symm.trans aliveToo)
      refine .inr ⟨_, _, ?_, rfl, taken, givenUp⟩
      rw [Image.failure?_of_loadPage located, shown]

end Succeeding

/-- What a fault does if it succeeds. -/
structure FaultExact (manager : Manager pageSize) (page : PageId) : Prop where
  resident : ∀ entry, manager.entry page = .ok entry → entry.valid = true →
    (manager.fault page).1 = .ok (.alreadyResident entry.frame) ∧
      (manager.fault page).2 = { manager with
        log := (manager.fault page).2.log
        statistics := manager.statistics.bump .pageFault }
  loads : ∀ entry resolution, manager.entry page = .ok entry → entry.valid = false →
    (manager.fault page).1 = .ok resolution →
      ∃ frame victim? source, resolution = .loaded frame source ∧
        Loads manager (manager.fault page).2 page frame victim? source

/-- After every run, whatever failed in it, a fault on a page in a frame does
nothing, and a fault on another page that succeeds brings exactly this page
into the frame that the rules say. -/
theorem faultExact_afterCalls {config : Configuration} {volume : Volume}
    {manager : Manager pageSize} (started : Manager.start config volume = .ok manager)
    (calls : List (ManagerCall pageSize)) (page : PageId) :
    (manager.afterCalls calls).FaultExact page := by
  have ends := ((dependable_start started).afterCalls calls).ends_fault page
  constructor
  case resident =>
    intro entry found valid
    apply ends.of_resident
    exact place_eq_ok_iff.mpr ⟨entry, found, PageEntry.frame?_eq_some_iff.mpr ⟨valid, rfl⟩⟩
  case loads =>
    intro entry resolution found away done
    rw [done] at ends
    apply ends.of_away
    exact place_eq_ok_iff.mpr ⟨entry, found, PageEntry.frame?_eq_none_iff.mpr away⟩

/-- A written page has to leave the only frame for another one. -/
theorem faultExact_afterCalls_evict :
    ∃ manager : Manager 4, Manager.start { numFrames := 1 } {} = .ok manager ∧
      (manager.afterCalls [
        .createSpace 2 (Program.synthetic 0 0).image,
        .fault ⟨1, 0⟩,
        .look ⟨1, 0⟩ 0 (.write #[7]) (by decide)]).FaultExact ⟨1, 1⟩ := by
  obtain ⟨manager, started⟩ := exists_start_eq_ok { numFrames := 1 } {}
    (by decide : Nat.isPowerOfTwo 4) checkPath_swapFile
  exact ⟨manager, started, faultExact_afterCalls started _ _⟩

/-- What a fault that ended with `error` has left behind: nothing at all if it
obtained no frame, and a free frame if it did. -/
structure FaultUndone (manager : Manager pageSize) (page : PageId) (error : PagingError) :
    Prop where
  cause : manager.Refused page error ∨
    ∃ frame victim?, manager.Unfilled page frame victim? error
  refused : manager.Refused page error → Undone manager (manager.fault page).2
  unfilled : ∀ frame victim?, manager.Unfilled page frame victim? error →
    GivenUp manager (manager.fault page).2 page frame victim?
  pinnedCount_eq : (manager.fault page).2.frames.pinnedCount = 0
  inTransit_eq : (manager.fault page).2.inTransit.entries = []

/-- After every run, whatever failed in it, a fault that fails is undone. -/
theorem faultUndone_afterCalls {config : Configuration} {volume : Volume}
    {manager : Manager pageSize} (started : Manager.start config volume = .ok manager)
    (calls : List (ManagerCall pageSize)) (page : PageId) {error : PagingError}
    (failed : ((manager.afterCalls calls).fault page).1 = .error error) :
    (manager.afterCalls calls).FaultUndone page error := by
  have dependable := (dependable_start started).afterCalls calls
  have ends := dependable.ends_fault page
  obtain ⟨⟨content, mirrors⟩, -⟩ := dependable
  obtain ⟨-, -, -, loose, still, -⟩ := (mirrors.settled.fault page).ownershipExact
  rw [failed] at ends
  cases ends with
  | refused refused undone =>
    refine ⟨.inl refused, fun _ => undone, fun frame victim? unfilled => ?_, loose, still⟩
    obtain ⟨away, swap, volume, obtains⟩ := unfilled.obtains
    exact absurd refused (obtains.not_refused away)
  | givenUp unfilled givenUp =>
    obtain ⟨away, swap, volume, obtains⟩ := unfilled.obtains
    refine ⟨.inr ⟨_, _, unfilled⟩, fun refused => absurd refused (obtains.not_refused away),
      fun frame victim? others => ?_, loose, still⟩
    obtain ⟨-, _, _, obtainsToo⟩ := others.obtains
    obtain ⟨rfl, rfl⟩ := obtains.unique obtainsToo
    exact givenUp

/-- A section that cannot produce its only page. -/
theorem faultUndone_afterCalls_unproducible :
    ∃ manager : Manager 4, Manager.start { numFrames := 1 } {} = .ok manager ∧
      ((manager.afterCalls [.createSpace 1 .unproducible]).fault ⟨1, 0⟩).1 =
        .error (.image (.noSuchSection 0)) ∧
      (manager.afterCalls [.createSpace 1 .unproducible]).FaultUndone ⟨1, 0⟩
        (.image (.noSuchSection 0)) := by
  obtain ⟨manager, started⟩ := exists_start_eq_ok { numFrames := 1 } {}
    (by decide : Nat.isPowerOfTwo 4) checkPath_swapFile
  have failed : ((manager.afterCalls [.createSpace 1 .unproducible]).fault ⟨1, 0⟩).1 =
      .error (.image (.noSuchSection 0)) := by
    have ends := ((dependable_start started).afterCalls
      [.createSpace 1 .unproducible]).ends_fault ⟨1, 0⟩
    have away := @place_createSpace_new _ manager 1 .unproducible 0 Nat.zero_lt_one
    obtain ⟨memory, swap, opened, -, done, rfl⟩ := of_start_eq_ok started
    have slotless := SwapArea.slotOf?_of_empty (SwapArea.bindings_openNamed done).1 ⟨1, 0⟩
    rcases ends.of_free away slotless rfl Nat.zero_lt_one
        (FramePool.isAllocated_allFree 1 0) with ⟨produced, -⟩ | ⟨error, taken, failure, same, -⟩
    · cases produced
    · obtain rfl := Option.some.inj failure
      exact same
  exact ⟨manager, started, failed, faultUndone_afterCalls started _ _ failed⟩

end Manager

end DemandPaging
