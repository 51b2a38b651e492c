import DemandPaging.Manager.Space
import Mathlib.Logic.Function.Basic

/-!
# The accounting of frames

Where a page is kept is written down in four places: in the entry of the page,
as the owner of the frame, in the pool of free frames, and, while a fault holds
the frame, as its pin.  This module says how the four agree while any number of
faults are under way, and shows that they still agree when a fault takes hold
of a frame, when its victim is written to swap, when it lets go of the frame,
and when spaces come and go.
-/

namespace DemandPaging

/-- What a fault under way holds on to. -/
structure Holding where
  frame : Nat
  page : PageId
  /-- The page that left the frame, as long as it is on its way to swap. -/
  victim : Option PageId := none

namespace Holding

/-- Whether a page is in transit on account of this fault. -/
def Moves (holding : Holding) (page : PageId) : Prop :=
  page = holding.page ∨ holding.victim = some page

instance (holding : Holding) (page : PageId) : Decidable (holding.Moves page) :=
  inferInstanceAs (Decidable (_ ∨ _))

end Holding

/-- Whether some fault holds something of which `fact` is true; `holdings`
tells for every thread what its fault holds. -/
def Holds (holdings : Nat → Option Holding) (fact : Holding → Prop) : Prop :=
  ∃ thread holding, holdings thread = some holding ∧ fact holding

section Holds

variable {holdings : Nat → Option Holding} {thread : Nat} {holding : Holding}
  {fact : Holding → Prop}

theorem holds_update_some_iff :
    Holds (Function.update holdings thread (some holding)) fact ↔
      fact holding ∨ Holds (Function.update holdings thread none) fact := by
  simp only [Holds, Function.exists_update_iff holdings
    (p := fun _ held => ∃ holding, held = some holding ∧ fact holding)]
  simp

theorem holds_iff_of_held (held : holdings thread = some holding) :
    Holds holdings fact ↔ fact holding ∨ Holds (Function.update holdings thread none) fact := by
  rw [← holds_update_some_iff, ← held, Function.update_eq_self]

theorem holds_update_none_iff :
    Holds (Function.update holdings thread none) fact ↔
      ∃ other holding, other ≠ thread ∧ holdings other = some holding ∧ fact holding := by
  simp only [Holds, Function.exists_update_iff holdings
    (p := fun _ held => ∃ holding, held = some holding ∧ fact holding)]
  grind

end Holds

namespace PageEntry

/-- The frame of the page, if the page is in one. -/
def frame? (entry : PageEntry) : Option Nat :=
  if entry.valid then some entry.frame else none

@[simp]
theorem frame?_invalidate (entry : PageEntry) : entry.invalidate.frame? = none :=
  rfl

theorem frame?_eq_some_iff {entry : PageEntry} {frame : Nat} :
    entry.frame? = some frame ↔ entry.valid = true ∧ entry.frame = frame := by
  rw [frame?]
  split <;> simp_all

theorem frame?_eq_none_iff {entry : PageEntry} : entry.frame? = none ↔ entry.valid = false := by
  rw [frame?]
  split <;> simp_all

end PageEntry

namespace Manager

variable {pageSize : Nat}

/-- The frame of a page, if the page is in one; an error if there is no such
page. -/
def place (manager : Manager pageSize) (page : PageId) : Except PagingError (Option Nat) :=
  (manager.entry page).map PageEntry.frame?

theorem place_eq_ok_iff {manager : Manager pageSize} {page : PageId} {frame? : Option Nat} :
    manager.place page = .ok frame? ↔
      ∃ entry, manager.entry page = .ok entry ∧ entry.frame? = frame? := by
  rw [place]
  cases manager.entry page with
  | error error => simp [Except.map]
  | ok entry => simp [Except.map]

theorem place_of_valid {manager : Manager pageSize} {page : PageId} {entry : PageEntry}
    (found : manager.entry page = .ok entry) (valid : entry.valid = true) :
    manager.place page = .ok (some entry.frame) :=
  place_eq_ok_iff.mpr ⟨entry, found, PageEntry.frame?_eq_some_iff.mpr ⟨valid, rfl⟩⟩

theorem place_of_away {manager : Manager pageSize} {page : PageId} {entry : PageEntry}
    (found : manager.entry page = .ok entry) (away : entry.valid = false) :
    manager.place page = .ok none :=
  place_eq_ok_iff.mpr ⟨entry, found, PageEntry.frame?_eq_none_iff.mpr away⟩

theorem place_modifyEntry {manager : Manager pageSize} {page other : PageId}
    {change : PageEntry → PageEntry} {entry : PageEntry}
    (found : manager.entry page = .ok entry) :
    (manager.modifyEntry page change).place other =
      if other = page then .ok (change entry).frame? else manager.place other := by
  rw [place, entry_modifyEntry]
  split
  · rename_i same
    rw [same, found]
    rfl
  · rfl

theorem place_modifyEntry_of_keeps {manager : Manager pageSize} {page : PageId}
    {change : PageEntry → PageEntry} (keeps : ∀ entry, (change entry).frame? = entry.frame?)
    (other : PageId) : (manager.modifyEntry page change).place other = manager.place other := by
  rw [place, place, entry_modifyEntry]
  split
  · cases manager.entry other with
    | error error => rfl
    | ok entry => exact congrArg Except.ok (keeps entry)
  · rfl

/-- The accounting of frames while the threads hold what `holdings` says. -/
structure Accounted (manager : Manager pageSize) (holdings : Nat → Option Holding) : Prop where
  size_frames : manager.frames.size = manager.pool.numFrames
  numFrames_memory : manager.memory.numFrames = manager.pool.numFrames
  /-- No space is kept twice. -/
  nodup_spaces : manager.spaces.keys.Nodup
  /-- The next space gets a number that none has had before. -/
  space_lt : ∀ space ∈ manager.spaces.keys, space < manager.nextSpace
  /-- A frame belongs to the page whose entry names it. -/
  owner_iff : ∀ frame page,
    manager.frames.owner? frame = some page ↔ manager.place page = .ok (some frame)
  /-- A frame is taken if a page is in it or a fault holds it. -/
  allocated_iff : ∀ frame, manager.pool.isAllocated frame = true ↔
    (∃ page, manager.frames.owner? frame = some page) ∨ manager.frames.isPinned frame = true
  /-- A frame is pinned if a fault holds it. -/
  pinned_iff : ∀ frame, manager.frames.isPinned frame = true ↔
    Holds holdings fun holding => holding.frame = frame
  /-- A page is in transit if a fault moves it. -/
  transit_iff : ∀ page frame, manager.inTransit.find? page = some frame ↔
    Holds holdings fun holding => holding.frame = frame ∧ holding.Moves page
  /-- No page is in a frame that is held. -/
  vacant : ∀ thread holding, holdings thread = some holding →
    manager.frames.owner? holding.frame = none
  /-- A page that is moved exists and is in no frame. -/
  away : ∀ thread holding page, holdings thread = some holding → holding.Moves page →
    manager.place page = .ok none
  /-- A fault does not evict the page it brings in. -/
  victim_ne : ∀ thread holding, holdings thread = some holding →
    holding.victim ≠ some holding.page
  /-- No two faults hold the same frame. -/
  exclusive : ∀ first second firstHolding secondHolding,
    holdings first = some firstHolding → holdings second = some secondHolding →
    firstHolding.frame = secondHolding.frame → first = second

/-- Two managers of the same frames and the same spaces. -/
structure SameShape (first second : Manager pageSize) : Prop where
  numFrames_pool : second.pool.numFrames = first.pool.numFrames
  size_frames : second.frames.size = first.frames.size
  numFrames_memory : second.memory.numFrames = first.memory.numFrames
  keys_spaces : second.spaces.keys = first.spaces.keys
  nextSpace_eq : second.nextSpace = first.nextSpace

/-- Two managers that keep the same accounts of frames; used marks, the bytes
of the memory, the swap area and whatever else is not about the place of a page
may differ. -/
structure SameAccounts (first second : Manager pageSize) : Prop
    extends SameShape first second where
  isAllocated_eq : ∀ frame, second.pool.isAllocated frame = first.pool.isAllocated frame
  owner?_eq : ∀ frame, second.frames.owner? frame = first.frames.owner? frame
  isPinned_eq : ∀ frame, second.frames.isPinned frame = first.frames.isPinned frame
  inTransit_eq : ∀ page, second.inTransit.find? page = first.inTransit.find? page
  place_eq : ∀ page, second.place page = first.place page

/-- A fault takes hold of a frame; the page that was in it, if any, leaves
it. -/
structure TakesHold (first second : Manager pageSize) (holding : Holding) : Prop
    extends SameShape first second where
  isAllocated_iff : ∀ frame, second.pool.isAllocated frame = true ↔
    frame = holding.frame ∨ first.pool.isAllocated frame = true
  owner?_eq : ∀ frame, second.frames.owner? frame =
    if frame = holding.frame then none else first.frames.owner? frame
  isPinned_eq : ∀ frame, second.frames.isPinned frame =
    if frame = holding.frame then true else first.frames.isPinned frame
  inTransit_eq : ∀ page, second.inTransit.find? page =
    if holding.Moves page then some holding.frame else first.inTransit.find? page
  place_eq : ∀ page, second.place page =
    if first.frames.owner? holding.frame = some page then .ok none else first.place page

/-- A fault lets go of its frame, in which the page `resident?` is then; without
a page the frame becomes free. -/
structure LetsGo (first second : Manager pageSize) (holding : Holding)
    (resident? : Option PageId) : Prop extends SameShape first second where
  isAllocated_iff : ∀ frame, second.pool.isAllocated frame = true ↔
    (frame = holding.frame → resident?.isSome = true) ∧ first.pool.isAllocated frame = true
  owner?_eq : ∀ frame, second.frames.owner? frame =
    if frame = holding.frame then resident? else first.frames.owner? frame
  isPinned_eq : ∀ frame, second.frames.isPinned frame =
    if frame = holding.frame then false else first.frames.isPinned frame
  inTransit_eq : ∀ page, second.inTransit.find? page =
    if holding.Moves page then none else first.inTransit.find? page
  place_eq : ∀ page, second.place page =
    if resident? = some page then .ok (some holding.frame) else first.place page

namespace SameAccounts

theorem refl (manager : Manager pageSize) : SameAccounts manager manager :=
  ⟨⟨rfl, rfl, rfl, rfl, rfl⟩, fun _ => rfl, fun _ => rfl, fun _ => rfl, fun _ => rfl, fun _ => rfl⟩

theorem trans {first second third : Manager pageSize} (left : SameAccounts first second)
    (right : SameAccounts second third) : SameAccounts first third where
  numFrames_pool := right.numFrames_pool.trans left.numFrames_pool
  size_frames := right.size_frames.trans left.size_frames
  numFrames_memory := right.numFrames_memory.trans left.numFrames_memory
  keys_spaces := right.keys_spaces.trans left.keys_spaces
  nextSpace_eq := right.nextSpace_eq.trans left.nextSpace_eq
  isAllocated_eq frame := (right.isAllocated_eq frame).trans (left.isAllocated_eq frame)
  owner?_eq frame := (right.owner?_eq frame).trans (left.owner?_eq frame)
  isPinned_eq frame := (right.isPinned_eq frame).trans (left.isPinned_eq frame)
  inTransit_eq page := (right.inTransit_eq page).trans (left.inTransit_eq page)
  place_eq page := (right.place_eq page).trans (left.place_eq page)

end SameAccounts

namespace Accounted

variable {manager next : Manager pageSize} {holdings : Nat → Option Holding} {thread : Nat}

/-- A page in transit is in no frame. -/
theorem not_inTransit {page : PageId} (accounted : manager.Accounted holdings)
    (apart : ∀ thread holding, holdings thread = some holding → ¬holding.Moves page) :
    manager.inTransit.find? page = none := by
  rw [Option.eq_none_iff_forall_ne_some]
  intro frame found
  obtain ⟨other, holding, held, -, moves⟩ := (accounted.transit_iff page frame).mp found
  exact apart other holding held moves

theorem owner?_of_frame? {page : PageId} {entry : PageEntry} {frame : Nat}
    (accounted : manager.Accounted holdings) (found : manager.entry page = .ok entry)
    (placed : entry.frame? = some frame) : manager.frames.owner? frame = some page :=
  (accounted.owner_iff frame page).mpr (place_eq_ok_iff.mpr ⟨entry, found, placed⟩)

/-- No page is in two frames. -/
theorem eq_of_owner?_eq {page : PageId} {first second : Nat}
    (accounted : manager.Accounted holdings) (firstOwned : manager.frames.owner? first = some page)
    (secondOwned : manager.frames.owner? second = some page) : first = second := by
  have placed := (accounted.owner_iff first page).mp firstOwned
  rw [(accounted.owner_iff second page).mp secondOwned] at placed
  exact (Option.some.inj (Except.ok.inj placed)).symm

/-- No frame holds two pages. -/
theorem eq_of_place_eq {first second : PageId} {frame : Nat}
    (accounted : manager.Accounted holdings) (firstPlace : manager.place first = .ok (some frame))
    (secondPlace : manager.place second = .ok (some frame)) : first = second := by
  have firstOwner := (accounted.owner_iff frame first).mpr firstPlace
  have secondOwner := (accounted.owner_iff frame second).mpr secondPlace
  exact Option.some.inj (firstOwner.symm.trans secondOwner)

/-- A frame with a page in it is not held. -/
theorem isPinned_eq_false {page : PageId} {frame : Nat} (accounted : manager.Accounted holdings)
    (owned : manager.frames.owner? frame = some page) :
    manager.frames.isPinned frame = false := by
  rw [← Bool.not_eq_true, accounted.pinned_iff]
  rintro ⟨thread, holding, held, rfl⟩
  rw [accounted.vacant thread holding held] at owned
  cases owned

theorem of_free {frame : Nat} (accounted : manager.Accounted holdings)
    (free : manager.pool.isAllocated frame = false) :
    manager.frames.owner? frame = none ∧ manager.frames.isPinned frame = false := by
  have allocated := accounted.allocated_iff frame
  rw [free] at allocated
  constructor
  · rw [Option.eq_none_iff_forall_ne_some]
    intro page owned
    exact Bool.false_ne_true (allocated.mpr (.inl ⟨page, owned⟩))
  · rw [← Bool.not_eq_true]
    intro pinned
    exact Bool.false_ne_true (allocated.mpr (.inr pinned))

theorem of_same (accounted : manager.Accounted holdings) (same : SameAccounts manager next) :
    next.Accounted holdings where
  size_frames := by rw [same.size_frames, same.numFrames_pool, accounted.size_frames]
  numFrames_memory := by
    rw [same.numFrames_memory, same.numFrames_pool, accounted.numFrames_memory]
  nodup_spaces := same.keys_spaces ▸ accounted.nodup_spaces
  space_lt := by
    rw [same.keys_spaces, same.nextSpace_eq]
    exact accounted.space_lt
  owner_iff frame page := by
    rw [same.owner?_eq, same.place_eq]
    exact accounted.owner_iff frame page
  allocated_iff frame := by
    rw [same.isAllocated_eq, same.owner?_eq, same.isPinned_eq]
    exact accounted.allocated_iff frame
  pinned_iff frame := by
    rw [same.isPinned_eq]
    exact accounted.pinned_iff frame
  transit_iff page frame := by
    rw [same.inTransit_eq]
    exact accounted.transit_iff page frame
  vacant thread holding held := by
    rw [same.owner?_eq]
    exact accounted.vacant thread holding held
  away thread holding page held moves := by
    rw [same.place_eq]
    exact accounted.away thread holding page held moves
  victim_ne := accounted.victim_ne
  exclusive := accounted.exclusive

theorem frame_ne_of_loose {frame : Nat} {held : Holding} (accounted : manager.Accounted holdings)
    (loose : manager.frames.isPinned frame = false) (heldBy : holdings thread = some held) :
    held.frame ≠ frame := by
  intro same
  have pinned := (accounted.pinned_iff frame).mpr ⟨thread, held, heldBy, same⟩
  rw [loose] at pinned
  cases pinned

theorem not_moves_of_still {page : PageId} {held : Holding} (accounted : manager.Accounted holdings)
    (still : manager.inTransit.find? page = none) (heldBy : holdings thread = some held) :
    ¬held.Moves page := by
  intro moves
  have found := (accounted.transit_iff page held.frame).mpr ⟨thread, held, heldBy, rfl, moves⟩
  rw [still] at found
  cases found

theorem not_moves_of_owner {page : PageId} {frame : Nat} {held : Holding}
    (accounted : manager.Accounted holdings)
    (owned : manager.frames.owner? frame = some page) (heldBy : holdings thread = some held) :
    ¬held.Moves page := by
  intro moves
  have placed := (accounted.owner_iff frame page).mp owned
  rw [accounted.away thread held page heldBy moves] at placed
  cases placed

/-- A fault may take hold of a frame that no fault holds, for a page that is in
no frame and that no fault moves. -/
theorem hold {holding : Holding} (accounted : manager.Accounted holdings)
    (idle : holdings thread = none) (takes : TakesHold manager next holding)
    (loose : manager.frames.isPinned holding.frame = false)
    (away : manager.place holding.page = .ok none)
    (still : manager.inTransit.find? holding.page = none)
    (leaves : ∀ victim, holding.victim = some victim →
      manager.frames.owner? holding.frame = some victim) :
    next.Accounted (Function.update holdings thread (some holding)) := by
  have apart : ∀ other held, holdings other = some held → held.frame ≠ holding.frame :=
    fun _ _ heldBy => accounted.frame_ne_of_loose loose heldBy
  have unmoved : ∀ other held page, holdings other = some held → held.Moves page →
      ¬holding.Moves page := by
    intro other held page heldBy moves movesToo
    rcases movesToo with rfl | evicted
    · exact accounted.not_moves_of_still still heldBy moves
    · exact accounted.not_moves_of_owner (leaves page evicted) heldBy moves
  have stays : ∀ page, holding.Moves page → manager.inTransit.find? page = none := by
    intro page moves
    exact accounted.not_inTransit fun other held heldBy movesToo =>
      unmoved other held page heldBy movesToo moves
  have differs : holding.victim ≠ some holding.page := by
    intro same
    have owned := (accounted.owner_iff _ _).mp (leaves holding.page same)
    rw [away] at owned
    cases owned
  have base : Function.update holdings thread none = holdings := by
    rw [← idle, Function.update_eq_self]
  -- Each account changes at the frame and the pages of `holding` only, and what
  -- the other threads hold is apart from those.
  constructor
  case size_frames => rw [takes.size_frames, takes.numFrames_pool, accounted.size_frames]
  case numFrames_memory =>
    rw [takes.numFrames_memory, takes.numFrames_pool, accounted.numFrames_memory]
  case nodup_spaces => exact takes.keys_spaces ▸ accounted.nodup_spaces
  case space_lt =>
    rw [takes.keys_spaces, takes.nextSpace_eq]
    exact accounted.space_lt
  case owner_iff =>
    intro frame page
    have owned := accounted.owner_iff frame page
    have left := accounted.owner_iff holding.frame page
    rw [takes.owner?_eq, takes.place_eq]
    grind
  case allocated_iff =>
    intro frame
    have allocated := accounted.allocated_iff frame
    rw [takes.isAllocated_iff, takes.owner?_eq, takes.isPinned_eq]
    grind
  case pinned_iff =>
    intro frame
    rw [takes.isPinned_eq, holds_update_some_iff, base, ← accounted.pinned_iff]
    grind
  case transit_iff =>
    intro page frame
    rw [takes.inTransit_eq, holds_update_some_iff, base, ← accounted.transit_iff]
    have stayed := stays page
    grind
  case vacant =>
    intro other held
    rw [takes.owner?_eq]
    grind [accounted.vacant]
  case away =>
    intro other held page
    rw [takes.place_eq]
    grind [accounted.away, Holding.Moves]
  case victim_ne =>
    intro other held
    grind [accounted.victim_ne]
  case exclusive =>
    intro first second firstHeld secondHeld
    grind [accounted.exclusive]

theorem eq_of_moves {first second : Nat} {firstHolding secondHolding : Holding} {page : PageId}
    (accounted : manager.Accounted holdings) (firstHeld : holdings first = some firstHolding)
    (secondHeld : holdings second = some secondHolding) (firstMoves : firstHolding.Moves page)
    (secondMoves : secondHolding.Moves page) : first = second := by
  have firstFound := (accounted.transit_iff page firstHolding.frame).mpr
    ⟨first, firstHolding, firstHeld, rfl, firstMoves⟩
  have secondFound := (accounted.transit_iff page secondHolding.frame).mpr
    ⟨second, secondHolding, secondHeld, rfl, secondMoves⟩
  rw [firstFound] at secondFound
  exact accounted.exclusive first second _ _ firstHeld secondHeld (Option.some.inj secondFound)

theorem frame_not_held_apart {holding : Holding} (accounted : manager.Accounted holdings)
    (held : holdings thread = some holding) :
    ¬Holds (Function.update holdings thread none) fun other => other.frame = holding.frame := by
  rw [holds_update_none_iff]
  rintro ⟨other, otherHolding, differs, otherHeld, same⟩
  exact differs (accounted.exclusive other thread _ _ otherHeld held same)

theorem page_not_moved_apart {holding : Holding} {page : PageId}
    (accounted : manager.Accounted holdings) (held : holdings thread = some holding)
    (moves : holding.Moves page) (frame : Nat) :
    ¬Holds (Function.update holdings thread none) fun other =>
      other.frame = frame ∧ other.Moves page := by
  rw [holds_update_none_iff]
  rintro ⟨other, otherHolding, differs, otherHeld, -, movesToo⟩
  exact differs (accounted.eq_of_moves otherHeld held movesToo moves)

/-- A victim that was written to swap is no longer in transit. -/
theorem land {holding : Holding} {victim : PageId} (accounted : manager.Accounted holdings)
    (held : holdings thread = some holding) (moved : holding.victim = some victim) :
    Accounted { manager with inTransit := manager.inTransit.erase victim }
      (Function.update holdings thread (some { holding with victim := none })) := by
  have differs : victim ≠ holding.page := by
    intro same
    exact accounted.victim_ne thread holding held (same ▸ moved)
  refine { accounted with
    pinned_iff := fun frame => ?pinned, transit_iff := fun page frame => ?transit
    vacant := fun other held' => ?vacant, away := fun other held' page => ?away
    victim_ne := fun other held' => ?victim, exclusive := fun first second _ _ => ?exclusive }
  case pinned =>
    rw [accounted.pinned_iff, holds_update_some_iff, holds_iff_of_held held]
  case transit =>
    have before := accounted.transit_iff page frame
    rw [holds_iff_of_held held] at before
    rw [holds_update_some_iff]
    by_cases same : page = victim
    · have apart := accounted.page_not_moved_apart held (.inr moved) frame
      have stopped : ¬{ holding with victim := none }.Moves victim := by
        simp [Holding.Moves, differs]
      subst page
      simp [stopped, apart]
    · have alike : { holding with victim := none }.Moves page ↔ holding.Moves page := by
        simp [Holding.Moves, moved, Ne.symm same]
      rw [KeyedTable.find?_erase_of_ne _ same, before, alike]
  case vacant => grind [accounted.vacant]
  case away =>
    change _ → _ → manager.place page = _
    grind [accounted.away, Holding.Moves]
  case victim => grind [accounted.victim_ne]
  case exclusive => grind [accounted.exclusive]

/-- A fault may let go of its frame once the frame is free or has taken in a
page that the fault moved. -/
theorem letGo {holding : Holding} {resident? : Option PageId}
    (accounted : manager.Accounted holdings) (held : holdings thread = some holding)
    (lets : LetsGo manager next holding resident?)
    (moved : ∀ page, resident? = some page → holding.Moves page) :
    next.Accounted (Function.update holdings thread none) := by
  have vacant := accounted.vacant thread holding held
  have unplaced : ∀ page, manager.place page ≠ .ok (some holding.frame) := by
    intro page placed
    have owned := (accounted.owner_iff _ _).mpr placed
    rw [vacant] at owned
    cases owned
  have pinned := (accounted.pinned_iff holding.frame).mpr ⟨thread, holding, held, rfl⟩
  -- What the other threads hold stays, so only `holding` has to be struck out.
  constructor
  case size_frames => rw [lets.size_frames, lets.numFrames_pool, accounted.size_frames]
  case numFrames_memory =>
    rw [lets.numFrames_memory, lets.numFrames_pool, accounted.numFrames_memory]
  case nodup_spaces => exact lets.keys_spaces ▸ accounted.nodup_spaces
  case space_lt =>
    rw [lets.keys_spaces, lets.nextSpace_eq]
    exact accounted.space_lt
  case owner_iff =>
    intro frame page
    have owned := accounted.owner_iff frame page
    have absent := unplaced page
    have away := accounted.away thread holding page held
    rw [lets.owner?_eq, lets.place_eq]
    grind
  case allocated_iff =>
    intro frame
    have allocated := accounted.allocated_iff frame
    rw [lets.isAllocated_iff, lets.owner?_eq, lets.isPinned_eq, Option.isSome_iff_exists]
    grind
  case pinned_iff =>
    intro frame
    have apart := accounted.frame_not_held_apart held
    have before := accounted.pinned_iff frame
    rw [holds_iff_of_held held] at before
    rw [lets.isPinned_eq]
    grind
  case transit_iff =>
    intro page frame
    have before := accounted.transit_iff page frame
    rw [holds_iff_of_held held] at before
    rw [lets.inTransit_eq]
    by_cases moves : holding.Moves page
    · have apart := accounted.page_not_moved_apart held moves frame
      simp [moves, apart]
    · simp [moves, before]
  case vacant =>
    intro other held'
    have alone := accounted.exclusive other thread
    rw [lets.owner?_eq]
    grind [accounted.vacant]
  case away =>
    intro other held' page
    have alone := @accounted.eq_of_moves
    rw [lets.place_eq]
    grind [accounted.away]
  case victim_ne =>
    intro other held'
    grind [accounted.victim_ne]
  case exclusive =>
    intro first second firstHeld secondHeld
    grind [accounted.exclusive]

end Accounted

end Manager

end DemandPaging
