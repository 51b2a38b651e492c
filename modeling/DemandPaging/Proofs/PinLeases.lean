import DemandPaging.Proofs.ClockTurns
import Mathlib.Data.List.Nodup

/-!
# Leases of pinned frames

Whoever pins a frame gets a lease of it, and hands the lease back to unpin the
frame.  The table keeps no account of its leases.  They are listed here beside
it: a frame is pinned exactly as long as one lease of it is outstanding, and
until then the clock passes it by.
-/

namespace DemandPaging

/-- A frame table and its clock in use, with the leases that were given out and
are not back yet. -/
structure TableUse (Owner : Type) where
  table : FrameTable Owner
  clock : Clock := {}
  leases : List FrameLease := []

namespace TableUse

variable {Owner : Type}

/-- The state after one event.  A lease that is handed back is gone. -/
def happen (use : TableUse Owner) : ClockEvent Owner → TableUse Owner
  | .select =>
    let selection := use.clock.selectVictim use.table
    { use with table := selection.table, clock := selection.clock }
  | .serve (.pin frame) =>
    match use.table.pin frame with
    | .ok (lease, pinned) => { use with table := pinned, leases := lease :: use.leases }
    | .error _ => use
  | .serve (.unpin lease) =>
    { use with table := use.table.unpin lease, leases := use.leases.erase lease }
  | .serve request => { use with table := use.table.serve request }

/-- The state after a run of events. -/
def after (use : TableUse Owner) (events : List (ClockEvent Owner)) : TableUse Owner :=
  events.foldl happen use

/-- Only a lease that is outstanding can be handed back. -/
def Allows (use : TableUse Owner) : ClockEvent Owner → Prop
  | .serve (.unpin lease) => lease ∈ use.leases
  | _ => True

/-- Every event of a run is one that can happen when its turn comes. -/
def AllowsAll (use : TableUse Owner) : List (ClockEvent Owner) → Prop
  | [] => True
  | event :: rest => use.Allows event ∧ (use.happen event).AllowsAll rest

/-- What the leases of a table of `numFrames` frames say about its pins. -/
structure LeasesExact (use : TableUse Owner) (numFrames : Nat) : Prop where
  /-- A frame is pinned exactly if one lease of it is outstanding. -/
  isPinned_iff : ∀ frame, use.table.isPinned frame = true ↔ use.leases.count ⟨frame⟩ = 1
  exclusive : ∀ frame, use.leases.count ⟨frame⟩ ≤ 1
  pinnedCount_eq : use.table.pinnedCount = use.leases.length
  /-- A frame that is leased cannot be pinned again; to try it changes nothing. -/
  pin_leased : ∀ frame, ⟨frame⟩ ∈ use.leases →
    use.table.pin frame = .error (.alreadyPinned frame) ∧ use.happen (.serve (.pin frame)) = use
  /-- Every other frame of the table can be pinned. -/
  pin_loose : ∀ frame < numFrames, ⟨frame⟩ ∉ use.leases →
    ∃ pinned, use.table.pin frame = .ok (⟨frame⟩, pinned)
  /-- Wherever the hand is and whatever frames are marked, a leased frame is no
  victim and stays as it is. -/
  passedBy : ∀ frame, ⟨frame⟩ ∈ use.leases → ∀ (clock : Clock) (marked : FrameTable Owner),
    use.table.AgreesButUsed marked →
      (clock.selectVictim marked).victim ≠ some frame ∧
      (clock.selectVictim marked).table.frames[frame]? = marked.frames[frame]?

end TableUse

namespace FrameTable

variable {Owner : Type} {table : FrameTable Owner} {frame : Nat}

theorem countP_eq_countP_range {Item : Type} (items : List Item) (holds : Item → Bool) :
    items.countP holds = (List.range items.length).countP fun index => items[index]?.any holds := by
  induction items with
  | nil => rfl
  | cons item rest ih =>
    rw [List.length_cons, List.range_succ_eq_map, List.countP_cons, List.countP_cons, ih,
      List.countP_map]
    rfl

/-- The frames that are pinned, counted by their numbers. -/
theorem pinnedCount_eq_countP (table : FrameTable Owner) :
    table.pinnedCount = (List.range table.size).countP table.isPinned := by
  unfold pinnedCount
  rw [← Array.countP_toList, countP_eq_countP_range]
  simp only [Array.getElem?_toList, Array.length_toList]
  rfl

theorem pin_eq_error_of_isPinned (pinned : table.isPinned frame = true) :
    table.pin frame = .error (.alreadyPinned frame) := by
  unfold pin
  rw [update_eq_ok (lt_size_of_isPinned pinned)]
  simp [pinned]

theorem pin_eq_error_of_size_le (outside : table.size ≤ frame) :
    table.pin frame = .error (.invalidFrame frame) := by
  unfold pin update
  rw [if_neg (Nat.not_lt.mpr outside)]

theorem serve_evict (table : FrameTable Owner) (frame : Nat) :
    table.serve (.evict frame) = (table.update frame Frame.vacate).toOption.getD table := by
  simp only [serve, evict]
  cases table.update frame Frame.vacate <;> simp [Except.toOption]

/-- A change that leaves every pin as it is leaves all pins of the table alone. -/
theorem isPinned_getD_update (change : Frame Owner → Frame Owner)
    (keeps : ∀ info, (change info).pinned = info.pinned) (other : Nat) :
    ((table.update frame change).toOption.getD table).isPinned other = table.isPinned other := by
  rcases table.getD_update_cases frame change with same | altered
  · rw [same]
  · rw [altered, isPinned_alter_of_keeps change keeps]

end FrameTable

namespace Clock

variable {Owner : Type}

/-- A sweep does not touch a frame that is pinned. -/
theorem getElem?_frames_sweep {table : FrameTable Owner} {frame : Nat}
    (pinned : table.isPinned frame = true) (hand visits : Nat) :
    (sweep table hand visits).table.frames[frame]? = table.frames[frame]? := by
  induction visits generalizing table hand with
  | zero => rfl
  | succ visits ih =>
    simp only [sweep]
    split
    · rename_i evictable
      have elsewhere : hand ≠ frame := by
        rintro rfl
        have loose := (FrameTable.isEvictable_iff.mp evictable).1
        rw [pinned] at loose
        cases loose
      have kept : (table.takeUsed hand).2.frames[frame]? = table.frames[frame]? :=
        @FrameTable.getElem?_frames_serve_of_ne _ table (.takeUsed hand) frame elsewhere
      split
      · rename_i cleared taken
        rw [taken] at kept
        have stillPinned : cleared.isPinned frame = true := by
          unfold FrameTable.isPinned
          rw [kept]
          exact pinned
        rw [ih stillPinned, kept]
      · rfl
    · exact ih pinned _

theorem getElem?_frames_selectVictim {table : FrameTable Owner} {frame : Nat}
    (pinned : table.isPinned frame = true) (clock : Clock) :
    (clock.selectVictim table).table.frames[frame]? = table.frames[frame]? := by
  unfold selectVictim
  split
  · rfl
  · exact getElem?_frames_sweep pinned _ _

theorem victim_ne_of_isPinned {table : FrameTable Owner} {frame : Nat}
    (pinned : table.isPinned frame = true) (clock : Clock) :
    (clock.selectVictim table).victim ≠ some frame := by
  intro chosen
  have loose := (FrameTable.isEvictable_iff.mp (isEvictable_of_selectVictim chosen)).1
  rw [pinned] at loose
  cases loose

end Clock

namespace TableUse

variable {Owner : Type}

/-- Every pinned frame has one lease, and no other frame has any. -/
structure Accounted (use : TableUse Owner) (numFrames : Nat) : Prop where
  size_eq : use.table.size = numFrames
  count_eq : ∀ frame, use.leases.count ⟨frame⟩ = (use.table.isPinned frame).toNat

section Accounts

variable {use : TableUse Owner} {numFrames frame : Nat}

theorem accounted_empty (numFrames : Nat) :
    Accounted ({ table := .empty numFrames } : TableUse Owner) numFrames where
  size_eq := FrameTable.size_empty numFrames
  count_eq frame := by simp

theorem Accounted.mem_leases_iff (accounted : use.Accounted numFrames) :
    ⟨frame⟩ ∈ use.leases ↔ use.table.isPinned frame = true := by
  rw [← List.count_pos_iff, accounted.count_eq]
  cases use.table.isPinned frame <;> simp

theorem Accounted.nodup_leases (accounted : use.Accounted numFrames) : use.leases.Nodup := by
  rw [List.nodup_iff_count_le_one]
  intro lease
  rw [accounted.count_eq lease.frame]
  exact Bool.toNat_le _

/-- The leases are those of the frames that are pinned. -/
theorem Accounted.perm_leases (accounted : use.Accounted numFrames) :
    (use.leases.map FrameLease.frame).Perm
      ((List.range use.table.size).filter use.table.isPinned) := by
  have injective : ∀ first ∈ use.leases, ∀ second ∈ use.leases,
      first.frame = second.frame → first = second := by
    rintro ⟨first⟩ - ⟨second⟩ - rfl
    rfl
  rw [List.perm_ext_iff_of_nodup (accounted.nodup_leases.map_on injective)
    (List.nodup_range.filter _)]
  intro frame
  rw [List.mem_filter, List.mem_range]
  constructor
  · intro member
    obtain ⟨lease, outstanding, rfl⟩ := List.mem_map.mp member
    have pinned := accounted.mem_leases_iff.mp outstanding
    exact ⟨FrameTable.lt_size_of_isPinned pinned, pinned⟩
  · rintro ⟨-, pinned⟩
    exact List.mem_map_of_mem (f := FrameLease.frame) (accounted.mem_leases_iff.mpr pinned)

theorem Accounted.pinnedCount_eq (accounted : use.Accounted numFrames) :
    use.table.pinnedCount = use.leases.length := by
  rw [FrameTable.pinnedCount_eq_countP, List.countP_eq_length_filter,
    ← accounted.perm_leases.length_eq, List.length_map]

/-- The leases of an account are good for another table with the same pins. -/
theorem Accounted.of_same (accounted : use.Accounted numFrames) {next : TableUse Owner}
    (size : next.table.size = use.table.size) (leases : next.leases = use.leases)
    (pins : ∀ frame, next.table.isPinned frame = use.table.isPinned frame) :
    next.Accounted numFrames where
  size_eq := size.trans accounted.size_eq
  count_eq frame := by rw [leases, pins, accounted.count_eq]

theorem Accounted.serve (accounted : use.Accounted numFrames) {request : TableRequest Owner}
    (pins : ∀ frame, (use.table.serve request).isPinned frame = use.table.isPinned frame) :
    Accounted { use with table := use.table.serve request } numFrames :=
  accounted.of_same (use.table.size_serve request) rfl pins

theorem Accounted.pin (accounted : use.Accounted numFrames) (frame : Nat) :
    (use.happen (.serve (.pin frame))).Accounted numFrames := by
  by_cases inside : frame < use.table.size
  · cases pinned : use.table.isPinned frame with
    | true =>
      simp only [TableUse.happen, FrameTable.pin_eq_error_of_isPinned pinned]
      exact accounted
    | false =>
      simp only [TableUse.happen, FrameTable.pin_eq_ok inside pinned]
      constructor
      case size_eq => exact FrameTable.size_alter.trans accounted.size_eq
      case count_eq =>
        intro other
        rw [FrameTable.isPinned_alter_of_sets inside Frame.pin fun _ => rfl, List.count_cons,
          accounted.count_eq]
        by_cases same : other = frame
        · subst other
          simp [pinned]
        · simp [same, Ne.symm same]
  · have refused := FrameTable.pin_eq_error_of_size_le (Nat.le_of_not_lt inside)
    simp only [TableUse.happen, refused]
    exact accounted

theorem Accounted.unpin (accounted : use.Accounted numFrames) {lease : FrameLease}
    (outstanding : lease ∈ use.leases) :
    (use.happen (.serve (.unpin lease))).Accounted numFrames := by
  have pinned := accounted.mem_leases_iff.mp outstanding
  have inside := FrameTable.lt_size_of_isPinned pinned
  constructor
  case size_eq => exact FrameTable.size_alter.trans accounted.size_eq
  case count_eq =>
    intro other
    simp only [TableUse.happen, FrameTable.unpin]
    rw [FrameTable.isPinned_alter_of_sets inside Frame.unpin fun _ => rfl, List.count_erase,
      accounted.count_eq]
    by_cases same : other = lease.frame
    · subst other
      simp [pinned]
    · have differs : lease ≠ ⟨other⟩ := by
        rintro rfl
        exact same rfl
      simp [same, differs]

/-- Whatever can happen keeps the accounts in order. -/
theorem Accounted.happen (accounted : use.Accounted numFrames) {event : ClockEvent Owner}
    (allowed : use.Allows event) : (use.happen event).Accounted numFrames := by
  cases event with
  | select =>
    have agrees := Clock.agreesButUsed_selectVictim use.clock use.table
    exact accounted.of_same agrees.size_eq rfl agrees.isPinned_eq
  | serve request =>
    cases request with
    | pin frame => exact accounted.pin frame
    | unpin lease => exact accounted.unpin allowed
    | install frame owner =>
      exact accounted.serve (FrameTable.isPinned_getD_update _ fun _ => rfl)
    | evict frame =>
      apply accounted.serve
      rw [FrameTable.serve_evict]
      exact FrameTable.isPinned_getD_update _ fun _ => rfl
    | markUsed frame =>
      exact accounted.serve (FrameTable.isPinned_getD_update _ fun _ => rfl)
    | clearUsed frame =>
      exact accounted.serve (FrameTable.isPinned_getD_update _ fun _ => rfl)
    | takeUsed frame =>
      exact accounted.serve (FrameTable.agreesButUsed_takeUsed use.table frame).isPinned_eq

theorem Accounted.after (accounted : use.Accounted numFrames) {events : List (ClockEvent Owner)}
    (allowed : use.AllowsAll events) : (use.after events).Accounted numFrames := by
  induction events generalizing use with
  | nil => exact accounted
  | cons event rest ih => exact ih (accounted.happen allowed.1) allowed.2

theorem Accounted.leasesExact (accounted : use.Accounted numFrames) :
    use.LeasesExact numFrames := by
  constructor
  case isPinned_iff =>
    intro frame
    rw [accounted.count_eq]
    cases use.table.isPinned frame <;> simp
  case exclusive =>
    intro frame
    rw [accounted.count_eq]
    exact Bool.toNat_le _
  case pinnedCount_eq => exact accounted.pinnedCount_eq
  case pin_leased =>
    intro frame outstanding
    have refused := FrameTable.pin_eq_error_of_isPinned (accounted.mem_leases_iff.mp outstanding)
    exact ⟨refused, by simp only [TableUse.happen, refused]⟩
  case pin_loose =>
    intro frame inside absent
    rw [accounted.mem_leases_iff, Bool.not_eq_true] at absent
    exact ⟨_, FrameTable.pin_eq_ok (accounted.size_eq.symm ▸ inside) absent⟩
  case passedBy =>
    intro frame outstanding clock marked agrees
    have pinned : marked.isPinned frame = true := by
      rw [agrees.isPinned_eq]
      exact accounted.mem_leases_iff.mp outstanding
    exact ⟨Clock.victim_ne_of_isPinned pinned clock,
      Clock.getElem?_frames_selectVictim pinned clock⟩

end Accounts

/-- At every point of every run on a new table, the frames that are pinned are
those that are leased, once each, and the clock passes them by. -/
theorem leasesExact_after (numFrames : Nat) {events : List (ClockEvent Owner)}
    (allowed : AllowsAll { table := .empty numFrames } events) :
    (after { table := .empty numFrames } events).LeasesExact numFrames :=
  ((accounted_empty numFrames).after allowed).leasesExact

/-- All three frames are pinned, one of them is unpinned and chosen, and the
other two leases are still outstanding. -/
theorem leasesExact_after_unpin :
    AllowsAll ({ table := .empty 3 } : TableUse Nat)
      [.serve (.install 0 7), .serve (.install 1 8), .serve (.pin 0), .serve (.pin 1),
        .serve (.pin 2), .serve (.pin 1), .select, .serve (.unpin ⟨1⟩), .select] ∧
    (after ({ table := .empty 3 } : TableUse Nat)
      [.serve (.install 0 7), .serve (.install 1 8), .serve (.pin 0), .serve (.pin 1),
        .serve (.pin 2), .serve (.pin 1), .select, .serve (.unpin ⟨1⟩),
        .select]).LeasesExact 3 := by
  have allowed : AllowsAll ({ table := .empty 3 } : TableUse Nat)
      [.serve (.install 0 7), .serve (.install 1 8), .serve (.pin 0), .serve (.pin 1),
        .serve (.pin 2), .serve (.pin 1), .select, .serve (.unpin ⟨1⟩), .select] := by
    have outstanding : FrameLease.mk 1 ∈ (after ({ table := .empty 3 } : TableUse Nat)
        [.serve (.install 0 7), .serve (.install 1 8), .serve (.pin 0), .serve (.pin 1),
          .serve (.pin 2), .serve (.pin 1), .select]).leases := by
      decide
    exact ⟨trivial, trivial, trivial, trivial, trivial, trivial, trivial, outstanding, trivial,
      trivial⟩
  exact ⟨allowed, leasesExact_after 3 allowed⟩

end TableUse

end DemandPaging
