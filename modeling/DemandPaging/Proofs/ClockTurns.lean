import DemandPaging.Proofs.VictimSelection

/-!
# The clock gets around to every frame

However the other frames change between two choices of a victim, a frame that
may be evicted is chosen sooner or later: as long as another one is chosen, the
hand comes closer to it.  How close the hand is, is counted in visits that it
still makes before it would choose the frame, so a marked frame is a whole turn
farther away than an unmarked one at the same place.
-/

namespace DemandPaging

/-- What is done to a frame table besides choosing victims. -/
inductive TableRequest (Owner : Type) where
  | install (frame : Nat) (owner : Owner)
  | evict (frame : Nat)
  | markUsed (frame : Nat)
  | clearUsed (frame : Nat)
  | takeUsed (frame : Nat)
  | pin (frame : Nat)
  | unpin (lease : FrameLease)

namespace TableRequest

variable {Owner : Type}

/-- The frame that a request is about. -/
def frame : TableRequest Owner → Nat
  | install frame _ => frame
  | evict frame => frame
  | markUsed frame => frame
  | clearUsed frame => frame
  | takeUsed frame => frame
  | pin frame => frame
  | unpin lease => lease.frame

end TableRequest

namespace FrameTable

variable {Owner : Type}

/-- The table after a request; one that is refused changes nothing. -/
def serve (table : FrameTable Owner) : TableRequest Owner → FrameTable Owner
  | .install frame owner => (table.install frame owner).toOption.getD table
  | .evict frame => ((table.evict frame).toOption.map Prod.snd).getD table
  | .markUsed frame => (table.markUsed frame).toOption.getD table
  | .clearUsed frame => (table.clearUsed frame).toOption.getD table
  | .takeUsed frame => (table.takeUsed frame).2
  | .pin frame => ((table.pin frame).toOption.map Prod.snd).getD table
  | .unpin lease => table.unpin lease

theorem getD_update_cases (table : FrameTable Owner) (frame : Nat)
    (change : Frame Owner → Frame Owner) :
    (table.update frame change).toOption.getD table = table ∨
      (table.update frame change).toOption.getD table = table.alter frame change := by
  rw [update]
  split
  · exact .inr rfl
  · exact .inl rfl

/-- A request changes at most the frame that it is about. -/
theorem serve_cases (table : FrameTable Owner) (request : TableRequest Owner) :
    table.serve request = table ∨
      ∃ change, table.serve request = table.alter request.frame change := by
  cases request with
  | install frame owner => exact (table.getD_update_cases frame _).imp_right fun done => ⟨_, done⟩
  | evict frame =>
    rw [serve, evict]
    split
    · rename_i emptied done
      exact .inr ⟨_, eq_of_update_eq_ok done⟩
    · exact .inl rfl
  | markUsed frame => exact (table.getD_update_cases frame _).imp_right fun done => ⟨_, done⟩
  | clearUsed frame => exact (table.getD_update_cases frame _).imp_right fun done => ⟨_, done⟩
  | takeUsed frame =>
    rw [serve, takeUsed]
    split
    · rename_i cleared done
      exact .inr ⟨_, eq_of_update_eq_ok done⟩
    · exact .inl rfl
  | pin frame =>
    rw [serve, pin]
    split
    · rename_i pinned done
      split
      · exact .inl rfl
      · exact .inr ⟨_, eq_of_update_eq_ok done⟩
    · exact .inl rfl
  | unpin lease => exact .inr ⟨_, rfl⟩

theorem size_serve (table : FrameTable Owner) (request : TableRequest Owner) :
    (table.serve request).size = table.size := by
  rcases table.serve_cases request with same | ⟨change, altered⟩
  · rw [same]
  · rw [altered, size_alter]

theorem getElem?_frames_serve_of_ne {table : FrameTable Owner} {request : TableRequest Owner}
    {frame : Nat} (differs : request.frame ≠ frame) :
    (table.serve request).frames[frame]? = table.frames[frame]? := by
  rcases table.serve_cases request with same | ⟨change, altered⟩
  · rw [same]
  · rw [altered, getElem?_frames_alter_of_ne differs]

end FrameTable

/-- What happens to a table and its clock. -/
inductive ClockEvent (Owner : Type) where
  | select
  | serve (request : TableRequest Owner)

/-- A choice of a victim is not about any frame in particular. -/
def ClockEvent.Spares {Owner : Type} (frame : Nat) : ClockEvent Owner → Prop
  | select => True
  | serve request => request.frame ≠ frame

namespace Clock

variable {Owner : Type}

/-- The answers of all choices of a victim among some events. -/
def victims (clock : Clock) (table : FrameTable Owner) :
    List (ClockEvent Owner) → List (Option Nat)
  | [] => []
  | .select :: rest =>
    let selection := clock.selectVictim table
    selection.victim :: selection.clock.victims selection.table rest
  | .serve request :: rest => clock.victims (table.serve request) rest

/-- If no other frame is chosen, the hand chooses `frame` after `visits` others.
A marked frame is chosen when the hand comes to it for the second time. -/
structure Due (clock : Clock) (table : FrameTable Owner) (frame visits : Nat) : Prop where
  evictable : table.isEvictable frame = true
  arrives : frameAt table.size (clock.hand % table.size) visits = frame
  unmarked : table.isUsed frame = false → visits < table.size
  marked : table.isUsed frame = true → table.size ≤ visits ∧ visits < 2 * table.size

section Due

variable {clock : Clock} {table : FrameTable Owner} {frame visits : Nat}

/-- One turn of choices for a frame that is not marked, two for a marked one. -/
def patience (table : FrameTable Owner) (frame : Nat) : Nat :=
  if table.isUsed frame then 2 * table.size else table.size

theorem exists_due (clock : Clock) (evictable : table.isEvictable frame = true) :
    ∃ visits < patience table frame, clock.Due table frame visits := by
  obtain ⟨-, owner, owned⟩ := FrameTable.isEvictable_iff.mp evictable
  obtain ⟨distance, near, arrives⟩ :=
    exists_frameAt_eq (FrameTable.lt_size_of_owner? owned) (clock.hand % table.size)
  rw [patience]
  cases used : table.isUsed frame with
  | false =>
    refine ⟨distance, near, evictable, arrives, fun _ => near, ?_⟩
    rw [used]
    exact nofun
  | true =>
    refine ⟨table.size + distance, ?_, evictable, ?_, ?_, fun _ => ?_⟩
    · rw [if_pos rfl]
      omega
    · rwa [frameAt_size_add]
    · rw [used]
      exact nofun
    · omega

theorem Due.serve {request : TableRequest Owner} (due : clock.Due table frame visits)
    (differs : request.frame ≠ frame) : clock.Due (table.serve request) frame visits := by
  have same := @FrameTable.getElem?_frames_serve_of_ne _ table _ _ differs
  have size := table.size_serve request
  refine ⟨?_, ?_, ?_, ?_⟩
  · rw [FrameTable.isEvictable, same]
    exact due.evictable
  · rw [size]
    exact due.arrives
  · rw [FrameTable.isUsed, same, size]
    exact due.unmarked
  · rw [FrameTable.isUsed, same, size]
    exact due.marked

/-- The victim is visited for the last time before a frame that is due, or it is
that frame. -/
theorem Due.last_le {victim last : Nat} (due : clock.Due table frame visits)
    (picks : Picks table (clock.hand % table.size) victim last) : last ≤ visits := by
  cases picks with
  | unmarked first =>
    cases used : table.isUsed frame with
    | false => exact first.distance_le ⟨due.arrives.symm ▸ due.evictable, due.arrives.symm ▸ used⟩
    | true => exact Nat.le_trans (Nat.le_of_lt first.near) (due.marked used).1
  | marked allMarked first =>
    obtain ⟨turn, -⟩ := due.marked (allMarked frame due.evictable)
    obtain ⟨distance, rfl⟩ := Nat.exists_eq_add_of_le turn
    have arrives := due.arrives
    rw [frameAt_size_add] at arrives
    have nearer := first.distance_le (arrives.symm ▸ due.evictable)
    omega

theorem Picks.frameAt_last {hand victim last : Nat} (picks : Picks table hand victim last) :
    frameAt table.size hand last = victim := by
  cases picks with
  | unmarked first => exact first.arrives
  | marked _ first => exact (frameAt_size_add _).trans first.arrives

/-- A marked frame keeps its mark as long as the hand has not been there. -/
theorem Due.isUsed_iff {passed : FrameTable Owner} {last : Nat}
    (due : clock.Due table frame visits) (used : table.isUsed frame = true)
    (effect : PassedOver table (clock.hand % table.size) last passed)
    (elsewhere : frameAt table.size (clock.hand % table.size) last ≠ frame) :
    passed.isUsed frame = true ↔ table.size + last < visits := by
  obtain ⟨turn, near⟩ := due.marked used
  obtain ⟨distance, rfl⟩ := Nat.exists_eq_add_of_le turn
  have arrives := due.arrives
  rw [frameAt_size_add] at arrives
  have visited := @visits_frameAt_iff table.size (clock.hand % table.size) distance last (by omega)
  have apart : distance ≠ last := by
    rintro rfl
    exact elsewhere arrives
  rw [arrives] at visited
  rw [effect.isUsed_iff, visited]
  simp only [used, due.evictable, true_and, Nat.not_lt]
  omega

/-- The hand made its visits up to number `last`, which was at another frame. -/
theorem Due.passedOver {passed : FrameTable Owner} {last : Nat}
    (due : clock.Due table frame visits)
    (effect : PassedOver table (clock.hand % table.size) last passed)
    (elsewhere : frameAt table.size (clock.hand % table.size) last ≠ frame)
    (before : last < visits) :
    Due ⟨(frameAt table.size (clock.hand % table.size) last + 1) % table.size⟩ passed frame
      (visits - (last + 1)) := by
  constructor
  case evictable => rw [effect.isEvictable_eq, due.evictable]
  case arrives =>
    rw [effect.size_eq, Nat.mod_mod, ← frameAt_succ, frameAt_frameAt,
      show last + 1 + (visits - (last + 1)) = visits by omega, due.arrives]
  case unmarked =>
    intro clear
    rw [effect.size_eq]
    cases used : table.isUsed frame with
    | false =>
      have near := due.unmarked used
      omega
    | true =>
      have near := (due.marked used).2
      have passedBy := due.isUsed_iff used effect elsewhere
      rw [clear] at passedBy
      simp only [Bool.false_eq_true, false_iff] at passedBy
      omega
  case marked =>
    intro stillUsed
    rw [effect.size_eq]
    have used := ((effect.isUsed_iff frame).mp stillUsed).1
    have ahead := (due.isUsed_iff used effect elsewhere).mp stillUsed
    have near := (due.marked used).2
    omega

/-- If another frame is chosen, the hand has come closer. -/
theorem Due.select (due : clock.Due table frame visits) :
    (clock.selectVictim table).victim = some frame ∨
      ∃ fewer < visits,
        (clock.selectVictim table).clock.Due (clock.selectVictim table).table frame fewer := by
  obtain ⟨victim, last, passed, picks, effect, chosen⟩ := clock.exists_picks table due.evictable
  rw [chosen, ← picks.frameAt_last]
  by_cases same : frameAt table.size (clock.hand % table.size) last = frame
  · exact .inl (congrArg some same)
  · have apart : last ≠ visits := by
      rintro rfl
      exact same due.arrives
    have before : last < visits := Nat.lt_of_le_of_ne (due.last_le picks) apart
    exact .inr ⟨visits - (last + 1), by omega, due.passedOver effect same before⟩

/-- A frame that is due is chosen by the time the hand has come to it. -/
theorem Due.mem_victims {events : List (ClockEvent Owner)} (due : clock.Due table frame visits)
    (spared : ∀ event ∈ events, event.Spares frame)
    (enough : visits < (clock.victims table events).length) :
    some frame ∈ (clock.victims table events).take (visits + 1) := by
  induction events generalizing clock table visits with
  | nil => exact absurd enough (Nat.not_lt_zero visits)
  | cons event rest ih =>
    obtain ⟨here, others⟩ := List.forall_mem_cons.mp spared
    cases event with
    | serve request => exact ih (due.serve here) others enough
    | select =>
      rw [victims, List.take_succ_cons]
      rw [victims, List.length_cons] at enough
      rcases due.select with chosen | ⟨fewer, less, nearer⟩
      · rw [chosen]
        exact List.mem_cons_self
      · have later := ih nearer others (by omega)
        exact List.mem_cons_of_mem _ (List.take_subset_take_left _ (by omega) later)

end Due

/-- A frame that has an owner and is not pinned is chosen within one turn of
choices if it is not marked, and within two if it is, whatever happens to the
other frames in between. -/
theorem mem_victims_take {clock : Clock} {table : FrameTable Owner} {frame : Nat}
    (owned : ∃ owner, table.owner? frame = some owner) (loose : table.isPinned frame = false)
    {events : List (ClockEvent Owner)} (spared : ∀ event ∈ events, event.Spares frame)
    (enough : patience table frame ≤ (clock.victims table events).length) :
    some frame ∈ (clock.victims table events).take (patience table frame) := by
  obtain ⟨visits, bound, due⟩ :=
    exists_due clock (FrameTable.isEvictable_iff.mpr ⟨loose, owned⟩)
  have chosen := due.mem_victims spared (Nat.lt_of_lt_of_le bound enough)
  exact List.take_subset_take_left _ bound chosen

/-- Frame 0 is marked and is chosen last, although frame 2 is taken again at
once. -/
theorem mem_victims_take_marked :
    some 0 ∈ (victims {} (⟨#[⟨some 7, true, false⟩, ⟨none, false, false⟩,
      ⟨some 9, false, false⟩]⟩ : FrameTable Nat)
      [.select, .serve (.install 2 5), .select, .select, .serve (.pin 2), .select, .select,
        .select]).take 6 := by
  exact @mem_victims_take Nat {} ⟨#[⟨some 7, true, false⟩, ⟨none, false, false⟩,
    ⟨some 9, false, false⟩]⟩ 0 ⟨7, rfl⟩ rfl _ (by simp [ClockEvent.Spares, TableRequest.frame])
    (by decide)

end Clock

end DemandPaging
