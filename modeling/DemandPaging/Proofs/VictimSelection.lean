import DemandPaging.Frame.Clock
import Mathlib.Data.Nat.Find
import Mathlib.Data.Nat.ModEq
import Mathlib.Tactic.ByContra
import Mathlib.Tactic.Tauto

/-!
# The choice of a victim

Which frame the clock chooses, where its hand is afterwards and which marks are
gone.  The hand may have to come around a second time, so the visits are
numbered from zero on and not named by their frames: visit number `table.size`
is at the same frame as the first one.
-/

namespace DemandPaging

namespace Clock

variable {Owner : Type}

/-- The frame that a hand at `hand` is at after `steps` visits. -/
def frameAt (size hand steps : Nat) : Nat :=
  (hand + steps) % size

/-- A hand at `hand` visits `frame` before visit number `steps`. -/
def Visits (size hand steps frame : Nat) : Prop :=
  ∃ step < steps, frameAt size hand step = frame

/-- Going around from `hand`, `frame` is the first one for which `holds`, and it
is visited after `distance` others. -/
structure FirstAhead (size hand : Nat) (holds : Nat → Prop) (distance frame : Nat) : Prop where
  near : distance < size
  arrives : frameAt size hand distance = frame
  found : holds frame
  first : ∀ earlier < distance, ¬ holds (frameAt size hand earlier)

/-- `victim` is the frame to be chosen, and its last visit is number `last`. -/
inductive Picks (table : FrameTable Owner) (hand : Nat) : (victim last : Nat) → Prop where
  | unmarked {victim distance : Nat}
      (first : FirstAhead table.size hand
        (fun frame => table.isEvictable frame = true ∧ table.isUsed frame = false)
        distance victim) :
      Picks table hand victim distance
  /-- All frames that may be evicted lose their marks in the first turn. -/
  | marked {victim distance : Nat}
      (allMarked : ∀ frame, table.isEvictable frame = true → table.isUsed frame = true)
      (first : FirstAhead table.size hand (fun frame => table.isEvictable frame = true)
        distance victim) :
      Picks table hand victim (table.size + distance)

/-- What becomes of a table while a hand at `hand` makes `steps` visits: the
frames that it visits and that may be evicted lose their marks. -/
structure PassedOver (table : FrameTable Owner) (hand steps : Nat)
    (passed : FrameTable Owner) : Prop extends FrameTable.AgreesButUsed table passed where
  isUsed_iff : ∀ frame, passed.isUsed frame = true ↔
    table.isUsed frame = true ∧
      ¬ (table.isEvictable frame = true ∧ Visits table.size hand steps frame)

section Turns

variable {size hand : Nat}

theorem frameAt_lt (positive : 0 < size) (steps : Nat) : frameAt size hand steps < size :=
  Nat.mod_lt _ positive

theorem frameAt_zero (inside : hand < size) : frameAt size hand 0 = hand :=
  Nat.mod_eq_of_lt inside

theorem frameAt_succ (steps : Nat) :
    frameAt size hand (steps + 1) = (frameAt size hand steps + 1) % size := by
  rw [frameAt, frameAt, Nat.mod_add_mod, Nat.add_assoc]

theorem frameAt_frameAt (before after : Nat) :
    frameAt size (frameAt size hand before) after = frameAt size hand (before + after) := by
  rw [frameAt, frameAt, frameAt, Nat.mod_add_mod, Nat.add_assoc]

theorem frameAt_mod (steps : Nat) : frameAt size (hand % size) steps = frameAt size hand steps :=
  frameAt_frameAt 0 steps |>.trans (by rw [Nat.zero_add])

/-- After a whole turn the hand is where it was. -/
theorem frameAt_size_add (steps : Nat) :
    frameAt size hand (size + steps) = frameAt size hand steps := by
  rw [frameAt, frameAt, Nat.add_left_comm, Nat.add_mod_left]

theorem frameAt_size (inside : hand < size) : frameAt size hand size = hand :=
  (frameAt_size_add 0).trans (frameAt_zero inside)

/-- Within one turn no frame is visited twice. -/
theorem eq_of_frameAt_eq {first second : Nat} (firstNear : first < size)
    (secondNear : second < size)
    (same : frameAt size hand first = frameAt size hand second) : first = second := by
  have congruent : Nat.ModEq size first second := Nat.ModEq.add_left_cancel' hand same
  rwa [Nat.ModEq, Nat.mod_eq_of_lt firstNear, Nat.mod_eq_of_lt secondNear] at congruent

/-- Every frame is ahead of the hand. -/
theorem exists_frameAt_eq {frame : Nat} (present : frame < size) (hand : Nat) :
    ∃ distance < size, frameAt size hand distance = frame := by
  have handInside : hand % size < size := Nat.mod_lt _ (by omega)
  refine ⟨(frame + size - hand % size) % size, Nat.mod_lt _ (by omega), ?_⟩
  rw [← frameAt_mod, frameAt, Nat.add_mod_mod,
    show hand % size + (frame + size - hand % size) = frame + size by omega, Nat.add_mod_right,
    Nat.mod_eq_of_lt present]

theorem visits_add {before after frame : Nat} : Visits size hand (before + after) frame ↔
    Visits size hand before frame ∨ Visits size (frameAt size hand before) after frame := by
  constructor
  · rintro ⟨step, within, rfl⟩
    by_cases early : step < before
    · exact .inl ⟨step, early, rfl⟩
    · refine .inr ⟨step - before, by omega, ?_⟩
      rw [frameAt_frameAt, show before + (step - before) = step by omega]
  · rintro (⟨step, within, rfl⟩ | ⟨step, within, rfl⟩)
    · exact ⟨step, by omega, rfl⟩
    · exact ⟨before + step, by omega, (frameAt_frameAt before step).symm⟩

theorem visits_one {frame : Nat} (inside : hand < size) :
    Visits size hand 1 frame ↔ frame = hand := by
  constructor
  · rintro ⟨step, within, rfl⟩
    rw [show step = 0 by omega, frameAt_zero inside]
  · rintro rfl
    exact ⟨0, Nat.one_pos, frameAt_zero inside⟩

/-- A frame within one turn has been visited once the hand is past it. -/
theorem visits_frameAt_iff {distance steps : Nat} (near : distance < size) :
    Visits size hand steps (frameAt size hand distance) ↔ distance < steps := by
  constructor
  · rintro ⟨step, within, same⟩
    by_cases turn : step < size
    · rwa [← eq_of_frameAt_eq turn near same]
    · omega
  · exact fun within => ⟨distance, within, rfl⟩

/-- If there is a frame for which `holds`, going around comes to a first one. -/
theorem exists_firstAhead (holds : Nat → Prop) {frame : Nat} (present : frame < size)
    (found : holds frame) (hand : Nat) :
    ∃ distance first, FirstAhead size hand holds distance first := by
  classical
  obtain ⟨distance, near, arrives⟩ := exists_frameAt_eq present hand
  have exists_step : ∃ step, holds (frameAt size hand step) := ⟨distance, arrives ▸ found⟩
  refine ⟨Nat.find exists_step, _, ⟨?_, rfl, Nat.find_spec exists_step, ?_⟩⟩
  · exact Nat.lt_of_le_of_lt (Nat.find_min' exists_step (arrives ▸ found)) near
  · exact fun earlier before => Nat.find_min exists_step before

/-- The first frame for which `holds` is no farther away than any other. -/
theorem FirstAhead.distance_le {holds : Nat → Prop} {distance first other : Nat}
    (ahead : FirstAhead size hand holds distance first)
    (found : holds (frameAt size hand other)) : distance ≤ other :=
  Nat.le_of_not_lt fun before => ahead.first other before found

end Turns

section Sweeps

variable {table passed last : FrameTable Owner} {hand : Nat}

namespace PassedOver

theorem refl (table : FrameTable Owner) (hand : Nat) : PassedOver table hand 0 table where
  toAgreesButUsed := .refl table
  isUsed_iff frame := by simp [Visits]

theorem trans {before after : Nat} (earlier : PassedOver table hand before passed)
    (later : PassedOver passed (frameAt table.size hand before) after last) :
    PassedOver table hand (before + after) last where
  toAgreesButUsed := earlier.toAgreesButUsed.trans later.toAgreesButUsed
  isUsed_iff frame := by
    rw [later.isUsed_iff, earlier.isUsed_iff, earlier.isEvictable_eq, earlier.size_eq, visits_add]
    tauto

end PassedOver

theorem sweep_of_unmarked (inside : hand < table.size) (evictable : table.isEvictable hand = true)
    (unmarked : table.isUsed hand = false) (visits : Nat) :
    sweep table hand (visits + 1) =
      { victim := some hand, clock := ⟨(hand + 1) % table.size⟩, table := table } := by
  simp only [sweep, if_pos evictable]
  split
  · rename_i cleared taken
    obtain ⟨used, -⟩ := FrameTable.of_takeUsed_eq inside taken
    rw [unmarked] at used
    cases used
  · rfl

/-- A frame that is pinned, empty or marked is passed over. -/
theorem exists_sweep_eq (inside : hand < table.size)
    (goesOn : table.isEvictable hand = true → table.isUsed hand = true) (visits : Nat) :
    ∃ passed, PassedOver table hand 1 passed ∧
      sweep table hand (visits + 1) = sweep passed (frameAt table.size hand 1) visits := by
  simp only [sweep]
  split
  · rename_i evictable
    have agrees := FrameTable.agreesButUsed_takeUsed table hand
    split
    · rename_i cleared taken
      obtain ⟨-, marks⟩ := FrameTable.of_takeUsed_eq inside taken
      rw [taken] at agrees
      refine ⟨cleared, ⟨agrees, fun frame => ?_⟩, rfl⟩
      rw [marks, visits_one inside]
      by_cases here : frame = hand
      · simp [here, evictable]
      · simp [here]
    · rename_i same taken
      obtain ⟨used, -⟩ := FrameTable.of_takeUsed_eq inside taken
      rw [goesOn evictable] at used
      cases used
  · rename_i notEvictable
    refine ⟨table, ⟨.refl table, fun frame => ?_⟩, rfl⟩
    rw [visits_one inside]
    refine iff_self_and.mpr fun _ => ?_
    rintro ⟨evictable, rfl⟩
    exact notEvictable evictable

/-- As long as no unmarked frame that may be evicted is ahead, the hand goes
on. -/
theorem sweep_add {steps : Nat} (inside : hand < table.size) (within : steps ≤ table.size)
    (goesOn : ∀ step < steps, table.isEvictable (frameAt table.size hand step) = true →
      table.isUsed (frameAt table.size hand step) = true) (visits : Nat) :
    ∃ passed, PassedOver table hand steps passed ∧
      sweep table hand (steps + visits) = sweep passed (frameAt table.size hand steps) visits := by
  induction steps generalizing visits with
  | zero =>
    refine ⟨table, .refl table hand, ?_⟩
    rw [Nat.zero_add, frameAt_zero inside]
  | succ steps ih =>
    obtain ⟨passed, effect, swept⟩ := ih (by omega) (fun step before => goesOn step (by omega))
      (visits + 1)
    have positive : 0 < table.size := by omega
    have here : frameAt table.size hand steps < passed.size := by
      rw [effect.size_eq]
      exact frameAt_lt positive steps
    -- The frame that is next was not visited in this turn, so its mark is still there.
    have goesOnHere : passed.isEvictable (frameAt table.size hand steps) = true →
        passed.isUsed (frameAt table.size hand steps) = true := by
      intro evictable
      rw [effect.isEvictable_eq] at evictable
      refine (effect.isUsed_iff _).mpr ⟨goesOn steps (Nat.lt_succ_self steps) evictable, ?_⟩
      rintro ⟨-, step, before, same⟩
      have := eq_of_frameAt_eq (by omega) (by omega) same
      omega
    obtain ⟨further, next, sweptOn⟩ := exists_sweep_eq here goesOnHere visits
    refine ⟨further, effect.trans next, ?_⟩
    rw [Nat.add_right_comm, Nat.add_assoc, swept, sweptOn, effect.size_eq, frameAt_frameAt]

/-- A sweep that comes to an unmarked frame that may be evicted ends there. -/
theorem sweep_of_firstAhead {distance victim visits : Nat} (inside : hand < table.size)
    (first : FirstAhead table.size hand
      (fun frame => table.isEvictable frame = true ∧ table.isUsed frame = false) distance victim)
    (enough : distance < visits) :
    ∃ passed, PassedOver table hand distance passed ∧ sweep table hand visits =
      { victim := some victim, clock := ⟨(victim + 1) % table.size⟩, table := passed } := by
  obtain ⟨more, rfl⟩ := Nat.exists_eq_add_of_lt enough
  have goesOn : ∀ step < distance, table.isEvictable (frameAt table.size hand step) = true →
      table.isUsed (frameAt table.size hand step) = true := by
    intro step before evictable
    by_contra unmarked
    exact first.first step before ⟨evictable, Bool.eq_false_of_not_eq_true unmarked⟩
  obtain ⟨passed, effect, swept⟩ := sweep_add inside (Nat.le_of_lt first.near) goesOn (more + 1)
  obtain ⟨evictable, unmarked⟩ := first.found
  have here : victim < passed.size := by
    rw [effect.size_eq, ← first.arrives]
    exact frameAt_lt (Nat.zero_lt_of_lt inside) distance
  have stillUnmarked : passed.isUsed victim = false := by
    rw [← Bool.not_eq_true, effect.isUsed_iff, unmarked]
    exact fun marked => Bool.false_ne_true marked.1
  refine ⟨passed, effect, ?_⟩
  rw [Nat.add_assoc, swept, first.arrives,
    sweep_of_unmarked here (by rwa [effect.isEvictable_eq]) stillUnmarked, effect.size_eq]

/-- Where no frame may be evicted, a sweep changes nothing. -/
theorem sweep_of_unevictable (inside : hand < table.size)
    (unevictable : ∀ frame, table.isEvictable frame = false) (visits : Nat) :
    sweep table hand visits =
      { victim := none, clock := ⟨frameAt table.size hand visits⟩, table := table } := by
  induction visits generalizing hand with
  | zero => rw [sweep, frameAt_zero inside]
  | succ visits ih =>
    simp only [sweep, unevictable, Bool.false_eq_true, if_false]
    rw [ih (Nat.mod_lt _ (by omega))]
    rw [frameAt, frameAt, Nat.mod_add_mod, Nat.add_right_comm, Nat.add_assoc]

/-- Where all frames that may be evicted are marked, they are unmarked in the
first turn, and the second one ends at the first of them. -/
theorem sweep_of_allMarked {distance victim : Nat} (inside : hand < table.size)
    (allMarked : ∀ frame, table.isEvictable frame = true → table.isUsed frame = true)
    (first : FirstAhead table.size hand (fun frame => table.isEvictable frame = true)
      distance victim) :
    ∃ passed, PassedOver table hand (table.size + distance) passed ∧
      sweep table hand (table.size + table.size) =
        { victim := some victim, clock := ⟨(victim + 1) % table.size⟩, table := passed } := by
  obtain ⟨passed, turn, swept⟩ := sweep_add inside (Nat.le_refl table.size)
    (fun step _ => allMarked _) table.size
  have around := frameAt_size inside
  have unmarked : ∀ frame, table.isEvictable frame = true → passed.isUsed frame = false := by
    intro frame evictable
    obtain ⟨-, owner, owned⟩ := FrameTable.isEvictable_iff.mp evictable
    have visited : Visits table.size hand table.size frame :=
      exists_frameAt_eq (FrameTable.lt_size_of_owner? owned) hand
    rw [← Bool.not_eq_true, turn.isUsed_iff]
    exact fun marked => marked.2 ⟨evictable, visited⟩
  have nextFirst : FirstAhead passed.size hand
      (fun frame => passed.isEvictable frame = true ∧ passed.isUsed frame = false)
      distance victim := by
    rw [turn.size_eq]
    refine ⟨first.near, first.arrives, ?_, fun earlier before found => ?_⟩
    · rw [turn.isEvictable_eq]
      exact ⟨first.found, unmarked victim first.found⟩
    · rw [turn.isEvictable_eq] at found
      exact first.first earlier before found.1
  obtain ⟨last, effect, sweptOn⟩ := sweep_of_firstAhead (turn.size_eq.symm ▸ inside) nextFirst
    (first.near : distance < table.size)
  refine ⟨last, turn.trans (around.symm ▸ effect), ?_⟩
  rw [swept, around, sweptOn, turn.size_eq]

end Sweeps

section Choices

variable (clock : Clock) (table : FrameTable Owner)

theorem selectVictim_of_unevictable (unevictable : ∀ frame, table.isEvictable frame = false) :
    clock.selectVictim table =
      { victim := none, clock := ⟨clock.hand % table.size⟩, table := table } := by
  rw [selectVictim]
  split
  · rename_i empty
    rw [empty, Nat.mod_zero]
  · rename_i present
    have inside : clock.hand % table.size < table.size :=
      Nat.mod_lt _ (Nat.pos_of_ne_zero present)
    rw [sweep_of_unevictable inside unevictable, Nat.two_mul, frameAt_size_add,
      frameAt_size inside]

/-- Where some frame may be evicted, the one to be chosen is chosen. -/
theorem exists_picks {frame : Nat} (evictable : table.isEvictable frame = true) :
    ∃ victim last passed, Picks table (clock.hand % table.size) victim last ∧
      PassedOver table (clock.hand % table.size) last passed ∧
      clock.selectVictim table =
        { victim := some victim, clock := ⟨(victim + 1) % table.size⟩, table := passed } := by
  obtain ⟨-, owner, owned⟩ := FrameTable.isEvictable_iff.mp evictable
  have present := FrameTable.lt_size_of_owner? owned
  have inside : clock.hand % table.size < table.size := Nat.mod_lt _ (by omega)
  rw [selectVictim, if_neg (by omega), Nat.two_mul]
  by_cases unmarked : ∃ other, table.isEvictable other = true ∧ table.isUsed other = false
  · obtain ⟨other, otherEvictable, clear⟩ := unmarked
    obtain ⟨-, _, otherOwned⟩ := FrameTable.isEvictable_iff.mp otherEvictable
    obtain ⟨distance, victim, first⟩ := exists_firstAhead
      (fun frame => table.isEvictable frame = true ∧ table.isUsed frame = false)
      (FrameTable.lt_size_of_owner? otherOwned) ⟨otherEvictable, clear⟩ (clock.hand % table.size)
    obtain ⟨passed, effect, swept⟩ := sweep_of_firstAhead inside first
      (Nat.lt_add_left table.size first.near)
    exact ⟨victim, distance, passed, .unmarked first, effect, swept⟩
  · have allMarked : ∀ other, table.isEvictable other = true → table.isUsed other = true := by
      intro other otherEvictable
      by_contra clear
      exact unmarked ⟨other, otherEvictable, Bool.eq_false_of_not_eq_true clear⟩
    obtain ⟨distance, victim, first⟩ := exists_firstAhead
      (fun frame => table.isEvictable frame = true) present evictable (clock.hand % table.size)
    obtain ⟨passed, effect, swept⟩ := sweep_of_allMarked inside allMarked first
    exact ⟨victim, table.size + distance, passed, .marked allMarked first, effect, swept⟩

/-- A victim is found whenever some frame may be evicted. -/
theorem exists_victim {clock : Clock} {table : FrameTable Owner} {frame : Nat}
    (evictable : table.isEvictable frame = true) :
    ∃ victim, (clock.selectVictim table).victim = some victim := by
  obtain ⟨victim, last, passed, -, -, chosen⟩ := clock.exists_picks table evictable
  exact ⟨victim, by rw [chosen]⟩

/-- A clock that finds no victim has changed no mark on the way. -/
theorem table_selectVictim_of_none {clock : Clock} {table : FrameTable Owner}
    (none : (clock.selectVictim table).victim = none) :
    (clock.selectVictim table).table = table := by
  have unevictable : ∀ frame, table.isEvictable frame = false := by
    intro frame
    rw [← Bool.not_eq_true]
    intro evictable
    obtain ⟨victim, found⟩ := @exists_victim _ clock table frame evictable
    exact absurd (none.symm.trans found) nofun
  rw [clock.selectVictim_of_unevictable table unevictable]

/-- The hand passes over frames that may not be evicted and leaves their marks. -/
theorem isUsed_selectVictim_of_unevictable {clock : Clock} {table : FrameTable Owner} {frame : Nat}
    (unevictable : table.isEvictable frame = false) :
    (clock.selectVictim table).table.isUsed frame = table.isUsed frame := by
  cases found : (clock.selectVictim table).victim with
  | none => rw [table_selectVictim_of_none found]
  | some victim =>
    obtain ⟨_, last, passed, -, effect, chosen⟩ :=
      clock.exists_picks table (isEvictable_of_selectVictim found)
    rw [chosen, Bool.eq_iff_iff, effect.isUsed_iff]
    exact and_iff_left fun visited => Bool.false_ne_true (unevictable.symm.trans visited.1)

/-- What a clock answers, where its hand is afterwards, and what has become of
the table. -/
structure SelectsExactly : Prop where
  /-- Nothing is chosen exactly if every frame is pinned or empty. -/
  victim_eq_none_iff : (clock.selectVictim table).victim = none ↔
    ∀ frame, ¬ (table.isPinned frame = false ∧ ∃ owner, table.owner? frame = some owner)
  of_none : (clock.selectVictim table).victim = none →
    (∀ frame, (clock.selectVictim table).table.isUsed frame = table.isUsed frame) ∧
      (table.size ≠ 0 → (clock.selectVictim table).clock.hand = clock.hand % table.size)
  of_some : ∀ victim, (clock.selectVictim table).victim = some victim →
    (clock.selectVictim table).clock.hand = (victim + 1) % table.size ∧
      ∃ last, Picks table (clock.hand % table.size) victim last ∧
        ∀ frame, (clock.selectVictim table).table.isUsed frame = true ↔
          table.isUsed frame = true ∧ ¬ (table.isEvictable frame = true ∧
            Visits table.size (clock.hand % table.size) last frame)
  /-- Owners and pins stay as they are. -/
  agreesButUsed : table.AgreesButUsed (clock.selectVictim table).table
  isUsed_eq : ∀ frame, table.isPinned frame = true ∨ table.owner? frame = none →
    (clock.selectVictim table).table.isUsed frame = table.isUsed frame

/-- For every table and every position of the hand, the choice of a victim is the
one described. -/
theorem selectsExactly : clock.SelectsExactly table := by
  have evictable_iff : (∀ frame, table.isEvictable frame = false) ↔
      ∀ frame, ¬ (table.isPinned frame = false ∧ ∃ owner, table.owner? frame = some owner) := by
    simp only [← FrameTable.isEvictable_iff, Bool.not_eq_true]
  by_cases unevictable : ∀ frame, table.isEvictable frame = false
  · have nothing := clock.selectVictim_of_unevictable table unevictable
    constructor <;> rw [nothing]
    case victim_eq_none_iff => exact iff_of_true rfl (evictable_iff.mp unevictable)
    case of_none => exact fun _ => ⟨fun _ => rfl, fun _ => rfl⟩
    case of_some => exact fun _ none => absurd none nofun
    case agreesButUsed => exact .refl table
    case isUsed_eq => exact fun _ _ => rfl
  · obtain ⟨frame, evictable⟩ := not_forall.mp unevictable
    obtain ⟨victim, last, passed, picks, effect, chosen⟩ :=
      clock.exists_picks table (Bool.eq_true_of_not_eq_false evictable)
    constructor <;> rw [chosen]
    case victim_eq_none_iff =>
      exact iff_of_false nofun fun none => unevictable (evictable_iff.mpr none)
    case of_none => exact fun none => absurd none nofun
    case of_some =>
      rintro _ ⟨⟩
      exact ⟨rfl, last, picks, effect.isUsed_iff⟩
    case agreesButUsed => exact effect.toAgreesButUsed
    case isUsed_eq =>
      intro other kept
      have notEvictable : ¬ table.isEvictable other = true := by
        rw [FrameTable.isEvictable_iff]
        rintro ⟨loose, owner, owned⟩
        rcases kept with pinned | empty
        · exact absurd (pinned.symm.trans loose) nofun
        · exact absurd (empty.symm.trans owned) nofun
      rw [Bool.eq_iff_iff, effect.isUsed_iff]
      exact and_iff_left fun visited => notEvictable visited.1

/-- Frames 0 and 1 are marked and lose their marks; frame 2 is chosen. -/
example : (selectVictim { hand := 4 } (⟨#[⟨some 7, true, false⟩, ⟨some 8, true, false⟩,
    ⟨some 9, false, false⟩, ⟨some 5, true, true⟩]⟩ : FrameTable Nat)) =
    { victim := some 2, clock := ⟨3⟩, table := ⟨#[⟨some 7, false, false⟩, ⟨some 8, false, false⟩,
      ⟨some 9, false, false⟩, ⟨some 5, true, true⟩]⟩ } := by
  decide

end Choices

end Clock

end DemandPaging
