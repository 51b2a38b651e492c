import DemandPaging.Frame.Table

/-!
# The clock

Victims are chosen by a hand that sweeps the frame table.  A frame that was
used since the hand last passed loses its mark and gets a second chance, so
two sweeps find a victim whenever some frame may be evicted.
-/

namespace DemandPaging

/-- The hand of the clock: the frame at which the next sweep starts. -/
structure Clock where
  hand : Nat := 0
  deriving DecidableEq, Repr

structure Selection (Owner : Type) where
  victim : Option Nat
  clock : Clock
  table : FrameTable Owner
  deriving DecidableEq, Repr

namespace Clock

variable {Owner : Type}

/-- Visit at most `visits` frames from `hand` on.  The first evictable frame
that is not marked used is the victim; the marks of the evictable frames before
it are cleared. -/
def sweep (table : FrameTable Owner) (hand : Nat) : Nat → Selection Owner
  | 0 => { victim := none, clock := ⟨hand⟩, table := table }
  | visits + 1 =>
    let next := (hand + 1) % table.size
    if table.isEvictable hand then
      match table.takeUsed hand with
      | (true, cleared) => sweep cleared next visits
      | (false, _) => { victim := some hand, clock := ⟨next⟩, table := table }
    else
      sweep table next visits

/-- Choose a victim within two sweeps of the hand. -/
def selectVictim (clock : Clock) (table : FrameTable Owner) : Selection Owner :=
  if table.size = 0 then
    { victim := none, clock := clock, table := table }
  else
    sweep table (clock.hand % table.size) (2 * table.size)

/-- A sweep changes nothing but used marks. -/
theorem agreesButUsed_sweep (table : FrameTable Owner) (hand visits : Nat) :
    FrameTable.AgreesButUsed table (sweep table hand visits).table := by
  induction visits generalizing table hand with
  | zero => exact .refl table
  | succ visits ih =>
    simp only [sweep]
    split
    · have taken := FrameTable.agreesButUsed_takeUsed table hand
      split
      · rename_i cleared equal
        rw [equal] at taken
        exact taken.trans (ih cleared _)
      · exact .refl table
    · exact ih table _

/-- The victim of a sweep is a frame that may be evicted. -/
theorem isEvictable_of_sweep {table : FrameTable Owner} {hand visits victim : Nat}
    (chosen : (sweep table hand visits).victim = some victim) :
    table.isEvictable victim = true := by
  induction visits generalizing table hand with
  | zero => cases chosen
  | succ visits ih =>
    simp only [sweep] at chosen
    split at chosen
    · rename_i evictable
      have taken := FrameTable.agreesButUsed_takeUsed table hand
      split at chosen
      · rename_i cleared equal
        rw [equal] at taken
        rw [← taken.isEvictable_eq]
        exact ih chosen
      · exact Option.some.inj chosen ▸ evictable
    · exact ih chosen

theorem agreesButUsed_selectVictim (clock : Clock) (table : FrameTable Owner) :
    FrameTable.AgreesButUsed table (clock.selectVictim table).table := by
  rw [selectVictim]
  split
  · exact .refl table
  · exact agreesButUsed_sweep table _ _

theorem isEvictable_of_selectVictim {clock : Clock} {table : FrameTable Owner} {victim : Nat}
    (chosen : (clock.selectVictim table).victim = some victim) :
    table.isEvictable victim = true := by
  rw [selectVictim] at chosen
  split at chosen
  · cases chosen
  · exact isEvictable_of_sweep chosen

end Clock

end DemandPaging
