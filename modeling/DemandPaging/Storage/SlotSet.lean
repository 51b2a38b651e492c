/-!
# Sets of free slots

The free slots of a swap area, in ascending order, so that the lowest one is
at hand.
-/

namespace DemandPaging

/-- A finite set of slot numbers, listed in ascending order. -/
structure SlotSet where
  slots : List Nat := []
  deriving DecidableEq, Repr

namespace SlotSet

def size (set : SlotSet) : Nat :=
  set.slots.length

/-- Insert `slot` into an ascending list, unless it is there already. -/
def insertSorted (slot : Nat) : List Nat → List Nat
  | [] => [slot]
  | first :: rest =>
    if slot < first then
      slot :: first :: rest
    else if slot = first then
      first :: rest
    else
      first :: insertSorted slot rest

def insert (set : SlotSet) (slot : Nat) : SlotSet where
  slots := insertSorted slot set.slots

def insertAll (set : SlotSet) (added : List Nat) : SlotSet :=
  added.foldl insert set

/-- The lowest slot and the set without it. -/
def takeLowest? (set : SlotSet) : Option (Nat × SlotSet) :=
  match set.slots with
  | [] => none
  | slot :: rest => some (slot, ⟨rest⟩)

theorem slots_of_takeLowest?_eq_some {set rest : SlotSet} {slot : Nat}
    (taken : set.takeLowest? = some (slot, rest)) : set.slots = slot :: rest.slots := by
  rw [takeLowest?] at taken
  split at taken
  · cases taken
  · rename_i listed
    cases taken
    exact listed

theorem slots_of_takeLowest?_eq_none {set : SlotSet} (empty : set.takeLowest? = none) :
    set.slots = [] := by
  rw [takeLowest?] at empty
  split at empty
  · rename_i listed
    exact listed
  · cases empty

theorem mem_insertSorted (slot other : Nat) (slots : List Nat) :
    other ∈ insertSorted slot slots ↔ other = slot ∨ other ∈ slots := by
  induction slots with
  | nil => simp [insertSorted]
  | cons first rest ih =>
    simp only [insertSorted]
    split
    · simp
    · split
      · rename_i same
        simp [same]
      · simp only [List.mem_cons, ih]
        exact or_left_comm

theorem pairwise_insertSorted (slot : Nat) {slots : List Nat}
    (ascending : slots.Pairwise (· < ·)) :
    (insertSorted slot slots).Pairwise (· < ·) := by
  induction slots with
  | nil => simp [insertSorted]
  | cons first rest ih =>
    rw [List.pairwise_cons] at ascending
    simp only [insertSorted]
    split
    · rename_i below
      simp only [List.pairwise_cons, List.mem_cons, forall_eq_or_imp]
      exact ⟨⟨below, fun other member => Nat.lt_trans below (ascending.1 other member)⟩,
        ascending⟩
    · split
      · exact List.pairwise_cons.mpr ascending
      · rename_i notBelow different
        rw [List.pairwise_cons]
        refine ⟨fun other member => ?_, ih ascending.2⟩
        rcases (mem_insertSorted slot other rest).mp member with rfl | inRest
        · omega
        · exact ascending.1 other inRest

@[simp]
theorem mem_insert (set : SlotSet) (slot other : Nat) :
    other ∈ (set.insert slot).slots ↔ other = slot ∨ other ∈ set.slots :=
  mem_insertSorted slot other set.slots

theorem pairwise_insert {set : SlotSet} (ascending : set.slots.Pairwise (· < ·)) (slot : Nat) :
    (set.insert slot).slots.Pairwise (· < ·) :=
  pairwise_insertSorted slot ascending

theorem mem_insertAll (set : SlotSet) (added : List Nat) (slot : Nat) :
    slot ∈ (set.insertAll added).slots ↔ slot ∈ added ∨ slot ∈ set.slots := by
  induction added generalizing set with
  | nil => simp [insertAll]
  | cons first rest ih =>
    have next := ih (set.insert first)
    simp only [insertAll, List.foldl_cons] at next ⊢
    rw [next, mem_insert, List.mem_cons]
    exact or_left_comm.trans or_assoc.symm

theorem pairwise_insertAll {set : SlotSet} (ascending : set.slots.Pairwise (· < ·))
    (added : List Nat) : (set.insertAll added).slots.Pairwise (· < ·) := by
  induction added generalizing set with
  | nil => exact ascending
  | cons first rest ih => exact ih (pairwise_insert ascending first)

end SlotSet

end DemandPaging
