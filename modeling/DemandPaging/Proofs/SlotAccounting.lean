import DemandPaging.Proofs.SwapRequests
import Mathlib.Data.List.Infix
import Mathlib.Order.Bounds.Defs

/-!
# The slots of an open swap area

As long as a swap area is open, its slots are the ones of its pages, the free
ones, and the ones that were handed out.  A slot that is needed is the lowest
free one, and the file grows only when none is free; therefore there are never
more slots than were needed at one time.
-/

namespace DemandPaging

namespace SwapUse

variable {Key : Type} {pageSize : Nat} [DecidableEq Key]

/-- The number of slots that belong to a page or are handed out. -/
def takenCount (use : SwapUse Key pageSize) : Nat :=
  use.area.boundSlotCount + use.handedOut.card

/-- What is known about the slots of an area that was opened as `start` and
answered `requests` since. -/
structure ExactSlots (start use : SwapUse Key pageSize) (requests : List (SwapRequest Key)) :
    Prop where
  /-- No slot belongs to two pages. -/
  eq_of_slot : ∀ first second slot, use.area.slotOf? first = some slot →
    use.area.slotOf? second = some slot → first = second
  lt_slotCount_iff : ∀ slot, slot < use.area.slotCount ↔
    (∃ key, use.area.slotOf? key = some slot) ∨ slot ∈ use.area.freeSlots.slots ∨
      slot ∈ use.handedOut
  free_unbound : ∀ slot ∈ use.area.freeSlots.slots, ∀ key, use.area.slotOf? key ≠ some slot
  handedOut_unbound : ∀ slot ∈ use.handedOut, ∀ key, use.area.slotOf? key ≠ some slot
  handedOut_notFree : ∀ slot ∈ use.handedOut, slot ∉ use.area.freeSlots.slots
  fileLength_eq : use.area.fileLength use.volume = use.area.slotCount * pageSize
  /-- A slot that is asked for is handed out. -/
  allocates : ∃ slot next, use.serve .allocate = (.allocated (.ok slot), next) ∧
    use.area.Draws use.volume slot next.area next.volume ∧
    next.handedOut = insert slot use.handedOut
  /-- A page that is written for the first time gets a slot. -/
  writes_first : ∀ key data, data.size = pageSize → use.area.slotOf? key = none →
    ∃ slot next, use.serve (.write key data) = (.wrote (.ok slot), next) ∧
      use.area.Draws use.volume slot next.area next.volume ∧
      next.area.slotOf? key = some slot ∧ next.handedOut = use.handedOut
  /-- There are more slots only after a request that found none free. -/
  resizes : ∀ request, request ≠ .close → Resizes use (use.serve request).2
  /-- There are as many slots as were taken at the same time so far. -/
  slotCount_isGreatest : IsGreatest
    {count | ∃ earlier, earlier <+: requests ∧ (start.after earlier).takenCount = count}
    use.area.slotCount
  free_iff : ∀ slot, (use.serve (.free slot)).1 = .freed (.ok ()) ↔
    slot < use.area.slotCount ∧ ∀ key, use.area.slotOf? key ≠ some slot
  /-- A request that fails changes nothing. -/
  unchanged : ∀ request, request ≠ .close → (use.serve request).1.Fails →
    (use.serve request).2 = use

section Counting

variable {use next start : SwapUse Key pageSize}

theorem Running.takenCount_le (running : use.Running) : use.takenCount ≤ use.area.slotCount := by
  have counted := running.balanced.slotCount_eq
  rw [takenCount]
  omega

theorem Running.takenCount_of_full (running : use.Running)
    (full : use.area.freeSlots.slots = []) : use.takenCount = use.area.slotCount := by
  have counted := running.balanced.slotCount_eq
  have noneFree : use.area.freeSlotCount = 0 := by
    rw [SwapArea.freeSlotCount, SlotSet.size, full, List.length_nil]
  rw [takenCount]
  omega

omit [DecidableEq Key] in
theorem Resizes.slotCount_le (resizes : Resizes use next) :
    use.area.slotCount ≤ next.area.slotCount := by
  cases resizes with
  | keep slotCount => exact Nat.le_of_eq slotCount.symm
  | extend _ _ slotCount => omega

/-- The slot count is a high-water mark: what was taken at one time never
exceeds it, and it was reached. -/
theorem Running.slotCount_isGreatest (running : start.Running) (positive : 0 < pageSize)
    (empty : start.area.slotCount = 0) {requests : List (SwapRequest Key)}
    (staysOpen : .close ∉ requests) :
    IsGreatest {count | ∃ earlier, earlier <+: requests ∧ (start.after earlier).takenCount = count}
      (start.after requests).area.slotCount := by
  induction requests using List.reverseRecOn with
  | nil =>
    have noneTaken := running.takenCount_le
    constructor
    · exact ⟨[], List.prefix_rfl, by rw [after_nil]; omega⟩
    · rintro count ⟨earlier, early, rfl⟩
      rw [List.prefix_nil.mp early]
      exact noneTaken
  | append_singleton requests request ih =>
    rw [List.mem_append, List.mem_singleton, not_or] at staysOpen
    obtain ⟨⟨reachedAt, early, reached⟩, bound⟩ := ih staysOpen.1
    obtain ⟨lastRunning, resizes⟩ :=
      (running.after positive staysOpen.1).serve positive (Ne.symm staysOpen.2)
    have last : start.after (requests ++ [request]) =
        ((start.after requests).serve request).2 := by
      rw [after_append, after_cons, after_nil]
    constructor
    · cases resizes with
      | keep slotCount =>
        refine ⟨reachedAt, early.trans (List.prefix_append _ _), ?_⟩
        rw [reached, last, slotCount]
      | extend _ stillFull _ =>
        refine ⟨requests ++ [request], List.prefix_rfl, ?_⟩
        rw [last, lastRunning.takenCount_of_full stillFull]
    · rintro count ⟨earlier, early, rfl⟩
      rw [last]
      rcases List.prefix_concat_iff.mp early with rfl | early
      · rw [last]
        exact lastRunning.takenCount_le
      · exact (bound ⟨earlier, early, rfl⟩).trans resizes.slotCount_le

/-- A slot can be given back exactly if it is there and belongs to no page. -/
theorem Running.free_iff (running : use.Running) (slot : Nat) :
    (use.serve (.free slot)).1 = .freed (.ok ()) ↔
      slot < use.area.slotCount ∧ ∀ key, use.area.slotOf? key ≠ some slot := by
  rw [← not_exists]
  by_cases accepted : slot < use.area.slotCount ∧ ¬ ∃ key, use.area.slotOf? key = some slot
  · rw [serve_free_ok running.balanced.toIntact accepted.1 accepted.2]
    exact iff_of_true rfl accepted
  · rw [serve_free_error running.balanced.toIntact accepted]
    exact iff_of_false nofun accepted

/-- An open area refuses only what cannot be done, and then does nothing. -/
theorem Running.unchanged_of_fails (running : use.Running) (positive : 0 < pageSize)
    {request : SwapRequest Key} (staysOpen : request ≠ .close)
    (fails : (use.serve request).1.Fails) : (use.serve request).2 = use := by
  have balanced := running.balanced
  cases request with
  | write key data =>
    by_cases fits : data.size = pageSize
    · obtain ⟨slot, next, written, done, -⟩ :=
        balanced.exists_write positive running.isOpen key fits
      rw [serve_write done] at fails
      cases fails.choose_spec
    · rw [serve_write_of_size_ne fits]
  | read slot size => rfl
  | release key => exact fails.elim
  | releaseWhere selected => exact fails.elim
  | allocate =>
    obtain ⟨slot, next, grown, done, -⟩ := balanced.exists_allocate positive running.isOpen
    rw [serve_allocate done] at fails
    cases fails.choose_spec
  | free slot =>
    by_cases accepted : slot < use.area.slotCount ∧ ¬ ∃ key, use.area.slotOf? key = some slot
    · rw [serve_free_ok balanced.toIntact accepted.1 accepted.2] at fails
      cases fails.choose_spec
    · rw [serve_free_error balanced.toIntact accepted]
  | close => exact absurd rfl staysOpen

end Counting

/-- After every run of requests to an open area, its slots are accounted for,
and it has no more of them than were ever needed at one time. -/
theorem exactSlots_after (positive : 0 < pageSize) {volume opened : Volume} {name : String}
    {area : SwapArea Key pageSize} (consistent : volume.Consistent)
    (done : SwapArea.openNamed volume name = .ok (area, opened))
    {requests : List (SwapRequest Key)} (staysOpen : .close ∉ requests) :
    ExactSlots { area := area, volume := opened }
      (after { area := area, volume := opened } requests) requests := by
  have started := running_openNamed consistent done
  have running := started.after positive staysOpen
  have balanced := running.balanced
  have empty : area.slotCount = 0 := by
    rw [started.balanced.slotCount_eq]
    obtain ⟨bindings, freeSlots⟩ := SwapArea.bindings_openNamed done
    simp [SwapArea.boundSlotCount, SwapArea.freeSlotCount, bindings, freeSlots, KeyedTable.size,
      SlotSet.size]
  constructor
  case eq_of_slot => exact balanced.eq_of_slot
  case lt_slotCount_iff => exact balanced.lt_slotCount_iff
  case free_unbound => exact balanced.unbound
  case handedOut_unbound => exact balanced.nobodys
  case handedOut_notFree => exact balanced.notFree
  case fileLength_eq => exact balanced.fileLength_eq
  case allocates =>
    obtain ⟨slot, next, grown, allocated, allocates⟩ :=
      balanced.exists_allocate positive running.isOpen
    exact ⟨slot, _, serve_allocate allocated, allocates.draws, rfl⟩
  case writes_first =>
    intro key data fits unbound
    obtain ⟨slot, next, written, wrote, keeps⟩ :=
      balanced.exists_write positive running.isOpen key fits
    refine ⟨slot, _, serve_write wrote, ?_, keeps.bound, rfl⟩
    rcases keeps.source with ⟨bound, -⟩ | ⟨-, draws, -⟩
    · rw [unbound] at bound
      cases bound
    · exact draws
  case resizes => exact fun request staysOpen => (running.serve positive staysOpen).2
  case slotCount_isGreatest => exact started.slotCount_isGreatest positive empty staysOpen
  case free_iff => exact running.free_iff
  case unchanged => exact fun request => running.unchanged_of_fails positive

/-- One page written, one slot handed out and given back, another page. -/
theorem exactSlots_after_reuse :
    ∃ (area : SwapArea Nat 4) (opened : Volume), 0 < 4 ∧ Volume.Consistent {} ∧
      SwapArea.openNamed {} "pages" = .ok (area, opened) ∧
      ExactSlots { area := area, volume := opened }
        (after { area := area, volume := opened }
          [.write 7 #[1, 2, 3, 4], .allocate, .free 1, .write 8 #[5, 6, 7, 8], .free 1])
        [.write 7 #[1, 2, 3, 4], .allocate, .free 1, .write 8 #[5, 6, 7, 8], .free 1] := by
  obtain ⟨area, opened, done⟩ := exists_openNamed_pages
  refine ⟨area, opened, by decide, Volume.consistent_empty, done, ?_⟩
  exact exactSlots_after (by decide) Volume.consistent_empty done (by simp)

end SwapUse

end DemandPaging
