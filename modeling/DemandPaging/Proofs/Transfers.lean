import DemandPaging.ProcessImage

/-!
# What loops over pages keep

Transfers walk over a range part by part, an access looks at its page until it
finds it in a frame, and an eager space brings in its pages one after the
other.  Each of these loops has an induction principle here: what its single
steps keep, the loop keeps.
-/

namespace DemandPaging

namespace Chunk

variable {pageSize : Nat}

theorem next_inside (positive : 0 < pageSize) (address length done : Nat) :
    (next pageSize address length done).offset + (next pageSize address length done).count ≤
      pageSize := by
  have inside : (address + done) % pageSize < pageSize := Nat.mod_lt _ positive
  simp only [next, splitAddress]
  omega

theorem next_address (address length done : Nat) :
    (next pageSize address length done).vpn * pageSize +
      (next pageSize address length done).offset = address + done :=
  Nat.div_add_mod' (address + done) pageSize

theorem next_ends {length done : Nat} (address : Nat) (unfinished : done < length) :
    done + (next pageSize address length done).count ≤ length := by
  simp only [next, splitAddress]
  omega

/-- All bytes of a part lie in one page. -/
theorem next_page (positive : 0 < pageSize) (address length : Nat) {done position : Nat}
    (after : done ≤ position)
    (before : position < done + (next pageSize address length done).count) :
    (address + position) / pageSize = (address + done) / pageSize := by
  have inside := next_inside positive address length done
  have start : (next pageSize address length done).vpn * pageSize +
      (next pageSize address length done).offset = address + done :=
    next_address address length done
  change _ = (next pageSize address length done).vpn
  apply Nat.div_eq_of_lt_le
  · omega
  · rw [Nat.succ_mul]
    omega

end Chunk

/-- A fact about the bytes moved and the state holds at the end of a walk if
every part that is copied keeps it, whether the copy succeeds or fails. -/
theorem walkFrom_induction {State : Type} {pageSize : Nat} (positive : 0 < pageSize)
    {address length : Nat} {copy : Chunk → State → Except PagingError Unit × State}
    (holds : Nat → State → Prop)
    (succeeds : ∀ done state next, done < length → holds done state →
      copy (Chunk.next pageSize address length done) state = (.ok (), next) →
      holds (done + (Chunk.next pageSize address length done).count) next)
    (fails : ∀ done state next error, done < length → holds done state →
      copy (Chunk.next pageSize address length done) state = (.error error, next) →
      holds done next)
    {done : Nat} {state : State} (start : holds done state) :
    holds (walkFrom positive address length copy done state).1.moved
      (walkFrom positive address length copy done state).2 := by
  fun_induction walkFrom positive address length copy done state with
  | case1 => exact start
  | case2 done state unfinished inside chunk _ error failed copied =>
    exact fails done state failed error unfinished start copied
  | case3 done state unfinished inside chunk _ moved copied ih =>
    exact ih (succeeds done state moved unfinished start copied)
  | case4 => exact start

/-- What every copy keeps, the walk keeps. -/
theorem walkFrom_keeps {State : Type} {pageSize : Nat} (positive : 0 < pageSize)
    {address length : Nat} {copy : Chunk → State → Except PagingError Unit × State}
    (holds : State → Prop)
    (copies : ∀ done state, done < length → holds state →
      holds (copy (Chunk.next pageSize address length done) state).2)
    {done : Nat} {state : State} (start : holds state) :
    holds (walkFrom positive address length copy done state).2 := by
  refine walkFrom_induction positive (fun _ => holds) ?_ ?_ start
  · intro done state next unfinished kept copied
    have copy := copies done state unfinished kept
    rwa [copied] at copy
  · intro done state next error unfinished kept copied
    have copy := copies done state unfinished kept
    rwa [copied] at copy

theorem moved_walkFrom_of_complete {State : Type} {pageSize : Nat} (positive : 0 < pageSize)
    {address length : Nat} {copy : Chunk → State → Except PagingError Unit × State}
    {done : Nat} {state : State} (within : done ≤ length)
    (complete : (walkFrom positive address length copy done state).1.stopped = none) :
    (walkFrom positive address length copy done state).1.moved = length := by
  fun_induction walkFrom positive address length copy done state with
  | case1 => cases complete
  | case2 => cases complete
  | case3 done state unfinished inside chunk _ moved copied ih =>
    have bounded : chunk.count ≤ length - done := Nat.min_le_right _ _
    exact ih (by omega) complete
  | case4 done state finished => exact Nat.le_antisymm within (Nat.le_of_not_lt finished)

namespace Manager

variable {pageSize : Nat}

/-- A look at a page changes nothing, or it touches the page in its frame and
changes at most bytes of the memory besides. -/
theorem accessResident?_touches {manager : Manager pageSize} {page : PageId} {offset : Nat}
    {access : Access} {outcome : Except PagingError Bytes × Manager pageSize}
    (looked : manager.accessResident? page offset access = some outcome) :
    outcome.2 = manager ∨
      ∃ entry memory wrote, manager.entry page = .ok entry ∧ entry.valid = true ∧
        memory.numFrames = manager.memory.numFrames ∧
        outcome.2 = (touch { manager with memory := memory } page entry.frame wrote).2 := by
  rw [accessResident?] at looked
  split at looked
  · obtain rfl := Option.some.inj looked
    exact .inl rfl
  rename_i entry found
  split at looked
  · rename_i valid
    split at looked
    · obtain rfl := Option.some.inj looked
      rw [readResident]
      split
      · exact .inl rfl
      · exact .inr ⟨entry, manager.memory, _, found, valid, rfl, rfl⟩
    · obtain rfl := Option.some.inj looked
      rw [writeResident]
      split
      · exact .inl rfl
      split
      · exact .inl rfl
      · rename_i memory written
        refine .inr ⟨entry, memory, true, found, valid, ?_, rfl⟩
        rw [(PhysicalMemory.of_write_eq_ok written).2]
        rfl
  · cases looked

/-- A look at a page changes nothing, or at most bytes of the memory and the
marks of the page. -/
theorem accessResident?_cases {manager : Manager pageSize} {page : PageId} {offset : Nat}
    {access : Access} {outcome : Except PagingError Bytes × Manager pageSize}
    (looked : manager.accessResident? page offset access = some outcome) :
    outcome.2 = manager ∨
      ∃ memory frame wrote, memory.numFrames = manager.memory.numFrames ∧
        outcome.2 = (touch { manager with memory := memory } page frame wrote).2 := by
  rcases accessResident?_touches looked with same | ⟨entry, memory, wrote, -, -, numFrames, same⟩
  · exact .inl same
  · exact .inr ⟨memory, entry.frame, wrote, numFrames, same⟩

/-- An access ends with a look at a page that is in a frame, or in the error of
a fault; what faults keep holds up to there. -/
theorem accessWithin_cases {page : PageId} {offset : Nat} {access : Access}
    (holds : Manager pageSize → Prop)
    (faults : ∀ manager, holds manager → holds (manager.fault page).2)
    {looks : Nat} {manager : Manager pageSize} (start : holds manager) :
    (∃ last, holds last ∧
      last.accessResident? page offset access =
        some (manager.accessWithin page offset access looks)) ∨
    ∃ error, (manager.accessWithin page offset access looks).1 = .error error ∧
      holds (manager.accessWithin page offset access looks).2 := by
  induction looks generalizing manager with
  | zero => exact .inr ⟨_, rfl, start⟩
  | succ looks ih =>
    rw [accessWithin]
    split
    · rename_i outcome found
      exact .inl ⟨manager, start, found⟩
    · have kept := faults manager start
      split
      · rename_i error faulted failed
        rw [failed] at kept
        exact .inr ⟨error, rfl, kept⟩
      · rename_i resolution faulted done
        rw [done] at kept
        exact ih kept

section Looks

variable {manager faulted : Manager pageSize} {page : PageId} {entry : PageEntry} {offset : Nat}
  {access : Access}

theorem accessResident?_of_valid (found : manager.entry page = .ok entry)
    (valid : entry.valid = true) (offset : Nat) (access : Access) :
    ∃ outcome, manager.accessResident? page offset access = some outcome := by
  rw [accessResident?, found]
  simp only [valid, if_true]
  cases access with
  | read count => exact ⟨_, rfl⟩
  | write data => exact ⟨_, rfl⟩

theorem accessResident?_of_away (found : manager.entry page = .ok entry)
    (away : entry.valid = false) (offset : Nat) (access : Access) :
    manager.accessResident? page offset access = none := by
  rw [accessResident?, found]
  exact if_neg (Bool.not_eq_true _ ▸ away)

/-- An access to a page that the space does not have fails at the first look. -/
theorem access_of_entry_eq_error {error : PagingError}
    (missing : manager.entry page = .error error) :
    manager.access page offset access = (.error error, manager) := by
  rw [Manager.access, maxLooks, accessWithin, accessResident?, missing]

/-- An access to a page in a frame is decided at the first look. -/
theorem access_of_valid (found : manager.entry page = .ok entry) (valid : entry.valid = true)
    (offset : Nat) (access : Access) :
    manager.accessResident? page offset access = some (manager.access page offset access) := by
  obtain ⟨outcome, looked⟩ := accessResident?_of_valid found valid offset access
  rw [Manager.access, maxLooks, accessWithin, looked]

/-- An access fails as the fault does that it needs. -/
theorem access_of_fault_eq_error {error : PagingError} (found : manager.entry page = .ok entry)
    (away : entry.valid = false) (failed : manager.fault page = (.error error, faulted))
    (offset : Nat) (access : Access) :
    manager.access page offset access = (.error error, faulted) := by
  rw [Manager.access, maxLooks, accessWithin, accessResident?_of_away found away, failed]

/-- An access to a page that a fault brings in is decided at the second look. -/
theorem access_of_fault_eq_ok {resolution : Resolution} {resident : PageEntry}
    (found : manager.entry page = .ok entry) (away : entry.valid = false)
    (resolved : manager.fault page = (.ok resolution, faulted))
    (foundThen : faulted.entry page = .ok resident) (valid : resident.valid = true)
    (offset : Nat) (access : Access) :
    faulted.accessResident? page offset access = some (manager.access page offset access) := by
  obtain ⟨outcome, looked⟩ := accessResident?_of_valid foundThen valid offset access
  rw [Manager.access, maxLooks, accessWithin, accessResident?_of_away found away, resolved]
  simp only
  rw [accessWithin, looked]

end Looks

end Manager

namespace AddressSpace

variable {pageSize : Nat}

theorem faultEach_induction (holds : Manager pageSize → Prop) (space : AddressSpace)
    (faults : ∀ manager page, holds manager → holds (manager.fault page).2)
    (vpns : List Nat) {manager : Manager pageSize} (start : holds manager) :
    holds (space.faultEach manager vpns).2 := by
  induction vpns generalizing manager with
  | nil => exact start
  | cons vpn rest ih =>
    have kept := faults manager (space.page vpn) start
    rw [faultEach]
    split
    · rename_i error failed equal
      rwa [equal] at kept
    · rename_i resolution faulted equal
      rw [equal] at kept
      exact ih kept

end AddressSpace

namespace ProcessImage

variable {pageSize : Nat}

/-- Reading the arguments back keeps whatever each read keeps. -/
theorem readArguments_induction (holds : Manager pageSize → Prop) (space : AddressSpace)
    (reads : ∀ manager address length, holds manager →
      holds (space.readBytes manager address length).2.2)
    (address count : Nat) {manager : Manager pageSize} (start : holds manager) :
    holds (readArguments space manager address count).2 := by
  induction count generalizing manager address with
  | zero => exact start
  | succ count ih =>
    have pointed := reads manager address pointerBytes start
    rw [readArguments]
    split
    · rename_i equal
      rwa [equal] at pointed
    · rename_i pointer read equal
      rw [equal] at pointed
      have found := reads read (decodePointer pointer) (maxArgumentBytes + 1) pointed
      have text : holds (space.readText read (decodePointer pointer) maxArgumentBytes).2 := by
        simp only [AddressSpace.readText]
        split
        · exact found
        · exact found
      split
      · rename_i equal
        rwa [equal] at text
      · rename_i equal
        rw [equal] at text
        exact ih _ text

end ProcessImage

end DemandPaging
