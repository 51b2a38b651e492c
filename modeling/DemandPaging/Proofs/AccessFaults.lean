import DemandPaging.Proofs.EventStory
import DemandPaging.Proofs.PageWalk

/-!
# How often an access faults

An access that finds its page in no frame lets a fault bring it in and looks
again.  Nothing else goes on in between, and a fault that succeeds leaves the
page in its frame, so that the second look decides: the loop needs no bound of
its own.  A transfer therefore faults once for each page that is in no frame
when the transfer gets there.
-/

namespace DemandPaging

namespace Manager

variable {pageSize : Nat}

/-- The loop of an access, with no bound on the number of its looks: what it
ends with, after how many faults. -/
inductive AccessLoop (page : PageId) (offset : Nat) (access : Access) :
    Manager pageSize → Nat → Except PagingError Bytes × Manager pageSize → Prop where
  | decided {manager outcome} :
      manager.accessResident? page offset access = some outcome →
      AccessLoop page offset access manager 0 outcome
  | failed {manager error faulted} :
      manager.accessResident? page offset access = none →
      manager.fault page = (.error error, faulted) →
      AccessLoop page offset access manager 1 (.error error, faulted)
  | again {manager resolution faulted faults outcome} :
      manager.accessResident? page offset access = none →
      manager.fault page = (.ok resolution, faulted) →
      AccessLoop page offset access faulted faults outcome →
      AccessLoop page offset access manager (faults + 1) outcome

/-- Whether a page exists but is in no frame. -/
def isAway (manager : Manager pageSize) (page : PageId) : Bool :=
  match manager.entry page with
  | .error _ => false
  | .ok entry => !entry.valid

section Loops

variable {manager faulted : Manager pageSize} {page : PageId} {entry : PageEntry}
  {offset faults otherFaults : Nat} {access : Access}
  {outcome otherOutcome : Except PagingError Bytes × Manager pageSize}

/-- There is one way for the loop to end. -/
theorem AccessLoop.unique (first : AccessLoop page offset access manager faults outcome)
    (second : AccessLoop page offset access manager otherFaults otherOutcome) :
    otherFaults = faults ∧ otherOutcome = outcome := by
  induction first generalizing otherFaults with
  | decided looked =>
    cases second with
    | decided lookedToo => exact ⟨rfl, Option.some.inj (lookedToo.symm.trans looked)⟩
    | failed none | again none => cases none.symm.trans looked
  | failed none done =>
    cases second with
    | decided looked => cases none.symm.trans looked
    | failed _ doneToo => exact ⟨rfl, by cases doneToo.symm.trans done; rfl⟩
    | again _ doneToo => cases doneToo.symm.trans done
  | again none done _ ih =>
    cases second with
    | decided looked => cases none.symm.trans looked
    | failed _ doneToo => cases doneToo.symm.trans done
    | again _ doneToo rest =>
      cases doneToo.symm.trans done
      obtain ⟨sameFaults, sameOutcome⟩ := ih rest
      exact ⟨congrArg (· + 1) sameFaults, sameOutcome⟩

theorem Passes.place_of_finished {holdings : Nat → Option Holding} {thread : Nat}
    {phase : FaultPhase} {next : Manager pageSize} {resolution : Resolution}
    (passes : Passes page manager phase next (.finished (.ok resolution)))
    (accounted : manager.Accounted (Function.update holdings thread (phase.holding? page))) :
    next.place page = .ok (some resolution.frame) := by
  cases passes with
  | resident found valid =>
    exact place_of_valid found valid
  | map =>
    obtain ⟨entry, found, -⟩ := accounted.exists_entry (Function.update_self ..) (.inl rfl)
    exact (place_modifyEntry found).trans (if_pos rfl)

theorem Settled.place_fault {resolution : Resolution} (settled : manager.Settled)
    (resolved : manager.fault page = (.ok resolution, faulted)) :
    faulted.place page = .ok (some resolution.frame) := by
  have path := settled.path page
  rw [Manager.fault] at resolved
  generalize (manager.recordStart page).resolve page = result at path resolved
  obtain ⟨outcome, last⟩ := result
  obtain ⟨rfl, rfl⟩ := Prod.mk.inj resolved
  rw [(sameAccounts_recordOutcome last page _).place_eq]
  cases path with
  | go path step => exact step.place_of_finished (path.accounted (settled.arriving page))

theorem Settled.exists_resident {resolution : Resolution} (settled : manager.Settled)
    (resolved : manager.fault page = (.ok resolution, faulted)) :
    ∃ resident, faulted.entry page = .ok resident ∧ resident.valid = true := by
  obtain ⟨resident, found, placed⟩ := place_eq_ok_iff.mp (settled.place_fault resolved)
  exact ⟨resident, found, (PageEntry.frame?_eq_some_iff.mp placed).1⟩

theorem isAway_eq (found : manager.entry page = .ok entry) :
    manager.isAway page = !entry.valid := by
  rw [isAway, found]

/-- The loop ends as the bounded loop does, after at most one fault. -/
theorem Settled.accessLoop (settled : manager.Settled) (found : manager.entry page = .ok entry)
    (offset : Nat) (access : Access) :
    AccessLoop page offset access manager (if entry.valid then 0 else 1)
      (manager.access page offset access) := by
  cases valid : entry.valid with
  | true => exact .decided (access_of_valid found valid offset access)
  | false =>
    have none := accessResident?_of_away found valid offset access
    rcases done : manager.fault page with ⟨error | resolution, faulted⟩
    · rw [access_of_fault_eq_error found valid done]
      exact .failed none done
    · -- Nothing goes on between the fault and the next look, so the page is still there.
      obtain ⟨resident, foundThen, there⟩ := settled.exists_resident done
      exact .again none done
        (.decided (access_of_fault_eq_ok found valid done foundThen there offset access))

theorem settled_access (settled : manager.Settled) (page : PageId) (offset : Nat)
    (access : Access) : (manager.access page offset access).2.Settled := by
  rcases accessWithin_cases Settled (fun _ kept => kept.fault page) settled with
      ⟨last, kept, looked⟩ | ⟨error, -, kept⟩
  · exact kept.of_same (sameAccounts_accessResident? looked)
  · exact kept

theorem Settled.pageFaults_fault (settled : manager.Settled) (page : PageId) :
    (manager.fault page).2.statistics.pageFaults = manager.statistics.pageFaults + 1 := by
  obtain ⟨record, -, noted⟩ := settled.fault_notes page
  rw [noted.statistics_eq, ← record.count_started]
  rfl

theorem pageFaults_accessResident?
    (looked : manager.accessResident? page offset access = some outcome) :
    outcome.2.statistics.pageFaults = manager.statistics.pageFaults :=
  congrArg Statistics.pageFaults (notes_accessResident? looked).statistics_eq

/-- Every fault of the loop is counted, and its looks are not. -/
theorem AccessLoop.pageFaults_eq (loop : AccessLoop page offset access manager faults outcome)
    (settled : manager.Settled) :
    outcome.2.statistics.pageFaults = manager.statistics.pageFaults + faults := by
  induction loop with
  | decided looked => exact pageFaults_accessResident? looked
  | failed _ done =>
    have raised := settled.pageFaults_fault page
    rwa [done] at raised
  | again _ done _ ih =>
    have raised := settled.pageFaults_fault page
    have kept := settled.fault page
    rw [done] at raised kept
    rw [ih kept, raised, Nat.add_right_comm, Nat.add_assoc]

/-- An access counts one fault if its page exists and is in no frame, and none
otherwise. -/
theorem Settled.pageFaults_access (settled : manager.Settled) (page : PageId) (offset : Nat)
    (access : Access) :
    (manager.access page offset access).2.statistics.pageFaults =
      manager.statistics.pageFaults + if manager.isAway page then 1 else 0 := by
  cases found : manager.entry page with
  | error error =>
    rw [access_of_entry_eq_error found, isAway, found]
    rfl
  | ok entry =>
    rw [(settled.accessLoop found offset access).pageFaults_eq settled, isAway_eq found]
    cases entry.valid <;> rfl

end Loops

section Transfers

variable {State : Type} {space : AddressSpace} {address length done : Nat}
  {copy : Chunk → State → Except PagingError Unit × State} {state last : State}
  {calls : List (CopyCall State)} {transfer : Transfer} {managerOf : State → Manager pageSize}

/-- The copy accesses the page of its part, and nothing else. -/
def AccessesPages (space : AddressSpace) (managerOf : State → Manager pageSize)
    (copy : Chunk → State → Except PagingError Unit × State) : Prop :=
  ∀ chunk state, ∃ offset access, managerOf (copy chunk state).2 =
    ((managerOf state).access (space.page chunk.vpn) offset access).2

theorem accessesPages_readChunk (space : AddressSpace) :
    AccessesPages space (Prod.snd : Bytes × Manager pageSize → Manager pageSize)
      space.readChunk := by
  rintro chunk ⟨bytes, manager⟩
  refine ⟨chunk.offset, .read chunk.count, ?_⟩
  rw [AddressSpace.readChunk]
  split <;> simp only [*]

theorem accessesPages_writeChunk (space : AddressSpace) (data : Bytes) :
    AccessesPages space (id : Manager pageSize → Manager pageSize) (space.writeChunk data) := by
  intro chunk manager
  refine ⟨chunk.offset, .write (Bytes.slice data chunk.start chunk.count), ?_⟩
  rw [AddressSpace.writeChunk]
  split <;> simp only [id, *]

/-- A walk faults once for each page that is in no frame when its turn comes. -/
theorem pageFaults_walks (accesses : AccessesPages space managerOf copy)
    (walks : Walks pageSize address length copy done state calls transfer last)
    (settled : (managerOf state).Settled) :
    (managerOf last).statistics.pageFaults = (managerOf state).statistics.pageFaults +
      calls.countP fun call => (managerOf call.state).isAway (space.page call.chunk.vpn) := by
  induction walks with
  | ends finished => rfl
  | beyond unfinished outside => rfl
  | stops unfinished inside copied =>
    obtain ⟨offset, access, same⟩ := accesses _ _
    rw [copied] at same
    rw [same, settled.pageFaults_access, List.countP_singleton]
  | @goesOn done state moved last calls transfer unfinished inside copied rest ih =>
    obtain ⟨offset, access, same⟩ := accesses (Chunk.next pageSize address length done) state
    rw [copied] at same
    have kept : (managerOf moved).Settled := same ▸ settled_access settled _ offset access
    rw [ih kept, same, settled.pageFaults_access, List.countP_cons, Nat.add_right_comm,
      Nat.add_assoc]

/-- A transfer over `length` bytes at `address` goes through consecutive pages,
and it faults once for each of them that is in no frame when the transfer gets
there. -/
structure FaultsWhereAway (space : AddressSpace) (address length : Nat)
    (managerOf : State → Manager pageSize) (before after : Manager pageSize)
    (calls : List (CopyCall State)) : Prop where
  pages : calls.map (fun call => call.chunk.vpn) = List.range' (address / pageSize) calls.length
  touched : ∀ call ∈ calls, call.chunk.vpn * pageSize < address + length
  pageFaults_eq : after.statistics.pageFaults = before.statistics.pageFaults +
    calls.countP fun call => (managerOf call.state).isAway (space.page call.chunk.vpn)
  pageFaults_le : after.statistics.pageFaults ≤ before.statistics.pageFaults + calls.length

theorem faultsWhereAway_walk (positive : 0 < pageSize)
    (accesses : AccessesPages space managerOf copy) (settled : (managerOf state).Settled) :
    FaultsWhereAway space address length managerOf (managerOf state)
      (managerOf (walk positive address length copy state).2)
      (copyCalls positive address length copy state) := by
  obtain ⟨-, walks⟩ := walk_recording positive address length copy state
  have raised := pageFaults_walks accesses walks settled
  constructor
  case pages => exact walks.vpns_eq positive
  case touched =>
    intro call member
    obtain ⟨part, unfinished, -⟩ := walks.of_mem call member
    have start := @Chunk.next_address pageSize address length call.chunk.start
    rw [← part] at start
    omega
  case pageFaults_eq => exact raised
  case pageFaults_le =>
    rw [raised]
    exact Nat.add_le_add_left List.countP_le_length _

end Transfers

/-- What an access to `page`, which exists, does: it faults if the page is in no
frame, and then decides at the next look or fails as the fault did. -/
structure FaultsOnce (manager : Manager pageSize) (page : PageId) (entry : PageEntry) :
    Prop where
  loop_iff : ∀ offset access faults outcome,
    AccessLoop page offset access manager faults outcome ↔
      faults = (if entry.valid then 0 else 1) ∧ outcome = manager.access page offset access
  resident : entry.valid = true → ∀ offset access,
    manager.accessResident? page offset access = some (manager.access page offset access)
  loads : entry.valid = false → ∀ resolution faulted,
    manager.fault page = (.ok resolution, faulted) →
      faulted.place page = .ok (some resolution.frame) ∧ ∀ offset access,
        faulted.accessResident? page offset access = some (manager.access page offset access)
  /-- The bytes of the page are not looked at. -/
  fails : entry.valid = false → ∀ error faulted,
    manager.fault page = (.error error, faulted) → ∀ offset access,
      manager.access page offset access = (.error error, faulted)

theorem Settled.faultsOnce {manager : Manager pageSize} {page : PageId} {entry : PageEntry}
    (settled : manager.Settled) (found : manager.entry page = .ok entry) :
    manager.FaultsOnce page entry where
  loop_iff offset access faults outcome := by
    have loop := settled.accessLoop found offset access
    constructor
    · exact fun other => loop.unique other
    · rintro ⟨rfl, rfl⟩
      exact loop
  resident valid := access_of_valid found valid
  loads away resolution faulted done := by
    obtain ⟨resident, foundThen, there⟩ := settled.exists_resident done
    exact ⟨settled.place_fault done, access_of_fault_eq_ok found away done foundThen there⟩
  fails away _ _ failed := access_of_fault_eq_error found away failed

/-- No access faults more than once, and no transfer more often than there are
pages in its way that are in no frame. -/
structure FaultsBounded (manager : Manager pageSize) : Prop where
  access : ∀ page numPages, manager.numPages? page.space = some numPages →
    page.vpn < numPages → ∃ entry, manager.entry page = .ok entry ∧ manager.FaultsOnce page entry
  readBytes : ∀ (space : AddressSpace) address length,
    FaultsWhereAway space address length Prod.snd manager
      (space.readBytes manager address length).2.2
      (copyCalls manager.memory.pageSize_pos address length space.readChunk (#[], manager))
  writeBytes : ∀ (space : AddressSpace) address data,
    FaultsWhereAway space address data.size id manager
      (space.writeBytes manager address data).2
      (copyCalls manager.memory.pageSize_pos address data.size (space.writeChunk data) manager)

/-- After every run, whatever failed in it, accesses fault at most once. -/
theorem faultsBounded_after {config : Configuration} {volume : Volume}
    {manager : Manager pageSize} (started : Manager.start config volume = .ok manager)
    (operations : List (Operation pageSize)) :
    (manager.after operations).FaultsBounded := by
  have settled := (settled_start started).after operations
  generalize manager.after operations = manager at settled
  constructor
  case access =>
    intro page numPages alive inside
    obtain ⟨entry, found⟩ := exists_entry_eq_ok_iff.mpr ⟨numPages, alive, inside⟩
    exact ⟨entry, found, settled.faultsOnce found⟩
  case readBytes =>
    intro space address length
    exact faultsWhereAway_walk _ (accessesPages_readChunk space)
      (show Settled (Prod.snd (#[], manager)) from settled)
  case writeBytes =>
    intro space address data
    exact faultsWhereAway_walk _ (accessesPages_writeChunk space data)
      (show Settled (id manager) from settled)

/-- Two pages, and one frame for both of them. -/
theorem faultsBounded_after_write :
    ∃ manager : Manager 4, Manager.start { numFrames := 1 } {} = .ok manager ∧
      (manager.after [
        .create 2 (Program.synthetic 0 0).image .demand,
        .write { id := 1, numPages := 2, strategy := .demand } 2 #[7, 8, 9]]).FaultsBounded := by
  obtain ⟨manager, started⟩ := exists_start_eq_ok { numFrames := 1 } {}
    (by decide : Nat.isPowerOfTwo 4) checkPath_swapFile
  exact ⟨manager, started, faultsBounded_after started _⟩

end Manager

end DemandPaging
