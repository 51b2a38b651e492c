import DemandPaging.Proofs.AccessContents
import DemandPaging.Proofs.FaultRecords
import DemandPaging.Proofs.ManagerCalls

/-!
# The story of a run

All events that are taken out of the log in the course of a run, one after the
other, are the records of the faults of the run, one for each, and nothing else.
The counters tell how often each kind of event is among them.
-/

namespace DemandPaging

namespace FaultRecord

variable (record : FaultRecord) (records : List FaultRecord)

theorem count_started : EventKind.faultStarted.count record.events = 1 := by
  rcases record with _ | ⟨_, _, _ | ⟨_, _ | _⟩, _ | _ | _⟩ | ⟨_, _ | ⟨_, _, _ | _⟩, _⟩ | _
  all_goals rfl

/-- A fault ends in one way, and once. -/
theorem count_ended :
    EventKind.faultResolved.count record.events + EventKind.faultFailed.count record.events =
      1 := by
  rcases record with _ | ⟨_, _, _ | ⟨_, _ | _⟩, _ | _ | _⟩ | ⟨_, _ | ⟨_, _, _ | _⟩, _⟩ | _
  all_goals rfl

/-- In every record with an eviction, the victim is written or dropped, unless
it could not be written. -/
theorem count_evicted :
    EventKind.evictionChosen.count record.events =
      EventKind.swapWrite.count record.events + EventKind.swapSkippedClean.count record.events +
        if record.isUnsaved then 1 else 0 := by
  rcases record with _ | ⟨_, _, _ | ⟨_, _ | _⟩, _ | _ | _⟩ | ⟨_, _ | ⟨_, _, _ | _⟩, _⟩ | _
  all_goals rfl

theorem count_flatMap_started :
    EventKind.faultStarted.count (records.flatMap events) =
      EventKind.faultResolved.count (records.flatMap events) +
        EventKind.faultFailed.count (records.flatMap events) := by
  induction records with
  | nil => rfl
  | cons record rest ih =>
    have ended := record.count_ended
    simp only [List.flatMap_cons, EventKind.count_append, ih, count_started]
    omega

theorem count_flatMap_evicted :
    EventKind.evictionChosen.count (records.flatMap events) =
      EventKind.swapWrite.count (records.flatMap events) +
        EventKind.swapSkippedClean.count (records.flatMap events) +
        records.countP isUnsaved := by
  induction records with
  | nil => rfl
  | cons record rest ih =>
    simp only [List.flatMap_cons, EventKind.count_append, List.countP_cons, ih, count_evicted]
    omega

end FaultRecord

namespace Manager

variable {pageSize : Nat}

/-- What the calls of a run yield, one after the other. -/
def gather {Yield : Type} (yields : Manager pageSize → ManagerCall pageSize → List Yield)
    (manager : Manager pageSize) : List (ManagerCall pageSize) → List Yield
  | [] => []
  | call :: rest => yields manager call ++ (manager.call call).gather yields rest

/-- The fault that a call handles, with its outcome. -/
def faultBy (manager : Manager pageSize) :
    ManagerCall pageSize → List (PageId × Except PagingError Resolution)
  | .fault page => [(page, (manager.fault page).1)]
  | _ => []

/-- The events that a call takes out of the log. -/
def drainedBy (manager : Manager pageSize) : ManagerCall pageSize → List Event
  | .drainEvents => manager.drainEvents.1.toList
  | _ => []

/-- All events of a run, once they are taken out of the log at its end. -/
def story (start : Manager pageSize) (calls : List (ManagerCall pageSize)) : List Event :=
  start.gather drainedBy (calls ++ [.drainEvents])

theorem foldl_record (events : List Event) {log : EventLog} (enabled : log.enabled = true) :
    (events.foldl EventLog.record log).events.toList = log.events.toList ++ events ∧
      (events.foldl EventLog.record log).enabled = true := by
  induction events generalizing log with
  | nil => exact ⟨(List.append_nil _).symm, enabled⟩
  | cons event rest ih =>
    have recorded : log.record event = { log with events := log.events.push event } :=
      if_pos enabled
    obtain ⟨listed, still⟩ := @ih (log.record event) (by rw [recorded]; exact enabled)
    rw [List.foldl_cons]
    refine ⟨?_, still⟩
    rw [listed, recorded, Array.toList_push, List.append_assoc, List.singleton_append]

section Calls

variable {manager next : Manager pageSize}

theorem notes_touch (manager : Manager pageSize) (page : PageId) (frame : Nat) (wrote : Bool) :
    Notes manager (manager.touch page frame wrote).2 [] := by
  rw [touch]
  split
  · exact .nothing rfl rfl
  · exact .nothing rfl rfl

theorem notes_accessResident? {page : PageId} {offset : Nat} {access : Access}
    {outcome : Except PagingError Bytes × Manager pageSize}
    (looked : manager.accessResident? page offset access = some outcome) :
    Notes manager outcome.2 [] := by
  rcases accessResident?_cases looked with same | ⟨memory, frame, wrote, -, same⟩
  · rw [same]
    exact .refl manager
  · rw [same]
    have changed : Notes manager { manager with memory := memory } [] := .nothing rfl rfl
    exact changed.trans (notes_touch _ page frame wrote)

theorem Settled.notes_destroySpace (settled : manager.Settled) (space : SpaceId) :
    Notes manager (manager.destroySpace space).2 [] := by
  rcases settled.destroySpace_eq space with ⟨-, done⟩ | ⟨frames, pool, done⟩
  · rw [done]
    exact .refl manager
  · rw [done]
    exact .nothing rfl rfl

/-- A call that takes no events out of the log leaves a record for each fault
that it handles. -/
theorem Settled.call_notes (settled : manager.Settled) {call : ManagerCall pageSize}
    (undrained : call ≠ .drainEvents) :
    ∃ records : List FaultRecord,
      List.Forall₂ (fun fault record => record.Reports fault.1 fault.2)
        (manager.faultBy call) records ∧
      Notes manager (manager.call call) (records.flatMap FaultRecord.events) := by
  cases call with
  | fault page =>
    obtain ⟨record, reports, noted⟩ := settled.fault_notes page
    refine ⟨[record], .cons reports .nil, ?_⟩
    rwa [List.flatMap_singleton]
  | look page offset access inside =>
    refine ⟨[], .nil, ?_⟩
    cases looked : manager.accessResident? page offset access with
    | none =>
      simp only [Manager.call, looked]
      exact .refl manager
    | some outcome =>
      simp only [Manager.call, looked]
      exact notes_accessResident? looked
  | createSpace numPages image => exact ⟨[], .nil, .nothing rfl rfl⟩
  | destroySpace space => exact ⟨[], .nil, settled.notes_destroySpace space⟩
  | shutdown => exact ⟨[], .nil, .nothing rfl rfl⟩
  | drainEvents => exact absurd rfl undrained

end Calls

/-- The records of the faults of a run make up its story. -/
structure Chronicle (start : Manager pageSize) (calls : List (ManagerCall pageSize))
    (records : List FaultRecord) : Prop where
  /-- There is one record for each fault, and it tells how the fault ended. -/
  reports : List.Forall₂ (fun fault record => record.Reports fault.1 fault.2)
    (start.gather faultBy calls) records
  story_eq : start.story calls = records.flatMap FaultRecord.events
  /-- Each counter is the number of events of its kind. -/
  statistics_eq : (start.afterCalls calls).statistics = .ofEvents (start.story calls)
  /-- Every fault was resolved or failed. -/
  pageFaults_eq : (start.afterCalls calls).statistics.pageFaults =
    EventKind.faultResolved.count (start.story calls) +
      EventKind.faultFailed.count (start.story calls)
  /-- Every page that lost its frame was written to swap, was dropped, or got its
  frame back because it could not be written. -/
  evictions_eq : (start.afterCalls calls).statistics.evictions =
    (start.afterCalls calls).statistics.swapWrites +
      (start.afterCalls calls).statistics.swapSkippedClean +
      records.countP FaultRecord.isUnsaved

section Runs

variable {manager : Manager pageSize}

/-- The log and the counters of a run whose log was not empty at first. -/
theorem Settled.exists_records (settled : manager.Settled) (enabled : manager.log.enabled = true)
    (calls : List (ManagerCall pageSize)) :
    ∃ records : List FaultRecord,
      List.Forall₂ (fun fault record => record.Reports fault.1 fault.2)
        (manager.gather faultBy calls) records ∧
      manager.story calls = manager.log.events.toList ++ records.flatMap FaultRecord.events ∧
      (manager.afterCalls calls).statistics =
        manager.statistics + .ofEvents (records.flatMap FaultRecord.events) := by
  induction calls generalizing manager with
  | nil => exact ⟨[], .nil, rfl, rfl⟩
  | cons call rest ih =>
    have settledNext := settled.call call
    by_cases drains : call = .drainEvents
    · subst drains
      obtain ⟨records, reports, told, counted⟩ := ih settledNext enabled
      exact ⟨records, reports, congrArg (manager.log.events.toList ++ ·) told, counted⟩
    · obtain ⟨first, firstReports, noted⟩ := settled.call_notes drains
      obtain ⟨listed, still⟩ := foldl_record (first.flatMap FaultRecord.events) enabled
      rw [← noted.log_eq] at listed still
      obtain ⟨records, reports, told, counted⟩ := ih settledNext still
      refine ⟨first ++ records, List.rel_append firstReports reports, ?_, ?_⟩
      · have undrained : manager.drainedBy call = [] := by
          cases call with
          | drainEvents => exact absurd rfl drains
          | _ => rfl
        rw [story, List.cons_append, gather, undrained, List.nil_append, List.flatMap_append,
          ← List.append_assoc, ← listed]
        exact told
      · rw [List.flatMap_append, Statistics.ofEvents_append, ← Statistics.add_assoc,
          ← noted.statistics_eq]
        exact counted

end Runs

/-- Every run of a manager that records its events can be told as a sequence of
complete records, one for each fault, and the counters agree with it. -/
theorem exists_chronicle {config : Configuration} {volume : Volume} {manager : Manager pageSize}
    (started : Manager.start config volume = .ok manager) (recording : config.recordEvents = true)
    (calls : List (ManagerCall pageSize)) : ∃ records, manager.Chronicle calls records := by
  have settled := settled_start started
  obtain ⟨_, _, _, -, -, rfl⟩ := of_start_eq_ok started
  obtain ⟨records, reports, told, counted⟩ := settled.exists_records recording calls
  rw [List.nil_append] at told
  rw [Statistics.zero_add, ← told] at counted
  refine ⟨records, reports, told, counted, ?_, ?_⟩
  · rw [counted, told]
    exact FaultRecord.count_flatMap_started records
  · rw [counted, told]
    exact FaultRecord.count_flatMap_evicted records

/-- Four faults take the only frame from each other: page 0 comes from a section
and is dropped, page 1 is written and goes to swap, page 2 is dropped, and page 1
comes back from swap. -/
def swapInCalls : List (ManagerCall 4) :=
  [.createSpace 3 (Program.synthetic 1 0).image, .fault ⟨1, 0⟩, .fault ⟨1, 1⟩,
    .look ⟨1, 1⟩ 0 (.write #[7]) (by decide), .drainEvents, .fault ⟨1, 2⟩, .fault ⟨1, 1⟩]

/-- In a run that moves every counter, the log has a record for each fault. -/
theorem exists_chronicle_swapIn :
    ∃ manager : Manager 4,
      Manager.start { numFrames := 1, recordEvents := true } {} = .ok manager ∧
      ({ numFrames := 1, recordEvents := true } : Configuration).recordEvents = true ∧
      (manager.afterCalls swapInCalls).statistics =
        { pageFaults := 4, evictions := 3, swapReads := 1, swapWrites := 1,
          swapSkippedClean := 2, sectionLoads := 1, zeroFills := 2 } ∧
      ∃ records, manager.Chronicle swapInCalls records := by
  have seen : ((Manager.start { numFrames := 1, recordEvents := true } {} :
      Except StartError (Manager 4)).toOption.map
        fun manager => (manager.afterCalls swapInCalls).statistics) =
      some
        { pageFaults := 4, evictions := 3, swapReads := 1, swapWrites := 1,
          swapSkippedClean := 2, sectionLoads := 1, zeroFills := 2 } := by
    decide +kernel
  obtain ⟨manager, started⟩ := exists_start_eq_ok { numFrames := 1, recordEvents := true } {}
    (by decide : Nat.isPowerOfTwo 4) checkPath_swapFile
  rw [started] at seen
  exact ⟨manager, started, rfl, Option.some.inj seen, exists_chronicle started rfl _⟩

end Manager

end DemandPaging
