import DemandPaging.Proofs.FrameOwnership

/-!
# The record of a fault

Every fault leaves a record in the log: that it started, which page had to leave
its frame and what became of it, where the content came from, and how the fault
ended.  The records that can occur form a data type.  In each of its phases a
fault has left the beginning of such a record, and when it is over the record is
complete.  The counters move in step: each one counts one kind of event, which
is said here of the events alone.
-/

namespace DemandPaging

/-- The kinds of events, one for each form that an event can have. -/
inductive EventKind where
  | faultStarted
  | faultResolved
  | faultFailed
  | evictionChosen
  | swapWrite
  | swapRead
  | swapSkippedClean
  | sectionLoad
  | zeroFill
  deriving DecidableEq

namespace Event

def kind : Event → EventKind
  | faultStarted .. => .faultStarted
  | faultResolved .. => .faultResolved
  | faultFailed .. => .faultFailed
  | evictionChosen .. => .evictionChosen
  | swapWrite .. => .swapWrite
  | swapRead .. => .swapRead
  | swapSkippedClean .. => .swapSkippedClean
  | sectionLoad .. => .sectionLoad
  | zeroFill .. => .zeroFill

end Event

namespace EventKind

/-- How many of the events are of this kind. -/
def count (kind : EventKind) (events : List Event) : Nat :=
  events.countP fun event => event.kind = kind

@[simp]
theorem count_append (kind : EventKind) (first second : List Event) :
    kind.count (first ++ second) = kind.count first + kind.count second :=
  List.countP_append

end EventKind

namespace Statistics

instance : Add Statistics where
  add first second :=
    { pageFaults := first.pageFaults + second.pageFaults
      evictions := first.evictions + second.evictions
      swapReads := first.swapReads + second.swapReads
      swapWrites := first.swapWrites + second.swapWrites
      swapSkippedClean := first.swapSkippedClean + second.swapSkippedClean
      sectionLoads := first.sectionLoads + second.sectionLoads
      zeroFills := first.zeroFills + second.zeroFills }

/-- What the counters have to show for the given events: how many there are of
each kind that is counted. -/
def ofEvents (events : List Event) : Statistics where
  pageFaults := EventKind.faultStarted.count events
  evictions := EventKind.evictionChosen.count events
  swapReads := EventKind.swapRead.count events
  swapWrites := EventKind.swapWrite.count events
  swapSkippedClean := EventKind.swapSkippedClean.count events
  sectionLoads := EventKind.sectionLoad.count events
  zeroFills := EventKind.zeroFill.count events

theorem ofEvents_append (first second : List Event) :
    ofEvents (first ++ second) = ofEvents first + ofEvents second := by
  simp only [ofEvents, EventKind.count_append]
  rfl

protected theorem add_assoc (first second third : Statistics) :
    first + second + third = first + (second + third) := by
  change Statistics.mk .. = Statistics.mk ..
  congr 1 <;> exact Nat.add_assoc ..

protected theorem zero_add (statistics : Statistics) : {} + statistics = statistics := by
  change Statistics.mk .. = _
  cases statistics
  congr 1 <;> exact Nat.zero_add _

end Statistics

/-- What became of a page that lost its frame. -/
inductive Departure where
  /-- It was not dirty and was dropped. -/
  | dropped
  /-- It was dirty and was written to a slot. -/
  | saved (slot : Nat)
  deriving DecidableEq, Repr

namespace Departure

def events (frame : Nat) (victim : PageId) : Departure → List Event
  | dropped => [.evictionChosen frame victim false, .swapSkippedClean victim]
  | saved slot => [.evictionChosen frame victim true, .swapWrite victim slot]

end Departure

namespace ContentSource

/-- The event that tells where the content of `page` came from. -/
def event (page : PageId) : ContentSource → Event
  | swap slot => .swapRead page slot
  | executable index _ => .sectionLoad page index
  | zeroFill => .zeroFill page

end ContentSource

/-- What the log tells about one fault. -/
inductive FaultRecord where
  /-- The page was in its frame already. -/
  | resident (page : PageId) (frame : Nat)
  /-- The page was brought in; another page may have left the same frame. -/
  | loaded (page : PageId) (frame : Nat) (left : Option (PageId × Departure))
    (source : ContentSource)
  /-- The page could not be brought in; another page may have left a frame. -/
  | failed (page : PageId) (left : Option (Nat × PageId × Departure)) (error : String)
  /-- The dirty page in the frame could not be written to swap. -/
  | unsaved (page : PageId) (frame : Nat) (victim : PageId) (error : String)
  deriving DecidableEq, Repr

namespace FaultRecord

def page : FaultRecord → PageId
  | resident page _ => page
  | loaded page _ _ _ => page
  | failed page _ _ => page
  | unsaved page _ _ _ => page

/-- How the fault ended, with the text of its error. -/
def ending : FaultRecord → Except String Resolution
  | resident _ frame => .ok (.alreadyResident frame)
  | loaded _ frame _ source => .ok (.loaded frame source)
  | failed _ _ error => .error error
  | unsaved _ _ _ error => .error error

/-- The events of a page that left `frame`. -/
def leaving (frame : Nat) (left : Option (PageId × Departure)) : List Event :=
  left.toList.flatMap fun (victim, departure) => departure.events frame victim

def events : FaultRecord → List Event
  | resident page frame => [.faultStarted page, .faultResolved page frame none]
  | loaded page frame left source =>
    .faultStarted page :: leaving frame left ++
      [source.event page, .faultResolved page frame (some source)]
  | failed page left error =>
    .faultStarted page ::
      (left.toList.flatMap fun (frame, leaver) => leaving frame (some leaver)) ++
        [.faultFailed page error]
  | unsaved page frame victim error =>
    [.faultStarted page, .evictionChosen frame victim true, .faultFailed page error]

def isUnsaved : FaultRecord → Bool
  | unsaved .. => true
  | _ => false

/-- The last event of a fault on `page` that ended in `outcome`. -/
def closing (page : PageId) : Except PagingError Resolution → Event
  | .ok resolution => .faultResolved page resolution.frame resolution.source?
  | .error error => .faultFailed page error.message

/-- The record is about a fault on `page` that ended in `outcome`. -/
structure Reports (record : FaultRecord) (page : PageId)
    (outcome : Except PagingError Resolution) : Prop where
  page_eq : record.page = page
  ending_eq : record.ending = outcome.mapError PagingError.message

end FaultRecord

namespace Manager

variable {pageSize : Nat}

/-- From one manager to the next, just the given events were recorded, and the
counters moved by as many as there are of each kind. -/
structure Notes (before after : Manager pageSize) (events : List Event) : Prop where
  log_eq : after.log = events.foldl EventLog.record before.log
  statistics_eq : after.statistics = before.statistics + .ofEvents events

/-- What a fault on `page` has noted so far, when it is in a phase. -/
def Telling (page : PageId) (events : List Event) : FaultPhase → Prop
  | .arriving => events = [.faultStarted page]
  | .saving frame victim _ => events = [.faultStarted page, .evictionChosen frame victim true]
  | .saved frame victim _ => events = [.faultStarted page, .evictionChosen frame victim true]
  | .leased frame | .fetching frame _ | .fetched frame _ _ =>
    ∃ left, events = .faultStarted page :: FaultRecord.leaving frame left
  | .filled frame source =>
    ∃ left, events = .faultStarted page :: FaultRecord.leaving frame left ++ [source.event page]
  | .finished outcome => ∃ record : FaultRecord, record.Reports page outcome ∧
    record.events = events ++ [FaultRecord.closing page outcome]

section Noting

variable {manager next : Manager pageSize} {first second : List Event}

theorem Notes.nothing (log : next.log = manager.log)
    (statistics : next.statistics = manager.statistics) : Notes manager next [] :=
  ⟨log, statistics⟩

theorem Notes.refl (manager : Manager pageSize) : Notes manager manager [] :=
  .nothing rfl rfl

theorem Notes.trans {third : Manager pageSize} (before : Notes manager next first)
    (after : Notes next third second) : Notes manager third (first ++ second) where
  log_eq := by rw [List.foldl_append, ← before.log_eq, after.log_eq]
  statistics_eq := by
    rw [after.statistics_eq, before.statistics_eq, Statistics.add_assoc,
      Statistics.ofEvents_append]

/-- A counter is moved and an event of the kind that it counts is recorded. -/
theorem Notes.counted {counter : Counter} {event : Event} (notes : Notes manager next first)
    (counts : ∀ statistics : Statistics,
      statistics.bump counter = statistics + .ofEvents [event]) :
    Notes manager ((next.bump counter).record event) (first ++ [event]) :=
  notes.trans ⟨rfl, counts _⟩

theorem Notes.recordOutcome (notes : Notes manager next first) (page : PageId)
    (outcome : Except PagingError Resolution) :
    Notes manager (next.recordOutcome page outcome)
      (first ++ [FaultRecord.closing page outcome]) := by
  cases outcome with
  | ok resolution => exact notes.trans ⟨rfl, rfl⟩
  | error error => exact notes.trans ⟨rfl, rfl⟩

theorem notes_evicted (manager : Manager pageSize) (page : PageId) (frame : Nat)
    (victim : PageId) (dirty : Bool) :
    Notes manager (manager.evicted page frame victim dirty)
      [.evictionChosen frame victim dirty] := by
  obtain ⟨spaces, synced⟩ := syncUsedMarks_eq manager.swept
  have seized : Notes manager (manager.seized page frame) [] := by
    simp only [seized, synced]
    exact .nothing rfl rfl
  unfold evicted
  generalize manager.seized page frame = current at *
  have unmapped : Notes manager (current.modifyEntry victim PageEntry.invalidate) [] :=
    seized.trans (.nothing rfl rfl)
  exact unmapped.counted fun _ => rfl

end Noting

section Steps

variable {manager next : Manager pageSize} {page : PageId} {phase nextPhase : FaultPhase}
  {frame : Nat} {told : List Event}

theorem telling_failed {left : Option (PageId × Departure)} (error : PagingError) :
    Telling page (.faultStarted page :: FaultRecord.leaving frame left)
      (.finished (.error error)) := by
  refine ⟨.failed page (left.map fun leaver => (frame, leaver)) error.message, ⟨rfl, rfl⟩, ?_⟩
  cases left with
  | none => rfl
  | some leaver => simp [FaultRecord.events, FaultRecord.closing]

/-- Every step of a fault carries its record on. -/
theorem Passes.notes (passes : Passes page manager phase next nextPhase) :
    ∃ events, Notes manager next events ∧
      ∀ told, Telling page told phase → Telling page (told ++ events) nextPhase := by
  cases passes with
  | @missing _ error | @exhausted _ error =>
    refine ⟨[], .nothing rfl rfl, ?_⟩
    rintro told rfl
    exact ⟨.failed page none _, ⟨rfl, rfl⟩, rfl⟩
  | resident =>
    refine ⟨[], .refl _, ?_⟩
    rintro told rfl
    exact ⟨.resident page _, ⟨rfl, rfl⟩, rfl⟩
  | lease =>
    refine ⟨[], .nothing rfl rfl, ?_⟩
    rintro told rfl
    exact ⟨none, rfl⟩
  | @drop _ frame victim =>
    refine ⟨_, (notes_evicted manager page frame victim false).counted fun _ => rfl, ?_⟩
    rintro told rfl
    exact ⟨some (victim, .dropped), rfl⟩
  | @unmap _ frame victim =>
    refine ⟨_, (notes_evicted manager page frame victim true).trans (.nothing rfl rfl), ?_⟩
    rintro told rfl
    rfl
  | save =>
    refine ⟨[], .nothing rfl rfl, ?_⟩
    rintro told rfl
    rfl
  | @land frame victim slot =>
    have landed : Notes manager (manager.landed victim) [] := .nothing rfl rfl
    refine ⟨_, landed.counted fun _ => rfl, ?_⟩
    rintro told rfl
    exact ⟨some (victim, .saved slot), rfl⟩
  | @restore frame victim error =>
    refine ⟨[], .nothing rfl rfl, ?_⟩
    rintro told rfl
    exact ⟨.unsaved page frame victim _, ⟨rfl, rfl⟩, rfl⟩
  | locate | fetch | miss =>
    refine ⟨[], .nothing rfl rfl, ?_⟩
    rintro told ⟨left, rfl⟩
    exact ⟨left, List.append_nil _⟩
  | @«show» frame image index number content =>
    have filled : Notes manager ((manager.fillFrame frame content.toArray).markReadOnly page
        (image.readOnly index)) [] := .nothing rfl rfl
    refine ⟨_, filled.counted fun _ => rfl, ?_⟩
    rintro told ⟨left, rfl⟩
    exact ⟨left, rfl⟩
  | @clear frame =>
    have filled : Notes manager ((manager.fillFrame frame (Bytes.zeros pageSize)).markReadOnly page
        false) [] := .nothing rfl rfl
    refine ⟨_, filled.counted fun _ => rfl, ?_⟩
    rintro told ⟨left, rfl⟩
    exact ⟨left, rfl⟩
  | receive =>
    refine ⟨_, (Notes.refl manager).counted fun _ => rfl, ?_⟩
    rintro told ⟨left, rfl⟩
    exact ⟨left, rfl⟩
  | unshown | abandon =>
    refine ⟨[], .nothing rfl rfl, ?_⟩
    rintro told ⟨left, rfl⟩
    rw [List.append_nil]
    exact telling_failed _
  | @map frame source =>
    refine ⟨[], .nothing rfl rfl, ?_⟩
    rintro told ⟨left, rfl⟩
    refine ⟨.loaded page frame left source, ⟨rfl, rfl⟩, ?_⟩
    rw [List.append_nil, FaultRecord.events, List.append_assoc]
    rfl

theorem PassesThrough.notes (path : PassesThrough page manager phase next nextPhase) :
    ∃ events, Notes manager next events ∧
      ∀ told, Telling page told phase → Telling page (told ++ events) nextPhase := by
  induction path with
  | stay => exact ⟨[], .refl _, fun told telling => by rwa [List.append_nil]⟩
  | go _ step ih =>
    obtain ⟨first, noted, tells⟩ := ih
    obtain ⟨second, notedNext, tellsNext⟩ := step.notes
    refine ⟨first ++ second, noted.trans notedNext, fun told telling => ?_⟩
    rw [← List.append_assoc]
    exact tellsNext _ (tells told telling)

/-- A fault leaves exactly one record, which is complete and tells how the fault
ended. -/
theorem Settled.fault_notes (settled : manager.Settled) (page : PageId) :
    ∃ record : FaultRecord, record.Reports page (manager.fault page).1 ∧
      Notes manager (manager.fault page).2 record.events := by
  obtain ⟨events, noted, tells⟩ := (settled.path page).notes
  obtain ⟨record, reports, complete⟩ := tells [.faultStarted page] rfl
  refine ⟨record, reports, ?_⟩
  have started : Notes manager (manager.recordStart page) [.faultStarted page] :=
    (Notes.refl manager).counted fun _ => rfl
  rw [complete]
  exact (started.trans noted).recordOutcome page _

end Steps

end Manager

end DemandPaging
