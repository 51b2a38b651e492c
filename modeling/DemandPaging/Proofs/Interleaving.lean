import DemandPaging.Proofs.FrameOwnership

/-!
# Any number of threads

Threads work on one manager.  Whatever a thread does while it has the manager
for itself is one step; the swap area is written, read and cleared in steps of
their own, and between two steps any other thread may go on.  A fault on a page
in transit has to wait, and so has the destruction of a space with a page in
transit.  Given orders to threads are carried out one after the other, if no
thread that gets one has to wait.
-/

namespace DemandPaging

deriving instance DecidableEq for FaultStage

/-- What a thread is doing between two of its steps. -/
inductive Task where
  | idle
  /-- A fault, on behalf of an access if one is given. -/
  | faulting (page : PageId) (stage : FaultStage) (purpose : Option (Nat × Access))
  /-- An access that has to look at its page. -/
  | accessing (page : PageId) (offset : Nat) (access : Access)
  /-- The destruction of a space that is still alive. -/
  | destroying (space : SpaceId)
  /-- The destruction of a space whose frames are free already. -/
  | releasing (space : SpaceId)
  /-- A shutdown that has seen the frames below `frame` unpinned. -/
  | stopping (frame : Nat)
  deriving DecidableEq

namespace Task

/-- What a thread holds. -/
def holding? : Task → Option Holding
  | faulting page stage _ => stage.phase.holding? page
  | _ => none

/-- What a thread does when its fault is over: it looks at the page again if an
access asked for it. -/
def afterFault (page : PageId) (purpose : Option (Nat × Access)) :
    Except PagingError Resolution → Task
  | .error _ => idle
  | .ok _ =>
    match purpose with
    | some (offset, access) => accessing page offset access
    | none => idle

end Task

/-- A manager and the threads that work on it. -/
structure System (pageSize : Nat) where
  manager : Manager pageSize
  tasks : Nat → Task

namespace System

variable {pageSize : Nat}

/-- The system after a thread changed the manager and went on to `task`. -/
def assign (system : System pageSize) (thread : Nat) (task : Task)
    (manager : Manager pageSize) : System pageSize where
  manager := manager
  tasks := Function.update system.tasks thread task

/-- The steps of a system. -/
inductive Step : System pageSize → System pageSize → Prop where
  /-- The volume and the troubles ahead change at any time. -/
  | disturb {system} (volume : Volume) :
      Step system { system with manager := system.manager.onVolume volume }
  /-- So does what an image produces. -/
  | replace {system} (space : SpaceId) (image : Image pageSize) :
      Step system { system with manager := system.manager.withImage space image }
  | create {system thread} (numPages : Nat) (image : Image pageSize) :
      system.tasks thread = .idle →
      Step system (system.assign thread .idle (system.manager.createSpace numPages image).2)
  | beginFault {system thread} (page : PageId) :
      system.tasks thread = .idle →
      Step system (system.assign thread (.faulting page .arriving none)
        (system.manager.recordStart page))
  | beginAccess {system thread} (page : PageId) (offset : Nat) (access : Access) :
      system.tasks thread = .idle →
      Step system (system.assign thread (.accessing page offset access) system.manager)
  | beginDestroy {system thread} (space : SpaceId) :
      system.tasks thread = .idle →
      Step system (system.assign thread (.destroying space) system.manager)
  | beginShutdown {system thread} :
      system.tasks thread = .idle →
      Step system (system.assign thread (.stopping 0) system.manager)
  | advance {system thread page stage purpose} :
      system.tasks thread = .faulting page stage purpose →
      (stage = .arriving → system.manager.awaits page = false) →
      Step system (system.assign thread
        (.faulting page (system.manager.advance page stage).1 purpose)
        (system.manager.advance page stage).2)
  | endFault {system thread page outcome purpose} :
      system.tasks thread = .faulting page (.finished outcome) purpose →
      Step system (system.assign thread (.afterFault page purpose outcome)
        (system.manager.recordOutcome page outcome))
  | look {system thread page offset access outcome} :
      system.tasks thread = .accessing page offset access →
      system.manager.accessResident? page offset access = some outcome →
      Step system (system.assign thread .idle outcome.2)
  /-- The page is in no frame. -/
  | faultIn {system thread page offset access} :
      system.tasks thread = .accessing page offset access →
      system.manager.accessResident? page offset access = none →
      Step system (system.assign thread (.faulting page .arriving (some (offset, access)))
        (system.manager.recordStart page))
  | detach {system thread space} :
      system.tasks thread = .destroying space →
      system.manager.inTransitOf space = false →
      Step system (system.assign thread
        (match (system.manager.detachSpace space).1 with
          | .ok () => .releasing space
          | .error _ => .idle)
        (system.manager.detachSpace space).2)
  | release {system thread space} :
      system.tasks thread = .releasing space →
      Step system (system.assign thread .idle (system.manager.releaseSlots space))
  /-- A shutdown waits for one frame after the other to be unpinned. -/
  | passFrame {system thread frame} :
      system.tasks thread = .stopping frame →
      frame < system.manager.numFrames →
      system.manager.frames.isPinned frame = false →
      Step system (system.assign thread (.stopping (frame + 1)) system.manager)
  | close {system thread frame} :
      system.tasks thread = .stopping frame →
      system.manager.numFrames ≤ frame →
      Step system (system.assign thread .idle system.manager.shutdown.2)

/-- The systems that any number of threads can make of a system. -/
inductive Reaches (start : System pageSize) : System pageSize → Prop where
  | start : Reaches start start
  | step {system next} : Reaches start system → Step system next → Reaches start next

/-- What a thread is told to do: to take up a task, or to go on with the task that
it has. -/
inductive Order (pageSize : Nat) where
  | create (numPages : Nat) (image : Image pageSize)
  | fault (page : PageId)
  | access (page : PageId) (offset : Nat) (access : Access)
  | destroy (space : SpaceId)
  | shutdown
  | goOn

/-- The system after the next step of a thread that has a task, if the thread
does not have to wait. -/
def goOn? (system : System pageSize) (thread : Nat) : Option (System pageSize) :=
  match system.tasks thread with
  | .idle => none
  | .faulting page (.finished outcome) purpose =>
    some (system.assign thread (.afterFault page purpose outcome)
      (system.manager.recordOutcome page outcome))
  | .faulting page stage purpose =>
    if stage = .arriving ∧ system.manager.awaits page = true then
      none
    else
      some (system.assign thread (.faulting page (system.manager.advance page stage).1 purpose)
        (system.manager.advance page stage).2)
  | .accessing page offset access =>
    match system.manager.accessResident? page offset access with
    | some outcome => some (system.assign thread .idle outcome.2)
    | none =>
      some (system.assign thread (.faulting page .arriving (some (offset, access)))
        (system.manager.recordStart page))
  | .destroying space =>
    if system.manager.inTransitOf space then
      none
    else
      some (system.assign thread
        (match (system.manager.detachSpace space).1 with
          | .ok () => .releasing space
          | .error _ => .idle)
        (system.manager.detachSpace space).2)
  | .releasing space => some (system.assign thread .idle (system.manager.releaseSlots space))
  | .stopping frame =>
    if system.manager.numFrames ≤ frame then
      some (system.assign thread .idle system.manager.shutdown.2)
    else if system.manager.frames.isPinned frame then
      none
    else
      some (system.assign thread (.stopping (frame + 1)) system.manager)

/-- The system after a thread without a task changed the manager and took up
`task`. -/
def takeUp? (system : System pageSize) (thread : Nat) (task : Task)
    (manager : Manager pageSize) : Option (System pageSize) :=
  if system.tasks thread = .idle then some (system.assign thread task manager) else none

def obey? (system : System pageSize) (thread : Nat) :
    Order pageSize → Option (System pageSize)
  | .create numPages image =>
    system.takeUp? thread .idle (system.manager.createSpace numPages image).2
  | .fault page =>
    system.takeUp? thread (.faulting page .arriving none) (system.manager.recordStart page)
  | .access page offset access =>
    system.takeUp? thread (.accessing page offset access) system.manager
  | .destroy space => system.takeUp? thread (.destroying space) system.manager
  | .shutdown => system.takeUp? thread (.stopping 0) system.manager
  | .goOn => system.goOn? thread

/-- The system after threads obeyed orders, one after the other. -/
def run? (system : System pageSize) : List (Nat × Order pageSize) → Option (System pageSize)
  | [] => some system
  | (thread, order) :: rest => (system.obey? thread order).bind fun next => next.run? rest

section Schedules

variable {system next : System pageSize} {thread : Nat}

theorem Step.of_goOn? (gone : system.goOn? thread = some next) : Step system next := by
  unfold goOn? at gone
  split at gone
  case h_1 => cases gone
  case h_2 page outcome purpose task =>
    obtain rfl := Option.some.inj gone
    exact .endFault task
  case h_3 page stage purpose _ task =>
    split at gone
    · cases gone
    · rename_i ready
      obtain rfl := Option.some.inj gone
      exact .advance task fun arriving => Bool.eq_false_iff.mpr fun waits => ready ⟨arriving, waits⟩
  case h_4 page offset access task =>
    split at gone
    · rename_i outcome looked
      obtain rfl := Option.some.inj gone
      exact .look task looked
    · rename_i absent
      obtain rfl := Option.some.inj gone
      exact .faultIn task absent
  case h_5 space task =>
    split at gone
    · cases gone
    · rename_i still
      obtain rfl := Option.some.inj gone
      exact .detach task (Bool.eq_false_iff.mpr still)
  case h_6 space task =>
    obtain rfl := Option.some.inj gone
    exact .release task
  case h_7 frame task =>
    split at gone
    · rename_i all
      obtain rfl := Option.some.inj gone
      exact .close task all
    · rename_i more
      split at gone
      · cases gone
      · rename_i loose
        obtain rfl := Option.some.inj gone
        exact .passFrame task (Nat.lt_of_not_le more) (Bool.eq_false_iff.mpr loose)

theorem of_takeUp?_eq_some {task : Task} {manager : Manager pageSize}
    (taken : system.takeUp? thread task manager = some next) :
    system.tasks thread = .idle ∧ system.assign thread task manager = next := by
  unfold takeUp? at taken
  split at taken
  · rename_i idle
    exact ⟨idle, Option.some.inj taken⟩
  · cases taken

/-- An order that is carried out is a step. -/
theorem Step.of_obey? {order : Order pageSize} (obeyed : system.obey? thread order = some next) :
    Step system next := by
  cases order with
  | create numPages image =>
    obtain ⟨idle, rfl⟩ := of_takeUp?_eq_some obeyed
    exact .create numPages image idle
  | fault page =>
    obtain ⟨idle, rfl⟩ := of_takeUp?_eq_some obeyed
    exact .beginFault page idle
  | access page offset access =>
    obtain ⟨idle, rfl⟩ := of_takeUp?_eq_some obeyed
    exact .beginAccess page offset access idle
  | destroy space =>
    obtain ⟨idle, rfl⟩ := of_takeUp?_eq_some obeyed
    exact .beginDestroy space idle
  | shutdown =>
    obtain ⟨idle, rfl⟩ := of_takeUp?_eq_some obeyed
    exact .beginShutdown idle
  | goOn => exact .of_goOn? obeyed

theorem Reaches.run? {start : System pageSize} (reaches : Reaches start system)
    {orders : List (Nat × Order pageSize)} (ran : system.run? orders = some next) :
    Reaches start next := by
  induction orders generalizing system with
  | nil => exact Option.some.inj ran ▸ reaches
  | cons turn rest ih =>
    obtain ⟨between, obeyed, ran⟩ := Option.bind_eq_some_iff.mp ran
    exact ih (reaches.step (.of_obey? obeyed)) ran

end Schedules

/-- The accounts of the manager are kept, with what the threads hold. -/
def Accounted (system : System pageSize) : Prop :=
  system.manager.Accounted fun thread => (system.tasks thread).holding?

section Steps

variable {system next : System pageSize} {thread : Nat}

theorem holdings_assign (task : Task) (manager : Manager pageSize) :
    (fun other => ((system.assign thread task manager).tasks other).holding?) =
      Function.update (fun other => (system.tasks other).holding?) thread task.holding? := by
  funext other
  simp only [assign, Function.update_apply]
  split <;> rfl

theorem Accounted.assign {task : Task} {manager : Manager pageSize}
    (accounted : system.Accounted) (same : task.holding? = (system.tasks thread).holding?)
    (keeps : ∀ holdings, system.manager.Accounted holdings → manager.Accounted holdings) :
    (system.assign thread task manager).Accounted := by
  rw [Accounted, holdings_assign, same, Function.update_eq_self]
  exact keeps _ accounted

/-- Every step of every thread keeps the accounts. -/
theorem Step.accounted (step : Step system next) (accounted : system.Accounted) :
    next.Accounted := by
  cases step with
  | disturb volume => exact Manager.Accounted.of_same accounted { Manager.SameAccounts.refl _ with }
  | replace space image =>
    exact Manager.Accounted.of_same accounted (Manager.sameAccounts_withImage _ space image)
  | create numPages image idle =>
    exact accounted.assign (by rw [idle]) fun _ kept => kept.createSpace numPages image
  | beginFault page idle =>
    refine accounted.assign (by rw [idle]; rfl) fun _ kept => ?_
    exact kept.of_same (Manager.sameAccounts_recordStart _ _)
  | beginAccess page offset access idle =>
    exact accounted.assign (by rw [idle]; rfl) fun _ kept => kept
  | beginDestroy space idle => exact accounted.assign (by rw [idle]; rfl) fun _ kept => kept
  | beginShutdown idle => exact accounted.assign (by rw [idle]; rfl) fun _ kept => kept
  | @advance _ page stage purpose task ready =>
    have held : (system.tasks _).holding? = stage.phase.holding? page := congrArg Task.holding? task
    rw [Accounted, holdings_assign]
    -- What this thread holds is named by its stage, as the lemmas on faults want it.
    have before := accounted
    rw [Accounted, ← Function.update_eq_self _ fun other => (system.tasks other).holding?] at before
    rw [held] at before
    exact (Manager.leads_advance before ready).accounted before
  | @endFault _ page outcome purpose task =>
    refine accounted.assign ?_ fun _ kept => kept.of_same (Manager.sameAccounts_recordOutcome _ _ _)
    rw [task]
    cases outcome with
    | error error => rfl
    | ok resolution => cases purpose <;> rfl
  | look task looked =>
    refine accounted.assign (by rw [task]; rfl) fun _ kept => ?_
    exact kept.of_same (Manager.sameAccounts_accessResident? looked)
  | faultIn task absent =>
    refine accounted.assign (by rw [task]; rfl) fun _ kept => ?_
    exact kept.of_same (Manager.sameAccounts_recordStart _ _)
  | detach task still =>
    refine accounted.assign ?_ fun _ kept => kept.detachSpace still
    rw [task]
    split <;> rfl
  | release task =>
    refine accounted.assign (by rw [task]; rfl) fun _ kept => ?_
    exact kept.of_same (Manager.sameAccounts_releaseSlots _ _)
  | passFrame task => exact accounted.assign (by rw [task]; rfl) fun _ kept => kept
  | close task =>
    refine accounted.assign (by rw [task]; rfl) fun _ kept => ?_
    exact kept.of_same { Manager.SameAccounts.refl _ with }

theorem Reaches.accounted (reaches : Reaches system next) (accounted : system.Accounted) :
    next.Accounted := by
  induction reaches with
  | start => exact accounted
  | step _ step ih => exact step.accounted ih

end Steps

/-- A thread holds a frame in the middle of a fault. -/
def HoldsFrame (system : System pageSize) (thread frame : Nat) : Prop :=
  ∃ holding, (system.tasks thread).holding? = some holding ∧ holding.frame = frame

/-- A thread brings a page in or writes it to swap. -/
def MovesPage (system : System pageSize) (thread : Nat) (page : PageId) : Prop :=
  ∃ holding, (system.tasks thread).holding? = some holding ∧ holding.Moves page

/-- What may be the case with a frame. -/
inductive FrameStatus where
  | free
  | owned
  | leased

/-- What each status means. -/
def HasStatus (system : System pageSize) (frame : Nat) : FrameStatus → Prop
  | .free =>
    system.manager.pool.isAllocated frame = false ∧
      system.manager.frames.owner? frame = none ∧
      system.manager.frames.isPinned frame = false
  | .owned =>
    system.manager.pool.isAllocated frame = true ∧
      system.manager.frames.isPinned frame = false ∧
      ∃ page entry numPages, system.manager.frames.owner? frame = some page ∧
        system.manager.numPages? page.space = some numPages ∧ page.vpn < numPages ∧
        system.manager.entry page = .ok entry ∧ entry.valid = true ∧ entry.frame = frame
  | .leased =>
    system.manager.pool.isAllocated frame = true ∧
      system.manager.frames.owner? frame = none ∧
      system.manager.frames.isPinned frame = true ∧
      ∃! thread, system.HoldsFrame thread frame

/-- No frame is lost or used twice, and no page is moved twice at a time. -/
structure Safe (system : System pageSize) : Prop where
  status : ∀ frame < system.manager.numFrames, ∃! status, system.HasStatus frame status
  /-- A page in transit is a page of a space that is alive; it is in no frame,
  and one thread moves it through a frame that it holds. -/
  transit : ∀ page frame, system.manager.inTransit.find? page = some frame →
    (∃ numPages, system.manager.numPages? page.space = some numPages ∧ page.vpn < numPages) ∧
    (∃ entry, system.manager.entry page = .ok entry ∧ entry.valid = false) ∧
    system.HasStatus frame .leased ∧
    ∃ thread, system.HoldsFrame thread frame ∧ system.MovesPage thread page
  moved_once : ∀ first second page, system.MovesPage first page →
    system.MovesPage second page → first = second
  /-- Faults that are over leave nothing behind. -/
  quiet : (∀ thread frame, ¬system.HoldsFrame thread frame) → system.manager.OwnershipExact

section Safety

variable {system : System pageSize} {frame : Nat}

theorem Accounted.leased (accounted : system.Accounted)
    (pinned : system.manager.frames.isPinned frame = true) : system.HasStatus frame .leased := by
  obtain ⟨thread, holding, held, rfl⟩ := (accounted.pinned_iff frame).mp pinned
  refine ⟨(accounted.allocated_iff _).mpr (.inr pinned), accounted.vacant thread holding held,
    pinned, thread, ⟨holding, held, rfl⟩, ?_⟩
  rintro other ⟨otherHolding, otherHeld, same⟩
  exact accounted.exclusive other thread otherHolding holding otherHeld held same

theorem Accounted.owned (accounted : system.Accounted)
    (taken : system.manager.pool.isAllocated frame = true)
    (loose : system.manager.frames.isPinned frame = false) : system.HasStatus frame .owned := by
  rcases (accounted.allocated_iff frame).mp taken with ⟨page, owned⟩ | pinned
  · obtain ⟨entry, found, placed⟩ :=
      Manager.place_eq_ok_iff.mp ((accounted.owner_iff frame page).mp owned)
    obtain ⟨valid, same⟩ := PageEntry.frame?_eq_some_iff.mp placed
    obtain ⟨numPages, alive, inside⟩ := Manager.exists_entry_eq_ok_iff.mp ⟨entry, found⟩
    exact ⟨taken, loose, page, entry, numPages, owned, alive, inside, found, valid, same⟩
  · rw [loose] at pinned
    cases pinned

theorem HasStatus.unique {first second : FrameStatus} (firstHas : system.HasStatus frame first)
    (secondHas : system.HasStatus frame second) : first = second := by
  cases first <;> cases second <;> simp_all [HasStatus]

theorem Accounted.exists_status (accounted : system.Accounted) (frame : Nat) :
    ∃ status, system.HasStatus frame status := by
  cases pinned : system.manager.frames.isPinned frame with
  | true => exact ⟨.leased, accounted.leased pinned⟩
  | false =>
    cases taken : system.manager.pool.isAllocated frame with
    | true => exact ⟨.owned, accounted.owned taken pinned⟩
    | false => exact ⟨.free, taken, (Manager.Accounted.of_free accounted taken).1, pinned⟩

theorem Accounted.safe (accounted : system.Accounted) : system.Safe := by
  constructor
  case status =>
    intro frame _
    obtain ⟨status, has⟩ := accounted.exists_status frame
    exact ⟨status, has, fun other otherHas => otherHas.unique has⟩
  case transit =>
    intro page frame found
    obtain ⟨thread, holding, held, rfl, moves⟩ := (accounted.transit_iff page frame).mp found
    obtain ⟨entry, entryFound, invalid⟩ := Manager.Accounted.exists_entry accounted held moves
    have pinned := (accounted.pinned_iff holding.frame).mpr ⟨thread, holding, held, rfl⟩
    exact ⟨Manager.exists_entry_eq_ok_iff.mp ⟨entry, entryFound⟩, ⟨entry, entryFound, invalid⟩,
      accounted.leased pinned, thread, ⟨holding, held, rfl⟩, ⟨holding, held, moves⟩⟩
  case moved_once =>
    rintro first second page ⟨firstHolding, firstHeld, firstMoves⟩
      ⟨secondHolding, secondHeld, secondMoves⟩
    exact Manager.Accounted.eq_of_moves accounted firstHeld secondHeld firstMoves secondMoves
  case quiet =>
    intro nobody
    have nothing : (fun thread => (system.tasks thread).holding?) = fun _ => none := by
      funext thread
      rw [Option.eq_none_iff_forall_ne_some]
      exact fun holding held => nobody thread holding.frame ⟨holding, held, rfl⟩
    rw [Accounted, nothing] at accounted
    exact Manager.Settled.ownershipExact accounted

end Safety

/-- Whatever threads do to a manager and in whatever order their steps come, the
system is safe between any two steps. -/
theorem safe_of_reaches {config : Configuration} {volume : Volume} {manager : Manager pageSize}
    (started : Manager.start config volume = .ok manager) {system : System pageSize}
    (reaches : Reaches { manager := manager, tasks := fun _ => .idle } system) :
    system.Safe :=
  (reaches.accounted (Manager.settled_start started)).safe

/-- Three threads share two frames.  Thread 0 writes to page 0 and thread 1 reads
page 1.  Then thread 0 wants page 2, for which page 0 has to leave.  Before it is
written to swap, thread 1 gets page 3 and thread 2 wants page 0 back. -/
def swapOutOrders : List (Nat × Order 4) :=
  [(0, .create 4 (Program.synthetic 0 0).image),
    (0, .access ⟨1, 0⟩ 0 (.write #[7])), (0, .goOn), (0, .goOn), (0, .goOn), (0, .goOn),
    (1, .access ⟨1, 1⟩ 0 (.read 1)), (1, .goOn), (1, .goOn), (1, .goOn), (1, .goOn),
    (0, .fault ⟨1, 2⟩), (0, .goOn),
    (1, .fault ⟨1, 3⟩), (1, .goOn),
    (2, .access ⟨1, 0⟩ 0 (.read 1)), (2, .goOn)]

/-- The swap area is about to be written, with a frame leased and two pages in
transit, while another fault has just been served and a third one has to wait. -/
theorem safe_of_reaches_swapOut :
    ∃ (manager : Manager 4) (system : System 4),
      Manager.start { numFrames := 2 } {} = .ok manager ∧
      run? { manager := manager, tasks := fun _ => .idle } swapOutOrders = some system ∧
      Reaches { manager := manager, tasks := fun _ => .idle } system ∧
      system.tasks 0 = .faulting ⟨1, 2⟩ (.savingVictim ⟨0⟩ ⟨1, 0⟩ #[7, 0, 0, 0]) none ∧
      system.tasks 1 = .faulting ⟨1, 3⟩ (.finished (.ok (.loaded 1 .zeroFill))) none ∧
      system.tasks 2 = .faulting ⟨1, 0⟩ .arriving (some (0, .read 1)) ∧
      system.goOn? 2 = none ∧
      system.Safe := by
  have seen : ((Manager.start { numFrames := 2 } {} : Except StartError (Manager 4)).toOption.bind
      fun manager => (run? { manager := manager, tasks := fun _ => .idle } swapOutOrders).map
        fun system => (system.tasks 0, system.tasks 1, system.tasks 2, system.goOn? 2 |>.isNone)) =
      some (.faulting ⟨1, 2⟩ (.savingVictim ⟨0⟩ ⟨1, 0⟩ #[7, 0, 0, 0]) none,
        .faulting ⟨1, 3⟩ (.finished (.ok (.loaded 1 .zeroFill))) none,
        .faulting ⟨1, 0⟩ .arriving (some (0, .read 1)), true) := by
    decide +kernel
  obtain ⟨manager, started⟩ := Manager.exists_start_eq_ok { numFrames := 2 } {}
    (by decide : Nat.isPowerOfTwo 4) Manager.checkPath_swapFile
  rw [started] at seen
  obtain ⟨system, ran, tasks⟩ := Option.map_eq_some_iff.mp seen
  simp only [Prod.mk.injEq, Option.isNone_iff_eq_none] at tasks
  obtain ⟨saving, served, wanting, waits⟩ := tasks
  have reaches := Reaches.start.run? ran
  exact ⟨manager, system, started, ran, reaches, saving, served, wanting, waits,
    safe_of_reaches started reaches⟩

end System

end DemandPaging
