import DemandPaging.Proofs.FrameOwnership
import DemandPaging.Proofs.Noninterference
import DemandPaging.Proofs.SwapBound
import DemandPaging.Session

/-!
# Sessions and their managers

The table of a session and the spaces of its manager agree after every
statement: a process that is started has a space of its own, and the space goes
away with the process.  A statement that fails changes neither, although it may
have created a space on the way and moved pages of other processes.
-/

namespace DemandPaging

namespace Statement

/-- The process that a statement is about; a new process has no number yet. -/
def pid? : Statement → Option ProcessId
  | .exec _ _ _ _ => none
  | .read pid _ _ => some pid
  | .write pid _ _ _ => some pid
  | .exit pid => some pid

end Statement

namespace Manager

namespace Follows

variable {pageSize : Nat} {manager next : Manager pageSize} {memory : FlatMemory}

theorem numPages?_eq_none (follows : manager.Follows memory) {space : SpaceId}
    (absent : memory space = none) : manager.numPages? space = none :=
  follows.numPages?_eq (by rw [absent]; rfl)

/-- The bytes of a space say how many pages it has. -/
theorem numPages?_congr {changed : FlatMemory} {space : SpaceId}
    (before : manager.Follows memory) (after : next.Follows changed)
    (same : (changed space).map Array.size = (memory space).map Array.size) :
    next.numPages? space = manager.numPages? space :=
  after.numPages?_eq (same.trans (before.size_eq space))

/-- As far as both come, two reads of a space with the same bytes answer the
same. -/
theorem getElem?_readBytes_congr {changed : FlatMemory} (before : manager.Follows memory)
    (after : next.Follows changed) {space : AddressSpace}
    (same : changed space.id = memory space.id) {address length position : Nat}
    (reached : position < (space.readBytes manager address length).1.moved)
    (reachedAgain : position < (space.readBytes next address length).1.moved) :
    (space.readBytes next address length).2.1[position]? =
      (space.readBytes manager address length).2.1[position]? := by
  obtain ⟨-, bytes, -⟩ := before.readBytes space address length
  obtain ⟨-, bytesAgain, -⟩ := after.readBytes space address length
  rw [bytes, bytesAgain, FlatMemory.read, FlatMemory.read, same, Bytes.getElem?_slice,
    Bytes.getElem?_slice, if_pos reached, if_pos reachedAgain]

theorem readArguments (follows : manager.Follows memory) (space : AddressSpace)
    (address count : Nat) :
    (ProcessImage.readArguments space manager address count).2.Follows memory :=
  ProcessImage.readArguments_induction (·.Follows memory) space
    (fun _ address length follows => (follows.readBytes space address length).1)
    address count follows

end Follows

end Manager

namespace Session

variable {pageSize : Nat}

/-- The session after a run of statements. -/
def after (session : Session pageSize) (statements : List Statement) : Session pageSize :=
  statements.foldl (fun session statement => (session.execute statement).2) session

@[simp]
theorem after_nil (session : Session pageSize) : session.after [] = session :=
  rfl

@[simp]
theorem after_cons (session : Session pageSize) (statement : Statement)
    (rest : List Statement) :
    session.after (statement :: rest) = (session.execute statement).2.after rest :=
  rfl

/-- The number that a statement gives to a new process. -/
def givenPid? (session : Session pageSize) (statement : Statement) : Option ProcessId :=
  match (session.execute statement).1 with
  | .error _ => none
  | .ok _ =>
    match statement with
    | .exec _ _ _ _ => some session.nextPid
    | _ => none

/-- The numbers that a run of statements gives to new processes, one after the
other. -/
def givenPids (session : Session pageSize) : List Statement → List ProcessId
  | [] => []
  | statement :: rest =>
    (session.givenPid? statement).toList ++ (session.execute statement).2.givenPids rest

/-- What a statement does to a session whose spaces have the bytes `memory`. -/
inductive Carries (session : Session pageSize) (memory : FlatMemory) :
    Statement → Except PagingError String → Session pageSize → FlatMemory → Prop where
  | refuse {statement error manager} :
      manager.Follows memory →
      Carries session memory statement (.error error) { session with manager := manager } memory
  /-- The process gets a space that nobody had. -/
  | start {name codePages dataPages arguments answer manager changed} {process : RunningProcess} :
      process.space.destroyed = false →
      memory process.space.id = none →
      (changed process.space.id).map Array.size = some (process.space.numPages * pageSize) →
      (∀ other, other ≠ process.space.id → changed other = memory other) →
      manager.Follows changed →
      Carries session memory (.exec name codePages dataPages arguments) (.ok answer)
        { manager := manager
          processes := session.processes.set session.nextPid process
          nextPid := session.nextPid + 1 } changed
  | read {pid address length answer manager} :
      manager.Follows memory →
      Carries session memory (.read pid address length) (.ok answer)
        { session with manager := manager } memory
  | write {pid address byte length answer manager process} {data : Bytes} :
      session.processes.find? pid = some process →
      manager.Follows (memory.write process.space.id address.toNat data) →
      Carries session memory (.write pid address byte length) (.ok answer)
        { session with manager := manager }
        (memory.write process.space.id address.toNat data)
  | stop {pid answer manager process} :
      session.processes.find? pid = some process →
      manager.Follows (memory.destroy process.space.id) →
      Carries session memory (.exit pid) (.ok answer)
        { session with manager := manager, processes := session.processes.erase pid }
        (memory.destroy process.space.id)

/-- The processes in the table have numbers out of `given`, and the next number
is higher than all of them. -/
structure Numbered (session : Session pageSize) (given : List ProcessId) : Prop where
  keys_sublist : session.processes.keys.Sublist given
  increasing : given.Pairwise (· < ·)
  given_lt : ∀ pid ∈ given, pid < session.nextPid

/-- The processes in the table are the ones whose spaces are alive, one space
each. -/
structure Tracks (session : Session pageSize) (given : List ProcessId) : Prop
    extends session.Numbered given where
  follows : ∃ memory, session.manager.Follows memory
  spaces_iff : ∀ space numPages, session.manager.numPages? space = some numPages ↔
    ∃ pid process, session.processes.find? pid = some process ∧
      process.space.id = space ∧ process.space.numPages = numPages
  apart : ∀ first second firstProcess secondProcess,
    session.processes.find? first = some firstProcess →
    session.processes.find? second = some secondProcess →
    firstProcess.space.id = secondProcess.space.id → first = second
  undestroyed : ∀ pid process, session.processes.find? pid = some process →
    process.space.destroyed = false

section Steps

variable {session next : Session pageSize} {memory changed : FlatMemory} {pid : ProcessId}
  {process : RunningProcess} {statement : Statement} {given : List ProcessId}
  {outcome : Except PagingError String}

theorem carries_exec (follows : session.manager.Follows memory) (name : String)
    (codePages dataPages : Nat) (arguments : List String) :
    ∃ changed, Carries session memory (.exec name codePages dataPages arguments)
      (session.exec name codePages dataPages arguments).1
      (session.exec name codePages dataPages arguments).2 changed := by
  let filler : SpaceId → Nat → Page pageSize := fun _ _ => .replicate pageSize 0
  rw [exec]
  cases loaded : ProcessImage.load session.manager
      (Program.synthetic codePages dataPages : Program pageSize).image (name :: arguments)
      .demand with
  | mk outcome next =>
    have loads := follows.load _ _ _ filler loaded
    cases outcome with
    | error error =>
      exact ⟨memory, .refuse loads.1⟩
    | ok both =>
      have done := congrArg Prod.fst loaded
      have space := Manager.eq_of_load_eq_ok done
      refine ⟨_, .start (congrArg AddressSpace.destroyed space) loads.2.1 ?_ ?_
        (loads.1.readArguments _ _ _)⟩
      · rw [loads.2.2]
        exact FlatMemory.size_follow_load
      · intro other differs
        apply FlatMemory.follow_load_of_ne
        intro created same
        obtain rfl := Except.ok.inj same
        exact differs

/-- The next number is higher as long as there are numbers left. -/
theorem lt_succ_of_room (room : pid.toNat + 1 < UInt32.size) : pid < pid + 1 := by
  have succ : (pid + 1).toNat = (pid.toNat + 1) % UInt32.size := UInt32.toNat_add pid 1
  rw [UInt32.lt_iff_toNat_lt, succ, Nat.mod_eq_of_lt room]
  exact Nat.lt_succ_self _

namespace Numbered

theorem lt_nextPid (numbered : session.Numbered given)
    (found : session.processes.find? pid = some process) : pid < session.nextPid := by
  have member := (KeyedTable.mem_keys_iff _ _).mpr ⟨process, found⟩
  exact numbered.given_lt pid (numbered.keys_sublist.subset member)

theorem nodup_keys (numbered : session.Numbered given) : session.processes.keys.Nodup := by
  have distinct : given.Nodup := numbered.increasing.imp fun less => UInt32.ne_of_lt less
  exact distinct.sublist numbered.keys_sublist

theorem find?_nextPid (numbered : session.Numbered given) :
    session.processes.find? session.nextPid = none := by
  rw [Option.eq_none_iff_forall_ne_some]
  intro process found
  exact UInt32.lt_irrefl _ (numbered.lt_nextPid found)

theorem set (numbered : session.Numbered given)
    (room : session.nextPid.toNat + 1 < UInt32.size) (process : RunningProcess)
    (manager : Manager pageSize) :
    Numbered { manager := manager
               processes := session.processes.set session.nextPid process
               nextPid := session.nextPid + 1 } (given ++ [session.nextPid]) := by
  have further := lt_succ_of_room room
  constructor
  case keys_sublist =>
    rw [KeyedTable.keys_set]
    exact ((KeyedTable.keys_erase_sublist _ _).trans numbered.keys_sublist).append_right _
  case increasing =>
    rw [List.pairwise_append]
    refine ⟨numbered.increasing, List.pairwise_singleton _ _, fun pid member last isLast => ?_⟩
    rw [List.mem_singleton.mp isLast]
    exact numbered.given_lt pid member
  case given_lt =>
    intro pid member
    rcases List.mem_append.mp member with old | last
    · exact UInt32.lt_trans (numbered.given_lt pid old) further
    · rw [List.mem_singleton.mp last]
      exact further

theorem erase (numbered : session.Numbered given) (pid : ProcessId)
    (manager : Manager pageSize) :
    Numbered { session with manager := manager, processes := session.processes.erase pid }
      given :=
  { numbered with
    keys_sublist := (KeyedTable.keys_erase_sublist _ _).trans numbered.keys_sublist }

end Numbered

namespace Tracks

theorem numPages?_of_find? (tracks : session.Tracks given)
    (found : session.processes.find? pid = some process) :
    session.manager.numPages? process.space.id = some process.space.numPages :=
  (tracks.spaces_iff _ _).mpr ⟨pid, process, found, rfl, rfl⟩

/-- The space of a process in the table can be destroyed. -/
theorem destroy_eq (tracks : session.Tracks given) (follows : session.manager.Follows memory)
    (found : session.processes.find? pid = some process) :
    ∃ handle manager, process.space.destroy session.manager = (.ok (), handle, manager) ∧
      manager.Follows (memory.destroy process.space.id) := by
  have after := follows.destroySpace process.space.id
  rw [AddressSpace.destroy, tracks.undestroyed pid process found, if_neg Bool.false_ne_true]
  rcases follows.mirrors.settled.destroySpace_eq process.space.id with
      ⟨unknown, -⟩ | ⟨frames, pool, done⟩
  · have alive := tracks.numPages?_of_find? found
    rw [Manager.numPages?, unknown] at alive
    cases alive
  · rw [done] at after ⊢
    exact ⟨_, _, rfl, after⟩

theorem carries_execute (tracks : session.Tracks given)
    (follows : session.manager.Follows memory) (statement : Statement) :
    ∃ changed, Carries session memory statement (session.execute statement).1
      (session.execute statement).2 changed := by
  cases statement with
  | exec name codePages dataPages arguments =>
    exact carries_exec follows name codePages dataPages arguments
  | read pid address length =>
    rw [execute, Session.read]
    obtain unknown | ⟨process, found⟩ := Option.eq_none_or_eq_some (session.processes.find? pid)
    · simp only [unknown]
      exact ⟨memory, .refuse follows⟩
    · simp only [found]
      exact ⟨memory, .read (follows.readBytes process.space address.toNat length).1⟩
  | write pid address byte length =>
    rw [execute, Session.write]
    obtain unknown | ⟨process, found⟩ := Option.eq_none_or_eq_some (session.processes.find? pid)
    · simp only [unknown]
      exact ⟨memory, .refuse follows⟩
    · simp only [found]
      exact ⟨_, .write found (follows.writeBytes process.space address.toNat _).1⟩
  | exit pid =>
    rw [execute, exit]
    obtain unknown | ⟨process, found⟩ := Option.eq_none_or_eq_some (session.processes.find? pid)
    · simp only [unknown]
      exact ⟨memory, .refuse follows⟩
    · obtain ⟨handle, manager, done, after⟩ := tracks.destroy_eq follows found
      simp only [found, done]
      exact ⟨_, .stop found after⟩

/-- The manager may change as long as the spaces have as many pages as
before. -/
theorem of_manager {manager : Manager pageSize} (tracks : session.Tracks given)
    (follows : session.manager.Follows memory) (after : manager.Follows changed)
    (same : ∀ space, (changed space).map Array.size = (memory space).map Array.size) :
    Tracks { session with manager := manager } given :=
  { tracks with
    follows := ⟨changed, after⟩
    spaces_iff := fun space numPages => by
      rw [follows.numPages?_congr after (same space)]
      exact tracks.spaces_iff space numPages }

/-- A space that nobody had is not the one of a process in the table. -/
theorem id_ne_of_new (tracks : session.Tracks given) (follows : session.manager.Follows memory)
    {space : SpaceId} (new : memory space = none)
    (found : session.processes.find? pid = some process) : process.space.id ≠ space := by
  rintro rfl
  cases (tracks.numPages?_of_find? found).symm.trans (follows.numPages?_eq_none new)

theorem started {manager : Manager pageSize} (tracks : session.Tracks given)
    (room : session.nextPid.toNat + 1 < UInt32.size)
    (follows : session.manager.Follows memory) (handle : process.space.destroyed = false)
    (new : memory process.space.id = none)
    (sized : (changed process.space.id).map Array.size = some (process.space.numPages * pageSize))
    (others : ∀ other, other ≠ process.space.id → changed other = memory other)
    (after : manager.Follows changed) :
    Tracks { manager := manager
             processes := session.processes.set session.nextPid process
             nextPid := session.nextPid + 1 } (given ++ [session.nextPid]) := by
  have foreign : ∀ pid other, session.processes.find? pid = some other →
      other.space.id ≠ process.space.id :=
    fun pid other found => tracks.id_ne_of_new follows new found
  have found : ∀ {pid other},
      (session.processes.set session.nextPid process).find? pid = some other ↔
        pid = session.nextPid ∧ other = process ∨ session.processes.find? pid = some other :=
    KeyedTable.find?_set_eq_some_iff tracks.find?_nextPid
  constructor
  case toNumbered => exact tracks.toNumbered.set room process manager
  case follows => exact ⟨changed, after⟩
  case spaces_iff =>
    intro space numPages
    simp only [found]
    by_cases same : space = process.space.id
    · have alive : manager.numPages? space = some process.space.numPages :=
        after.numPages?_eq (by rw [same, sized]; rfl)
      rw [alive, Option.some.injEq]
      constructor
      · rintro rfl
        exact ⟨session.nextPid, process, .inl ⟨rfl, rfl⟩, same.symm, rfl⟩
      · rintro ⟨pid, other, ⟨-, rfl⟩ | old, isSpace, pages⟩
        · exact pages
        · exact absurd (isSpace.trans same) (foreign pid other old)
    · have alive := follows.numPages?_congr after (by rw [others space same])
      rw [alive, tracks.spaces_iff]
      constructor
      · rintro ⟨pid, other, old, rest⟩
        exact ⟨pid, other, .inr old, rest⟩
      · rintro ⟨pid, other, ⟨-, rfl⟩ | old, isSpace, pages⟩
        · exact absurd isSpace.symm same
        · exact ⟨pid, other, old, isSpace, pages⟩
  case apart =>
    intro first second firstProcess secondProcess firstFound secondFound same
    rcases found.mp firstFound with ⟨rfl, rfl⟩ | firstOld
    · rcases found.mp secondFound with ⟨rfl, -⟩ | secondOld
      · rfl
      · exact absurd same.symm (foreign _ _ secondOld)
    · rcases found.mp secondFound with ⟨rfl, rfl⟩ | secondOld
      · exact absurd same (foreign _ _ firstOld)
      · exact tracks.apart _ _ _ _ firstOld secondOld same
  case undestroyed =>
    intro pid other isFound
    rcases found.mp isFound with ⟨-, rfl⟩ | old
    · exact handle
    · exact tracks.undestroyed pid other old

theorem stopped {manager : Manager pageSize} (tracks : session.Tracks given)
    (follows : session.manager.Follows memory)
    (found : session.processes.find? pid = some process)
    (after : manager.Follows (memory.destroy process.space.id)) :
    Tracks { session with manager := manager, processes := session.processes.erase pid } given := by
  have left : ∀ {other otherProcess},
      (session.processes.erase pid).find? other = some otherProcess ↔
        other ≠ pid ∧ session.processes.find? other = some otherProcess :=
    KeyedTable.find?_erase_eq_some_iff
  constructor
  case toNumbered => exact tracks.toNumbered.erase pid manager
  case follows => exact ⟨_, after⟩
  case spaces_iff =>
    intro space numPages
    simp only [left]
    by_cases same : space = process.space.id
    · have gone : manager.numPages? space = none :=
        after.numPages?_eq_none (by rw [same, FlatMemory.destroy, Function.update_self])
      rw [gone]
      refine iff_of_false (fun alive => by cases alive) ?_
      rintro ⟨other, otherProcess, ⟨differs, otherFound⟩, isSpace, -⟩
      exact differs (tracks.apart _ _ _ _ otherFound found (isSpace.trans same))
    · have alive : manager.numPages? space = session.manager.numPages? space :=
        follows.numPages?_congr after (by rw [FlatMemory.destroy, Function.update_of_ne same])
      rw [alive, tracks.spaces_iff]
      constructor
      · rintro ⟨other, otherProcess, otherFound, isSpace, pages⟩
        refine ⟨other, otherProcess, ⟨?_, otherFound⟩, isSpace, pages⟩
        rintro rfl
        obtain rfl := Option.some.inj (found.symm.trans otherFound)
        exact same isSpace.symm
      · rintro ⟨other, otherProcess, ⟨-, otherFound⟩, rest⟩
        exact ⟨other, otherProcess, otherFound, rest⟩
  case apart =>
    intro first second _ _ firstFound secondFound
    exact tracks.apart first second _ _ (left.mp firstFound).2 (left.mp secondFound).2
  case undestroyed => exact fun other _ isLeft => tracks.undestroyed other _ (left.mp isLeft).2

end Tracks

theorem Carries.follows (carries : session.Carries memory statement outcome next changed) :
    next.manager.Follows changed := by
  cases carries with
  | refuse after => exact after
  | start _ _ _ _ after => exact after
  | read after => exact after
  | write _ after => exact after
  | stop _ after => exact after

theorem Carries.nextPid_le (carries : session.Carries memory statement outcome next changed) :
    next.nextPid.toNat ≤ session.nextPid.toNat + 1 := by
  cases carries with
  | start =>
    rw [UInt32.toNat_add]
    exact Nat.mod_le _ _
  | _ => exact Nat.le_succ _

namespace Tracks

theorem execute (tracks : session.Tracks given)
    (room : session.nextPid.toNat + 1 < UInt32.size) (statement : Statement) :
    (session.execute statement).2.Tracks (given ++ (session.givenPid? statement).toList) ∧
      (session.execute statement).2.nextPid.toNat ≤ session.nextPid.toNat + 1 := by
  obtain ⟨memory, follows⟩ := tracks.follows
  obtain ⟨changed, carries⟩ := tracks.carries_execute follows statement
  refine ⟨?_, carries.nextPid_le⟩
  unfold givenPid?
  generalize (session.execute statement).1 = outcome at carries ⊢
  generalize (session.execute statement).2 = next at carries ⊢
  cases carries with
  | refuse after =>
    rw [Option.toList_none, List.append_nil]
    exact tracks.of_manager follows after fun _ => rfl
  | start handle new sized others after =>
    exact tracks.started room follows handle new sized others after
  | read after =>
    rw [Option.toList_none, List.append_nil]
    exact tracks.of_manager follows after fun _ => rfl
  | write _ after =>
    rw [Option.toList_none, List.append_nil]
    exact tracks.of_manager follows after fun _ => FlatMemory.size_write
  | stop found after =>
    rw [Option.toList_none, List.append_nil]
    exact tracks.stopped follows found after

/-- Each statement gives at most one number away, so that the numbers do not
run out. -/
theorem after (tracks : session.Tracks given) {statements : List Statement}
    (room : session.nextPid.toNat + statements.length < UInt32.size) :
    (session.after statements).Tracks (given ++ session.givenPids statements) := by
  induction statements generalizing session given with
  | nil =>
    rw [givenPids, List.append_nil]
    exact tracks
  | cons statement rest ih =>
    rw [List.length_cons] at room
    obtain ⟨first, bound⟩ := tracks.execute (by omega) statement
    have left : (session.execute statement).2.nextPid.toNat + rest.length < UInt32.size := by omega
    rw [givenPids, ← List.append_assoc]
    exact ih first left

end Tracks

/-- The processes that are left can be ended one after the other. -/
theorem Tracks.endEach (tracks : session.Tracks given) :
    ∃ closed, session.endEach session.processes.entries = (.ok (), closed) ∧
      closed.Tracks given ∧ closed.processes.entries = [] := by
  generalize listed : session.processes.entries = entries
  induction entries generalizing session with
  | nil => exact ⟨session, rfl, tracks, listed⟩
  | cons entry rest ih =>
    obtain ⟨pid, process⟩ := entry
    have distinct := tracks.nodup_keys
    have found : session.processes.find? pid = some process :=
      (KeyedTable.mem_entries_iff distinct pid process).mp (listed ▸ List.mem_cons_self)
    obtain ⟨memory, follows⟩ := tracks.follows
    obtain ⟨handle, manager, done, after⟩ := tracks.destroy_eq follows found
    rw [Session.endEach]
    simp only [done]
    apply ih (tracks.stopped follows found after)
    -- No other process has this number.
    rw [KeyedTable.keys, listed, List.map_cons, List.nodup_cons] at distinct
    simp only [KeyedTable.erase, listed]
    rw [List.filter_cons_of_neg (by simp), List.filter_eq_self]
    intro other member
    have differs : other.1 ≠ pid :=
      fun same => distinct.1 (List.mem_map.mpr ⟨other, member, same⟩)
    simpa using differs

/-- No process is left, and nothing that belonged to one. -/
structure Empty (session : Session pageSize) : Prop where
  processes_eq : session.processes.entries = []
  spaces_eq : session.manager.spaces.entries = []
  freeFrames_eq : session.manager.freeFrames = session.manager.numFrames
  slotOf?_eq : ∀ page, session.manager.swap.slotOf? page = none

theorem Tracks.empty (tracks : session.Tracks given)
    (noProcess : session.processes.entries = []) : session.Empty := by
  obtain ⟨memory, follows⟩ := tracks.follows
  have unknown : ∀ space, session.manager.numPages? space = none := by
    intro space
    rw [Option.eq_none_iff_forall_ne_some]
    intro numPages alive
    obtain ⟨pid, process, found, -⟩ := (tracks.spaces_iff space numPages).mp alive
    rw [KeyedTable.find?, noProcess] at found
    cases found
  have noSpace : session.manager.spaces.entries = [] :=
    KeyedTable.entries_eq_nil fun space => Option.map_eq_none_iff.mp (unknown space)
  have counted := Manager.freeFrames_add_validEntries follows.mirrors.settled
  rw [Manager.validEntries, KeyedTable.values, noSpace] at counted
  refine ⟨noProcess, noSpace, counted, fun page => ?_⟩
  rw [Option.eq_none_iff_forall_ne_some]
  intro slot bound
  obtain ⟨numPages, alive, -⟩ := Manager.exists_entry_eq_ok_iff.mp
    (follows.mirrors.contains.bound page slot bound)
  rw [unknown] at alive
  cases alive

end Steps

section Keeps

variable {holds : Manager pageSize → Prop} {session : Session pageSize}

/-- Statements do nothing to a manager but work on its spaces. -/
theorem keeps_execute (keeps : Manager.KeepsOnSpaces holds) (start : holds session.manager)
    (statement : Statement) : holds (session.execute statement).2.manager := by
  cases statement with
  | exec name codePages dataPages arguments =>
    have loaded := keeps.load (Program.synthetic codePages dataPages).image (name :: arguments)
      .demand start
    rw [execute, exec]
    split
    · rename_i equal
      rwa [equal] at loaded
    · rename_i space image manager equal
      rw [equal] at loaded
      exact keeps.readArguments space image.argumentVector image.argumentCount loaded
  | read pid address length =>
    rw [execute, Session.read]
    split
    · exact start
    · exact keeps.readBytes _ address.toNat length start
  | write pid address byte length =>
    rw [execute, Session.write]
    split
    · exact start
    · exact keeps.writeBytes _ address.toNat _ start
  | exit pid =>
    rw [execute, exit]
    split
    · exact start
    · exact keeps.destroy _ start

theorem keeps_after (keeps : Manager.KeepsOnSpaces holds) (start : holds session.manager)
    (statements : List Statement) : holds (session.after statements).manager := by
  induction statements generalizing session with
  | nil => exact start
  | cons statement rest ih => exact ih (keeps_execute keeps start statement)

theorem keeps_endEach (keeps : Manager.KeepsOnSpaces holds) (start : holds session.manager)
    (entries : List (ProcessId × RunningProcess)) :
    holds (session.endEach entries).2.manager := by
  induction entries generalizing session with
  | nil => exact start
  | cons entry rest ih =>
    have ended := keeps.destroy entry.2.space start
    rw [endEach]
    simp only
    split
    · exact ended
    · exact ih ended

end Keeps

/-- What `next` has in common with `session` after a statement that failed.
Pages may have moved, but nothing has started or ended, and there is no frame
and no slot that does not belong to a space from before. -/
structure Refused (session next : Session pageSize) : Prop where
  processes_eq : next.processes = session.processes
  nextPid_eq : next.nextPid = session.nextPid
  numPages?_eq : ∀ space, next.manager.numPages? space = session.manager.numPages? space
  frames : ∀ frame, next.manager.pool.isAllocated frame = true →
    ∃ page numPages, next.manager.frames.owner? frame = some page ∧
      session.manager.numPages? page.space = some numPages ∧ page.vpn < numPages
  slots : ∀ page slot, next.manager.swap.slotOf? page = some slot →
    ∃ numPages, session.manager.numPages? page.space = some numPages ∧ page.vpn < numPages

section Statements

variable {session next : Session pageSize} {memory changed : FlatMemory} {statement : Statement}
  {given : List ProcessId} {outcome : Except PagingError String}

theorem Carries.refused {error : PagingError} (follows : session.manager.Follows memory)
    (carries : session.Carries memory statement (.error error) next changed) :
    Refused session next := by
  cases carries with
  | @refuse _ _ manager after =>
    have spaces : ∀ space, manager.numPages? space = session.manager.numPages? space :=
      fun space => follows.numPages?_congr after rfl
    have ownership := after.mirrors.settled.ownershipExact
    refine ⟨rfl, rfl, spaces, fun frame allocated => ?_, fun page slot bound => ?_⟩
    · obtain ⟨page, owned⟩ := (ownership.allocated_iff_owner frame).mp allocated
      obtain ⟨numPages, alive, inside⟩ := ownership.owner_inside frame page owned
      exact ⟨page, numPages, owned, spaces page.space ▸ alive, inside⟩
    · obtain ⟨numPages, alive, inside⟩ := Manager.exists_entry_eq_ok_iff.mp
        (after.mirrors.contains.bound page slot bound)
      exact ⟨numPages, spaces page.space ▸ alive, inside⟩

theorem Carries.others (carries : session.Carries memory statement outcome next changed)
    (tracks : session.Tracks given) (follows : session.manager.Follows memory) {pid : ProcessId}
    {process : RunningProcess} (found : session.processes.find? pid = some process)
    (elsewhere : statement.pid? ≠ some pid) :
    next.processes.find? pid = some process ∧
      changed process.space.id = memory process.space.id := by
  have apart : ∀ {other target}, session.processes.find? other = some target → other ≠ pid →
      process.space.id ≠ target.space.id :=
    fun otherFound differs same => differs (tracks.apart _ _ _ _ otherFound found same.symm)
  cases carries with
  | refuse => exact ⟨found, rfl⟩
  | start _ new _ others _ =>
    have old : pid ≠ session.nextPid := UInt32.ne_of_lt (tracks.lt_nextPid found)
    refine ⟨(KeyedTable.find?_set_of_ne _ _ old).trans found, others _ ?_⟩
    exact tracks.id_ne_of_new follows new found
  | read => exact ⟨found, rfl⟩
  | write target _ =>
    have differs := fun same => elsewhere (congrArg some same)
    exact ⟨found, FlatMemory.write_of_ne (apart target differs)⟩
  | stop target _ =>
    have differs := fun same => elsewhere (congrArg some same)
    refine ⟨(KeyedTable.find?_erase_of_ne _ (Ne.symm differs)).trans found, ?_⟩
    exact Function.update_of_ne (apart target differs) _ _

theorem Tracks.of_givenPid? (tracks : session.Tracks given) {pid : ProcessId}
    (gives : session.givenPid? statement = some pid) :
    session.processes.find? pid = none ∧
      ∃ process, (session.execute statement).2.processes = session.processes.set pid process := by
  obtain ⟨memory, follows⟩ := tracks.follows
  obtain ⟨changed, carries⟩ := tracks.carries_execute follows statement
  unfold givenPid? at gives
  generalize (session.execute statement).1 = outcome at carries gives
  generalize (session.execute statement).2 = next at carries
  cases carries with
  | start =>
    obtain rfl := Option.some.inj gives
    exact ⟨tracks.find?_nextPid, _, rfl⟩
  | _ => cases gives

end Statements

/-- What is known about a session that began as `start`, with its swap area on
`volume`, and carried out `statements` since, and about the statement after
them. -/
structure InStep (volume : Volume) (start : Session pageSize) (statements : List Statement) :
    Prop where
  /-- The spaces that are alive are the ones of the processes in the table. -/
  spaces_iff : ∀ space numPages,
    (start.after statements).manager.numPages? space = some numPages ↔
      ∃ pid process, (start.after statements).processes.find? pid = some process ∧
        process.space.id = space ∧ process.space.numPages = numPages
  apart : ∀ first second firstProcess secondProcess,
    (start.after statements).processes.find? first = some firstProcess →
    (start.after statements).processes.find? second = some secondProcess →
    firstProcess.space.id = secondProcess.space.id → first = second
  /-- No number is given twice, and later processes have higher ones. -/
  givenPids_increasing : (start.givenPids statements).Pairwise (· < ·)
  keys_sublist :
    (start.after statements).processes.keys.Sublist (start.givenPids statements)
  /-- The number that is given to a process is the one it is found under. -/
  given : ∀ statement pid, (start.after statements).givenPid? statement = some pid →
    (start.after statements).processes.find? pid = none ∧
      ∃ process, ((start.after statements).execute statement).2.processes =
        (start.after statements).processes.set pid process
  refused : ∀ statement error,
    ((start.after statements).execute statement).1 = .error error →
      Refused (start.after statements) ((start.after statements).execute statement).2
  /-- Whatever bytes the spaces have, the processes that the statement is not
  about keep theirs. -/
  others : ∀ statement memory, (start.after statements).manager.Follows memory →
    ∃ changed, ((start.after statements).execute statement).2.manager.Follows changed ∧
      ∀ pid process, (start.after statements).processes.find? pid = some process →
        statement.pid? ≠ some pid →
        ((start.after statements).execute statement).2.processes.find? pid = some process ∧
          changed process.space.id = memory process.space.id
  /-- What such a process reads, it reads again. -/
  reads : ∀ statement pid process, (start.after statements).processes.find? pid = some process →
    statement.pid? ≠ some pid → ∀ address length position,
      let before := process.space.readBytes (start.after statements).manager address length
      let after := process.space.readBytes
        ((start.after statements).execute statement).2.manager address length
      position < before.1.moved → position < after.1.moved →
        after.2.1[position]? = before.2.1[position]?
  /-- No slot is lost, whatever fails. -/
  slots : volume.Consistent → ∀ slot,
    slot < (start.after statements).manager.swap.slotCount ↔
      (∃ page, (start.after statements).manager.swap.slotOf? page = some slot) ∨
        slot ∈ (start.after statements).manager.swap.freeSlots.slots
  /-- In the end all slots are free. -/
  closes : ∃ closed, (start.after statements).close = (.ok (), closed) ∧ closed.Empty ∧
    (volume.Consistent → ∀ slot,
      slot < closed.manager.swap.slotCount ↔ slot ∈ closed.manager.swap.freeSlots.slots)

theorem tracks_start {config : Configuration} {volume : Volume} {manager : Manager pageSize}
    (started : Manager.start config volume = .ok manager) :
    Tracks { manager := manager } [] := by
  have follows := Manager.follows_start started
  refine
    { follows := ⟨_, follows⟩
      spaces_iff := fun space numPages => ?_
      apart := fun _ _ _ _ found => by cases found
      undestroyed := fun _ _ found => by cases found
      keys_sublist := List.Sublist.refl []
      increasing := List.Pairwise.nil
      given_lt := fun _ member => by cases member }
  rw [follows.numPages?_eq_none rfl]
  constructor
  · intro alive
    cases alive
  · rintro ⟨_, _, found, -⟩
    cases found

/-- As long as there are numbers for new processes, a session that has a manager
for itself stays in step with it, whatever fails on the way. -/
theorem inStep_after {config : Configuration} {volume : Volume} {manager : Manager pageSize}
    (started : Manager.start config volume = .ok manager) {statements : List Statement}
    (few : statements.length < 2 ^ 32 - 1) :
    InStep volume { manager := manager } statements := by
  have room : (1 : ProcessId).toNat + statements.length < UInt32.size := by
    change 1 + statements.length < 2 ^ 32
    omega
  have tracks := (tracks_start started).after room
  rw [List.nil_append] at tracks
  have stocked : volume.Consistent →
      (Session.after { manager := manager } statements).manager.Stocked := fun consistent =>
    keeps_after Manager.keeps_stocked (Manager.stocked_start consistent started) statements
  constructor
  case spaces_iff => exact tracks.spaces_iff
  case apart => exact tracks.apart
  case givenPids_increasing => exact tracks.increasing
  case keys_sublist => exact tracks.keys_sublist
  case given => exact fun _ _ gives => tracks.of_givenPid? gives
  case refused =>
    intro statement error failed
    obtain ⟨memory, follows⟩ := tracks.follows
    obtain ⟨changed, carries⟩ := tracks.carries_execute follows statement
    rw [failed] at carries
    exact carries.refused follows
  case others =>
    intro statement memory follows
    obtain ⟨changed, carries⟩ := tracks.carries_execute follows statement
    refine ⟨changed, carries.follows, fun pid process found elsewhere => ?_⟩
    exact carries.others tracks follows found elsewhere
  case reads =>
    intro statement pid process found elsewhere address length position before after
    obtain ⟨memory, follows⟩ := tracks.follows
    obtain ⟨changed, carries⟩ := tracks.carries_execute follows statement
    have same := (carries.others tracks follows found elsewhere).2
    exact follows.getElem?_readBytes_congr carries.follows same
  case slots => exact fun consistent => (stocked consistent).lt_slotCount_iff
  case closes =>
    obtain ⟨closed, done, left, noProcess⟩ := tracks.endEach
    have empty := left.empty noProcess
    refine ⟨closed, done, empty, fun consistent slot => ?_⟩
    have stocked := keeps_endEach Manager.keeps_stocked (stocked consistent)
      (Session.after { manager := manager } statements).processes.entries
    rw [done] at stocked
    rw [stocked.lt_slotCount_iff]
    refine or_iff_right ?_
    rintro ⟨page, bound⟩
    cases bound.symm.trans (empty.slotOf?_eq page)

/-- Two processes on two frames, and statements that fail. -/
theorem inStep_after_exit :
    ∃ manager : Manager 16, Manager.start { numFrames := 2 } {} = .ok manager ∧
      [Statement.exec "one" 1 1 [], .exec "two" 1 1 ["and", "more"], .exec "three" 1 0 [],
        .write 1 16 7 20, .exit 2, .exit 2].length < 2 ^ 32 - 1 ∧
      InStep {} { manager := manager }
        [.exec "one" 1 1 [], .exec "two" 1 1 ["and", "more"], .exec "three" 1 0 [],
          .write 1 16 7 20, .exit 2, .exit 2] := by
  obtain ⟨manager, started⟩ := Manager.exists_start_eq_ok { numFrames := 2 } {}
    (by decide : Nat.isPowerOfTwo 16) Manager.checkPath_swapFile
  exact ⟨manager, started, by decide, inStep_after started (by decide)⟩

end Session

end DemandPaging
