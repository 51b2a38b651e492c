import DemandPaging.Proofs.FrameOwnership

/-!
# Runs of calls

Whatever programs do with a manager comes down to calls of a few functions of
it.  A run of calls is finer than a run of operations: between two of its calls
there is a manager for each moment of an operation, so a run of calls also
tells what was the case while an operation was under way.
-/

namespace DemandPaging

/-- A call of one of the manager's functions. -/
inductive ManagerCall (pageSize : Nat) where
  | createSpace (numPages : Nat) (image : Image pageSize)
  | fault (page : PageId)
  /-- One look of an access, which reaches no further than its page. -/
  | look (page : PageId) (offset : Nat) (access : Access)
    (inside : offset + access.length ≤ pageSize)
  | destroySpace (space : SpaceId)
  | shutdown
  | drainEvents

/-- How many spaces a call creates. -/
def ManagerCall.created {pageSize : Nat} : ManagerCall pageSize → Nat
  | .createSpace .. => 1
  | _ => 0

namespace Manager

variable {pageSize : Nat}

/-- The manager after a call. -/
def call (manager : Manager pageSize) : ManagerCall pageSize → Manager pageSize
  | .createSpace numPages image => (manager.createSpace numPages image).2
  | .fault page => (manager.fault page).2
  | .look page offset access _ =>
    match manager.accessResident? page offset access with
    | some outcome => outcome.2
    | none => manager
  | .destroySpace space => (manager.destroySpace space).2
  | .shutdown => manager.shutdown.2
  | .drainEvents => manager.drainEvents.2

/-- The manager after a run of calls. -/
def afterCalls (manager : Manager pageSize) (calls : List (ManagerCall pageSize)) :
    Manager pageSize :=
  calls.foldl call manager

variable {manager next : Manager pageSize}

@[simp]
theorem afterCalls_nil : manager.afterCalls [] = manager :=
  rfl

@[simp]
theorem afterCalls_cons (call : ManagerCall pageSize) (rest : List (ManagerCall pageSize)) :
    manager.afterCalls (call :: rest) = (manager.call call).afterCalls rest :=
  rfl

theorem afterCalls_append (earlier later : List (ManagerCall pageSize)) :
    manager.afterCalls (earlier ++ later) = (manager.afterCalls earlier).afterCalls later :=
  List.foldl_append

theorem afterCalls_concat (calls : List (ManagerCall pageSize)) (call : ManagerCall pageSize) :
    manager.afterCalls (calls ++ [call]) = (manager.afterCalls calls).call call :=
  afterCalls_append calls [call]

/-- A call is a part of an operation, or it changes nothing but the log. -/
theorem call_cases (manager : Manager pageSize) (call : ManagerCall pageSize) :
    Part manager (manager.call call) ∨ ∃ log, manager.call call = { manager with log := log } := by
  cases call with
  | createSpace numPages image => exact .inl (.createSpace manager numPages image)
  | fault page => exact .inl (.fault manager page)
  | look page offset access inside =>
    cases looked : manager.accessResident? page offset access with
    | none => exact .inr ⟨manager.log, by simp only [Manager.call, looked]⟩
    | some outcome =>
      have part : Part manager outcome.2 := .look inside looked
      exact .inl (by simpa only [Manager.call, looked] using part)
  | destroySpace space => exact .inl (.destroySpace manager space)
  | shutdown => exact .inl (.shutdown manager)
  | drainEvents => exact .inr ⟨_, rfl⟩

/-- What the parts of operations keep, and the log has no say in, holds after
every run of calls. -/
theorem Keeps.afterCalls {holds : Manager pageSize → Prop} (keeps : Keeps holds)
    (logs : ∀ manager log, holds manager → holds { manager with log := log })
    (start : holds manager) (calls : List (ManagerCall pageSize)) :
    holds (manager.afterCalls calls) := by
  induction calls generalizing manager with
  | nil => exact start
  | cons call rest ih =>
    apply ih
    rcases manager.call_cases call with part | ⟨log, same⟩
    · exact keeps _ _ part start
    · rw [same]
      exact logs manager log start

theorem Settled.withLog (settled : manager.Settled) (log : EventLog) :
    Settled { manager with log := log } :=
  settled.of_same { SameAccounts.refl manager with }

theorem Settled.call (settled : manager.Settled) (call : ManagerCall pageSize) :
    (manager.call call).Settled :=
  keeps_settled.afterCalls (fun _ log settled => settled.withLog log) settled [call]

theorem exists_call_of_part (part : Part manager next) : ∃ call, manager.call call = next := by
  cases part with
  | fault page => exact ⟨.fault page, rfl⟩
  | @look page offset access outcome inside looked =>
    exact ⟨.look page offset access inside, by simp only [call, looked]⟩
  | createSpace numPages image => exact ⟨.createSpace numPages image, rfl⟩
  | destroySpace space => exact ⟨.destroySpace space, rfl⟩
  | shutdown => exact ⟨.shutdown, rfl⟩

theorem exists_calls_of_works (works : Works manager next) :
    ∃ calls, manager.afterCalls calls = next := by
  induction works with
  | refl => exact ⟨[], rfl⟩
  | tail _ part ih =>
    obtain ⟨calls, reached⟩ := ih
    obtain ⟨call, made⟩ := exists_call_of_part part
    refine ⟨calls ++ [call], ?_⟩
    rw [afterCalls_concat, reached, made]

/-- Every run of operations is a run of calls. -/
theorem exists_calls_after {operations : List (Operation pageSize)}
    (own : ∀ operation ∈ operations, operation.isOwn = true) :
    ∃ calls, manager.afterCalls calls = manager.after operations :=
  exists_calls_of_works (works_after own)

end Manager

end DemandPaging
