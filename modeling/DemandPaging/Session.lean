import DemandPaging.ProcessImage
import DemandPaging.Program.Sections
import DemandPaging.Statement
import DemandPaging.Text.Quoted

/-!
# Sessions

The processes that were started from the prompt.  Each statement is carried
out against the manager and answered with one line of text.  A statement that
fails starts no process and ends none.
-/

namespace DemandPaging

/-- A process that was started and has not ended. -/
structure RunningProcess where
  name : String
  space : AddressSpace
  image : ProcessImage
  deriving DecidableEq, Repr

/-- A manager and the processes that run on it, in the order in which they
were started. -/
structure Session (pageSize : Nat) where
  manager : Manager pageSize
  processes : KeyedTable ProcessId RunningProcess := {}
  nextPid : ProcessId := 1

namespace Session

variable {pageSize : Nat}

/-- How far a transfer of `wanted` bytes came, and the bytes it read. -/
def describeTransfer (transfer : Transfer) (wanted : Nat) (bytes : Bytes) : String :=
  let reason :=
    match transfer.stopped with
    | some error => s!" (stopped: {error.message})"
    | none => ""
  let shown :=
    if bytes.isEmpty then "" else ": " ++ " ".intercalate (bytes.toList.map Text.hexByte)
  s!"{transfer.moved} of {wanted} bytes" ++ reason ++ shown

def describeProcess (pid : ProcessId) (image : ProcessImage) (arguments : List String) :
    String :=
  let counter := Text.hexadecimal image.initialCounter
  let stack := Text.hexadecimal image.initialStack
  s!"pid {pid.toNat}: {image.numPages} pages, pc {counter}, sp {stack}, argv " ++
    Text.quoteList arguments

/-- Start a process with generated code and data.  Its name is its first
argument. -/
def exec (session : Session pageSize) (name : String) (codePages dataPages : Nat)
    (arguments : List String) : Except PagingError String × Session pageSize :=
  let program : Program pageSize := Program.synthetic codePages dataPages
  match ProcessImage.load session.manager program.image (name :: arguments) .demand with
  | (.error error, manager) => (.error error, { session with manager := manager })
  | (.ok (space, image), loaded) =>
    let (found, manager) :=
      ProcessImage.readArguments space loaded image.argumentVector image.argumentCount
    (.ok (describeProcess session.nextPid image found),
      { manager := manager
        processes := session.processes.set session.nextPid
          { name := name, space := space, image := image }
        nextPid := session.nextPid + 1 })

def read (session : Session pageSize) (pid : ProcessId) (address length : Nat) :
    Except PagingError String × Session pageSize :=
  match session.processes.find? pid with
  | none => (.error .unknownSpace, session)
  | some process =>
    let (transfer, bytes, manager) :=
      process.space.readBytes session.manager address length
    (.ok (describeTransfer transfer length bytes), { session with manager := manager })

def write (session : Session pageSize) (pid : ProcessId) (address : Nat) (byte : UInt8)
    (length : Nat) : Except PagingError String × Session pageSize :=
  match session.processes.find? pid with
  | none => (.error .unknownSpace, session)
  | some process =>
    let (transfer, manager) :=
      process.space.writeBytes session.manager address (Array.replicate length byte)
    (.ok (describeTransfer transfer length #[]), { session with manager := manager })

def exit (session : Session pageSize) (pid : ProcessId) :
    Except PagingError String × Session pageSize :=
  match session.processes.find? pid with
  | none => (.error .unknownSpace, session)
  | some process =>
    let (outcome, _, manager) := process.space.destroy session.manager
    let left := { session with
      manager := manager
      processes := session.processes.erase pid }
    let report := s!"pid {pid.toNat} ({process.name}) exited, " ++
      s!"{process.image.numPages} pages released"
    (outcome.map fun _ => report, left)

def execute (session : Session pageSize) :
    Statement → Except PagingError String × Session pageSize
  | .exec name codePages dataPages arguments =>
    session.exec name codePages dataPages arguments
  | .read pid address length => session.read pid address.toNat length
  | .write pid address byte length => session.write pid address.toNat byte length
  | .exit pid => session.exit pid

def endEach (session : Session pageSize) :
    List (ProcessId × RunningProcess) → Except PagingError Unit × Session pageSize
  | [] => (.ok (), session)
  | (pid, process) :: rest =>
    match process.space.destroy session.manager with
    | (outcome, _, manager) =>
      let left := { session with
        manager := manager
        processes := session.processes.erase pid }
      match outcome with
      | .error error => (.error error, left)
      | .ok () => left.endEach rest

/-- End every process that still runs. -/
def close (session : Session pageSize) : Except PagingError Unit × Session pageSize :=
  session.endEach session.processes.entries

end Session

end DemandPaging
