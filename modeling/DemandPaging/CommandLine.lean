import DemandPaging.CommandLine.Options
import DemandPaging.CommandLine.Prompt

/-!
# The command line

The program reads lines from its input, each after a prompt, until a line asks
it to leave or the input ends.  Then it ends all processes and removes the swap
area.  Everything it writes is a function of its arguments and its input.
-/

namespace DemandPaging

namespace CommandLine

structure Outcome where
  exitCode : Nat
  output : String := ""
  errorOutput : String := ""
  volume : Volume

/-- The line that is written about the error a run ends with. -/
def errorLine (messages : List String) : String :=
  "Error: " ++ ": ".intercalate messages ++ "\n"

/-- An error of virtual memory and all its causes, after what was being
done. -/
def errorChain (context : String) (error : PagingError) : List String :=
  context :: error.message :: error.causes

/-- The first session, or what is written when it cannot be started. -/
def begin (config : Configuration) (volume : Volume) :
    Except String (Session promptPageSize) :=
  let failed (messages : List String) := errorLine ("Failed to start virtual memory" :: messages)
  match Manager.start config volume with
  | .ok manager => .ok { manager := manager }
  | .error (.pageSize size) => .error (failed [s!"Page size {size} is not a power of 2"])
  | .error (.paging error) => .error (failed (error.message :: error.causes))

/-- End the last session in order. -/
def finish (session : Session promptPageSize) : Outcome :=
  match session.close with
  | (.error error, closed) =>
    { exitCode := 1
      errorOutput := errorLine (errorChain "Failed to tear down processes" error)
      volume := closed.manager.shutdown.2.volume }
  | (.ok (), closed) =>
    match closed.manager.shutdown with
    | (.error error, ended) =>
      { exitCode := 1
        errorOutput := errorLine (errorChain "Failed to remove the swap file" error)
        volume := ended.volume }
    | (.ok (), ended) =>
      { exitCode := 0, output := farewell, volume := ended.volume }

/-- End the last session after a line that is not text. -/
def breakOff (session : Session promptPageSize) : Outcome where
  exitCode := 1
  errorOutput := errorLine ["stream did not contain valid UTF-8"]
  volume := session.manager.shutdown.2.volume

/-- Answer lines until one of them, or the end of the input, ends the run.  The
answers given before are prepended in reverse. -/
def converse (session : Session promptPageSize) (answers : List String) :
    List Bytes → List String × Outcome
  | [] => (promptText :: answers, finish session)
  | line :: rest =>
    match answer session line with
    | .next output next => converse next (output :: promptText :: answers) rest
    | .leave => (promptText :: answers, finish session)
    | .unreadable => (promptText :: answers, breakOff session)

/-- Cut an input into lines, given the bytes of the line begun before it, last
one first.  The end of a line belongs to it. -/
def linesAfter (begun : List UInt8) : List UInt8 → List Bytes
  | [] => if begun.isEmpty then [] else [begun.reverse.toArray]
  | byte :: rest =>
    if byte = 0x0A then
      (byte :: begun).reverse.toArray :: linesAfter [] rest
    else
      linesAfter (byte :: begun) rest

def lines (input : Bytes) : List Bytes :=
  linesAfter [] input.toList

def run (arguments : List String) (input : Bytes) (volume : Volume) : Outcome :=
  match Options.addAll? {} arguments with
  | none => { exitCode := 2, volume := volume }
  | some options =>
    let config := options.configuration
    match begin config volume with
    | .error text => { exitCode := 1, errorOutput := text, volume := volume }
    | .ok session =>
      let (answers, outcome) := converse session [greeting config] (lines input)
      { outcome with output := String.join answers.reverse ++ outcome.output }

end CommandLine

end DemandPaging
