import DemandPaging.CommandLine

/-!
# The program

Reads lines from standard input as they are typed and writes the answers to
standard output.
-/

namespace DemandPaging

/-- The bytes up to the end of the line, after those read already; none are
left at the end of the input. -/
partial def readLine (input : IO.FS.Stream) (begun : Bytes) : IO Bytes := do
  let more ← input.read 1
  if more.isEmpty then
    return begun
  let line := begun ++ more.data
  if more.data.contains 0x0A then
    return line
  readLine input line

partial def converse (input output : IO.FS.Stream)
    (session : Session CommandLine.promptPageSize) : IO CommandLine.Outcome := do
  output.putStr CommandLine.promptText
  output.flush
  let line ← readLine input #[]
  if line.isEmpty then
    return CommandLine.finish session
  match CommandLine.answer session line with
  | .next text next =>
    output.putStr text
    converse input output next
  | .leave => return CommandLine.finish session
  | .unreadable => return CommandLine.breakOff session

def runProgram (arguments : List String) : IO UInt32 := do
  let output ← IO.getStdout
  let errors ← IO.getStderr
  match CommandLine.Options.addAll? {} arguments with
  | none =>
    errors.putStr "error: the arguments cannot be read\n"
    return 2
  | some options =>
    let config := options.configuration
    match CommandLine.begin config {} with
    | .error text =>
      errors.putStr text
      return 1
    | .ok session =>
      output.putStr (CommandLine.greeting config)
      let outcome ← converse (← IO.getStdin) output session
      output.putStr outcome.output
      output.flush
      errors.putStr outcome.errorOutput
      return outcome.exitCode.toUInt32

end DemandPaging

def main (arguments : List String) : IO UInt32 :=
  DemandPaging.runProgram arguments
