import DemandPaging.PromptCommand
import DemandPaging.Session

/-!
# The prompt

What the program writes before it reads a line, and how it answers the line:
commands that start with a dot are about the prompt itself, and all other lines
are statements, whose paging events are shown after the answer.
-/

namespace DemandPaging

namespace CommandLine

/-- The number of bytes of a page at the prompt. -/
def promptPageSize : Nat := 1024

/-- What is written before each line is read. -/
def promptText : String := "vm > "

def greeting (config : Configuration) : String :=
  s!"---- {config.numFrames} frames of {promptPageSize} bytes ----\n"

def farewell : String := "---- System closed ----\n"

/-- What follows from a line of input. -/
inductive Reply where
  /-- Write `output` and go on. -/
  | next (output : String) (session : Session promptPageSize)
  | leave
  /-- The line is not text. -/
  | unreadable

/-- Answer a prompt command, or a line that looks like one. -/
def answerCommand (session : Session promptPageSize) (line : String) : Reply :=
  match PromptCommand.ofLine? line with
  | some .exit => .leave
  | some .stats => .next (session.manager.statistics.text ++ "\n") session
  | some .frames => .next (session.manager.framesReport ++ "\n") session
  | none => .next s!"Unrecognized command '{line}'\n" session

/-- Carry out a statement and show the events that were recorded meanwhile. -/
def answerStatement (session : Session promptPageSize) (line : String) : Reply :=
  let (text, executed) :=
    match Statement.ofLine line with
    | .error error => (error.message, session)
    | .ok statement =>
      match session.execute statement with
      | (.ok output, executed) => (output, executed)
      | (.error error, executed) => (s!"Error: {error.message}", executed)
  let (events, manager) := executed.manager.drainEvents
  let shown := events.toList.map fun event => s!"  {event.text}\n"
  .next (text ++ "\n" ++ String.join shown) { executed with manager := manager }

/-- Answer a line of input.  An empty line is passed over. -/
def answer (session : Session promptPageSize) (line : Bytes) : Reply :=
  match Utf8.decode? line with
  | none => .unreadable
  | some text =>
    let trimmed := Text.trim text
    if trimmed = "" then
      .next "" session
    else if trimmed.startsWith "." then
      answerCommand session trimmed
    else
      answerStatement session trimmed

end CommandLine

end DemandPaging
