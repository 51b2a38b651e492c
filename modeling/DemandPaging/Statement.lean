import DemandPaging.Text.Blank
import DemandPaging.Text.Numeral

/-!
# Statements

The statements that are typed at the prompt.  A line is cut into words; the
first word says which statement it is, and the words after it fill the fields
of the statement in order.
-/

namespace DemandPaging

/-- The number of a process. -/
abbrev ProcessId := UInt32

/-- What can be asked for at the prompt. -/
inductive Statement where
  | exec (name : String) (codePages dataPages : Nat) (arguments : List String)
  | read (pid : ProcessId) (address : UInt64) (length : Nat)
  | write (pid : ProcessId) (address : UInt64) (byte : UInt8) (length : Nat)
  | exit (pid : ProcessId)
  deriving DecidableEq, Repr

/-- The keywords that statements start with. -/
inductive Keyword where
  | exec
  | read
  | write
  | exit
  deriving DecidableEq, Repr

namespace Keyword

/-- The keyword that a word is. -/
def ofWord? (word : String) : Option Keyword :=
  if word = "exec" then some exec
  else if word = "read" then some read
  else if word = "write" then some write
  else if word = "exit" then some exit
  else none

/-- How a statement is typed. -/
def usage : Keyword → String
  | exec => "exec <name> <code-pages> <data-pages> [args..]"
  | read => "read <pid> <vaddr> <len>"
  | write => "write <pid> <vaddr> <byte> <len>"
  | exit => "exit <pid>"

end Keyword

/-- Why a line is not a statement. -/
inductive StatementError where
  /-- The line does not start with a keyword. -/
  | unrecognized (line : String)
  /-- A field is missing or cannot be read; the statement is typed like
  this. -/
  | malformed (usage : String)
  deriving DecidableEq, Repr

namespace StatementError

def message : StatementError → String
  | unrecognized line => s!"unrecognized keyword at start of '{line}'"
  | malformed usage => s!"syntax error, usage: {usage}"

end StatementError

namespace Statement

/-- The largest section that a process may be started with, in pages. -/
def maxSectionPages : Nat := 4096

/-- The largest number of bytes that may be shown or filled at once. -/
def maxTransferBytes : Nat := 1048576

/-- Numerals of more than 64 bits are refused. -/
def numeralLimit : Nat := 0x10000000000000000

def wordField (keyword : Keyword) : Option String → Except StatementError String
  | some word => .ok word
  | none => .error (.malformed keyword.usage)

/-- A field that holds a number. -/
def numberField (keyword : Keyword) (word? : Option String) : Except StatementError Nat :=
  match word?.bind Text.numeralValue? with
  | some number =>
    if number < numeralLimit then .ok number else .error (.malformed keyword.usage)
  | none => .error (.malformed keyword.usage)

def boundedField (keyword : Keyword) (most : Nat) (word? : Option String) :
    Except StatementError Nat := do
  let number ← numberField keyword word?
  if number ≤ most then
    return number
  else
    throw (.malformed s!"{keyword.usage} (at most {most})")

/-- A field that holds the number of a process: the lowest 32 bits count. -/
def pidField (keyword : Keyword) (word? : Option String) :
    Except StatementError ProcessId := do
  let number ← numberField keyword word?
  return number.toUInt32

def addressField (keyword : Keyword) (word? : Option String) :
    Except StatementError UInt64 := do
  let number ← numberField keyword word?
  return number.toUInt64

def byteField (keyword : Keyword) (word? : Option String) :
    Except StatementError UInt8 := do
  let number ← numberField keyword word?
  if number < 256 then
    return number.toUInt8
  else
    throw (.malformed keyword.usage)

/-- The statement that starts with a keyword, from the words after it.  Words
beyond the last field are ignored, except that a new process takes them as its
arguments. -/
def ofFields (keyword : Keyword) (fields : List String) : Except StatementError Statement :=
  match keyword with
  | .exec => do
    let name ← wordField .exec fields[0]?
    let codePages ← boundedField .exec maxSectionPages fields[1]?
    let dataPages ← boundedField .exec maxSectionPages fields[2]?
    return exec name codePages dataPages (fields.drop 3)
  | .read => do
    let pid ← pidField .read fields[0]?
    let address ← addressField .read fields[1]?
    let length ← boundedField .read maxTransferBytes fields[2]?
    return read pid address length
  | .write => do
    let pid ← pidField .write fields[0]?
    let address ← addressField .write fields[1]?
    let byte ← byteField .write fields[2]?
    let length ← boundedField .write maxTransferBytes fields[3]?
    return write pid address byte length
  | .exit => do
    let pid ← pidField .exit fields[0]?
    return exit pid

def ofLine (line : String) : Except StatementError Statement :=
  match Text.words line with
  | [] => .error (.unrecognized line)
  | first :: fields =>
    match Keyword.ofWord? first with
    | some keyword => ofFields keyword fields
    | none => .error (.unrecognized line)

end Statement

end DemandPaging
