import DemandPaging.Configuration
import DemandPaging.Statement

/-!
# Command-line options

The options the program is started with: the number of frames, the name of the
swap area, and whether paging events are shown.  Each may be given once, with
its value as the next argument or after an equals sign.
-/

namespace DemandPaging

namespace CommandLine

def optionNumber? (word : String) : Option Nat :=
  (Text.unsignedValue? 10 word.toList).filter (· < Statement.numeralLimit)

/-- The options given so far.  Each may be given only once. -/
structure Options where
  frames? : Option Nat := none
  swapName? : Option String := none
  traceEvents : Bool := false
  deriving DecidableEq, Repr

/-- The options that can be given. -/
inductive OptionName where
  | frames
  | swapFile
  | traceEvents
  deriving DecidableEq, Repr

namespace OptionName

def ofText? (text : String) : Option OptionName :=
  if text = "--frames" then some frames
  else if text = "--swap-file" then some swapFile
  else if text = "--trace-events" then some traceEvents
  else none

end OptionName

namespace Options

/-- Add an option with its value, or without one. -/
def add? (options : Options) : OptionName → Option String → Option Options
  | .frames, some value =>
    if options.frames?.isSome then
      none
    else
      (optionNumber? value).map fun number => { options with frames? := some number }
  | .swapFile, some value =>
    if options.swapName?.isSome then none else some { options with swapName? := some value }
  | .traceEvents, none =>
    if options.traceEvents then none else some { options with traceEvents := true }
  | _, _ => none

/-- Cut an argument at its first equals sign. -/
def splitAtEquals (argument : String) : String × Option String :=
  match argument.toList.span (· ≠ '=') with
  | (name, _ :: value) => (String.ofList name, some (String.ofList value))
  | (_, []) => (argument, none)

/-- Whether a word can follow an option as its value: it must not look like an
option itself. -/
def isValue (word : String) : Bool :=
  word = "-" || !word.startsWith "-"

/-- Add all options of an argument list; none if some argument is no option,
is given twice, or lacks its value. -/
def addAll? (options : Options) : List String → Option Options
  | [] => some options
  | ["--"] => some options
  | argument :: rest => do
    let (name, value?) := splitAtEquals argument
    let option ← OptionName.ofText? name
    match option, value?, rest with
    | .traceEvents, value?, rest =>
      let added ← options.add? option value?
      added.addAll? rest
    | option, some value, rest =>
      let added ← options.add? option (some value)
      added.addAll? rest
    | option, none, value :: rest =>
      if isValue value then
        let added ← options.add? option (some value)
        added.addAll? rest
      else
        none
    | _, none, [] => none

def configuration (options : Options) : Configuration :=
  let defaults : Configuration := {}
  { numFrames := options.frames?.getD defaults.numFrames
    swapName := options.swapName?.getD defaults.swapName
    recordEvents := options.traceEvents }

end Options

end CommandLine

end DemandPaging
