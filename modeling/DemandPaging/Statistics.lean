/-!
# Statistics

Counters that move while pages come and go, for reporting only.  They are moved
apart from the event log, whether or not that is enabled.
-/

namespace DemandPaging

structure Statistics where
  pageFaults : Nat := 0
  evictions : Nat := 0
  swapReads : Nat := 0
  swapWrites : Nat := 0
  swapSkippedClean : Nat := 0
  sectionLoads : Nat := 0
  zeroFills : Nat := 0
  deriving DecidableEq, Repr

inductive Counter where
  | pageFault
  | eviction
  | swapRead
  | swapWrite
  | swapSkippedClean
  | sectionLoad
  | zeroFill
  deriving DecidableEq, Repr

namespace Statistics

def bump (statistics : Statistics) : Counter → Statistics
  | .pageFault => { statistics with pageFaults := statistics.pageFaults + 1 }
  | .eviction => { statistics with evictions := statistics.evictions + 1 }
  | .swapRead => { statistics with swapReads := statistics.swapReads + 1 }
  | .swapWrite => { statistics with swapWrites := statistics.swapWrites + 1 }
  | .swapSkippedClean =>
    { statistics with swapSkippedClean := statistics.swapSkippedClean + 1 }
  | .sectionLoad => { statistics with sectionLoads := statistics.sectionLoads + 1 }
  | .zeroFill => { statistics with zeroFills := statistics.zeroFills + 1 }

/-- All counters, one a line. -/
def text (statistics : Statistics) : String :=
  "\n".intercalate [
    s!"page faults:        {statistics.pageFaults}",
    s!"evictions:          {statistics.evictions}",
    s!"swap reads:         {statistics.swapReads}",
    s!"swap writes:        {statistics.swapWrites}",
    s!"swap skipped clean: {statistics.swapSkippedClean}",
    s!"section loads:      {statistics.sectionLoads}",
    s!"zero fills:         {statistics.zeroFills}"]

end Statistics

end DemandPaging
