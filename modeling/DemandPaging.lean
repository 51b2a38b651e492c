import DemandPaging.CommandLine
import DemandPaging.Main
import DemandPaging.Proofs.DirtyBits
import DemandPaging.Proofs.Interleaving
import DemandPaging.Proofs.SlotBalance
import DemandPaging.Proofs.SwapRequests
import DemandPaging.Proofs.ShortenedFile
import DemandPaging.Proofs.SlotAccounting
import DemandPaging.Proofs.PageMap
import DemandPaging.Proofs.FaultSuccess
import DemandPaging.Proofs.TransferLimits
import DemandPaging.Proofs.BlankFaults
import DemandPaging.Proofs.BlankRuns
import DemandPaging.Proofs.Noninterference
import DemandPaging.Proofs.ManagerCalls
import DemandPaging.Proofs.SwapBound
import DemandPaging.Proofs.EventStory
import DemandPaging.Proofs.Sessions
import DemandPaging.Proofs.FaultOutcome
import DemandPaging.Proofs.SpaceDeparture
import DemandPaging.Proofs.EagerCreation
import DemandPaging.Proofs.VictimSelection
import DemandPaging.Proofs.ClockTurns
import DemandPaging.Proofs.FreeFrames
import DemandPaging.Proofs.ReadArguments
import DemandPaging.Proofs.Numerals
import DemandPaging.Proofs.ProgramPages
import DemandPaging.Proofs.StatementFields
import DemandPaging.Proofs.StatementLines
import DemandPaging.Proofs.ArgumentLayout
import DemandPaging.Proofs.ArgumentLoading
import DemandPaging.Proofs.MemoryViews
import DemandPaging.Proofs.PinLeases
import DemandPaging.Proofs.BlockLists
import DemandPaging.Proofs.SeparateStores
import DemandPaging.Proofs.UsedMarks
import DemandPaging.Proofs.AccessFaults
