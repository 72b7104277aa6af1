import MattX.GuardedRuns
import MattX.SlotTable
import MattX.WordMask
import MattX.DsmTypes
import MattX.DsmDirectory
import MattX.DsmDirectoryLaws
import MattX.GuestRegistry
import MattX.GuestRegistryFrames
import MattX.GuestHost
import MattX.GuestIsolation
import MattX.DsmCluster
import MattX.DsmSteps
import MattX.DsmMoves
import MattX.DsmEffects
import MattX.DsmDirectoryRecords
import MattX.DsmCopies
import MattX.DsmInclusion
import MattX.GuestResidents
import MattX.DsmSingleWriter
import MattX.DsmFuneral
import MattX.DsmDataBomb
import MattX.DsmNativeTrap
import MattX.DsmSingleStep
import MattX.VfsRpc
import MattX.VfsRpcSlots
import MattX.VfsRpcResults
import MattX.VfsRpcBuffers
import MattX.WormholeCalls
import MattX.WormholeReplies
import MattX.WormholeGang
import MattX.MigrationPump
import MattX.MigrationCapture
import MattX.MigrationWhole
import MattX.MigrationRollback
import MattX.SpanLayout
import MattX.MigrationImage
import MattX.MigrationHandoff
import MattX.MigrationPairing
import MattX.MigrationPhases
import MattX.ProcessWorld
import MattX.ProcessCopies
import MattX.FramingOrder
import MattX.MigrationAwakening
import MattX.WormholeRequests
import MattX.InterceptionHandlers
import MattX.WormholeStops
import MattX.RequestReplies
import MattX.DeputyRequests
import MattX.HandlerBounds
import MattX.HoleCarver
import MattX.BlueprintLayout
import MattX.VfsFilePosition
import MattX.VfsHandles
import MattX.VfsHandleClaims
import MattX.VfsHandleTable
import MattX.VfsHandleAgreement
import MattX.NodeJoin
import MattX.NodeLinks
import MattX.DsmAttachments
import MattX.DsmTranslation
import MattX.DsmTranslationAgreement
import MattX.SlotReuse
import MattX.SlotReuseTrace
import MattX.SlotReuseRuns
import MattX.RecallCalls
import MattX.RecallCallsExact
import MattX.GangReturn
import MattX.DeputyScratchpad
import MattX.WormholeWrites
import MattX.HomePolls
import MattX.WormholePolls
import MattX.WormholeSelects
import MattX.InheritedFiles
import MattX.ThreadIdentity
import MattX.UserBuffers
import MattX.UserBuffersKept
import MattX.RequestBuilders
import MattX.ClockFixups
import MattX.SleepDeadlines
import MattX.DescriptorTables
import MattX.DescriptorRuns
import MattX.ClockFixupRuns
import MattX.MattxfsPaths
import MattX.BalancerDecision
import MattX.MessageVectors
import MattX.DirectoryListing
import MattX.DsmPageIndex
import MattX.DsmPageBounds
import MattX.PageSweeps
import MattX.PageSweepsKept
import MattX.PageHandovers
import MattX.PageHandoversKept
