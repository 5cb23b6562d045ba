import NodeNet.CatalogMirror
import NodeNet.CatalogPersistence
import NodeNet.Core.BrowseGroups
import NodeNet.Core.Browses
import NodeNet.Core.DeferredOnce
import NodeNet.Core.EngineCommand
import NodeNet.Core.EngineSafety
import NodeNet.Core.ErasedStays
import NodeNet.Core.MirrorLoad
import NodeNet.Core.PointsReadOut
import NodeNet.Core.Relink
import NodeNet.Core.RestoreExact
import NodeNet.Core.RunRestored
import NodeNet.Core.RunState
import NodeNet.Core.SnapshotSound
import NodeNet.Core.UploadBytes
import NodeNet.DirtyLedger
import NodeNet.DirtyTracking
import NodeNet.FlashRanges
import NodeNet.Lib.Ring
import NodeNet.Link.Converges
import NodeNet.Link.Enumerated
import NodeNet.Link.Flight
import NodeNet.Link.Fragments
import NodeNet.Link.FrameParsing
import NodeNet.Link.Generations
import NodeNet.Link.IssuedWrites
import NodeNet.Link.RecordBytes
import NodeNet.Link.SequenceGaps
import NodeNet.Link.SettledWrites
import NodeNet.Link.SplitSteps
import NodeNet.Link.UpdateQueue
import NodeNet.LinkSafety
import NodeNet.LoadAgreement
import NodeNet.LoadAtomicity
import NodeNet.Modbus.Attempts
import NodeNet.Plc.BatchResults
import NodeNet.Plc.CommandsKept
import NodeNet.Plc.PlanFresh
import NodeNet.Plc.PollExact
import NodeNet.Plc.RefusedStart
import NodeNet.Plc.RegisterRoundTrip
import NodeNet.PublishedMap
import NodeNet.Spi.Receives
import NodeNet.Spi.Sends
import NodeNet.Toolchain.BoundVariables
import NodeNet.Upload.Agreement
import NodeNet.Upload.Base64Codec
import NodeNet.Vm.CounterHistory
import NodeNet.Vm.DividerValue
import NodeNet.Vm.EdgeHistory
import NodeNet.Vm.FloatCompare
import NodeNet.Vm.FloatRuns
import NodeNet.Vm.FreshStart
import NodeNet.Vm.IntegerSteps
import NodeNet.Vm.PointAccess
import NodeNet.Vm.TpHistory
import NodeNet.Web.AccessControl
import NodeNet.Wire.Desktop
import NodeNet.Wire.JsonFrames
import NodeNet.Wire.RxIntegrity
import NodeNet.Wire.SentOnce
import NodeNet.Wire.UartFifos
import NodeNet.Wire.UartLoop
