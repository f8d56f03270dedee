import ProcessBridge.Library.Bytes
import ProcessBridge.Library.MemoryMap
import ProcessBridge.Library.MemoryLookup
import ProcessBridge.Library.Minimum
import ProcessBridge.Library.Numerals
import ProcessBridge.Library.Outcome
import ProcessBridge.Library.Parallel
import ProcessBridge.Library.Program
import ProcessBridge.Library.Protocol
import ProcessBridge.Library.SegmentDescriptor
import ProcessBridge.Utilities.Log
import ProcessBridge.Common.ProcessState
import ProcessBridge.Common.MapsEntry
import ProcessBridge.Loader.Unicorn
import ProcessBridge.Loader.GdtUtils
import ProcessBridge.Loader.DescriptorLayout
import ProcessBridge.Loader.RegWrites
import ProcessBridge.Loader.X8664.CpuStateDump
import ProcessBridge.Loader.I386.CpuStateDump
import ProcessBridge.Loader.I386.GdtTable
import ProcessBridge.Loader.CpuStateDump
import ProcessBridge.Loader.Dump
import ProcessBridge.Loader.Restore
import ProcessBridge.Python.QilingSupport
import ProcessBridge.Snapshotter.Kernel
import ProcessBridge.Snapshotter.KernelProperties
import ProcessBridge.Snapshotter.Tracee
import ProcessBridge.Snapshotter.Breakpoint
import ProcessBridge.Snapshotter.BreakpointProperties
import ProcessBridge.Snapshotter.BreakpointRuns
import ProcessBridge.Snapshotter.BreakpointWrites
import ProcessBridge.Snapshotter.Transparency
import ProcessBridge.Snapshotter.StepPast
import ProcessBridge.Snapshotter.MapsParser
import ProcessBridge.Snapshotter.HexScan
import ProcessBridge.Snapshotter.SnapshotDump
import ProcessBridge.Snapshotter.SnapshotDumpProperties
import ProcessBridge.Snapshotter.MapsRendering
import ProcessBridge.Snapshotter.MappingsContent
import ProcessBridge.Snapshotter.PathResidue
import ProcessBridge.Snapshotter.Snapshot
import ProcessBridge.Snapshotter.SnapshotRuns
import ProcessBridge.Snapshotter.ProcessInfo
import ProcessBridge.Snapshotter.ProcessInfoProperties
import ProcessBridge.Snapshotter.ImageBase
import ProcessBridge.Snapshotter.Main
import ProcessBridge.Snapshotter.MainProperties
import ProcessBridge.Snapshotter.Discipline
import ProcessBridge.Snapshotter.CallOrder
import ProcessBridge.Snapshotter.MainRuns
import ProcessBridge.Snapshotter.Intrusion
import ProcessBridge.Snapshotter.Uninitialised
import ProcessBridge.Snapshotter.Interrupted
import ProcessBridge.Snapshotter.Arrival
import ProcessBridge.Snapshotter.Progress
import ProcessBridge.Snapshotter.OffsetArgument
import ProcessBridge.Snapshot.RoundTrip
import ProcessBridge.Snapshot.Truncation
import ProcessBridge.Snapshot.CrossMode
import ProcessBridge.Snapshot.TlsRoundTrip
import ProcessBridge.Snapshot.Bridge
import ProcessBridge.Snapshot.Fragments
import ProcessBridge.Snapshot.Transfer
