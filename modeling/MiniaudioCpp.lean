import MiniaudioCpp.Foundation.Machine
import MiniaudioCpp.Foundation.Arena
import MiniaudioCpp.Foundation.Slots
import MiniaudioCpp.Foundation.Lifecycle
import MiniaudioCpp.Foundation.Memory
import MiniaudioCpp.Foundation.Bytes
import MiniaudioCpp.Foundation.Copies
import MiniaudioCpp.Foundation.Repoint
import MiniaudioCpp.Foundation.Words
import MiniaudioCpp.Foundation.Cursor
import MiniaudioCpp.Foundation.Loop
import MiniaudioCpp.Foundation.Mealy
import MiniaudioCpp.Foundation.Threads
import MiniaudioCpp.Foundation.Histories
import MiniaudioCpp.Foundation.Tracking
import MiniaudioCpp.Miniaudio.Api
import MiniaudioCpp.CResource.Heap
import MiniaudioCpp.CResource.Basic
import MiniaudioCpp.CResource.Custody
import MiniaudioCpp.CResource.History
import MiniaudioCpp.CResource.Runs
import MiniaudioCpp.CResource.Throwing
import MiniaudioCpp.Wrappers.Init
import MiniaudioCpp.Wrappers.Settled
import MiniaudioCpp.Wrappers.Typestate
import MiniaudioCpp.Wrappers.FilterCoherence
import MiniaudioCpp.Wrappers.FilterTwins
import MiniaudioCpp.Wrappers.NoEngine
import MiniaudioCpp.Wrappers.SharedLog
import MiniaudioCpp.Routing.Bus
import MiniaudioCpp.Routing.Attachments
import MiniaudioCpp.Routing.BusValues
import MiniaudioCpp.Routing.NodeLog
import MiniaudioCpp.Routing.NodeLifetimes
import MiniaudioCpp.Routing.AttachHistory
import MiniaudioCpp.Routing.Topology
import MiniaudioCpp.Wrappers.Layouts
import MiniaudioCpp.Wrappers.LayoutNotes
import MiniaudioCpp.Wrappers.ReportedLayouts
import MiniaudioCpp.Process.Callback
import MiniaudioCpp.Process.OutputExtent
import MiniaudioCpp.Process.FrameCopy
import MiniaudioCpp.DataSource.Source
import MiniaudioCpp.DataSource.Handle
import MiniaudioCpp.DataSource.FailedInit
import MiniaudioCpp.VFS.Reader
import MiniaudioCpp.VFS.Callbacks
import MiniaudioCpp.VFS.Handles
import MiniaudioCpp.VFS.ReadBound
import MiniaudioCpp.VFS.SeekBeforeStart
import MiniaudioCpp.VFS.OpenModes
import MiniaudioCpp.VFS.Refinement
import MiniaudioCpp.VFS.Threads
import MiniaudioCpp.VFS.Linearizable
import MiniaudioCpp.VFS.ConcurrentFiles
import MiniaudioCpp.VFS.HandleHistories
import MiniaudioCpp.Allocator.Callbacks
import MiniaudioCpp.Allocator.Served
import MiniaudioCpp.Allocator.Accounting
import MiniaudioCpp.Allocator.Capacity
import MiniaudioCpp.Allocator.Threads
import MiniaudioCpp.Allocator.Linearizable
import MiniaudioCpp.Allocator.SharedCounter
import MiniaudioCpp.Build.SplitArgs
import MiniaudioCpp.Build.Kinds
import MiniaudioCpp.Build.Reading
import MiniaudioCpp.Build.Partition
import MiniaudioCpp.Build.Groups
import MiniaudioCpp.Build.Parallel
import MiniaudioCpp.Build.Canonical
import MiniaudioCpp.Build.Main
