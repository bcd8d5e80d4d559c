import SysrepoInterfaces.Lib.CProg
import SysrepoInterfaces.Lib.Keyed
import SysrepoInterfaces.Lib.Requests
import SysrepoInterfaces.Lib.Counted
import SysrepoInterfaces.Lib.DataTree
import SysrepoInterfaces.Api
import SysrepoInterfaces.Routing.Types
import SysrepoInterfaces.Routing.Env
import SysrepoInterfaces.Routing.Common
import SysrepoInterfaces.Routing.Change
import SysrepoInterfaces.Routing.RouteHash
import SysrepoInterfaces.Routing.Datastore
import SysrepoInterfaces.Routing.Batches
import SysrepoInterfaces.Routing.Attribution
import SysrepoInterfaces.Routing.Apply
import SysrepoInterfaces.Routing.Refinement
import SysrepoInterfaces.Routing.Nexthops
import SysrepoInterfaces.Routing.Collect
import SysrepoInterfaces.Routing.Operational
import SysrepoInterfaces.Routing.Startup
import SysrepoInterfaces.Routing.ExportCalls
import SysrepoInterfaces.Routing.OperStatus
import SysrepoInterfaces.Routing.StartupStatus
import SysrepoInterfaces.Interfaces.Types
import SysrepoInterfaces.Interfaces.HashTree
import SysrepoInterfaces.Interfaces.RoundTrip
import SysrepoInterfaces.Interfaces.EntryByEntry
import SysrepoInterfaces.Interfaces.Netmask
import SysrepoInterfaces.Interfaces.Kernel
import SysrepoInterfaces.Interfaces.Env
import SysrepoInterfaces.Interfaces.Change
import SysrepoInterfaces.Interfaces.Quiet
import SysrepoInterfaces.Interfaces.Refused
import SysrepoInterfaces.Interfaces.Outcome
import SysrepoInterfaces.Interfaces.Deletion
import SysrepoInterfaces.Interfaces.Schema
import SysrepoInterfaces.Interfaces.Accepted
import SysrepoInterfaces.Interfaces.AcceptedEvent
import SysrepoInterfaces.Lib.LastChange
import SysrepoInterfaces.Interfaces.StateTracker
import SysrepoInterfaces.Lib.Mutex
import SysrepoInterfaces.Interfaces.StateMutex
import SysrepoInterfaces.Lib.Chain
import SysrepoInterfaces.Interfaces.Operational
import SysrepoInterfaces.Interfaces.Layers
import SysrepoInterfaces.Interfaces.AddressOrigin
import SysrepoInterfaces.Routing.Persist
import SysrepoInterfaces.Routing.Deletable
import SysrepoInterfaces.Lib.Trace
import SysrepoInterfaces.Routing.PrefixText
import SysrepoInterfaces.Interfaces.Load
import SysrepoInterfaces.Interfaces.LoadComplete
import SysrepoInterfaces.Interfaces.AddressConfig
import SysrepoInterfaces.Interfaces.AddressSync
import SysrepoInterfaces.Interfaces.AddressRun
import SysrepoInterfaces.Lib.Ones
import SysrepoInterfaces.Lib.Scan
import SysrepoInterfaces.Routing.Active
import SysrepoInterfaces.Routing.CallLog
import SysrepoInterfaces.Routing.RibKeys
import SysrepoInterfaces.Routing.Clone
import SysrepoInterfaces.Interfaces.Statistics
import SysrepoInterfaces.Interfaces.Store
import SysrepoInterfaces.Interfaces.StoreItems
import SysrepoInterfaces.Interfaces.Mtu
import SysrepoInterfaces.Lib.Rounds
import SysrepoInterfaces.Interfaces.Entered
import SysrepoInterfaces.Interfaces.Steps
import SysrepoInterfaces.Interfaces.NestedLookup
import SysrepoInterfaces.Routing.RibLabels
import SysrepoInterfaces.Lib.Delivery
import SysrepoInterfaces.Routing.BatchSent
import SysrepoInterfaces.Interfaces.SubnetUnion
import SysrepoInterfaces.Lib.Paired
import SysrepoInterfaces.Routing.StartupMirror
import SysrepoInterfaces.Lib.Linked
import SysrepoInterfaces.Routing.HashMemory
import SysrepoInterfaces.Lib.Calendar
import SysrepoInterfaces.Interfaces.ReportedTime
import SysrepoInterfaces.Lib.Heap
import SysrepoInterfaces.Routing.RouteHeap
import SysrepoInterfaces.Routing.RouteOwnership
import SysrepoInterfaces.Routing.CollectHeap
import SysrepoInterfaces.Routing.CollectLeaks
import SysrepoInterfaces.Routing.RequestLeaks
import SysrepoInterfaces.Routing.Transactions
import SysrepoInterfaces.Routing.Stored
import SysrepoInterfaces.Routing.Reboot
import SysrepoInterfaces.Interfaces.Neighbors
import SysrepoInterfaces.Lib.Mirror
import SysrepoInterfaces.Interfaces.Entries
import SysrepoInterfaces.Interfaces.EntrySync
import SysrepoInterfaces.Interfaces.EntryRun
import SysrepoInterfaces.Lib.Plans
import SysrepoInterfaces.Interfaces.Planned
import SysrepoInterfaces.Routing.Overlaid
import SysrepoInterfaces.Routing.ClonePreserved
