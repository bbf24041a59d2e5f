import NcsiResponder.Lib.BigEndian
import NcsiResponder.Lib.BitFields
import NcsiResponder.Lib.BoundedWait
import NcsiResponder.Lib.Groups
import NcsiResponder.Lib.Lockstep
import NcsiResponder.Lib.Observation
import NcsiResponder.Lib.OnePlace
import NcsiResponder.Lib.Runs
import NcsiResponder.Types
import NcsiResponder.ChecksumField
import NcsiResponder.Ethernet
import NcsiResponder.Network
import NcsiResponder.Machine
import NcsiResponder.Responses
import NcsiResponder.Handlers
import NcsiResponder.Dispatch
import NcsiResponder.Commands
import NcsiResponder.Execution
import NcsiResponder.EntryPoints
import NcsiResponder.System
import NcsiResponder.WordSwap
import NcsiResponder.Unregistered
import NcsiResponder.Mailbox
import NcsiResponder.Frames
import NcsiResponder.History
import NcsiResponder.Settings
import NcsiResponder.Answers
import NcsiResponder.Refusals
import NcsiResponder.Bus
import NcsiResponder.Storm
import NcsiResponder.Isolation
import NcsiResponder.LinkReport
import NcsiResponder.Checksums
import NcsiResponder.InitialState
import NcsiResponder.PassThrough
import NcsiResponder.Reset
import NcsiResponder.Retries
import NcsiResponder.LastWriter
import NcsiResponder.Counters
import NcsiResponder.Tracking
import NcsiResponder.FilterTables
import NcsiResponder.MacSlots
import NcsiResponder.Bounds
import NcsiResponder.Upstream
import NcsiResponder.Transmit
import NcsiResponder.Handoff
import NcsiResponder.Provision
import NcsiResponder.Observables
import NcsiResponder.UpstreamEngine
import NcsiResponder.UpstreamPackets
import NcsiResponder.Behaviour
import NcsiResponder.UpstreamExecution
import NcsiResponder.PortDecision
import NcsiResponder.PortDiff
