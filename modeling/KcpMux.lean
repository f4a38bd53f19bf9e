import KcpMux.Lib.BigEndian
import KcpMux.Hashtable
import KcpMux.Types
import KcpMux.Timer.Manager
import KcpMux.Engine.State
import KcpMux.Protocol.Wire
import KcpMux.Engine.Core
import KcpMux.Protocol.Send
import KcpMux.Stream.Kcp
import KcpMux.Conn.Streams
import KcpMux.Stream.Core
import KcpMux.Conn.Core
import KcpMux.Stream.Api
import KcpMux.Protocol.Input
import KcpMux.Engine.Api
import KcpMux.Ikcp.Segment
import KcpMux.Ikcp.Core
import KcpMux.Ikcp.Input
import KcpMux.Ikcp.Update
import KcpMux.Ikcp.Fragments
import KcpMux.Ikcp.Trace
import KcpMux.Ikcp.Calls
import KcpMux.Ikcp.Output
import KcpMux.Lib.Cyclic
import KcpMux.Ikcp.Window
import KcpMux.Ikcp.Runs
import KcpMux.Lib.Arq
import KcpMux.Ikcp.Link
import KcpMux.Lib.Network
import KcpMux.Ikcp.Delivery
import KcpMux.Ikcp.Ops
import KcpMux.Lib.Gather
import KcpMux.Lib.HeapOrder
import KcpMux.Lib.History
import KcpMux.Lib.Serial
import KcpMux.Steps.Trans
import KcpMux.Timer.Frame
import KcpMux.Timer.Heap
import KcpMux.Steps.Forms
import KcpMux.Steps.Own
import KcpMux.Steps.Final
import KcpMux.Steps.Sound
import KcpMux.Steps.Cascade
import KcpMux.Steps.Create
import KcpMux.Steps.Act
import KcpMux.Steps.Grow
import KcpMux.Runs.Timer
import KcpMux.Runs.Kcp
import KcpMux.Runs.Stream
import KcpMux.Runs.Close
import KcpMux.Runs.StreamApi
import KcpMux.Runs.Conn
import KcpMux.Runs.Create
import KcpMux.Runs.Input
import KcpMux.Runs.Calls
import KcpMux.Steps.Count
import KcpMux.Steps.Release
import KcpMux.Runs.Moves
import KcpMux.Runs.Views
import KcpMux.Safety.Wakeup
import KcpMux.Safety.Identifiers
import KcpMux.Safety.StateMachine
import KcpMux.Safety.Duplicate
import KcpMux.Protocol.Message
import KcpMux.Protocol.RoundTrip
import KcpMux.Safety.Routing
import KcpMux.Net.Sent
import KcpMux.Net.Session
import KcpMux.Net.Learned
import KcpMux.Net.Handshake
import KcpMux.Net.Accepts
import KcpMux.Safety.StreamIds
import KcpMux.Safety.PeerStreams
import KcpMux.Net.Provenance
import KcpMux.Net.DefaultKcp
import KcpMux.Runs.Counters
import KcpMux.Runs.Frame
import KcpMux.Runs.Rounds
import KcpMux.Runs.Nodes
import KcpMux.Safety.VectoredSend
import KcpMux.Safety.Backpressure
import KcpMux.Safety.ConnDeadline
import KcpMux.Safety.Dispatch
import KcpMux.Safety.Timers
import KcpMux.Safety.Batching
import KcpMux.Safety.ReadWakeup
import KcpMux.Safety.BlockTimes
import KcpMux.Safety.Termination
import KcpMux.Safety.CloseDiscipline
import KcpMux.Safety.FreshIds
import KcpMux.Safety.Isolation
import KcpMux.Safety.KeepaliveTimeout
import KcpMux.Safety.Ownership
import KcpMux.Safety.Parsing
import KcpMux.Safety.Refusal
import KcpMux.Safety.Work
import KcpMux.Safety.Stranded
import KcpMux.Safety.TimerCapacity
import KcpMux.Timer.Reference
