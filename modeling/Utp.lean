import Utp.Foundation.TaskSystem
import Utp.Foundation.OrderedMap
import Utp.Util.Seq
import Utp.Util.Hostname
import Utp.Buffer.CircularQueue
import Utp.Buffer.BlockingBuffer
import Utp.Buffer.Session
import Utp.Buffer.BlockingMap
import Utp.Wire.Extension
import Utp.Wire.Packet
import Utp.Window.RttTracker
import Utp.Window.SendWindow
import Utp.Conn.State
import Utp.Conn.Send
import Utp.Conn.Close
import Utp.Conn.Receive
import Utp.Conn.Acts
import Utp.Conn.Tasks
import Utp.Conn.System
import Utp.Sender.Tracking
import Utp.Sender.Retention
import Utp.Sender.Forgery
import Utp.Receiver.Pass
import Utp.Receiver.Interference
import Utp.Receiver.Reorder
import Utp.Receiver.Stream
import Utp.Receiver.Reassembly
import Utp.Receiver.Handler
import Utp.Receiver.Delivery
import Utp.Receiver.Spacing
import Utp.Receiver.Repetition
import Utp.Wire.Codec
import Utp.Wire.Grammar
import Utp.Conn.Terminal
import Utp.Receiver.Ending
import Utp.Sender.Ending
import Utp.Foundation.Outcome
import Utp.Sender.Silence
import Utp.Conn.Release
import Utp.Foundation.Total
import Utp.Socket.Dispatch
import Utp.Conn.Effects
import Utp.Socket.Routing
import Utp.Socket.Table
import Utp.Conn.Completion
import Utp.Socket.Robustness
import Utp.Conn.Survival
import Utp.Foundation.Turns
import Utp.Conn.Speech
import Utp.Conn.Stamp
import Utp.Pair.Party
import Utp.Pair.Network
import Utp.Pair.Agreement
import Utp.Wire.Selective
import Utp.Pair.Rejection
import Utp.Socket.Responder
import Utp.Buffer.Backlog
import Utp.Sender.Graceful
import Utp.Receiver.Handover
import Utp.Pair.Streaming
import Utp.Pair.Rounds
import Utp.Pair.FlowControl
import Utp.Pair.Overflow
import Utp.Window.Estimation
import Utp.Sender.Confluence
import Utp.Buffer.Admission
import Utp.Window.Limits
import Utp.Socket.Listener
import Utp.Buffer.BlockingQueue
import Utp.Util.Ipv6
import Utp.Util.Wrapping
import Utp.Conn.Key
import Utp.Buffer.Eviction
import Utp.Foundation.Trace
import Utp.Conn.History
import Utp.Sender.Fragments
import Utp.Sender.BaseDelay
import Utp.Window.Samples
import Utp.Sender.Timing
import Utp.Receiver.Promises
import Utp.Sender.Honest
import Utp.Conn.Reading
import Utp.Sender.Portions
import Utp.Pair.Conversation
import Utp.Receiver.Finish
import Utp.Socket.Endpoint
import Utp.Foundation.Authorship
import Utp.Conn.Writes
import Utp.Socket.Changes
import Utp.Socket.Isolation
import Utp.Socket.Shutdown
import Utp.Window.Outstanding
import Utp.Conn.Draining
import Utp.Socket.Closing
import Utp.Wire.Reencoding
import Utp.Window.Waiting
import Utp.Sender.Progress
import Utp.Pair.Farewell
import Utp.Pair.Handshake
import Utp.Foundation.Intervals
import Utp.Util.TimerManager
import Utp.Util.Statistic
