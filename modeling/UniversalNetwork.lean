import UniversalNetwork.Bitstream
import UniversalNetwork.Bitstream.Bounds
import UniversalNetwork.Bitstream.Builds
import UniversalNetwork.Bitstream.Codec
import UniversalNetwork.Bitstream.Deciding
import UniversalNetwork.Bitstream.Fields
import UniversalNetwork.Bitstream.Float
import UniversalNetwork.Bitstream.Locality
import UniversalNetwork.Bitstream.Strings
import UniversalNetwork.Bitstream.Words
import UniversalNetwork.Bitstream.Writes
import UniversalNetwork.Datagram
import UniversalNetwork.Datagram.Deciding
import UniversalNetwork.Datagram.Leftover
import UniversalNetwork.Datagram.Received
import UniversalNetwork.Datagram.Stun
import UniversalNetwork.Hashtable
import UniversalNetwork.Hashtable.Iteration
import UniversalNetwork.Lib.CArray
import UniversalNetwork.Lib.Chain
import UniversalNetwork.Lib.Machine
import UniversalNetwork.Lib.Ring
import UniversalNetwork.Lib.Segment
import UniversalNetwork.List
import UniversalNetwork.List.ErrorPaths
import UniversalNetwork.List.Refinement
import UniversalNetwork.NetAddr
import UniversalNetwork.NetSocket
import UniversalNetwork.NetSocket.Memory
import UniversalNetwork.NetSocket.Ownership
import UniversalNetwork.NetSocket.Payload
import UniversalNetwork.NetSocket.Pipeline
import UniversalNetwork.NetSocket.Reading
import UniversalNetwork.Pool
import UniversalNetwork.Pool.Correct
import UniversalNetwork.Pool.Memory
import UniversalNetwork.Protocol
import UniversalNetwork.Queue
import UniversalNetwork.Queue.Refinement
import UniversalNetwork.Stream
import UniversalNetwork.StreamConfiguration
import UniversalNetwork.StreamConfiguration.Accepted
import UniversalNetwork.StreamConfiguration.Acknowledged
import UniversalNetwork.StreamConfiguration.Contents
import UniversalNetwork.StreamConfiguration.Delivered
import UniversalNetwork.StreamConfiguration.Honest
import UniversalNetwork.StreamConfiguration.Moves
import UniversalNetwork.StreamConfiguration.Network
import UniversalNetwork.StreamConfiguration.Ownership
import UniversalNetwork.StreamConfiguration.Pace
import UniversalNetwork.StreamConfiguration.Reports
import UniversalNetwork.StreamConfiguration.Safety
import UniversalNetwork.StreamConfiguration.Streams
import UniversalNetwork.StreamConfiguration.Table
import UniversalNetwork.StreamConfiguration.Timeouts
import UniversalNetwork.StreamFlow
import UniversalNetwork.StreamFlow.Modes
import UniversalNetwork.StreamProtocol
import UniversalNetwork.StreamProtocol.RoundTrip
import UniversalNetwork.StreamReliability
import UniversalNetwork.StreamReliability.AckSlots
import UniversalNetwork.StreamReliability.Ages
import UniversalNetwork.StreamReliability.Ledger
import UniversalNetwork.StreamReliability.NoFalseAck
import UniversalNetwork.StreamReliability.Receiver
import UniversalNetwork.StreamReliability.Recency
import UniversalNetwork.StreamReliability.RingInvariant
import UniversalNetwork.StreamReliability.SentWindow
import UniversalNetwork.StreamReliability.Statistics
import UniversalNetwork.StreamReliability.Updates
import UniversalNetwork.Stun
import UniversalNetwork.Stun.Behavior
import UniversalNetwork.Stun.BindingSuccess
import UniversalNetwork.Stun.Demultiplexing
import UniversalNetwork.Stun.Filtering
import UniversalNetwork.Stun.Handback
import UniversalNetwork.Stun.Moves
import UniversalNetwork.Stun.Ownership
import UniversalNetwork.Stun.Progress
import UniversalNetwork.Stun.Results
import UniversalNetwork.Stun.Safety
import UniversalNetwork.Stun.Sequence
import UniversalNetwork.Stun.Sharing
import UniversalNetwork.Stun.Stage
import UniversalNetwork.Stun.Timeouts
import UniversalNetwork.StunProtocol
import UniversalNetwork.StunProtocol.Attributes
import UniversalNetwork.StunProtocol.Body
import UniversalNetwork.StunProtocol.ErrorCode
import UniversalNetwork.StunProtocol.Faults
import UniversalNetwork.StunProtocol.Framing
import UniversalNetwork.StunProtocol.Header
import UniversalNetwork.StunProtocol.Message
import UniversalNetwork.Timeout
import UniversalNetwork.Timeout.Ownership
import UniversalNetwork.Transaction
import UniversalNetwork.Transaction.Agreement
import UniversalNetwork.Transaction.Conforming
import UniversalNetwork.Transaction.Contents
import UniversalNetwork.Transaction.Delivery
import UniversalNetwork.Transaction.Exchange
import UniversalNetwork.Transaction.Exhausted
import UniversalNetwork.Transaction.Ids
import UniversalNetwork.Transaction.Lifecycle
import UniversalNetwork.Transaction.Moves
import UniversalNetwork.Transaction.Ownership
import UniversalNetwork.Transaction.Payload
import UniversalNetwork.Transaction.Progress
import UniversalNetwork.Transaction.Receipts
import UniversalNetwork.Transaction.RemoveAll
import UniversalNetwork.Transaction.Safety
import UniversalNetwork.TransactionProtocol
import UniversalNetwork.TransactionProtocol.Attributes
import UniversalNetwork.TransactionProtocol.Faults
import UniversalNetwork.TransactionProtocol.Inside
import UniversalNetwork.TransactionProtocol.Malformed
import UniversalNetwork.TransactionProtocol.RoundTrip
import UniversalNetwork.TransactionProtocol.Truncation
