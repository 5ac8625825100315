import CaptureFlow.Address.Ip
import CaptureFlow.Address.Ipv4
import CaptureFlow.Address.Ipv6
import CaptureFlow.Address.Octets
import CaptureFlow.Bytes
import CaptureFlow.Capture.Decoding
import CaptureFlow.Capture.Metadata
import CaptureFlow.Capture.Queue
import CaptureFlow.Capture.Source
import CaptureFlow.Command.Arguments
import CaptureFlow.Command.Directory
import CaptureFlow.Command.Options
import CaptureFlow.Command.Reports
import CaptureFlow.Command.Run
import CaptureFlow.Decoder
import CaptureFlow.Error
import CaptureFlow.Flow.Fault
import CaptureFlow.Flow.Member
import CaptureFlow.Flow.Pair
import CaptureFlow.Gzip.Bits
import CaptureFlow.Gzip.Checksum
import CaptureFlow.Gzip.Huffman
import CaptureFlow.Gzip.Inflate
import CaptureFlow.Gzip.Member
import CaptureFlow.Gzip.Window
import CaptureFlow.Header
import CaptureFlow.Header.Cooked
import CaptureFlow.Header.Ethernet
import CaptureFlow.Header.Fault
import CaptureFlow.Header.Ipv4
import CaptureFlow.Header.Ipv6
import CaptureFlow.Header.Tcp
import CaptureFlow.Header.Udp
import CaptureFlow.Http.Exchange
import CaptureFlow.Http.Header
import CaptureFlow.Http.Sniff
import CaptureFlow.IpFlow
import CaptureFlow.Json.Codec
import CaptureFlow.Json.Failure
import CaptureFlow.Json.Scan
import CaptureFlow.Json.Value
import CaptureFlow.Listing
import CaptureFlow.Main
import CaptureFlow.Packet
import CaptureFlow.Report
import CaptureFlow.Savefile.Block
import CaptureFlow.Savefile.File
import CaptureFlow.Savefile.Format
import CaptureFlow.Savefile.Reader
import CaptureFlow.Savefile.Record
import CaptureFlow.Savefile.Window
import CaptureFlow.Stream
import CaptureFlow.Stream.Fault
import CaptureFlow.Table
import CaptureFlow.TcpFlow
import CaptureFlow.TcpFlow.Dump
import CaptureFlow.TcpFlow.Health
import CaptureFlow.TcpFlow.Progress
import CaptureFlow.TcpFlow.Rate
import CaptureFlow.Text.Blank
import CaptureFlow.Text.Extending
import CaptureFlow.Text.Inkless
import CaptureFlow.Text.Numeral
import CaptureFlow.Text.Quoted
import CaptureFlow.Text.Ranges
import CaptureFlow.Text.Shortest
import CaptureFlow.Text.Unassigned
import CaptureFlow.Text.Utf8
import CaptureFlow.Time.Calendar
import CaptureFlow.Time.Instant
import CaptureFlow.Time.Timestamp
import CaptureFlow.Trace
import CaptureFlow.Trace.Archive
import CaptureFlow.Trace.Codec
import CaptureFlow.Proofs.Address.Ipv4
import CaptureFlow.Proofs.Address.Ipv6
import CaptureFlow.Proofs.Table
import CaptureFlow.Proofs.Capture.Decoding
import CaptureFlow.Proofs.Decoder.Framing
import CaptureFlow.Proofs.Savefile.Refusals
import CaptureFlow.Proofs.Savefile.Interfaces
import CaptureFlow.Proofs.Flow.Pair
import CaptureFlow.Proofs.TcpFlow.Building
import CaptureFlow.Proofs.TcpFlow.Grouping
import CaptureFlow.Proofs.TcpFlow.Channel
import CaptureFlow.Proofs.TcpFlow.Losses
import CaptureFlow.Proofs.TcpFlow.Accounting
import CaptureFlow.Proofs.Json.Render
import CaptureFlow.Proofs.Json.Scan
import CaptureFlow.Proofs.Json.Codec
import CaptureFlow.Proofs.Json.Record
import CaptureFlow.Proofs.Trace.Codec
import CaptureFlow.Proofs.Gzip.Delivery
import CaptureFlow.Proofs.Gzip.Store
import CaptureFlow.Proofs.Trace.Archive
import CaptureFlow.Proofs.Header.Front
import CaptureFlow.Proofs.Decoder.Stack
import CaptureFlow.Proofs.Http.Sniff
import CaptureFlow.Proofs.Decoder.Bounds
import CaptureFlow.Proofs.Decoder.Truncation
import CaptureFlow.Proofs.Capture.Pieces
import CaptureFlow.Proofs.Savefile.RoundTrip
import CaptureFlow.Proofs.Savefile.Ending
import CaptureFlow.Proofs.Flow.Totals
import CaptureFlow.Proofs.Gathering
import CaptureFlow.Proofs.IpFlow
import CaptureFlow.Proofs.TcpFlow.Calls
import CaptureFlow.Proofs.Flow.Order
import CaptureFlow.Proofs.Time.Calendar
import CaptureFlow.Proofs.Time.Instant
import CaptureFlow.Proofs.Command.Routes
import CaptureFlow.Proofs.Http.Exchange
import CaptureFlow.Proofs.Savefile.Fronts
import CaptureFlow.Proofs.Savefile.Sight
import CaptureFlow.Proofs.Capture.Alike
import CaptureFlow.Proofs.Savefile.Alike
import CaptureFlow.Proofs.Savefile.Compressed
import CaptureFlow.Proofs.Gzip.Reach
import CaptureFlow.Proofs.Savefile.Clocks
import CaptureFlow.Proofs.Savefile.SimplePackets
import CaptureFlow.Proofs.TcpFlow.Clean
import CaptureFlow.Proofs.TcpFlow.Attribution
import CaptureFlow.Proofs.TcpFlow.Mirror
import CaptureFlow.Proofs.Savefile.Rounds
import CaptureFlow.Proofs.TcpFlow.Lossless
import CaptureFlow.Proofs.TcpFlow.Dumping
import CaptureFlow.Proofs.TcpFlow.Chain
import CaptureFlow.Proofs.TcpFlow.Rates
import CaptureFlow.Proofs.TcpFlow.Progress
import CaptureFlow.Proofs.TcpFlow.Capacity
import CaptureFlow.Proofs.Flow.Elapsed
import CaptureFlow.Proofs.Http.Hint
import CaptureFlow.Proofs.Http.Flow
import CaptureFlow.Proofs.Decoder.Datagram
import CaptureFlow.Proofs.Decoder.Transport
import CaptureFlow.Proofs.Http.Message
import CaptureFlow.Proofs.Packet.Json
import CaptureFlow.Proofs.Packet.Columns
import CaptureFlow.Proofs.Packet.Lines
import CaptureFlow.Proofs.TcpFlow.Windows
import CaptureFlow.Proofs.Capture.Queue
import CaptureFlow.Proofs.Flow.Keys
import CaptureFlow.Proofs.Passes
