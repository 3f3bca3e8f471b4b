import MediaProxy.Amp.Code
import MediaProxy.Amp.Packet
import MediaProxy.Amp.Request
import MediaProxy.CommandLine.Arguments
import MediaProxy.CommandLine.Program
import MediaProxy.Completion.Board
import MediaProxy.Completion.Latch
import MediaProxy.Completion.Observers
import MediaProxy.Control.Canned
import MediaProxy.Control.Load
import MediaProxy.Control.Server
import MediaProxy.Domain.Class
import MediaProxy.Domain.Composition
import MediaProxy.Domain.Mapping
import MediaProxy.Domain.MappingTable
import MediaProxy.Domain.Name
import MediaProxy.Domain.Punycode
import MediaProxy.Domain.Span
import MediaProxy.Fault
import MediaProxy.Gate.Basic
import MediaProxy.Gate.Callers
import MediaProxy.Header
import MediaProxy.Main
import MediaProxy.Meter
import MediaProxy.Net.Address
import MediaProxy.Net.Host
import MediaProxy.Net.HostPort
import MediaProxy.Net.Resolve
import MediaProxy.Proxy.Backend
import MediaProxy.Proxy.Basic
import MediaProxy.Proxy.Basis
import MediaProxy.Proxy.MediaServer
import MediaProxy.Proxy.Server
import MediaProxy.Proxy.Session
import MediaProxy.Proxy.Settings
import MediaProxy.Registry.Basic
import MediaProxy.Registry.Rehearsal
import MediaProxy.Registry.Stop
import MediaProxy.Relay.Basic
import MediaProxy.Relay.Forward
import MediaProxy.Relay.Pair
import MediaProxy.Rtsp.Client
import MediaProxy.Rtsp.Observed
import MediaProxy.Rtsp.Peer
import MediaProxy.Rtsp.Request
import MediaProxy.Rtsp.Response
import MediaProxy.Rtsp.Stream
import MediaProxy.Rtsp.Transcript
import MediaProxy.Rtsp.Transport
import MediaProxy.Text.Basic
import MediaProxy.Text.Blank
import MediaProxy.Text.Lines
import MediaProxy.Text.Numeral
import MediaProxy.Text.Tenths
import MediaProxy.Text.Utf8
import MediaProxy.Url.Basic
import MediaProxy.Url.Escape
import MediaProxy.Url.Host
import MediaProxy.Url.Media
import MediaProxy.Url.Parse
import MediaProxy.Proofs.Text.Encoding
import MediaProxy.Proofs.Text.Cutting
import MediaProxy.Proofs.Text.Trimming
import MediaProxy.Proofs.Text.Lines
import MediaProxy.Proofs.Completion.Notices
import MediaProxy.Proofs.Registry.Watching
import MediaProxy.Proofs.Registry.Registering
import MediaProxy.Proofs.Net.Resolving
import MediaProxy.Proofs.Proxy.Clients
import MediaProxy.Proofs.Proxy.Ports
import MediaProxy.Proofs.Proxy.Sockets
import MediaProxy.Proofs.Registry.Recording
import MediaProxy.Proofs.Registry.Stagehands
import MediaProxy.Proofs.Registry.Traffic
import MediaProxy.Proofs.Gate.Agreement
import MediaProxy.Proofs.Proxy.Refusals
import MediaProxy.Proofs.Registry.Roster
import MediaProxy.Proofs.Registry.Succession
import MediaProxy.Proofs.Header
import MediaProxy.Proofs.Amp.Wire
import MediaProxy.Proofs.Rtsp.Framing
import MediaProxy.Proofs.Rtsp.Listening
import MediaProxy.Proofs.Url.Escape
import MediaProxy.Proofs.Url.Segments
import MediaProxy.Proofs.Url.Appending
import MediaProxy.Proofs.Proxy.Confinement
import MediaProxy.Proofs.Control.Replying
import MediaProxy.Proofs.Amp.Beginnings
import MediaProxy.Proofs.Proxy.Serving
import MediaProxy.Proofs.Rtsp.Arriving
import MediaProxy.Proofs.Rtsp.Opening
import MediaProxy.Proofs.Runs
import MediaProxy.Proofs.Completion.Telling
import MediaProxy.Proofs.Relay.Workers
import MediaProxy.Proofs.Relay.Settling
import MediaProxy.Proofs.Relay.Lifetime
import MediaProxy.Proofs.Relay.Forwarding
import MediaProxy.Proofs.Rtsp.Playing
import MediaProxy.Proofs.Relay.Neighbours
import MediaProxy.Proofs.Completion.Boards
import MediaProxy.Proofs.Completion.Counting
import MediaProxy.Proofs.Completion.Delivering
import MediaProxy.Proofs.Proxy.Moments
import MediaProxy.Proofs.Proxy.Unfolding
import MediaProxy.Proofs.Proxy.Keeping
import MediaProxy.Proofs.Proxy.Annals
import MediaProxy.Proofs.Text.Letters
import MediaProxy.Proofs.Amp.Dressing
import MediaProxy.Proofs.Net.Groups
import MediaProxy.Proofs.Url.Rereading
import MediaProxy.Proofs.Proxy.Addressing
import MediaProxy.Proofs.Proxy.Endings
import MediaProxy.Proofs.Proxy.Launching
import MediaProxy.Proofs.Proxy.Undisturbed
import MediaProxy.Proofs.Proxy.Reordering
import MediaProxy.Proofs.Proxy.Course
import MediaProxy.Proofs.Proxy.Routing
import MediaProxy.Proofs.Relay.Searching
import MediaProxy.Proofs.Proxy.Naming
import MediaProxy.Proofs.Control.Appointing
import MediaProxy.Proofs.Control.Metering
import MediaProxy.Proofs.Text.Numerals
import MediaProxy.Proofs.Proxy.Spelling
import MediaProxy.Proofs.Amp.Spacing
import MediaProxy.Proofs.Rtsp.Parameters
import MediaProxy.Proofs.Rtsp.Advancing
