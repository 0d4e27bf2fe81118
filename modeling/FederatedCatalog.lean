import FederatedCatalog.Catalog
import FederatedCatalog.Client
import FederatedCatalog.CommandLine
import FederatedCatalog.Domain.Basic
import FederatedCatalog.Domain.Label
import FederatedCatalog.Domain.Mapping
import FederatedCatalog.Domain.MappingTable
import FederatedCatalog.Domain.PropertyTable
import FederatedCatalog.Domain.Punycode
import FederatedCatalog.Failure
import FederatedCatalog.Federation
import FederatedCatalog.FileSystem.Basic
import FederatedCatalog.FileSystem.Tree
import FederatedCatalog.Frame.Codec
import FederatedCatalog.Frame.Sink
import FederatedCatalog.Frame.Source
import FederatedCatalog.Frame.Stream
import FederatedCatalog.IpAddress.Basic
import FederatedCatalog.IpAddress.Parser
import FederatedCatalog.Json.Basic
import FederatedCatalog.Json.Magnitude
import FederatedCatalog.Json.Parser
import FederatedCatalog.Json.Printer
import FederatedCatalog.Main
import FederatedCatalog.Message.Command
import FederatedCatalog.Message.Outbound
import FederatedCatalog.Message.Request
import FederatedCatalog.Message.Status
import FederatedCatalog.Network
import FederatedCatalog.Peer.Basic
import FederatedCatalog.Peer.Directory
import FederatedCatalog.Rejection
import FederatedCatalog.Resource.Basic
import FederatedCatalog.Resource.Encoding
import FederatedCatalog.Resource.Matching
import FederatedCatalog.Server.Admission
import FederatedCatalog.Server.Call
import FederatedCatalog.Server.Connection
import FederatedCatalog.Server.Connector
import FederatedCatalog.Server.Gossip
import FederatedCatalog.Server.GossipSchedule
import FederatedCatalog.Server.Processor
import FederatedCatalog.Server.Receiver
import FederatedCatalog.Settings
import FederatedCatalog.Text.Blank
import FederatedCatalog.Text.Casing
import FederatedCatalog.Text.CasingTable
import FederatedCatalog.Text.ExpansionTable
import FederatedCatalog.Text.Normalization
import FederatedCatalog.Text.NormalizationTable
import FederatedCatalog.Text.RangeTable
import FederatedCatalog.Text.Splitting
import FederatedCatalog.Text.Substring
import FederatedCatalog.Text.Utf8
import FederatedCatalog.Uri.FilePath
import FederatedCatalog.Uri.Host
import FederatedCatalog.Uri.Parser
import FederatedCatalog.Uri.Percent
import FederatedCatalog.Proofs.Json.RoundTrip
import FederatedCatalog.Proofs.Resource.RoundTrip
import FederatedCatalog.Proofs.Message.RoundTrip
import FederatedCatalog.Proofs.Message.Reading
import FederatedCatalog.Proofs.Catalog.Ownership
import FederatedCatalog.Proofs.Server.Run
import FederatedCatalog.Proofs.Server.Ownership
import FederatedCatalog.Proofs.Server.Calls
import FederatedCatalog.Proofs.Server.Listing
import FederatedCatalog.Proofs.Federation.Run
import FederatedCatalog.Proofs.Federation.Relay
import FederatedCatalog.Proofs.Frame.Stream
import FederatedCatalog.Proofs.Frame.Codec
import FederatedCatalog.Proofs.Server.Connection
import FederatedCatalog.Proofs.Server.Transfer
import FederatedCatalog.Proofs.Uri.Authority
import FederatedCatalog.Proofs.Json.Extent
import FederatedCatalog.Proofs.Resource.Extent
import FederatedCatalog.Proofs.Server.Requests
import FederatedCatalog.Proofs.Server.Answers
import FederatedCatalog.Proofs.Server.Provenance
import FederatedCatalog.Proofs.Server.Disclosure
import FederatedCatalog.Proofs.Server.Limits
import FederatedCatalog.Proofs.Server.Effects
import FederatedCatalog.Proofs.Server.Envelope
import FederatedCatalog.Proofs.Catalog.Channels
import FederatedCatalog.Proofs.Server.Simulation
import FederatedCatalog.Proofs.Server.Isolation
import FederatedCatalog.Proofs.Server.Confidentiality
import FederatedCatalog.Proofs.Server.Dispatch
import FederatedCatalog.Proofs.Peer.Extent
import FederatedCatalog.Proofs.Server.Gossip
import FederatedCatalog.Proofs.Server.Admission
import FederatedCatalog.Proofs.Server.Membership
import FederatedCatalog.Proofs.Federation.Acquaintance
import FederatedCatalog.Proofs.Server.Exchange
import FederatedCatalog.Proofs.Resource.Matching
import FederatedCatalog.Proofs.Server.Visibility
import FederatedCatalog.Proofs.Server.Fanout
import FederatedCatalog.Proofs.Server.Rounds
import FederatedCatalog.Proofs.Server.ZeroInterval
import FederatedCatalog.Proofs.Server.Poisoning
import FederatedCatalog.Proofs.Frame.Counters
import FederatedCatalog.Proofs.Catalog.Narrowing
import FederatedCatalog.Proofs.Frame.Row
import FederatedCatalog.Proofs.Client.Collection
import FederatedCatalog.Proofs.Client.Sending
import FederatedCatalog.Proofs.Client.Fetching
import FederatedCatalog.Proofs.Server.Schedule
import FederatedCatalog.Proofs.Peer.Origin
