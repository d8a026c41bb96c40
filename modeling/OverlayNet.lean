import OverlayNet.Address.Cidr
import OverlayNet.Address.Ipv4
import OverlayNet.BridgeFilter
import OverlayNet.Command
import OverlayNet.Configuration.Installation
import OverlayNet.Configuration.Network
import OverlayNet.Configuration.Template
import OverlayNet.Decimal.Natural
import OverlayNet.Decimal.Shortest
import OverlayNet.Device.Name
import OverlayNet.Fault
import OverlayNet.Files.Path
import OverlayNet.Files.Tree
import OverlayNet.Host
import OverlayNet.Json.Codec
import OverlayNet.Json.Defect
import OverlayNet.Json.Document
import OverlayNet.Json.Lexeme
import OverlayNet.Json.Numeral
import OverlayNet.Json.Record
import OverlayNet.Json.Text
import OverlayNet.Json.Value
import OverlayNet.Ledger.Allocation
import OverlayNet.Ledger.File
import OverlayNet.Lifecycle
import OverlayNet.Link.DeviceTable
import OverlayNet.Link.Request
import OverlayNet.Link.Simulation
import OverlayNet.Main
import OverlayNet.Masquerade.Acknowledgement
import OverlayNet.Masquerade.Batch
import OverlayNet.Masquerade.Installation
import OverlayNet.Masquerade.Rehearsal
import OverlayNet.Masquerade.Socket
import OverlayNet.Masquerade.Transport
import OverlayNet.Namespace
import OverlayNet.Netlink.Reader
import OverlayNet.Netlink.Writer
import OverlayNet.Operator.Options
import OverlayNet.Operator.Request
import OverlayNet.Operator.Session
import OverlayNet.Os.Cause
import OverlayNet.Os.Errno
import OverlayNet.Proofs.Address.Networks
import OverlayNet.Proofs.Address.PrefixViews
import OverlayNet.Proofs.Address.Spelling
import OverlayNet.Proofs.Address.TextReading
import OverlayNet.Proofs.Configuration.Filling
import OverlayNet.Proofs.Configuration.Installing
import OverlayNet.Proofs.Configuration.Placeholders
import OverlayNet.Proofs.Configuration.ReadByMeaning
import OverlayNet.Proofs.Configuration.RoundTrip
import OverlayNet.Proofs.Configuration.Usable
import OverlayNet.Proofs.Correspondence
import OverlayNet.Proofs.Device.Collisions
import OverlayNet.Proofs.Files.CompanionFiles
import OverlayNet.Proofs.Files.Copying
import OverlayNet.Proofs.Files.MadeDirectories
import OverlayNet.Proofs.Files.WritableLocations
import OverlayNet.Proofs.Json.CodecLaws
import OverlayNet.Proofs.Json.NullMembers
import OverlayNet.Proofs.Json.ObjectMeaning
import OverlayNet.Proofs.Json.SpelledDocuments
import OverlayNet.Proofs.Json.TokenSpelling
import OverlayNet.Proofs.Json.WrittenDocuments
import OverlayNet.Proofs.Json.WrittenLexemes
import OverlayNet.Proofs.Ledger.Contention
import OverlayNet.Proofs.Ledger.Issuing
import OverlayNet.Proofs.Ledger.Locking
import OverlayNet.Proofs.Ledger.OnLink
import OverlayNet.Proofs.Ledger.Sequences
import OverlayNet.Proofs.Ledger.Updating
import OverlayNet.Proofs.Lifecycle.AddressRuns
import OverlayNet.Proofs.Lifecycle.ArgumentSegments
import OverlayNet.Proofs.Lifecycle.Stages
import OverlayNet.Proofs.Lifecycle.UntouchedParts
import OverlayNet.Proofs.Link.DeviceLookup
import OverlayNet.Proofs.Masquerade.BatchReading
import OverlayNet.Proofs.Masquerade.InstallVerdict
import OverlayNet.Proofs.Masquerade.LateOpening
import OverlayNet.Proofs.Masquerade.RuleSemantics
import OverlayNet.Proofs.Masquerade.Tallying
import OverlayNet.Proofs.Netlink.AttributeChains
import OverlayNet.Proofs.Netlink.AttributeTrees
import OverlayNet.Proofs.Netlink.Framing
import OverlayNet.Proofs.Netlink.MessageStream
import OverlayNet.Proofs.Netlink.Words
import OverlayNet.Proofs.Netlink.WrittenForests
import OverlayNet.Proofs.Procedure
import OverlayNet.Proofs.Response.DecodableLines
import OverlayNet.Proofs.Text.Encoding
import OverlayNet.Proofs.Text.Gaps
import OverlayNet.Proofs.Text.Replacement
import OverlayNet.Proofs.Topology.AttachedContainers
import OverlayNet.Proofs.Topology.Attachment
import OverlayNet.Proofs.Topology.CallOrder
import OverlayNet.Proofs.Topology.DeviceLayout
import OverlayNet.Proofs.Topology.Extension
import OverlayNet.Proofs.Topology.FaultyLinks
import OverlayNet.Proofs.Topology.MatchingChannels
import OverlayNet.Proofs.Topology.NumberedTables
import OverlayNet.Proofs.Topology.ObedientLinks
import OverlayNet.Proofs.Topology.RecordedCalls
import OverlayNet.Proofs.Topology.Residue
import OverlayNet.Proofs.Topology.Retrying
import OverlayNet.Proofs.Topology.Routability
import OverlayNet.Proofs.Topology.Soundness
import OverlayNet.Proofs.Topology.UntouchedDevices
import OverlayNet.Proofs.TouchedPart
import OverlayNet.Response.Record
import OverlayNet.Text.Blank
import OverlayNet.Text.Bytes
import OverlayNet.Text.Cut
import OverlayNet.Text.Quoted
import OverlayNet.Text.Replace
import OverlayNet.Text.Visible
import OverlayNet.Topology
