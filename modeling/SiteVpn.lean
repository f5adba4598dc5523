import SiteVpn.Address.Basic
import SiteVpn.Address.Cidr
import SiteVpn.Address.Form
import SiteVpn.Algorithm.Basic
import SiteVpn.Algorithm.Form
import SiteVpn.Algorithm.Vocabulary
import SiteVpn.CommandLine.Arguments
import SiteVpn.CommandLine.Execution
import SiteVpn.CommandLine.Files
import SiteVpn.Connection.Artifacts
import SiteVpn.Connection.Attachment
import SiteVpn.Connection.Basic
import SiteVpn.Connection.Error
import SiteVpn.Connection.Form
import SiteVpn.Connection.GatewayDocument
import SiteVpn.Connection.Proposal
import SiteVpn.Connection.Record
import SiteVpn.Connection.Tunnel
import SiteVpn.Device.Configuration
import SiteVpn.Device.Form
import SiteVpn.Device.Ike
import SiteVpn.Device.Ipsec
import SiteVpn.Device.Printer
import SiteVpn.Device.Routing
import SiteVpn.Digest.Salt
import SiteVpn.Digest.Sha256
import SiteVpn.Event
import SiteVpn.Gateway.Basic
import SiteVpn.Gateway.Form
import SiteVpn.Gateway.Printer
import SiteVpn.Gateway.Report
import SiteVpn.Json.Basic
import SiteVpn.Json.Form
import SiteVpn.Json.Number
import SiteVpn.Json.Printer
import SiteVpn.Json.Quoted
import SiteVpn.Json.Reader
import SiteVpn.Json.Token
import SiteVpn.Main
import SiteVpn.NameMap
import SiteVpn.Proofs.Expansion
import SiteVpn.Proofs.Naming
import SiteVpn.Proofs.Numeral
import SiteVpn.Proofs.Synthesis
import SiteVpn.Proofs.Traversal
import SiteVpn.Text.Binary64
import SiteVpn.Text.Blank
import SiteVpn.Text.Decimal
import SiteVpn.Text.Radix
import SiteVpn.Text.Table
import SiteVpn.Text.Width
import SiteVpn.Toml.Basic
import SiteVpn.Toml.Document
import SiteVpn.Toml.Moment
import SiteVpn.Toml.Quoted
import SiteVpn.Toml.Scalar
import SiteVpn.Toml.Statement
import SiteVpn.Xml.CharacterData
import SiteVpn.Xml.Name
import SiteVpn.Xml.Node
import SiteVpn.Xml.Reader
import SiteVpn.Xml.Token
import SiteVpn.Proofs.Attempt
import SiteVpn.Proofs.Merging
import SiteVpn.Proofs.Ownership
import SiteVpn.Proofs.Resolution
import SiteVpn.Proofs.Reference
import SiteVpn.Proofs.KeyErasure
import SiteVpn.Proofs.Isolation
import SiteVpn.Proofs.Disjointness
import SiteVpn.Proofs.Replacement
import SiteVpn.Proofs.Application
import SiteVpn.Proofs.Neighbour
import SiteVpn.Proofs.Reordering
import SiteVpn.Proofs.Rejection
import SiteVpn.Proofs.Counting
import SiteVpn.Proofs.Endpoint
import SiteVpn.Proofs.Growth
import SiteVpn.Proofs.Skipping
import SiteVpn.Proofs.SecureHash
import SiteVpn.Proofs.KeySecrecy
import SiteVpn.Proofs.Markup
import SiteVpn.Proofs.Provenance
import SiteVpn.Proofs.Effect
import SiteVpn.Proofs.JsonText
import SiteVpn.Proofs.Writing
import SiteVpn.Proofs.LawfulForm
import SiteVpn.Proofs.RecordText
import SiteVpn.Proofs.DeviceText
import SiteVpn.Proofs.Layout
import SiteVpn.Proofs.XmlText
import SiteVpn.Proofs.Rendering
import SiteVpn.Proofs.MergeEffect
import SiteVpn.Proofs.Combination
import SiteVpn.Proofs.Reattachment
import SiteVpn.Proofs.DocumentValue
import SiteVpn.Proofs.Listing
import SiteVpn.Proofs.BlockRange
import SiteVpn.Proofs.LinkBlock
import SiteVpn.Proofs.Compatibility
import SiteVpn.Proofs.Fault
import SiteVpn.Proofs.Admission
import SiteVpn.Proofs.NumeralGrammar
import SiteVpn.Proofs.AddressGrammar
import SiteVpn.Proofs.CanonicalBlock
import SiteVpn.Proofs.BlockOrder
import SiteVpn.Proofs.TunnelContent
import SiteVpn.Proofs.Remark
import SiteVpn.Proofs.Progress
import SiteVpn.Proofs.RecordShape
import SiteVpn.Proofs.TokenSpelling
import SiteVpn.Proofs.TableLines
import SiteVpn.Proofs.Summary
