import NodeFleet.Address.Ipv4
import NodeFleet.Address.Ipv6
import NodeFleet.Address.Network
import NodeFleet.Address.Socket
import NodeFleet.Api.AdminToken
import NodeFleet.Api.Call
import NodeFleet.Api.Extract
import NodeFleet.Api.Limiter
import NodeFleet.Api.Route
import NodeFleet.Api.Server
import NodeFleet.CommandLine.Choices
import NodeFleet.CommandLine.Report
import NodeFleet.CommandLine.Setting
import NodeFleet.CommandLine.Start
import NodeFleet.Decimal.Shortest
import NodeFleet.Digest.Hmac
import NodeFleet.Digest.Sha256
import NodeFleet.Error
import NodeFleet.Fleet.Assignments
import NodeFleet.Fleet.Groups
import NodeFleet.Fleet.Nodes
import NodeFleet.Fleet.Operation
import NodeFleet.Fleet.Panel
import NodeFleet.Fleet.Reconciler
import NodeFleet.Fleet.Statistics
import NodeFleet.Fleet.Tables
import NodeFleet.Fleet.Tokens
import NodeFleet.Group.Strategy
import NodeFleet.Http.Date
import NodeFleet.Http.Form
import NodeFleet.Http.MediaType
import NodeFleet.Http.Message
import NodeFleet.Http.Range
import NodeFleet.Http.StoredFile
import NodeFleet.Install.Client
import NodeFleet.Install.Credentials
import NodeFleet.Install.Record
import NodeFleet.Install.Run
import NodeFleet.Install.Script
import NodeFleet.Install.Shell
import NodeFleet.Instant
import NodeFleet.Json.Decode
import NodeFleet.Json.Document
import NodeFleet.Json.Value
import NodeFleet.Main
import NodeFleet.Naming
import NodeFleet.Node.Field
import NodeFleet.Node.Request
import NodeFleet.Node.Search
import NodeFleet.Node.Status
import NodeFleet.Node.View
import NodeFleet.Number.Rounding
import NodeFleet.Proofs.Authentication
import NodeFleet.Proofs.Capacity
import NodeFleet.Proofs.Install
import NodeFleet.Proofs.Integrity
import NodeFleet.Proofs.NodeRow
import NodeFleet.Proofs.Numbering
import NodeFleet.Proofs.Panel
import NodeFleet.Proofs.Revision
import NodeFleet.Proofs.Run
import NodeFleet.Proofs.Table
import NodeFleet.Proofs.TextColumn
import NodeFleet.Proofs.Transaction
import NodeFleet.Proofs.Write
import NodeFleet.Schema.Migration
import NodeFleet.Schema.Source
import NodeFleet.Schema.Table
import NodeFleet.Text.Ascending
import NodeFleet.Text.Base64
import NodeFleet.Text.Blank
import NodeFleet.Text.Hex
import NodeFleet.Text.Integer
import NodeFleet.Text.LowerCase
import NodeFleet.Text.Percent
import NodeFleet.Text.Punycode
import NodeFleet.Text.Quoted
import NodeFleet.Text.RunTable
import NodeFleet.Text.Similarity
import NodeFleet.Text.Split
import NodeFleet.Text.Utf8
import NodeFleet.Text.Wrapped
import NodeFleet.Tls.Der
import NodeFleet.Tls.Identity
import NodeFleet.Tls.Listening
import NodeFleet.Tls.Mode
import NodeFleet.Tls.Pem
import NodeFleet.Unicode.HostMapping
import NodeFleet.Unicode.Normal
import NodeFleet.Unicode.Script
import NodeFleet.Url.Basic
import NodeFleet.Url.Domain
import NodeFleet.Url.Host
import NodeFleet.Url.Panel
import NodeFleet.Proofs.Admission
import NodeFleet.Proofs.Failure
import NodeFleet.Proofs.Interleaving
import NodeFleet.Proofs.Refusal
import NodeFleet.Proofs.Address
import NodeFleet.Proofs.Canonical
import NodeFleet.Proofs.WriteBack
import NodeFleet.Proofs.Housing
import NodeFleet.Proofs.Census
import NodeFleet.Proofs.SyncError
import NodeFleet.Proofs.LateWrite
import NodeFleet.Proofs.FailedInstall
import NodeFleet.Proofs.GroupView
import NodeFleet.Proofs.Pattern
import NodeFleet.Proofs.Listing
import NodeFleet.Proofs.Membership
import NodeFleet.Proofs.Credentials
import NodeFleet.Proofs.AgentAccess
import NodeFleet.Proofs.Ownership
import NodeFleet.Proofs.Placement
import NodeFleet.Proofs.Deletion
import NodeFleet.Proofs.InstallHistory
import NodeFleet.Proofs.Calendar
import NodeFleet.Proofs.InstantText
import NodeFleet.Proofs.Tick
import NodeFleet.Proofs.Heartbeat
import NodeFleet.Proofs.Numeral
import NodeFleet.Proofs.Posix
import NodeFleet.Proofs.InstallScript
import NodeFleet.Proofs.Installed
import NodeFleet.Proofs.Arrival
import NodeFleet.Proofs.Removal
import NodeFleet.Proofs.Rounding
import NodeFleet.Proofs.Choice
import NodeFleet.Proofs.Spelling
import NodeFleet.Proofs.Whitelist
import NodeFleet.Proofs.Punycode
import NodeFleet.Proofs.RunLength
import NodeFleet.Proofs.HostCharacters
import NodeFleet.Proofs.Composition
import NodeFleet.Proofs.MarkOrder
import NodeFleet.Proofs.Normalization
import NodeFleet.Proofs.DomainName
import NodeFleet.Proofs.Utf8
import NodeFleet.Proofs.HostName
import NodeFleet.Proofs.UrlText
import NodeFleet.Proofs.Ideographs
import NodeFleet.Proofs.LocalHost
import NodeFleet.Proofs.PanelUrl
import NodeFleet.Proofs.RequestLimit
import NodeFleet.Proofs.Unassignment
import NodeFleet.Proofs.RecordReader
import NodeFleet.Proofs.PatchGrammar
import NodeFleet.Proofs.DownloadUrl
import NodeFleet.Proofs.Keyword
import NodeFleet.Proofs.SshCall
