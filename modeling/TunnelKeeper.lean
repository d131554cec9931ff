import TunnelKeeper.ConfigFile.Render
import TunnelKeeper.Http.Answer
import TunnelKeeper.Http.MediaType
import TunnelKeeper.Http.Message
import TunnelKeeper.Http.Resource
import TunnelKeeper.Http.SearchForm
import TunnelKeeper.Json.Basic
import TunnelKeeper.Json.Members
import TunnelKeeper.Json.Printer
import TunnelKeeper.Json.Reader
import TunnelKeeper.Json.Token
import TunnelKeeper.Keeper.Allocation
import TunnelKeeper.Keeper.Basic
import TunnelKeeper.Keeper.Error
import TunnelKeeper.Keeper.Housekeeping
import TunnelKeeper.Keeper.Import
import TunnelKeeper.Keeper.Interfaces
import TunnelKeeper.Keeper.Memory
import TunnelKeeper.Keeper.PeerChange
import TunnelKeeper.Keeper.Peers
import TunnelKeeper.Kernel.Basic
import TunnelKeeper.Kernel.Device
import TunnelKeeper.Key.Base64
import TunnelKeeper.Key.Basic
import TunnelKeeper.Key.Curve25519
import TunnelKeeper.Model.Codec
import TunnelKeeper.Model.Directory
import TunnelKeeper.Model.Directory.Lookup
import TunnelKeeper.Model.Id
import TunnelKeeper.Model.Interface
import TunnelKeeper.Model.Peer
import TunnelKeeper.Net.Address
import TunnelKeeper.Net.AddressText
import TunnelKeeper.Net.Cidr
import TunnelKeeper.Net.CidrText
import TunnelKeeper.Net.Endpoint
import TunnelKeeper.Proofs.ConfigFile.Agreement
import TunnelKeeper.Proofs.ConfigFile.Fields
import TunnelKeeper.Proofs.ConfigFile.Injection
import TunnelKeeper.Proofs.ConfigFile.ReadBack
import TunnelKeeper.Proofs.ConfigFile.Reading
import TunnelKeeper.Proofs.Directory
import TunnelKeeper.Proofs.Effect
import TunnelKeeper.Proofs.Http.Addressing
import TunnelKeeper.Proofs.Http.Outsiders
import TunnelKeeper.Proofs.Json.Members
import TunnelKeeper.Proofs.Json.Text
import TunnelKeeper.Proofs.Json.Token
import TunnelKeeper.Proofs.Keeper.Allocation
import TunnelKeeper.Proofs.Keeper.Batch
import TunnelKeeper.Proofs.Keeper.Cascade
import TunnelKeeper.Proofs.Keeper.Commitment
import TunnelKeeper.Proofs.Keeper.Coverage
import TunnelKeeper.Proofs.Keeper.Defaults
import TunnelKeeper.Proofs.Keeper.Discovery
import TunnelKeeper.Proofs.Keeper.Expiry
import TunnelKeeper.Proofs.Keeper.FreshAddresses
import TunnelKeeper.Proofs.Keeper.FreshLists
import TunnelKeeper.Proofs.Keeper.Health
import TunnelKeeper.Proofs.Keeper.Holding
import TunnelKeeper.Proofs.Keeper.InterfaceEnds
import TunnelKeeper.Proofs.Keeper.Joining
import TunnelKeeper.Proofs.Keeper.KernelFault
import TunnelKeeper.Proofs.Keeper.Legibility
import TunnelKeeper.Proofs.Keeper.Mirror
import TunnelKeeper.Proofs.Keeper.PeerEnds
import TunnelKeeper.Proofs.Keeper.Polling
import TunnelKeeper.Proofs.Keeper.Pushing
import TunnelKeeper.Proofs.Keeper.Reachability
import TunnelKeeper.Proofs.Keeper.Recording
import TunnelKeeper.Proofs.Keeper.Refusal
import TunnelKeeper.Proofs.Keeper.Repetition
import TunnelKeeper.Proofs.Keeper.Run
import TunnelKeeper.Proofs.Keeper.Sending
import TunnelKeeper.Proofs.Keeper.Settings
import TunnelKeeper.Proofs.Keeper.Statistics
import TunnelKeeper.Proofs.Keeper.Step
import TunnelKeeper.Proofs.Keeper.Takeover
import TunnelKeeper.Proofs.Keeper.Tally
import TunnelKeeper.Proofs.Keeper.Upkeep
import TunnelKeeper.Proofs.Keeper.Walk
import TunnelKeeper.Proofs.Kernel.Application
import TunnelKeeper.Proofs.Kernel.Lost
import TunnelKeeper.Proofs.Kernel.Requests
import TunnelKeeper.Proofs.Key.Canonical
import TunnelKeeper.Proofs.Key.Text
import TunnelKeeper.Proofs.Memory.AllPeers
import TunnelKeeper.Proofs.Memory.Counting
import TunnelKeeper.Proofs.Memory.Filing
import TunnelKeeper.Proofs.Memory.Holding
import TunnelKeeper.Proofs.Memory.Joining
import TunnelKeeper.Proofs.Memory.KeyUse
import TunnelKeeper.Proofs.Memory.Loading
import TunnelKeeper.Proofs.Memory.Refiling
import TunnelKeeper.Proofs.Memory.Slots
import TunnelKeeper.Proofs.Model.Codec
import TunnelKeeper.Proofs.Net.AddressText
import TunnelKeeper.Proofs.Net.Block
import TunnelKeeper.Proofs.Net.CidrLists
import TunnelKeeper.Proofs.Net.CidrText
import TunnelKeeper.Proofs.Net.Comparison
import TunnelKeeper.Proofs.Net.ListText
import TunnelKeeper.Proofs.Net.Mask
import TunnelKeeper.Proofs.Service.Carrying
import TunnelKeeper.Proofs.Service.Coverage
import TunnelKeeper.Proofs.Service.Filter
import TunnelKeeper.Proofs.Service.Holding
import TunnelKeeper.Proofs.Service.Housekeeping
import TunnelKeeper.Proofs.Service.InterfaceEnds
import TunnelKeeper.Proofs.Service.Interleaving
import TunnelKeeper.Proofs.Service.Job
import TunnelKeeper.Proofs.Service.Legibility
import TunnelKeeper.Proofs.Service.ListenPort
import TunnelKeeper.Proofs.Service.Listing
import TunnelKeeper.Proofs.Service.Paging
import TunnelKeeper.Proofs.Service.PeerEnds
import TunnelKeeper.Proofs.Service.Preparation
import TunnelKeeper.Proofs.Service.Pushable
import TunnelKeeper.Proofs.Service.Recreation
import TunnelKeeper.Proofs.Service.Request
import TunnelKeeper.Proofs.Service.Restart
import TunnelKeeper.Proofs.Service.Revocation
import TunnelKeeper.Proofs.Service.Searching
import TunnelKeeper.Proofs.Service.Serial
import TunnelKeeper.Proofs.Service.Turn
import TunnelKeeper.Proofs.Settings.Lifetime
import TunnelKeeper.Proofs.Store.Change
import TunnelKeeper.Proofs.Text.Digits
import TunnelKeeper.Proofs.Text.Lines
import TunnelKeeper.Proofs.Text.Lowercase
import TunnelKeeper.Proofs.Text.Trimmed
import TunnelKeeper.Proofs.Text.Utf8
import TunnelKeeper.Proofs.Text.Words
import TunnelKeeper.Proofs.Time.Calendar
import TunnelKeeper.Proofs.Time.Text
import TunnelKeeper.Proofs.Url.Percent
import TunnelKeeper.Service.Interfaces
import TunnelKeeper.Service.Job
import TunnelKeeper.Service.Peers
import TunnelKeeper.Service.Search
import TunnelKeeper.Settings.Config
import TunnelKeeper.Store.Basic
import TunnelKeeper.Store.Database
import TunnelKeeper.Store.DatabaseUrl
import TunnelKeeper.Text.Blank
import TunnelKeeper.Text.CaseTable
import TunnelKeeper.Text.Digits
import TunnelKeeper.Text.Lowercase
import TunnelKeeper.Text.Quoted
import TunnelKeeper.Text.Utf8
import TunnelKeeper.Time.Calendar
import TunnelKeeper.Time.Instant
import TunnelKeeper.Time.Text
import TunnelKeeper.Toml.Document
import TunnelKeeper.Toml.Quoted
import TunnelKeeper.Toml.Reader
import TunnelKeeper.Toml.Scalar
import TunnelKeeper.Url.Form
import TunnelKeeper.Url.Percent
