import TunnelKeeper.Json.Members
import TunnelKeeper.Model.Peer
import TunnelKeeper.Time.Text

/-!
# Records as JSON

Every kind of record has a JSON form and a reader for it. Interfaces, peers and their settings fill
missing members with defaults; key pairs, candidates and statistics need all members, except that
the optional ones of an object may be missing. The mark of a prepared peer is left out when unset.
-/
namespace TunnelKeeper
open Json

def Id.toJson {kind : IdKind} (i : Id kind) : Json := .text i.text

def Id.ofJson? {kind : IdKind} (j : Json) : Option (Id kind) := j.string?.map (⟨·⟩)

def Instant.toJson (i : Instant) : Json := .text i.text

def Instant.ofJson? (j : Json) : Option Instant := j.string?.bind Instant.ofText?

def jsonOfUInt16 (n : UInt16) : Json := .natural n.toNat

def jsonOfUInt32 (n : UInt32) : Json := .natural n.toNat

def jsonOfUInt64 (n : UInt64) : Json := .natural n.toNat

namespace Setting

variable {α : Type}

def toJson (value : α → Json) : Setting α → Json
  | .inherited v => .record [("source", .text "default"), ("value", value v)]
  | .chosen v => .record [("source", .text "custom"), ("value", value v)]

def ofJson? (value : Json → Option α) (j : Json) : Option (Setting α) := do
  let m ← fullMembers? ["source", "value"] j
  let v ← m.require "value" value
  match ← m.require "source" alternative? with
  | "default" => some (.inherited v)
  | "custom" => some (.chosen v)
  | _ => none

end Setting

namespace KeyPair

def names : List String := ["private_key", "public_key"]

def toJson (k : KeyPair) : Json :=
  .record [("private_key", .text k.privateKey), ("public_key", .text k.publicKey)]

def ofJson? (j : Json) : Option KeyPair := do
  let m ← fullMembers? names j
  return {
    privateKey := ← m.require "private_key" string?
    publicKey := ← m.require "public_key" string? }

end KeyPair

namespace Role

def toJson (r : Role) : Json := .text r.text

def ofJson? (j : Json) : Option Role :=
  match alternative? j with
  | some "server" => some .server
  | some "client" => some .client
  | _ => none

end Role

namespace Hooks

def members {α : Type} (value : α → Json) (h : Hooks α) : List (String × Json) :=
  [("pre_up", value h.preUp), ("post_up", value h.postUp), ("pre_down", value h.preDown),
    ("post_down", value h.postDown)]

def names : List String := ["pre_up", "post_up", "pre_down", "post_down"]

def read {α : Type} (value : Json → Option α) (d : α) (m : Members) : Option (Hooks α) := do
  return {
    preUp := ← m.read "pre_up" value d
    postUp := ← m.read "post_up" value d
    preDown := ← m.read "pre_down" value d
    postDown := ← m.read "post_down" value d }

end Hooks

namespace PeerDefaults

def names : List String :=
  ["dns_str", "dns_search_str", "endpoint", "allowed_ips_str", "mtu", "persistent_keepalive",
    "firewall_mark", "routing_table"] ++ Hooks.names

def toJson (d : PeerDefaults) : Json :=
  .record <|
    [("dns_str", .text d.dns), ("dns_search_str", .text d.dnsSearch),
      ("endpoint", .text d.endpoint), ("allowed_ips_str", .text d.allowedIps),
      ("mtu", jsonOfUInt32 d.mtu), ("persistent_keepalive", jsonOfUInt32 d.keepalive),
      ("firewall_mark", jsonOfUInt32 d.firewallMark), ("routing_table", .text d.routingTable)] ++
      d.hooks.members .text

def ofJson? (j : Json) : Option PeerDefaults := do
  let m ← members? names j
  return {
    dns := ← m.read "dns_str" string? ""
    dnsSearch := ← m.read "dns_search_str" string? ""
    endpoint := ← m.read "endpoint" string? ""
    allowedIps := ← m.read "allowed_ips_str" string? ""
    mtu := ← m.read "mtu" uint32? 0
    keepalive := ← m.read "persistent_keepalive" uint32? 0
    firewallMark := ← m.read "firewall_mark" uint32? 0
    routingTable := ← m.read "routing_table" string? ""
    hooks := ← Hooks.read string? "" m }

end PeerDefaults

namespace Interface

def names : List String :=
  ["identifier", "key_pair", "listen_port", "address_str", "dns_str", "dns_search_str", "mtu",
    "firewall_mark", "routing_table"] ++ Hooks.names ++
    ["display_name", "type", "driver_type", "disabled", "peer_defaults"]

def toJson (i : Interface) : Json :=
  .record <|
    [("identifier", i.id.toJson), ("key_pair", i.keys.toJson),
      ("listen_port", jsonOfUInt16 i.listenPort), ("address_str", .text i.addresses),
      ("dns_str", .text i.dns), ("dns_search_str", .text i.dnsSearch), ("mtu", jsonOfUInt32 i.mtu),
      ("firewall_mark", jsonOfUInt32 i.firewallMark), ("routing_table", .text i.routingTable)] ++
      i.hooks.members .text ++
      [("display_name", .text i.displayName), ("type", i.role.toJson),
        ("driver_type", .text i.driver), ("disabled", .optional Instant.toJson i.disabledAt),
        ("peer_defaults", i.peerDefaults.toJson)]

def ofJson? (j : Json) : Option Interface := do
  let m ← members? names j
  return {
    id := ← m.read "identifier" Id.ofJson? default
    keys := ← m.read "key_pair" KeyPair.ofJson? {}
    listenPort := ← m.read "listen_port" uint16? 0
    addresses := ← m.read "address_str" string? ""
    dns := ← m.read "dns_str" string? ""
    dnsSearch := ← m.read "dns_search_str" string? ""
    mtu := ← m.read "mtu" uint32? 0
    firewallMark := ← m.read "firewall_mark" uint32? 0
    routingTable := ← m.read "routing_table" string? ""
    hooks := ← Hooks.read string? "" m
    displayName := ← m.read "display_name" string? ""
    role := ← m.read "type" Role.ofJson? .server
    driver := ← m.read "driver_type" string? ""
    disabledAt := ← m.read "disabled" (optional? Instant.ofJson?) none
    peerDefaults := ← m.read "peer_defaults" PeerDefaults.ofJson? {} }

end Interface

def textSettingToJson (s : Setting String) : Json := s.toJson .text

def textSettingOfJson? (j : Json) : Option (Setting String) := Setting.ofJson? string? j

def numberSettingToJson (s : Setting UInt32) : Json := s.toJson jsonOfUInt32

def numberSettingOfJson? (j : Json) : Option (Setting UInt32) := Setting.ofJson? uint32? j

namespace TunnelSettings

def names : List String :=
  ["identifier", "type", "public_key", "address_str", "dns_str", "dns_search_str", "mtu",
    "firewall_mark", "routing_table"] ++ Hooks.names

def toJson (t : TunnelSettings) : Json :=
  .record <|
    [("identifier", t.interfaceId.toJson), ("type", t.role.toJson),
      ("public_key", .text t.publicKey), ("address_str", textSettingToJson t.addresses),
      ("dns_str", textSettingToJson t.dns), ("dns_search_str", textSettingToJson t.dnsSearch),
      ("mtu", numberSettingToJson t.mtu), ("firewall_mark", numberSettingToJson t.firewallMark),
      ("routing_table", textSettingToJson t.routingTable)] ++
      t.hooks.members textSettingToJson

def ofJson? (j : Json) : Option TunnelSettings := do
  let m ← members? names j
  return {
    interfaceId := ← m.read "identifier" Id.ofJson? default
    role := ← m.read "type" Role.ofJson? .server
    publicKey := ← m.read "public_key" string? ""
    addresses := ← m.read "address_str" textSettingOfJson? default
    dns := ← m.read "dns_str" textSettingOfJson? default
    dnsSearch := ← m.read "dns_search_str" textSettingOfJson? default
    mtu := ← m.read "mtu" numberSettingOfJson? default
    firewallMark := ← m.read "firewall_mark" numberSettingOfJson? default
    routingTable := ← m.read "routing_table" textSettingOfJson? default
    hooks := ← Hooks.read textSettingOfJson? default m }

end TunnelSettings

namespace Peer

def names : List String :=
  ["identifier", "display_name", "user_identifier", "endpoint", "allowed_ips_str",
    "extra_allowed_ips_str", "key_pair", "preshared_key", "persistent_keepalive", "temporary",
    "disabled", "interface"]

def toJson (p : Peer) : Json :=
  .record <|
    [("identifier", p.id.toJson), ("display_name", .text p.displayName),
      ("user_identifier", .optional Id.toJson p.owner), ("endpoint", textSettingToJson p.endpoint),
      ("allowed_ips_str", textSettingToJson p.allowedIps),
      ("extra_allowed_ips_str", .text p.extraAllowedIps), ("key_pair", p.keys.toJson),
      ("preshared_key", .optional .text p.presharedKey),
      ("persistent_keepalive", numberSettingToJson p.keepalive)] ++
      (p.preparedAt.toList.map fun i => ("temporary", i.toJson)) ++
      [("disabled", .optional Instant.toJson p.disabledAt), ("interface", p.tunnel.toJson)]

def ofJson? (j : Json) : Option Peer := do
  let m ← members? names j
  return {
    id := ← m.read "identifier" Id.ofJson? default
    displayName := ← m.read "display_name" string? ""
    owner := ← m.read "user_identifier" (optional? Id.ofJson?) none
    endpoint := ← m.read "endpoint" textSettingOfJson? default
    allowedIps := ← m.read "allowed_ips_str" textSettingOfJson? default
    extraAllowedIps := ← m.read "extra_allowed_ips_str" string? ""
    keys := ← m.read "key_pair" KeyPair.ofJson? {}
    presharedKey := ← m.read "preshared_key" (optional? string?) none
    keepalive := ← m.read "persistent_keepalive" numberSettingOfJson? default
    preparedAt := ← m.read "temporary" (optional? Instant.ofJson?) none
    disabledAt := ← m.read "disabled" (optional? Instant.ofJson?) none
    tunnel := ← m.read "interface" TunnelSettings.ofJson? {} }

end Peer

namespace ImportCandidate

def names : List String := ["interface", "import_location", "import_type", "peers"]

def toJson (c : ImportCandidate) : Json :=
  .record
    [("interface", c.interface.toJson), ("import_location", .text c.location),
      ("import_type", .text c.kind), ("peers", .list Peer.toJson c.peers)]

def ofJson? (j : Json) : Option ImportCandidate := do
  let m ← fullMembers? names j
  return {
    interface := ← m.require "interface" Interface.ofJson?
    location := ← m.require "import_location" string?
    kind := ← m.require "import_type" string?
    peers := ← m.require "peers" (list? Peer.ofJson?) }

end ImportCandidate

namespace PeerStats

def names : List String :=
  ["identifier", "last_handshake", "last_endpoint", "connected", "bytes_received",
    "bytes_transmitted", "updated_at"]

def toJson (s : PeerStats) : Json :=
  .record
    [("identifier", s.id.toJson), ("last_handshake", .optional Instant.toJson s.lastHandshake),
      ("last_endpoint", .optional .text s.lastEndpoint), ("connected", .bool s.connected),
      ("bytes_received", jsonOfUInt64 s.bytesReceived),
      ("bytes_transmitted", jsonOfUInt64 s.bytesTransmitted), ("updated_at", s.updatedAt.toJson)]

def ofJson? (j : Json) : Option PeerStats := do
  let m ← fullMembers? names j
  return {
    id := ← m.require "identifier" Id.ofJson?
    lastHandshake := ← m.read "last_handshake" (optional? Instant.ofJson?) none
    lastEndpoint := ← m.read "last_endpoint" (optional? string?) none
    connected := ← m.require "connected" bool?
    bytesReceived := ← m.require "bytes_received" uint64?
    bytesTransmitted := ← m.require "bytes_transmitted" uint64?
    updatedAt := ← m.require "updated_at" Instant.ofJson? }

end PeerStats

namespace InterfaceStats

def names : List String :=
  ["identifier", "peer_count", "bytes_received", "bytes_transmitted", "updated_at"]

def toJson (s : InterfaceStats) : Json :=
  .record
    [("identifier", s.id.toJson), ("peer_count", jsonOfUInt64 s.peerCount),
      ("bytes_received", jsonOfUInt64 s.bytesReceived),
      ("bytes_transmitted", jsonOfUInt64 s.bytesTransmitted), ("updated_at", s.updatedAt.toJson)]

def ofJson? (j : Json) : Option InterfaceStats := do
  let m ← fullMembers? names j
  return {
    id := ← m.require "identifier" Id.ofJson?
    peerCount := ← m.require "peer_count" uint64?
    bytesReceived := ← m.require "bytes_received" uint64?
    bytesTransmitted := ← m.require "bytes_transmitted" uint64?
    updatedAt := ← m.require "updated_at" Instant.ofJson? }

end InterfaceStats

end TunnelKeeper
