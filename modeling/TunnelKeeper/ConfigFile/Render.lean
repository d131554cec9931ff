import TunnelKeeper.Model.Peer

/-!
# Tunnel configuration files

The files that wg-quick reads: one for an interface with a section per peer, and one for the peer's
own side. A file is a list of lines. A setting is left out when its text is blank or its number is
zero, lists are written with a comma and a space between their elements, and a disabled peer is
reduced to a comment.
-/
namespace TunnelKeeper.ConfigFile
open TunnelKeeper

def defaultVersion : String := "0.1.0"

def setting (key value : String) : List String :=
  match Text.nonBlank? value with
  | some v => [key ++ " = " ++ v]
  | none => []

def number (key : String) (n : Nat) : List String :=
  if n = 0 then [] else [key ++ " = " ++ toString n]

def merged (lists : List String) : String := ", ".intercalate (lists.flatMap Text.listElements)

def hooks (h : Hooks String) : List String :=
  setting "PreUp" h.preUp ++ setting "PostUp" h.postUp ++ setting "PreDown" h.preDown ++
    setting "PostDown" h.postDown

def title (name identifier : String) : String := (Text.nonBlank? name).getD identifier

def heading (version name : String) (keys : KeyPair) : List String :=
  ["# Generated by wgportal " ++ version, "# " ++ name, "[Interface]"] ++
    setting "# PublicKey" keys.publicKey ++ setting "PrivateKey" keys.privateKey

/-- The keys of a peer section. A public key is written as it is, blank or not. -/
def peerKeys (publicKey : String) (presharedKey : Option String) : List String :=
  ["[Peer]", "PublicKey = " ++ publicKey] ++ setting "PresharedKey" (presharedKey.getD "")

def routedLists (role : Role) (p : Peer) : List String :=
  match role with
  | .server => [p.allowedIps.value, p.extraAllowedIps]
  | .client => [p.allowedIps.value]

def peerSection (role : Role) (p : Peer) : List String :=
  let name := title p.displayName p.id.text
  if p.isDisabled then ["", "# [Peer] " ++ name ++ " is disabled"]
  else
    ["", "# " ++ name] ++ peerKeys p.keys.publicKey p.presharedKey ++
      setting "AllowedIPs" (merged (routedLists role p)) ++
      (if role = .client then setting "Endpoint" p.endpoint.value else []) ++
      number "PersistentKeepalive" p.keepalive.value.toNat

def interfaceSection (version : String) (i : Interface) : List String :=
  heading version (title i.displayName i.id.text) i.keys ++
    setting "Address" (merged [i.addresses]) ++ number "ListenPort" i.listenPort.toNat ++
    number "MTU" i.mtu.toNat ++ setting "DNS" (merged [i.dns, i.dnsSearch]) ++
    number "FwMark" i.firewallMark.toNat ++ setting "Table" i.routingTable ++ hooks i.hooks

def interfaceLines (version : String) (i : Interface) (peers : List Peer) : List String :=
  interfaceSection version i ++ peers.flatMap (peerSection i.role)

/-- The section of the interface in the peer's own file. -/
def tunnelSection (version : String) (p : Peer) : List String :=
  let t := p.tunnel
  heading version (title p.displayName p.id.text) p.keys ++
    setting "Address" (merged [t.addresses.value]) ++
    setting "DNS" (merged [t.dns.value, t.dnsSearch.value]) ++ number "MTU" t.mtu.value.toNat ++
    number "FwMark" t.firewallMark.value.toNat ++ setting "Table" t.routingTable.value ++
    hooks ⟨t.hooks.preUp.value, t.hooks.postUp.value, t.hooks.preDown.value, t.hooks.postDown.value⟩

/-- The section of the remote end in the peer's own file. -/
def remoteSection (p : Peer) : List String :=
  ["", "# " ++ p.tunnel.interfaceId.text] ++ peerKeys p.tunnel.publicKey p.presharedKey ++
    setting "AllowedIPs" (merged [p.allowedIps.value]) ++ setting "Endpoint" p.endpoint.value ++
    number "PersistentKeepalive" p.keepalive.value.toNat

def peerLines (version : String) (p : Peer) : List String :=
  tunnelSection version p ++ remoteSection p

/-- The lines as one text, each ended by a line feed. -/
def unlines (lines : List String) : String := String.join (lines.map (· ++ "\n"))

def interfaceFile (version : String) (i : Interface) (peers : List Peer) : String :=
  unlines (interfaceLines version i peers)

def peerFile (version : String) (p : Peer) : String := unlines (peerLines version p)

end TunnelKeeper.ConfigFile
