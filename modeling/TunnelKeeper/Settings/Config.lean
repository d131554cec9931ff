import TunnelKeeper.Json.Members
import TunnelKeeper.Service.Interfaces
import TunnelKeeper.Text.Utf8
import TunnelKeeper.Toml.Document

/-!
# Configuration

What an administrator sets, in a TOML file or in the environment. Everything has a default but the
token, which must be set before the service may start. A missing file counts as an empty one,
unknown keys are passed over, and blank variables of the environment do not count.
-/
namespace TunnelKeeper

structure Config where
  bindAddress : String := "127.0.0.1:8888"
  adminToken : String := ""
  databaseUrl : Option String := none
  backgroundInterval : UInt64 := 60
  preparedTtl : UInt64 := 900
  defaultListenPort : UInt16 := 51820
  defaultDriver : String := "linux"
deriving DecidableEq, Repr

inductive ConfigError where
  | notUtf8
  | parse
  | missingToken
  | noInterval
deriving DecidableEq, Repr

def databaseVariable : String := "WGPORTAL_DATABASE_URL"

def tokenVariable : String := "WGPORTAL_ADMIN_TOKEN"

def ConfigError.message : ConfigError → String
  | .notUtf8 => "failed to read config: stream did not contain valid UTF-8"
  | .parse => "failed to parse config"
  | .missingToken => s!"missing admin token (set admin_token or {tokenVariable})"
  | .noInterval => "background interval must be at least one second"

namespace Config

def tomlString? : Toml → Option String
  | .string s => some s
  | _ => none

def tomlNatural? (max : Nat) : Toml → Option Nat
  | .integer n => if 0 ≤ n ∧ n ≤ max then some n.toNat else none
  | _ => none

def tomlUInt16? (v : Toml) : Option UInt16 := (tomlNatural? 65535 v).map Nat.toUInt16

def tomlUInt64? (v : Toml) : Option UInt64 := (tomlNatural? 18446744073709551615 v).map Nat.toUInt64

def field {α : Type} (es : Toml.Entries) (name : String) (decode : Toml → Option α) (default : α) :
    Option α :=
  match es.lookup name with
  | some v => decode v
  | none => some default

def ofToml? (es : Toml.Entries) : Option Config := do
  let d : Config := {}
  return {
    bindAddress := ← field es "bind_addr" tomlString? d.bindAddress
    adminToken := ← field es "admin_token" tomlString? d.adminToken
    databaseUrl := ← field es "database_url" (fun v => (tomlString? v).map some) d.databaseUrl
    backgroundInterval := ← field es "background_interval_secs" tomlUInt64? d.backgroundInterval
    preparedTtl := ← field es "temporary_peer_ttl_secs" tomlUInt64? d.preparedTtl
    defaultListenPort := ← field es "default_listen_port" tomlUInt16? d.defaultListenPort
    defaultDriver := ← field es "default_driver_type" tomlString? d.defaultDriver }

/-- The configuration in the bytes of a file, if there is one. -/
def load (file : Option (List UInt8)) : Except ConfigError Config :=
  match file with
  | none => .ok {}
  | some bytes =>
    match Text.decodeStrict? bytes with
    | none => .error .notUtf8
    | some cs =>
      match (Toml.document? (String.ofList cs)).bind ofToml? with
      | some c => .ok c
      | none => .error .parse

/-- The configuration with what the environment sets. -/
def override (lookup : String → Option String) (c : Config) : Config :=
  let set (name : String) := (lookup name).filter (! Text.isBlankText ·)
  { c with
    databaseUrl := (set databaseVariable).or c.databaseUrl
    adminToken := (set tokenVariable).getD c.adminToken }

/-- Whether the service may start. -/
def validate (c : Config) : Except ConfigError Unit :=
  if Text.isBlankText c.adminToken then .error .missingToken
  else if c.backgroundInterval = 0 then .error .noInterval
  else .ok ()

/-- How many seconds a prepared peer is kept, unless that is longer than time can be handled. -/
def ttl? (c : Config) : Option Nat :=
  if c.preparedTtl.toNat ≤ Instant.longestSpan.natAbs then some c.preparedTtl.toNat else none

def settings? (c : Config) : Option Service.Settings :=
  c.ttl?.map fun ttl => ⟨c.defaultListenPort, c.defaultDriver, ttl⟩

def names : List String :=
  ["bind_addr", "admin_token", "database_url", "background_interval_secs",
    "temporary_peer_ttl_secs", "default_listen_port", "default_driver_type"]

def toJson (c : Config) : Json :=
  .record
    [("bind_addr", .text c.bindAddress), ("admin_token", .text c.adminToken),
      ("database_url", .optional .text c.databaseUrl),
      ("background_interval_secs", .natural c.backgroundInterval.toNat),
      ("temporary_peer_ttl_secs", .natural c.preparedTtl.toNat),
      ("default_listen_port", .natural c.defaultListenPort.toNat),
      ("default_driver_type", .text c.defaultDriver)]

def ofJson? (j : Json) : Option Config := do
  let d : Config := {}
  let m ← Json.members? names j
  return {
    bindAddress := ← m.read "bind_addr" Json.string? d.bindAddress
    adminToken := ← m.read "admin_token" Json.string? d.adminToken
    databaseUrl := ← m.read "database_url" (Json.optional? Json.string?) d.databaseUrl
    backgroundInterval := ← m.read "background_interval_secs" Json.uint64? d.backgroundInterval
    preparedTtl := ← m.read "temporary_peer_ttl_secs" Json.uint64? d.preparedTtl
    defaultListenPort := ← m.read "default_listen_port" Json.uint16? d.defaultListenPort
    defaultDriver := ← m.read "default_driver_type" Json.string? d.defaultDriver }

end Config

end TunnelKeeper
