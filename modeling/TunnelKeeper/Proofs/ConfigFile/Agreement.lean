import TunnelKeeper.Proofs.ConfigFile.ReadBack
import TunnelKeeper.Proofs.Keeper.Allocation
import TunnelKeeper.Proofs.Keeper.Sending
import TunnelKeeper.Proofs.Key.Text
import TunnelKeeper.Proofs.Net.CidrLists

/-!
# Files and changes agree

The section of a peer in the file of its interface and the change that is pushed for the peer say
the same, whichever way endpoints are looked up. The peer's own texts must have no line feed; what
the records around it hold makes no difference.
-/
namespace TunnelKeeper.ConfigFile
open TunnelKeeper Text Net Kernel

def Section.value? (s : Section) (key : String) : Option String := s.settings.lookup key

theorem lookup_entries_of_not_mem {fields : List Field} {key : String}
    (h : key ∉ fields.map Prod.fst) : (entries fields).lookup key = none := by
  rw [List.lookup_eq_none_iff]
  rintro ⟨key', value⟩ hvalue
  obtain ⟨source, hsource, -⟩ := mem_entries_iff.1 hvalue
  have listed : key' ∈ fields.map Prod.fst := List.mem_map_of_mem hsource
  simpa using fun same : key = key' => h (same ▸ listed)

/-- The setting of a field tells whether the field gives anything, and what. -/
theorem lookup_entries {fields : List Field} (distinct : (fields.map Prod.fst).Nodup) {f : Field}
    (hf : f ∈ fields) :
    (entries fields).lookup f.1 = if f.2.IsGiven then some f.2.value else none := by
  induction fields with
  | nil => contradiction
  | cons g fields ih =>
    rw [List.map_cons, List.nodup_cons] at distinct
    rcases List.mem_cons.1 hf with rfl | hf
    · by_cases given : f.2.IsGiven
      · simp [entries, given, Field.entry]
      · have none := lookup_entries_of_not_mem distinct.1
        simpa [entries, given] using none
    · have rest := ih distinct.2 hf
      have other : f.1 ≠ g.1 := fun same => distinct.1 (same ▸ List.mem_map_of_mem hf)
      by_cases given : g.2.IsGiven
      · have skip : (f.1 == g.1) = false := by simpa using other
        simpa [entries, given, Field.entry, List.lookup_cons, skip] using rest
      · simpa [entries, given] using rest

/-- Whether a setting is left out where there are no CIDRs, and is read as them otherwise, in
ascending order. -/
def Routes (written : Option String) (cs : List Cidr) : Prop :=
  written = none ∧ cs = [] ∨
    ∃ t ds, written = some t ∧ cs ≠ [] ∧ Cidr.parseList t = .ok ds ∧ ds.Perm cs ∧
      ds.Pairwise fun c d => c.le d = true

/-- Whether a section and a change say the same of a peer, where endpoints are looked up. -/
structure Agrees (lookUp : String → Option Endpoint) (role : Role) (p : Peer) (s : Section)
    (c : PeerChange) : Prop where
  name : s.name = "Peer"
  once : (s.settings.map Prod.fst).Nodup
  publicKey : ∃ t, s.value? "PublicKey" = some t ∧ Key.parse t = .ok c.publicKey
  presharedKey : Option.Rel (fun t key => Key.parse t = .ok key)
    (s.value? "PresharedKey") c.presharedKey
  allowedIps : Routes (s.value? "AllowedIPs") c.allowedIps
  named : s.value? "Endpoint" = if role = .client then nonBlank? p.endpoint.value else none
  endpoint : c.endpoint = (s.value? "Endpoint").bind lookUp
  keepalive : Option.Rel (fun t n => ∃ m : Nat, t = toString m ∧ n.toNat = min m 65535)
    (s.value? "PersistentKeepalive") c.keepalive

section

variable {role : Role} {p : Peer}

theorem value?_sectionOf {key : String} {source : Source}
    (h : (key, source) ∈ peerFields role p) :
    (sectionOf role p).value? key = if source.IsGiven then some source.value else none :=
  lookup_entries (keyed_peerFields role p).distinct h

theorem written_text (s : String) :
    (if (Source.text s).IsGiven then some (trim s) else none) = nonBlank? s := by
  cases written : nonBlank? s with
  | none => simp [Source.isGiven_text_iff, written]
  | some t => simp [Source.isGiven_text_iff, written, eq_trim_of_nonBlank? written]

/-- Only text that is not blank can be a key. -/
theorem nonBlank?_of_parse {s : String} {key : Key} (h : Key.parse s = .ok key) :
    nonBlank? s = some (trim s) := by
  cases written : nonBlank? s with
  | none =>
    rw [Key.parse_of_blank (trimList_eq_nil_iff.2 (nonBlank?_eq_none_iff.1 written))] at h
    contradiction
  | some t => rw [eq_trim_of_nonBlank? written]

theorem value?_presharedKey :
    (sectionOf role p).value? "PresharedKey" = nonBlank? (p.presharedKey.getD "") := by
  have field : ("PresharedKey", Source.text (p.presharedKey.getD "")) ∈ peerFields role p := by
    simp [peerFields]
  rw [value?_sectionOf field]
  exact written_text _

theorem presharedKey_agrees {key : Option Key} (h : p.presharedKey? = .ok key) :
    Option.Rel (fun t key => Key.parse t = .ok key)
      ((sectionOf role p).value? "PresharedKey") key := by
  rw [value?_presharedKey]
  rw [Peer.presharedKey?] at h
  cases psk : p.presharedKey with
  | none =>
    rw [psk] at h
    cases h
    exact .none
  | some s =>
    rw [psk] at h
    dsimp only at h
    split at h
    case isTrue empty =>
      cases h
      rw [String.isEmpty_iff.1 empty]
      exact .none
    case isFalse =>
      cases parsed : (KeyPlace.presharedKey p.id).parse s with
      | error e =>
        rw [parsed] at h
        cases h
      | ok k =>
        rw [parsed] at h
        cases h
        have parsed := KeyPlace.parse_eq_ok_iff.1 parsed
        rw [Option.getD_some, nonBlank?_of_parse parsed]
        exact .some ((Key.parse_trim s).trans parsed)

/-- The lists that are routed are those that stand in the file, read one by one. -/
theorem of_routes {cs : List Cidr} (h : p.routes role = .ok cs) :
    ∃ dss, List.Forall₂ (fun s ds => Cidr.parseList s = .ok ds) (routedLists role p) dss ∧
      cs = dss.flatten := by
  obtain ⟨allowed, hallowed, h⟩ := bind_eq_ok_iff.1 h
  rw [Memory.addressesAt_eq_ok_iff] at hallowed
  cases role with
  | client =>
    cases h
    exact ⟨[_], .cons hallowed .nil, by simp⟩
  | server =>
    obtain ⟨extra, hextra, h⟩ := bind_eq_ok_iff.1 h
    rw [Memory.addressesAt_eq_ok_iff] at hextra
    cases h
    exact ⟨[allowed, extra], .cons hallowed (.cons hextra .nil), by simp⟩

theorem allowedIps_agree {cs : List Cidr} (h : p.routes role = .ok cs) :
    Routes ((sectionOf role p).value? "AllowedIPs") cs := by
  have field : ("AllowedIPs", Source.list (routedLists role p)) ∈ peerFields role p := by
    cases role <;> simp [peerFields, routedLists]
  obtain ⟨dss, hdss, rfl⟩ := of_routes h
  obtain ⟨ds, parsed, perm, sorted, empty⟩ := Cidr.parseList_join hdss
  have nil : ds = [] ↔ dss.flatten = [] := by
    rw [← List.length_eq_zero_iff, perm.length_eq, List.length_eq_zero_iff]
  rw [value?_sectionOf field]
  by_cases given : (Source.list (routedLists role p)).IsGiven
  · rw [if_pos given]
    rw [Source.isGiven_list_iff, Ne, empty, nil] at given
    exact .inr ⟨_, ds, rfl, given, parsed, perm, sorted⟩
  · rw [if_neg given]
    rw [Source.isGiven_list_iff, not_not, empty, nil] at given
    exact .inl ⟨rfl, given⟩

theorem value?_endpoint : (sectionOf role p).value? "Endpoint" =
    if role = .client then nonBlank? p.endpoint.value else none := by
  cases role with
  | client =>
    have field : ("Endpoint", Source.text p.endpoint.value) ∈ peerFields .client p := by
      simp [peerFields]
    rw [value?_sectionOf field, if_pos rfl]
    exact written_text _
  | server => exact lookup_entries_of_not_mem (by simp [peerFields])

theorem keepalive_agrees : Option.Rel (fun t n => ∃ m : Nat, t = toString m ∧ n.toNat = min m 65535)
    ((sectionOf role p).value? "PersistentKeepalive")
    (Peer.keepaliveInterval p.keepalive.value) := by
  have field : ("PersistentKeepalive", Source.number p.keepalive.value.toNat) ∈
      peerFields role p := by simp [peerFields]
  rw [value?_sectionOf field, Peer.keepaliveInterval]
  by_cases off : p.keepalive.value = 0
  · simp [off, Source.IsGiven]
  · have given : (Source.number p.keepalive.value.toNat).IsGiven := by
      simpa [Source.IsGiven, ← UInt32.toNat_inj] using off
    rw [if_pos given, if_neg off]
    refine .some ⟨_, rfl, ?_⟩
    simp

end

/-- The section of a peer that is not disabled agrees with the change for it, wherever the peer
stands among the peers of the file. -/
theorem section_agrees_with_change (lookUp : String → Option Endpoint) (version : String)
    (i : Interface) (before behind : List Peer) {p : Peer} {c : PeerChange}
    (enabled : p.isDisabled = false) (one : ∀ t ∈ peerTexts i.role p, OneLine t)
    (asked : p.changeBy lookUp i.role = .ok c) :
    ∃ own s, interfaceFile version i (before ++ p :: behind) =
        interfaceFile version i before ++ own ++ unlines (behind.flatMap (peerSection i.role)) ∧
      read own = some [s] ∧ Agrees lookUp i.role p s c := by
  obtain ⟨asks, endpoint⟩ := Peer.of_changeBy asked
  refine ⟨unlines (peerSection i.role p), sectionOf i.role p, ?_, ?_, ?_⟩
  · simp [interfaceFile, interfaceLines, unlines_append, String.append_assoc]
  · exact (showSections_peer enabled one).read_unlines
  · have presented := (keyed_peerFields i.role p).presents "Peer"
    constructor
    · rfl
    · exact presented.once
    · have field : ("PublicKey", Source.given p.keys.publicKey) ∈ peerFields i.role p := by
        simp [peerFields]
      exact ⟨_, value?_sectionOf field, asks.publicKey⟩
    · exact presharedKey_agrees asks.presharedKey
    · exact allowedIps_agree asks.allowedIps
    · exact value?_endpoint
    · rw [endpoint, value?_endpoint]
      split <;> rfl
    · rw [asks.keepalive]
      exact keepalive_agrees

def branch : Interface := { id := ⟨"wg1"⟩, role := .client }

/-- The remote end of the client, with all that its section can say. -/
def hub : Peer where
  id := ⟨"hub"⟩
  keys := { publicKey := "AAAAAAAAAAAAAAAAAAAAAAAAAAAAAAAAAAAAAAAAAAA=" }
  presharedKey := some " DQ0NDQ0NDQ0NDQ0NDQ0NDQ0NDQ0NDQ0NDQ0NDQ0NDQ0= "
  allowedIps := .inherited "10.1.0.0/16, ,fd00::/8,10.0.0.2/32"
  endpoint := .inherited " 192.0.2.1:51820"
  keepalive := .inherited 70000

theorem section_agrees_with_change_hub : ∃ c, hub.isDisabled = false ∧
    (∀ t ∈ peerTexts branch.role hub, OneLine t) ∧
    hub.changeBy Endpoint.ofText? branch.role = .ok c ∧
    ∃ own s, interfaceFile "test" branch ([laptop] ++ hub :: []) =
        interfaceFile "test" branch [laptop] ++ own ++
          unlines ([].flatMap (peerSection branch.role)) ∧
      read own = some [s] ∧ Agrees Endpoint.ofText? branch.role hub s c := by
  have exists_ok {r : Except KeeperError PeerChange} (h : r.isOk = true) : ∃ c, r = .ok c := by
    cases r with
    | ok c => exact ⟨c, rfl⟩
    | error e => contradiction
  have one : ∀ t ∈ peerTexts branch.role hub, OneLine t := by decide
  have accepted : (hub.changeBy Endpoint.ofText? branch.role).isOk = true := by decide +kernel
  obtain ⟨c, asked⟩ := exists_ok accepted
  have agrees := section_agrees_with_change Endpoint.ofText? "test" branch [laptop] []
    (p := hub) rfl one asked
  exact ⟨c, rfl, one, asked, agrees⟩

end TunnelKeeper.ConfigFile
