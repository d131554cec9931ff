import Mathlib.Data.List.Forall2
import TunnelKeeper.Proofs.ConfigFile.Fields

/-!
# Files are read back

Where no text of the records has a line feed, the file of an interface is read as one section for
the interface and one for each enabled peer, in order, and the file of a peer as one section for
either end of its tunnel. Each section presents its fields. Values are read exactly as they were
written, without the blank characters that stand around a text.
-/
namespace TunnelKeeper.ConfigFile
open TunnelKeeper Text

def fieldTexts (fields : List Field) : List String := fields.flatMap (·.2.texts)

/-- The texts that the section of an interface is written from, comments included. -/
def interfaceTexts (i : Interface) : List String :=
  [i.id.text, i.displayName, i.keys.publicKey] ++ fieldTexts (interfaceFields i)

def peerTexts (role : Role) (p : Peer) : List String :=
  [p.id.text, p.displayName] ++ fieldTexts (peerFields role p)

def tunnelTexts (p : Peer) : List String :=
  [p.id.text, p.displayName, p.keys.publicKey, p.tunnel.interfaceId.text] ++
    fieldTexts (tunnelFields p) ++ fieldTexts (remoteFields p)

theorem oneLine_title {name identifier : String} (hname : OneLine name)
    (hidentifier : OneLine identifier) : OneLine (title name identifier) := by
  unfold title
  cases h : nonBlank? name with
  | none => exact hidentifier
  | some t =>
    rw [eq_trim_of_nonBlank? h]
    exact hname.trim

theorem showSettings_comment {s : String} (h : OneLine s) : ShowSettings ["# " ++ s] [] :=
  .skipped (OneLine.append (by decide) h) (Line.ofText_comment s)

theorem showSettings_publicKey {publicKey : String} (h : OneLine publicKey) :
    ShowSettings (setting "# PublicKey" publicKey) [] := by
  rw [publicKey_comment]
  cases key : nonBlank? publicKey with
  | none => exact .nil
  | some t =>
    have one : OneLine t := by
      rw [eq_trim_of_nonBlank? key]
      exact h.trim
    exact showSettings_comment (OneLine.append (by decide) one)

variable {fields : List Field} {version name publicKey : String}

theorem showSettings_table (keyed : Keyed fields) (one : ∀ t ∈ fieldTexts fields, OneLine t) :
    ShowSettings (fields.flatMap Field.lines) (entries fields) :=
  showSettings_fields keyed.keys fun _ hf _ ht => one _ (List.mem_flatMap_of_mem hf ht)

theorem showSections_own (keyed : Keyed fields) (hversion : OneLine version) (hname : OneLine name)
    (hkey : OneLine publicKey) (one : ∀ t ∈ fieldTexts fields, OneLine t) :
    ShowSections (ownSection version name publicKey fields) [⟨"Interface", entries fields⟩] := by
  have preamble : ShowSettings ["# Generated by wgportal " ++ version, "# " ++ name] [] := by
    rw [generated_comment]
    exact (showSettings_comment (OneLine.append (by decide) hversion)).append
      (showSettings_comment hname)
  have body := (showSettings_publicKey hkey).append (showSettings_table keyed one)
  exact (ShowSections.of_comments preamble).append (.heading (by decide) (by decide) body)

theorem showSections_other (keyed : Keyed fields) (hname : OneLine name)
    (one : ∀ t ∈ fieldTexts fields, OneLine t) :
    ShowSections (otherSection name fields) [⟨"Peer", entries fields⟩] := by
  have preamble : ShowSettings ["", "# " ++ name] [] :=
    (ShowSettings.skipped (by decide) (by decide)).append (showSettings_comment hname)
  have body := showSettings_table keyed one
  exact (ShowSections.of_comments preamble).append (.heading (by decide) (by decide) body)

/-- A disabled peer is mentioned in a comment. -/
theorem showSections_disabled (role : Role) {p : Peer} (disabled : p.isDisabled = true)
    (hname : OneLine (title p.displayName p.id.text)) : ShowSections (peerSection role p) [] := by
  rw [peerSection, if_pos disabled, disabled_comment]
  have one := (OneLine.append (s := "[Peer] ") (by decide) hname).append (t := " is disabled")
    (by decide)
  exact .of_comments ((ShowSettings.skipped (by decide) (by decide)).append
    (showSettings_comment one))

def sectionOf (role : Role) (p : Peer) : Section := ⟨"Peer", entries (peerFields role p)⟩

theorem oneLine_of_peerTexts {role : Role} {p : Peer} (one : ∀ t ∈ peerTexts role p, OneLine t) :
    OneLine (title p.displayName p.id.text) ∧ ∀ t ∈ fieldTexts (peerFields role p), OneLine t := by
  rw [peerTexts, List.forall_mem_append, List.forall_mem_cons, List.forall_mem_singleton] at one
  exact ⟨oneLine_title one.1.2 one.1.1, one.2⟩

theorem showSections_peer {role : Role} {p : Peer} (enabled : p.isDisabled = false)
    (one : ∀ t ∈ peerTexts role p, OneLine t) :
    ShowSections (peerSection role p) [sectionOf role p] := by
  obtain ⟨name, fields⟩ := oneLine_of_peerTexts one
  rw [peerSection_eq role enabled]
  exact showSections_other (keyed_peerFields role p) name fields

theorem showSections_peers {role : Role} {peers : List Peer}
    (one : ∀ p ∈ peers, ∀ t ∈ peerTexts role p, OneLine t) :
    ShowSections (peers.flatMap (peerSection role))
      ((peers.filter fun p => !p.isDisabled).map (sectionOf role)) := by
  induction peers with
  | nil => exact .nil
  | cons p peers ih =>
    rw [List.forall_mem_cons] at one
    have rest := ih one.2
    cases state : p.isDisabled with
    | false =>
      have kept : (p :: peers).filter (fun p => !p.isDisabled) =
          p :: peers.filter fun p => !p.isDisabled := List.filter_cons_of_pos (by simp [state])
      rw [kept]
      exact (showSections_peer state one.1).append rest
    | true =>
      have left : (p :: peers).filter (fun p => !p.isDisabled) =
          peers.filter fun p => !p.isDisabled := List.filter_cons_of_neg (by simp [state])
      rw [left]
      exact (showSections_disabled role state (oneLine_of_peerTexts one.1).1).append rest

theorem showSections_interfaceLines {i : Interface} {peers : List Peer}
    (hversion : OneLine version) (own : ∀ t ∈ interfaceTexts i, OneLine t)
    (others : ∀ p ∈ peers, ∀ t ∈ peerTexts i.role p, OneLine t) :
    ShowSections (interfaceLines version i peers) (⟨"Interface", entries (interfaceFields i)⟩ ::
      (peers.filter fun p => !p.isDisabled).map (sectionOf i.role)) := by
  simp only [interfaceTexts, List.forall_mem_append, List.forall_mem_cons] at own
  obtain ⟨⟨id, name, key, -⟩, fields⟩ := own
  have own := showSections_own (keyed_interfaceFields i) hversion (oneLine_title name id) key fields
  rw [interfaceLines, interfaceSection_eq]
  exact own.append (showSections_peers others)

theorem showSections_peerLines {p : Peer} (hversion : OneLine version)
    (one : ∀ t ∈ tunnelTexts p, OneLine t) : ShowSections (peerLines version p)
      [⟨"Interface", entries (tunnelFields p)⟩, ⟨"Peer", entries (remoteFields p)⟩] := by
  simp only [tunnelTexts, List.forall_mem_append, List.forall_mem_cons] at one
  obtain ⟨⟨⟨id, name, key, remote, -⟩, own⟩, other⟩ := one
  have own := showSections_own (keyed_tunnelFields p) hversion (oneLine_title name id) key own
  rw [peerLines, tunnelSection_eq, remoteSection_eq]
  exact own.append (showSections_other (keyed_remoteFields p) remote other)

/-- Either file is read as one section for each end of a tunnel, and each section presents its
fields. -/
theorem files_read_back (version : String) (hversion : OneLine version) :
    (∀ (i : Interface) (peers : List Peer), (∀ t ∈ interfaceTexts i, OneLine t) →
      (∀ p ∈ peers, ∀ t ∈ peerTexts i.role p, OneLine t) →
      ∃ own others, read (interfaceFile version i peers) = some (own :: others) ∧
        own.Presents "Interface" (interfaceFields i) ∧
        List.Forall₂ (fun p other => other.Presents "Peer" (peerFields i.role p))
          (peers.filter fun p => !p.isDisabled) others) ∧
    ∀ p : Peer, (∀ t ∈ tunnelTexts p, OneLine t) →
      ∃ own other, read (peerFile version p) = some [own, other] ∧
        own.Presents "Interface" (tunnelFields p) ∧ other.Presents "Peer" (remoteFields p) := by
  constructor
  · intro i peers own others
    have read := (showSections_interfaceLines hversion own others).read_unlines
    refine ⟨_, _, read, (keyed_interfaceFields i).presents _, ?_⟩
    apply List.forall₂_map_right_iff.2
    exact List.forall₂_same.2 fun p _ => (keyed_peerFields i.role p).presents _
  · intro p one
    have read := (showSections_peerLines hversion one).read_unlines
    exact ⟨_, _, read, (keyed_tunnelFields p).presents _, (keyed_remoteFields p).presents _⟩

def office : Interface where
  id := ⟨"wg0"⟩
  displayName := "Office"
  keys := { privateKey := "server-priv", publicKey := "server-pub" }
  addresses := "10.0.0.1/24,fd00::1/64"
  listenPort := 51820

def phone : Peer where
  id := ⟨"phone-pub"⟩
  displayName := "phone"
  keys := { privateKey := "phone-priv", publicKey := "phone-pub" }
  allowedIps := .inherited "10.0.0.2/32"
  extraAllowedIps := " 192.168.50.0/24 ,"
  endpoint := .inherited "vpn.example.com:51820"
  keepalive := .inherited 25
  tunnel := { interfaceId := ⟨"wg0"⟩, publicKey := "server-pub", dns := .inherited "1.1.1.1" }

def laptop : Peer := { phone with displayName := "[Peer]", disabledAt := some .epoch }

theorem files_read_back_office : OneLine "test" ∧
    (∀ t ∈ interfaceTexts office, OneLine t) ∧
    (∀ p ∈ [laptop, phone], ∀ t ∈ peerTexts office.role p, OneLine t) ∧
    (∃ own others, read (interfaceFile "test" office [laptop, phone]) = some (own :: others) ∧
      own.Presents "Interface" (interfaceFields office) ∧
      List.Forall₂ (fun p other => other.Presents "Peer" (peerFields office.role p))
        ([laptop, phone].filter fun p => !p.isDisabled) others) ∧
    (∀ t ∈ tunnelTexts phone, OneLine t) ∧
    ∃ own other, read (peerFile "test" phone) = some [own, other] ∧
      own.Presents "Interface" (tunnelFields phone) ∧
      other.Presents "Peer" (remoteFields phone) := by
  have own : ∀ t ∈ interfaceTexts office, OneLine t := by decide
  have others : ∀ p ∈ [laptop, phone], ∀ t ∈ peerTexts office.role p, OneLine t := by decide
  have tunnel : ∀ t ∈ tunnelTexts phone, OneLine t := by decide
  obtain ⟨interface, peer⟩ := files_read_back "test" (by decide)
  exact ⟨by decide, own, others, interface office _ own others, tunnel, peer phone tunnel⟩

end TunnelKeeper.ConfigFile
