import Mathlib.Data.List.Nodup
import TunnelKeeper.Proofs.ConfigFile.Reading

/-!
# What files tell

Every setting of a file has a source in the records: a text, some lists that are written as one, or
a number. A section presents its sources when it has a setting for each source that gives something,
with what the source says, and no others.
-/
namespace TunnelKeeper.ConfigFile
open TunnelKeeper Text

inductive Source where
  | text (s : String)
  | list (lists : List String)
  | number (n : Nat)
  /-- A text that is written even if it is blank. -/
  | given (s : String)

namespace Source

def IsGiven : Source → Prop
  | .text s => ∃ c ∈ s.toList, isBlank c = false
  | .list lists => ∃ l ∈ lists, ∃ w ∈ l.toList.splitOn ',', ∃ c ∈ w, isBlank c = false
  | .number n => n ≠ 0
  | .given _ => True

instance : DecidablePred IsGiven
  | .text s => decidable_of_iff (s.toList.any (! isBlank ·) = true) (by simp [IsGiven])
  | .list lists => decidable_of_iff
      (lists.any (fun l => (l.toList.splitOn ',').any fun w => w.any (! isBlank ·)) = true)
      (by simp [IsGiven])
  | .number n => inferInstanceAs (Decidable (n ≠ 0))
  | .given _ => inferInstanceAs (Decidable True)

def value : Source → String
  | .text s => trim s
  | .list lists => ", ".intercalate (lists.flatMap listElements)
  | .number n => toString n
  | .given s => s

def texts : Source → List String
  | .text s => [s]
  | .list lists => lists
  | .number _ => []
  | .given s => [s]

theorem isGiven_text_iff {s : String} : (text s).IsGiven ↔ nonBlank? s ≠ none := by
  rw [Ne, nonBlank?_eq_none_iff]
  simp [IsGiven]

theorem isGiven_list_iff {lists : List String} :
    (list lists).IsGiven ↔ lists.flatMap listElements ≠ [] := by
  rw [Ne, List.flatMap_eq_nil_iff]
  simp [IsGiven, listElements_eq_nil_iff]

theorem oneLine_value {source : Source} (h : ∀ t ∈ source.texts, OneLine t) :
    OneLine source.value := by
  cases source with
  | text s => exact (h s List.mem_cons_self).trim
  | list lists =>
    apply oneLine_join
    intro w hw
    obtain ⟨l, hl, hw⟩ := List.mem_flatMap.1 hw
    exact (h l hl).of_subset (of_mem_listElements hw).2
  | number n => exact oneLine_toString n
  | given s => exact h s List.mem_cons_self

end Source

abbrev Field := String × Source

namespace Field

def lines : Field → List String
  | (key, .text s) => ConfigFile.setting key s
  | (key, .list lists) => ConfigFile.setting key (merged lists)
  | (key, .number n) => ConfigFile.number key n
  | (key, .given s) => [key ++ " = " ++ s]

theorem lines_eq (f : Field) :
    f.lines = if f.2.IsGiven then [f.1 ++ " = " ++ f.2.value] else [] := by
  obtain ⟨key, s | lists | n | s⟩ := f
  · cases h : nonBlank? s with
    | none => simp [lines, setting, Source.isGiven_text_iff, h]
    | some t =>
      have same := eq_trim_of_nonBlank? h
      simp [lines, setting, Source.isGiven_text_iff, h, Source.value, same]
  · by_cases empty : lists.flatMap listElements = []
    · have none : nonBlank? "" = none := rfl
      simp [lines, setting, merged, Source.isGiven_list_iff, empty, none]
    · have whole := nonBlank?_join empty isElement_of_mem_lists
      simp [lines, setting, merged, whole, Source.isGiven_list_iff, empty, Source.value]
  · by_cases zero : n = 0 <;> simp [lines, number, Source.IsGiven, zero, Source.value]
  · simp [lines, Source.IsGiven, Source.value]

def entry (f : Field) : String × String := (f.1, f.2.value)

end Field

/-- Whether the keys can be told apart. -/
structure Keyed (fields : List Field) : Prop where
  distinct : (fields.map Prod.fst).Nodup
  keys : ∀ f ∈ fields, IsKey f.1

def entries (fields : List Field) : List (String × String) :=
  (fields.filter (·.2.IsGiven)).map Field.entry

variable {fields : List Field}

theorem showSettings_fields (keys : ∀ f ∈ fields, IsKey f.1)
    (one : ∀ f ∈ fields, ∀ t ∈ f.2.texts, OneLine t) :
    ShowSettings (fields.flatMap Field.lines) (entries fields) := by
  induction fields with
  | nil => exact .nil
  | cons f fields ih =>
    rw [List.forall_mem_cons] at keys one
    have rest := ih keys.2 one.2
    rw [List.flatMap_cons, Field.lines_eq]
    by_cases given : f.2.IsGiven
    · rw [entries, List.filter_cons_of_pos (by simpa using given), if_pos given]
      exact (ShowSettings.setting keys.1 (Source.oneLine_value one.1)).append rest
    · rw [entries, List.filter_cons_of_neg (by simpa using given), if_neg given]
      exact rest

theorem mem_entries_iff {key value : String} : (key, value) ∈ entries fields ↔
    ∃ source, (key, source) ∈ fields ∧ source.IsGiven ∧ value = source.value := by
  simp only [entries, List.mem_map, List.mem_filter, Field.entry, Prod.mk.injEq, Prod.exists,
    decide_eq_true_eq]
  constructor
  · rintro ⟨_, source, ⟨h, given⟩, rfl, rfl⟩
    exact ⟨source, h, given, rfl⟩
  · rintro ⟨source, h, given, rfl⟩
    exact ⟨key, source, ⟨h, given⟩, rfl, rfl⟩

/-- Whether a section has the given name, and a setting for each field that gives something. -/
structure Section.Presents (s : Section) (name : String) (fields : List Field) : Prop where
  name : s.name = name
  once : (s.settings.map Prod.fst).Nodup
  occurs : ∀ key, key ∈ s.settings.map Prod.fst ↔ ∃ source, (key, source) ∈ fields ∧ source.IsGiven
  values : ∀ key value, (key, value) ∈ s.settings →
    ∀ source, (key, source) ∈ fields → value = source.value

theorem Keyed.presents (h : Keyed fields) (name : String) :
    (⟨name, entries fields⟩ : Section).Presents name fields where
  name := rfl
  once := by
    have keys : (entries fields).map Prod.fst = (fields.filter (·.2.IsGiven)).map Prod.fst := by
      rw [entries, List.map_map]
      rfl
    rw [keys]
    exact h.distinct.sublist (List.filter_sublist.map _)
  occurs key := by
    simp [mem_entries_iff]
  values key value hvalue source hsource := by
    obtain ⟨source', hsource', -, rfl⟩ := mem_entries_iff.1 hvalue
    have same := List.inj_on_of_nodup_map h.distinct hsource' hsource rfl
    cases same
    rfl

/-- The hooks of an interface, which are run as shell commands. -/
def hookFields (h : Hooks String) : List Field :=
  [("PreUp", .text h.preUp), ("PostUp", .text h.postUp), ("PreDown", .text h.preDown),
    ("PostDown", .text h.postDown)]

def interfaceFields (i : Interface) : List Field :=
  [("PrivateKey", .text i.keys.privateKey), ("Address", .list [i.addresses]),
    ("ListenPort", .number i.listenPort.toNat), ("MTU", .number i.mtu.toNat),
    ("DNS", .list [i.dns, i.dnsSearch]), ("FwMark", .number i.firewallMark.toNat),
    ("Table", .text i.routingTable)] ++ hookFields i.hooks

/-- A server routes further addresses to the peer; a client knows where the peer is. -/
def peerFields (role : Role) (p : Peer) : List Field :=
  [("PublicKey", .given p.keys.publicKey), ("PresharedKey", .text (p.presharedKey.getD ""))] ++
    (match role with
    | .server => [("AllowedIPs", .list [p.allowedIps.value, p.extraAllowedIps])]
    | .client =>
      [("AllowedIPs", .list [p.allowedIps.value]), ("Endpoint", .text p.endpoint.value)]) ++
    [("PersistentKeepalive", .number p.keepalive.value.toNat)]

def tunnelFields (p : Peer) : List Field :=
  let t := p.tunnel
  [("PrivateKey", .text p.keys.privateKey), ("Address", .list [t.addresses.value]),
    ("DNS", .list [t.dns.value, t.dnsSearch.value]), ("MTU", .number t.mtu.value.toNat),
    ("FwMark", .number t.firewallMark.value.toNat), ("Table", .text t.routingTable.value)] ++
    hookFields ⟨t.hooks.preUp.value, t.hooks.postUp.value, t.hooks.preDown.value,
      t.hooks.postDown.value⟩

/-- The interface, as the peer's own file has it. -/
def remoteFields (p : Peer) : List Field :=
  [("PublicKey", .given p.tunnel.publicKey), ("PresharedKey", .text (p.presharedKey.getD "")),
    ("AllowedIPs", .list [p.allowedIps.value]), ("Endpoint", .text p.endpoint.value),
    ("PersistentKeepalive", .number p.keepalive.value.toNat)]

theorem keyed_interfaceFields (i : Interface) : Keyed (interfaceFields i) where
  distinct := by simp [interfaceFields, hookFields]
  keys := by
    simp only [interfaceFields, hookFields, List.cons_append, List.nil_append, List.forall_mem_cons]
    decide

theorem keyed_peerFields (role : Role) (p : Peer) : Keyed (peerFields role p) where
  distinct := by cases role <;> simp [peerFields]
  keys := by
    cases role <;>
      simp only [peerFields, List.cons_append, List.nil_append, List.forall_mem_cons] <;> decide

theorem keyed_tunnelFields (p : Peer) : Keyed (tunnelFields p) where
  distinct := by simp [tunnelFields, hookFields]
  keys := by
    simp only [tunnelFields, hookFields, List.cons_append, List.nil_append, List.forall_mem_cons]
    decide

theorem keyed_remoteFields (p : Peer) : Keyed (remoteFields p) where
  distinct := by simp [remoteFields]
  keys := by
    simp only [remoteFields, List.forall_mem_cons]
    decide

def ownSection (version name publicKey : String) (fields : List Field) : List String :=
  ["# Generated by wgportal " ++ version, "# " ++ name] ++
    "[Interface]" :: (setting "# PublicKey" publicKey ++ fields.flatMap Field.lines)

def otherSection (name : String) (fields : List Field) : List String :=
  ["", "# " ++ name] ++ "[Peer]" :: fields.flatMap Field.lines

theorem generated_comment (version : String) : "# Generated by wgportal " ++ version =
    "# " ++ ("Generated by wgportal " ++ version) := by
  rw [← String.append_assoc]
  rfl

/-- The public key of the own end stands in a comment. -/
theorem publicKey_comment (publicKey : String) : setting "# PublicKey" publicKey =
    ((nonBlank? publicKey).map fun key => "# " ++ ("PublicKey = " ++ key)).toList := by
  cases key : nonBlank? publicKey with
  | none => simp [setting, key]
  | some t => simp [setting, key, ← String.append_assoc]

theorem disabled_comment (name : String) : "# [Peer] " ++ name ++ " is disabled" =
    "# " ++ ("[Peer] " ++ name ++ " is disabled") := by
  simp only [← String.append_assoc]
  rfl

theorem interfaceSection_eq (version : String) (i : Interface) :
    interfaceSection version i = ownSection version (title i.displayName i.id.text)
      i.keys.publicKey (interfaceFields i) := by
  simp [interfaceSection, ownSection, heading, interfaceFields, hookFields, hooks, Field.lines]

theorem tunnelSection_eq (version : String) (p : Peer) :
    tunnelSection version p = ownSection version (title p.displayName p.id.text)
      p.keys.publicKey (tunnelFields p) := by
  simp [tunnelSection, ownSection, heading, tunnelFields, hookFields, hooks, Field.lines]

theorem peerSection_eq (role : Role) {p : Peer} (enabled : p.isDisabled = false) :
    peerSection role p = otherSection (title p.displayName p.id.text) (peerFields role p) := by
  cases role <;>
    simp [peerSection, enabled, otherSection, peerKeys, peerFields, routedLists, Field.lines]

theorem remoteSection_eq (p : Peer) :
    remoteSection p = otherSection p.tunnel.interfaceId.text (remoteFields p) := by
  simp [remoteSection, otherSection, peerKeys, remoteFields, Field.lines]

end TunnelKeeper.ConfigFile
