import TunnelKeeper.Model.Codec
import TunnelKeeper.Proofs.Json.Members
import TunnelKeeper.Proofs.Time.Text

/-!
# Records read back

The form of every kind of record is faithful: names are not repeated, every member is read by the
reader that belongs to its form, and what is left out is what its default stands for. Hence every
record is read back from the text that it is written as.
-/
namespace TunnelKeeper
open Json

theorem faithful_uint16 : Faithful jsonOfUInt16 uint16? :=
  faithful_number (fun n => Nat.le_of_lt_succ n.toNat_lt) fun _ => UInt16.ofNat_toNat

theorem faithful_uint32 : Faithful jsonOfUInt32 uint32? :=
  faithful_number (fun n => Nat.le_of_lt_succ n.toNat_lt) fun _ => UInt32.ofNat_toNat

theorem faithful_uint64 : Faithful jsonOfUInt64 uint64? :=
  faithful_number (fun n => Nat.le_of_lt_succ n.toNat_lt) fun _ => UInt64.ofNat_toNat

theorem Id.faithful {kind : IdKind} : Faithful (@Id.toJson kind) Id.ofJson? :=
  ⟨fun i => .text i.text, fun _ => rfl⟩

theorem Instant.faithful : Faithful Instant.toJson Instant.ofJson? :=
  ⟨fun i => .text i.text, fun i => (Option.bind_some ..).trans i.ofText?_text⟩

theorem Role.faithful : Faithful Role.toJson Role.ofJson? where
  plain r := .text r.text
  read r := by cases r <;> simp only [toJson, Role.text, ofJson?, Json.text, alternative?]

theorem faithful_optionalText : Faithful (.optional text) (optional? string?) :=
  faithful_text.optional text_ne_null

theorem Id.faithful_optional {kind : IdKind} :
    Faithful (.optional (@Id.toJson kind)) (optional? Id.ofJson?) :=
  Id.faithful.optional fun i => text_ne_null i.text

theorem Instant.faithful_optional :
    Faithful (.optional Instant.toJson) (optional? Instant.ofJson?) :=
  Instant.faithful.optional fun i => text_ne_null i.text

theorem Setting.faithful {α : Type} {value : α → Json} {decode : Json → Option α}
    (h : Faithful value decode) : Faithful (Setting.toJson value) (Setting.ofJson? decode) where
  plain s := by
    cases s <;> exact plain_record (by simp [Plain.text, h.plain])
  read s := by
    cases s
    all_goals
      apply fullMembers?_bind (by simp) (by simp)
      intro found
      simp only [Members.require, found 0 rfl, found 1 rfl, h.read, Option.bind_some]
      rfl

theorem faithful_textSetting : Faithful textSettingToJson textSettingOfJson? :=
  Setting.faithful faithful_text

theorem faithful_numberSetting : Faithful numberSettingToJson numberSettingOfJson? :=
  Setting.faithful faithful_uint32

theorem KeyPair.faithful : Faithful KeyPair.toJson KeyPair.ofJson? where
  plain k := plain_record (by simp [Plain.text])
  read k := by
    apply fullMembers?_bind (by simp [names]) (by simp)
    intro found
    simp only [Members.require, found 0 rfl, found 1 rfl]
    rfl

theorem PeerDefaults.faithful : Faithful PeerDefaults.toJson PeerDefaults.ofJson? where
  plain d := plain_record (by simp [Hooks.members, Plain.text, faithful_uint32.plain])
  read d := by
    apply members?_bind (by simp [names, Hooks.names, Hooks.members]) (by simp [Hooks.members])
    intro found
    simp only [Members.read, Hooks.read, found 0 rfl, found 1 rfl, found 2 rfl, found 3 rfl,
      found 4 rfl, found 5 rfl, found 6 rfl, found 7 rfl, found 8 rfl, found 9 rfl, found 10 rfl,
      found 11 rfl, faithful_text.read, faithful_uint32.read]
    rfl

theorem Interface.faithful : Faithful Interface.toJson Interface.ofJson? where
  plain i := by
    apply plain_record
    simp [Hooks.members, Plain.text, faithful_uint16.plain, faithful_uint32.plain,
      Id.faithful.plain, Role.faithful.plain, Instant.faithful_optional.plain,
      KeyPair.faithful.plain, PeerDefaults.faithful.plain]
  read i := by
    apply members?_bind (by simp [names, Hooks.names, Hooks.members]) (by simp [Hooks.members])
    intro found
    simp only [Members.read, Hooks.read, found 0 rfl, found 1 rfl, found 2 rfl, found 3 rfl,
      found 4 rfl, found 5 rfl, found 6 rfl, found 7 rfl, found 8 rfl, found 9 rfl, found 10 rfl,
      found 11 rfl, found 12 rfl, found 13 rfl, found 14 rfl, found 15 rfl, found 16 rfl,
      found 17 rfl, faithful_text.read, faithful_uint16.read, faithful_uint32.read,
      Id.faithful.read, Role.faithful.read, Instant.faithful_optional.read, KeyPair.faithful.read,
      PeerDefaults.faithful.read]
    rfl

theorem TunnelSettings.faithful : Faithful TunnelSettings.toJson TunnelSettings.ofJson? where
  plain t := by
    apply plain_record
    simp [Hooks.members, Plain.text, Id.faithful.plain, Role.faithful.plain,
      faithful_textSetting.plain, faithful_numberSetting.plain]
  read t := by
    apply members?_bind (by simp [names, Hooks.names, Hooks.members]) (by simp [Hooks.members])
    intro found
    simp only [Members.read, Hooks.read, found 0 rfl, found 1 rfl, found 2 rfl, found 3 rfl,
      found 4 rfl, found 5 rfl, found 6 rfl, found 7 rfl, found 8 rfl, found 9 rfl, found 10 rfl,
      found 11 rfl, found 12 rfl, faithful_text.read, Id.faithful.read, Role.faithful.read,
      faithful_textSetting.read, faithful_numberSetting.read]
    rfl

theorem Peer.faithful : Faithful Peer.toJson Peer.ofJson? where
  plain p := by
    apply plain_record
    cases p.preparedAt
    all_goals
      simp [Plain.text, Id.faithful.plain, Id.faithful_optional.plain, faithful_optionalText.plain,
        faithful_textSetting.plain, faithful_numberSetting.plain, Instant.faithful.plain,
        Instant.faithful_optional.plain, KeyPair.faithful.plain, TunnelSettings.faithful.plain]
  read p := by
    obtain ⟨id, displayName, owner, endpoint, allowedIps, extraAllowedIps, keys, presharedKey,
      keepalive, preparedAt, disabledAt, tunnel⟩ := p
    cases preparedAt with
    | none =>
      -- The mark is left out, so its default is read and all later members stand one place earlier.
      apply members?_bind (by simp [names]) (by simp)
      intro found
      rw [Members.read_of_notMem "temporary" (by simp)]
      simp only [Members.read, found 0 rfl, found 1 rfl, found 2 rfl, found 3 rfl,
        found 4 rfl, found 5 rfl, found 6 rfl, found 7 rfl, found 8 rfl, found 9 rfl, found 10 rfl,
        faithful_text.read, Id.faithful.read, Id.faithful_optional.read,
        faithful_optionalText.read, faithful_textSetting.read, faithful_numberSetting.read,
        Instant.faithful_optional.read, KeyPair.faithful.read, TunnelSettings.faithful.read]
      rfl
    | some i =>
      have marked := Instant.faithful.optional?_eq (text_ne_null i.text)
      apply members?_bind (by simp [names]) (by simp)
      intro found
      simp only [Members.read, found 0 rfl, found 1 rfl, found 2 rfl, found 3 rfl, found 4 rfl,
        found 5 rfl, found 6 rfl, found 7 rfl, found 8 rfl, found 9 rfl, found 10 rfl, found 11 rfl,
        faithful_text.read, Id.faithful.read, Id.faithful_optional.read,
        faithful_optionalText.read, faithful_textSetting.read, faithful_numberSetting.read,
        marked, Instant.faithful_optional.read, KeyPair.faithful.read,
        TunnelSettings.faithful.read]
      rfl

theorem ImportCandidate.faithful : Faithful ImportCandidate.toJson ImportCandidate.ofJson? where
  plain c := by
    apply plain_record
    simp [Plain.text, Interface.faithful.plain, Peer.faithful.list.plain]
  read c := by
    apply fullMembers?_bind (by simp [names]) (by simp)
    intro found
    simp only [Members.require, found 0 rfl, found 1 rfl, found 2 rfl, found 3 rfl,
      Option.bind_some, faithful_text.read, Interface.faithful.read, Peer.faithful.list.read]
    rfl

theorem PeerStats.faithful : Faithful PeerStats.toJson PeerStats.ofJson? where
  plain s := by
    apply plain_record
    simp [Plain.bool, Id.faithful.plain, faithful_uint64.plain, faithful_optionalText.plain,
      Instant.faithful.plain, Instant.faithful_optional.plain]
  read s := by
    apply fullMembers?_bind (by simp [names]) (by simp)
    intro found
    simp only [Members.read, Members.require, found 0 rfl, found 1 rfl, found 2 rfl, found 3 rfl,
      found 4 rfl, found 5 rfl, found 6 rfl, Option.bind_some, faithful_bool.read,
      Id.faithful.read, faithful_uint64.read, faithful_optionalText.read, Instant.faithful.read,
      Instant.faithful_optional.read]
    rfl

theorem InterfaceStats.faithful : Faithful InterfaceStats.toJson InterfaceStats.ofJson? where
  plain s := by
    apply plain_record
    simp [Id.faithful.plain, faithful_uint64.plain, Instant.faithful.plain]
  read s := by
    apply fullMembers?_bind (by simp [names]) (by simp)
    intro found
    simp only [Members.require, found 0 rfl, found 1 rfl, found 2 rfl, found 3 rfl, found 4 rfl,
      Option.bind_some, Id.faithful.read, faithful_uint64.read, Instant.faithful.read]
    rfl

/-- Records of every kind are read back from the texts that they are written as. -/
theorem records_read_back :
    Survives Interface.toJson Interface.ofJson? ∧ Survives Peer.toJson Peer.ofJson? ∧
      Survives PeerDefaults.toJson PeerDefaults.ofJson? ∧
      Survives TunnelSettings.toJson TunnelSettings.ofJson? ∧
      Survives ImportCandidate.toJson ImportCandidate.ofJson? ∧
      Survives KeyPair.toJson KeyPair.ofJson? ∧ Survives PeerStats.toJson PeerStats.ofJson? ∧
      Survives InterfaceStats.toJson InterfaceStats.ofJson? ∧
      Survives textSettingToJson textSettingOfJson? ∧
      Survives numberSettingToJson numberSettingOfJson? :=
  ⟨Interface.faithful.survives, Peer.faithful.survives, PeerDefaults.faithful.survives,
    TunnelSettings.faithful.survives, ImportCandidate.faithful.survives, KeyPair.faithful.survives,
    PeerStats.faithful.survives, InterfaceStats.faithful.survives, faithful_textSetting.survives,
    faithful_numberSetting.survives⟩

end TunnelKeeper
