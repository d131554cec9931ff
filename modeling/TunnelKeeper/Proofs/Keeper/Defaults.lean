import TunnelKeeper.Proofs.Keeper.Repetition

/-!
# Applied defaults

A pass that applies the defaults of an interface renews each of its peers: an inherited setting
becomes the default, a chosen one stays, and the peer takes over what it keeps about the interface.
Everything else in memory and in the store is as it was, and the kernel is not asked. What a second
pass would do has been done already, so that it changes nothing even where it fails.
-/
namespace TunnelKeeper

/-- What becomes of a setting into which a default is pushed. -/
structure Setting.Follows {α : Type} (d : α) (before after : Setting α) : Prop where
  kept : before.isChosen = true → after = before
  renewed : before.isChosen = false → after = .inherited d

theorem Setting.follows_push {α : Type} (d : α) (x : Setting α) : x.Follows d (x.push d) := by
  cases x with
  | inherited v => exact ⟨nofun, fun _ => rfl⟩
  | chosen v => exact ⟨fun _ => rfl, nofun⟩

/-- What becomes of a peer when the defaults of its interface are applied. -/
structure Peer.Renewed (i : Interface) (before after : Peer) : Prop where
  endpoint : before.endpoint.Follows i.peerDefaults.endpoint after.endpoint
  allowedIps : before.allowedIps.Follows i.peerDefaults.allowedIps after.allowedIps
  keepalive : before.keepalive.Follows i.peerDefaults.keepalive after.keepalive
  dns : before.tunnel.dns.Follows i.peerDefaults.dns after.tunnel.dns
  dnsSearch : before.tunnel.dnsSearch.Follows i.peerDefaults.dnsSearch after.tunnel.dnsSearch
  mtu : before.tunnel.mtu.Follows i.peerDefaults.mtu after.tunnel.mtu
  firewallMark :
    before.tunnel.firewallMark.Follows i.peerDefaults.firewallMark after.tunnel.firewallMark
  routingTable :
    before.tunnel.routingTable.Follows i.peerDefaults.routingTable after.tunnel.routingTable
  preUp : before.tunnel.hooks.preUp.Follows i.peerDefaults.hooks.preUp after.tunnel.hooks.preUp
  postUp : before.tunnel.hooks.postUp.Follows i.peerDefaults.hooks.postUp after.tunnel.hooks.postUp
  preDown :
    before.tunnel.hooks.preDown.Follows i.peerDefaults.hooks.preDown after.tunnel.hooks.preDown
  postDown :
    before.tunnel.hooks.postDown.Follows i.peerDefaults.hooks.postDown after.tunnel.hooks.postDown
  interfaceId : after.tunnel.interfaceId = i.id
  role : after.tunnel.role = i.role
  publicKey : after.tunnel.publicKey = i.keys.publicKey
  /-- Everything else in the record, the addresses of the tunnel included. -/
  others : after =
    { before with
      endpoint := after.endpoint
      allowedIps := after.allowedIps
      keepalive := after.keepalive
      tunnel := { after.tunnel with addresses := before.tunnel.addresses } }

theorem Peer.renewed_applyDefaults (i : Interface) (p : Peer) :
    p.Renewed i (p.applyDefaults i) := by
  constructor <;> first | exact Setting.follows_push _ _ | rfl

namespace Keeper
open Effect Memory Store

section

variable {m : Memory} {id : InterfaceId} {i : Interface}

/-- The renewed peers stand where the old ones stood. -/
theorem peersOf_renewed (hm : m.Filed) (managed : m.interfaces.find? id = some i) :
    (m.addPeers i.id (renewedPeers m i id)).peersOf id =
      (m.peersOf id).map (Peer.applyDefaults i) := by
  have here := hm.interface managed
  ext k : 1
  rw [peersOf_addPeers, if_pos here.symm, here, Directory.find?_map]
  cases found : (m.peersOf id).find? k with
  | some p =>
    obtain ⟨rfl, -⟩ := hm.peer found
    have renewed : p.applyDefaults i ∈ renewedPeers m i id :=
      List.mem_map_of_mem (Directory.mem_records_iff.2 ⟨_, found⟩)
    refine Directory.find?_insertAll_of_mem (a := p.applyDefaults i) ?_ renewed
    exact fun _ hq same => eq_of_renewed hm hq renewed same
  | none =>
    cases after : ((m.peersOf id).insertAll (·.id) (renewedPeers m i id)).find? k with
    | none => rfl
    | some q =>
      rcases Directory.of_find?_insertAll after with ⟨hq, rfl⟩ | before
      · obtain ⟨p, hp, rfl⟩ := List.mem_map.1 hq
        exact nomatch (hm.of_mem_records hp).2.symm.trans found
      · exact nomatch before.symm.trans found

theorem find?_of_renewed (hm : m.Filed) (managed : m.interfaces.find? id = some i) {p : Peer}
    (hp : p ∈ renewedPeers m i id) :
    ((m.addPeers i.id (renewedPeers m i id)).peersOf i.id).find? p.id = some p := by
  obtain ⟨old, hold, rfl⟩ := List.mem_map.1 hp
  obtain rfl := hm.interface managed
  rw [peersOf_renewed hm managed, Directory.find?_map]
  change Option.map _ ((m.peersOf i.id).find? old.id) = _
  rw [(hm.of_mem_records hold).2, Option.map_some]

/-- The committed ones among the renewed peers are stored as they are filed. -/
theorem find?_saves_renewed (hm : m.Filed) (r : Records) {p : Peer}
    (hp : p ∈ renewedPeers m i id) (committed : p.isPrepared = false) :
    (Change.applyAll (saves (renewedPeers m i id)) r).peers.find? p.id = some p := by
  rw [applyAll_saves]
  refine Directory.find?_insertAll_of_mem (a := p) ?_ ?_
  · intro b hb same
    obtain ⟨q, hq, rfl⟩ := List.mem_map.1 hb
    obtain ⟨hq, unmarked⟩ := List.mem_filter.1 hq
    rw [Bool.not_eq_true'] at unmarked
    rw [unmarked_of_committed unmarked]
    exact eq_of_renewed hm hq hp same
  · refine List.mem_map.2 ⟨p, List.mem_filter.2 ⟨hp, ?_⟩, unmarked_of_committed committed⟩
    rw [committed]
    rfl

end

variable {s t : Keeper} {id : InterfaceId} {i : Interface}

/-- What a pass that applies the defaults of an interface makes of the keeper. -/
structure Renews (id : InterfaceId) (i : Interface) (s t : Keeper) : Prop where
  peers (k : PeerId) : Option.Rel (Peer.Renewed i) ((s.memory.peersOf id).find? k)
    ((t.memory.peersOf id).find? k)
  elsewhere {j : InterfaceId} : j ≠ id → t.memory.peersOf j = s.memory.peersOf j
  memory : t.memory = { s.memory with peers := t.memory.peers }
  stored {k : PeerId} {p : Peer} : (t.memory.peersOf id).find? k = some p →
    p.isPrepared = false → t.store.records.peers.find? k = some p
  notStored {k : PeerId} :
    (∀ p, (t.memory.peersOf id).find? k = some p → p.isPrepared = true) →
      t.store.records.peers.find? k = s.store.records.peers.find? k
  interfaces : t.store.records.interfaces = s.store.records.interfaces
  writes : t.store.writes =
    s.store.writes ++ (committedPeers s.memory id).map fun p => .savePeer p.id
  kernel : t.kernel = s.kernel

theorem renews_withPeers (hm : s.memory.Filed) (managed : s.memory.interfaces.find? id = some i) :
    Renews id i s (withPeers s i.id (renewedPeers s.memory i id)) := by
  have here := hm.interface managed
  have slot := peersOf_renewed hm managed
  have records : (withPeers s i.id (renewedPeers s.memory i id)).store.records =
      Change.applyAll (saves (renewedPeers s.memory i id)) s.store.records :=
    records_changedAll _ _
  constructor
  case peers =>
    intro k
    change Option.Rel _ _ (((s.memory.addPeers i.id _).peersOf id).find? k)
    rw [slot, Directory.find?_map]
    cases (s.memory.peersOf id).find? k with
    | none => exact .none
    | some p => exact .some (p.renewed_applyDefaults i)
  case elsewhere =>
    intro j hj
    change (s.memory.addPeers i.id _).peersOf j = _
    rw [peersOf_addPeers, if_neg (here ▸ hj)]
  case memory => exact addPeers_eq _ _ _
  case stored =>
    intro k p found committed
    change ((s.memory.addPeers i.id _).peersOf id).find? k = some p at found
    rw [slot, Directory.find?_map, Option.map_eq_some_iff] at found
    obtain ⟨old, hold, rfl⟩ := found
    obtain ⟨rfl, -⟩ := hm.peer hold
    rw [records]
    refine find?_saves_renewed hm _ (List.mem_map_of_mem ?_) committed
    exact Directory.mem_records_iff.2 ⟨_, hold⟩
  case notStored =>
    intro k prepared
    change ∀ p, ((s.memory.addPeers i.id _).peersOf id).find? k = some p → _ at prepared
    rw [records, applyAll_saves]
    refine Directory.find?_insertAll_of_forall_ne ?_
    rintro _ hb rfl
    obtain ⟨p, hp, rfl⟩ := List.mem_map.1 hb
    obtain ⟨hp, committed⟩ := List.mem_filter.1 hp
    have found := find?_of_renewed hm managed hp
    rw [here] at prepared found
    rw [prepared p found] at committed
    contradiction
  case interfaces =>
    change (s.store.changedAll _).records.interfaces = _
    rw [records_changedAll, applyAll_saves]
  case writes =>
    change (s.store.changedAll _).writes = _
    rw [writes_changedAll, saves, renewedPeers, List.filter_map, List.map_map, List.map_map]
    rfl
  case kernel => rfl

/-- A pass leaves a keeper alone in which all peers are renewed and the committed ones stored. -/
theorem unchanged_of_renewed (managed : s.memory.interfaces.find? id = some i)
    (filed : ∀ p ∈ renewedPeers s.memory i id, (s.memory.peersOf i.id).find? p.id = some p)
    (stored : ∀ p ∈ renewedPeers s.memory i id, p.isPrepared = false →
      s.store.records.peers.find? p.id = some p) :
    Ends (applyDefaults id) s fun _ t =>
      t.memory = s.memory ∧ t.store.records = s.store.records := by
  apply (applyDefaults_ends id s).mono
  intro r t ht
  cases ht with
  | refused => exact ⟨rfl, rfl⟩
  | @notStored j done rest p _ known split =>
    cases managed.symm.trans known
    -- the peers up to the one that could not be stored were filed, those before it stored
    have upTo {q : Peer} (hq : q ∈ done ++ [p]) : q ∈ renewedPeers s.memory i id := by
      rw [split, List.append_cons]
      exact List.mem_append_left rest hq
    constructor
    · rw [← addPeers_concat]
      exact addPeers_of_find? fun q hq => filed q (upTo hq)
    · refine (records_changedAll _ _).trans (applyAll_saves_of_stored fun q hq => ?_)
      exact stored q (upTo (List.mem_append_left [p] hq))
  | done known =>
    cases managed.symm.trans known
    refine ⟨addPeers_of_find? filed, ?_⟩
    exact (records_changedAll _ _).trans (applyAll_saves_of_stored stored)

/-- After a pass there is nothing left to do for another one. -/
theorem unchanged_withPeers (hm : s.memory.Filed)
    (managed : s.memory.interfaces.find? id = some i) (e : Surroundings) :
    Ends (applyDefaults id) ((withPeers s i.id (renewedPeers s.memory i id)).within e) fun _ t =>
      t.memory = s.memory.addPeers i.id (renewedPeers s.memory i id) ∧
        t.store.records = Change.applyAll (saves (renewedPeers s.memory i id)) s.store.records := by
  have again := renewedPeers_again hm managed (List.Subset.refl (renewedPeers s.memory i id))
  have records : (s.store.changedAll (saves (renewedPeers s.memory i id))).records =
      Change.applyAll (saves (renewedPeers s.memory i id)) s.store.records :=
    records_changedAll _ _
  rw [← records]
  apply unchanged_of_renewed (i := i)
  · change (s.memory.addPeers i.id _).interfaces.find? id = some i
    rw [interfaces_addPeers, managed]
  · change ∀ p ∈ renewedPeers (s.memory.addPeers i.id _) i id, _
    rw [again]
    exact fun p => find?_of_renewed hm managed
  · change ∀ p ∈ renewedPeers (s.memory.addPeers i.id _) i id, p.isPrepared = false →
      (s.store.changedAll _).records.peers.find? p.id = some p
    rw [again, records]
    exact fun p => find?_saves_renewed hm _

/-- A pass that succeeds renews the peers of its interface, in memory and in the store, and nothing
else. A second pass leaves both as they are, whatever fails in it, and it succeeds if nothing
does. -/
theorem defaults_applied {s₀ s t : Keeper} {id : InterfaceId} (started : Started s₀)
    (run : Relation.ReflTransGen Move s₀ s) (e : Surroundings)
    (applied : (applyDefaults id).run.run (s.within e) = (.ok (), t)) :
    (∃ i, s.memory.interfaces.find? id = some i ∧ Renews id i (s.within e) t) ∧
      (∃ u, (applyDefaults id).run.run t.healed = (.ok (), u)) ∧
      ∀ (e' : Surroundings) (r : Except KeeperError Unit) (u : Keeper),
        (applyDefaults id).run.run (t.within e') = (r, u) →
          u.memory = t.memory ∧ u.store.records = t.store.records := by
  have hm : s.memory.Filed := filed_of_run started run
  cases (applyDefaults_ends id (s.within e)).of_run applied with
  | @done i managed =>
    refine ⟨⟨i, managed, renews_withPeers (s := s.within e) hm managed⟩, ?_,
      fun e' r u second => ?_⟩
    · have kept (ps : List Peer) : (s.memory.addPeers i.id ps).interfaces.find? id = some i := by
        rw [interfaces_addPeers]
        exact managed
      have completes : Completes (applyDefaults id)
          (withPeers (s.within e) i.id (renewedPeers s.memory i id)) _ _ :=
        completes_applyDefaults_iff.2 ⟨i, kept _, rfl, rfl⟩
      obtain ⟨u, done, -⟩ := completes_iff_run.1 completes
      exact ⟨u, done⟩
    · obtain ⟨memory, records⟩ :=
        (unchanged_withPeers (s := s.within e) hm managed e').of_run second
      exact ⟨memory, records.trans (records_changedAll _ _).symm⟩

def branch : Interface :=
  { id := ⟨"wg0"⟩, peerDefaults := { dns := "10.0.0.53", mtu := 1380, keepalive := 25 } }

def chooser : Peer :=
  { id := ⟨"a"⟩, tunnel := { interfaceId := ⟨"wg0"⟩, dns := .chosen "9.9.9.9" } }

def branchStore : Store where
  records := Change.applyAll [.saveInterface branch, .savePeer chooser] {}

def branchKeeper : Keeper := (load.run.run { store := branchStore }).2

def newcomer : Peer :=
  { id := ⟨"b"⟩, preparedAt := some .epoch, tunnel := { interfaceId := ⟨"wg0"⟩ } }

theorem defaults_applied_branch :
    ∃ s t, Started branchKeeper ∧ Move branchKeeper s ∧
      (applyDefaults ⟨"wg0"⟩).run.run (s.within .calm) = (.ok (), t) ∧
      (∃ i, s.memory.interfaces.find? ⟨"wg0"⟩ = some i ∧
        Renews ⟨"wg0"⟩ i (s.within .calm) t) ∧
      (t.memory.findPeer? ⟨"a"⟩).map (fun p => (p.tunnel.dns, p.tunnel.mtu)) =
        some (.chosen "9.9.9.9", .inherited 1380) ∧
      t.store.writes = [.savePeer ⟨"a"⟩] := by
  have started : Started branchKeeper :=
    ⟨{ store := branchStore }, Store.Records.Written.empty.changeAll _, Prod.ext rfl rfl⟩
  have move : Move branchKeeper _ := .act .calm (.savePeers [newcomer])
  have applied : (applyDefaults ⟨"wg0"⟩).run.run
      (((Action.savePeers [newcomer]).after (branchKeeper.within .calm)).within .calm) =
        (.ok (), _) := Prod.ext rfl rfl
  exact ⟨_, _, started, move, applied, (defaults_applied started (.single move) .calm applied).1,
    by decide +kernel, by decide +kernel⟩

end Keeper

end TunnelKeeper
