import TunnelKeeper.Proofs.Keeper.Tally
import TunnelKeeper.Proofs.Key.Text

/-!
# Whose counters are reported

All devices that are read are seen as one sequence of kernel peers. The counters of a kernel peer
are filed under the peer of its interface that has its key, and if there is none, under the text of
the key, which may be the identifier of a peer of any interface. What is reported of a peer is what
was filed for it last.
-/
namespace TunnelKeeper
open Kernel

/-! ## Sums -/

namespace Kernel

def total (count : DevicePeer → UInt64) (ks : List DevicePeer) : Nat :=
  ks.foldr (fun k n => (count k).toNat + n) 0

/-- A running sum is exact while the whole sum fits into a machine word. -/
theorem toNat_foldl_add (count : DevicePeer → UInt64) (ks : List DevicePeer) (n : UInt64)
    (bound : n.toNat + total count ks < UInt64.size) :
    ((ks.map count).foldl (· + ·) n).toNat = n.toNat + total count ks := by
  induction ks generalizing n with
  | nil => rfl
  | cons k ks ih =>
    have sum : total count (k :: ks) = (count k).toNat + total count ks := rfl
    rw [sum] at bound ⊢
    have step : (n + count k).toNat = n.toNat + (count k).toNat := by
      rw [UInt64.toNat_add, Nat.mod_eq_of_lt]
      exact Nat.lt_of_le_of_lt (by omega) bound
    rw [List.map_cons, List.foldl_cons, ih _ (by omega), step, Nat.add_assoc]

/-- The counts and sums of a device, as far as they fit. -/
structure Device.SumsUp (d : Device) (st : InterfaceStats) : Prop where
  count : d.peers.length < UInt64.size → st.peerCount.toNat = d.peers.length
  received : total (·.received) d.peers < UInt64.size →
    st.bytesReceived.toNat = total (·.received) d.peers
  transmitted : total (·.transmitted) d.peers < UInt64.size →
    st.bytesTransmitted.toNat = total (·.transmitted) d.peers

theorem Device.sumsUp_totalsOf (now : Instant) (id : InterfaceId) (d : Device) :
    d.SumsUp (Keeper.totalsOf now id d) := by
  have exactly (count : DevicePeer → UInt64) (bound : total count d.peers < UInt64.size) :
      ((d.peers.map count).foldl (· + ·) 0).toNat = total count d.peers := by
    have sum := toNat_foldl_add count d.peers 0
    rw [UInt64.toNat_zero, Nat.zero_add] at sum
    exact sum bound
  exact ⟨UInt64.toNat_ofNat_of_lt', exactly _, exactly _⟩

end Kernel

/-! ## Sightings -/

/-- A peer of the kernel on the device of an interface. -/
structure Sighting where
  interfaceId : InterfaceId
  peer : DevicePeer

def sightings (rs : List (InterfaceId × Device)) : List Sighting :=
  rs.flatMap fun r => r.2.peers.map (Sighting.mk r.1)

theorem mem_sightings_iff {rs : List (InterfaceId × Device)} {x : Sighting} :
    x ∈ sightings rs ↔ ∃ d, (x.interfaceId, d) ∈ rs ∧ x.peer ∈ d.peers := by
  simp only [sightings, List.mem_flatMap, List.mem_map]
  constructor
  · rintro ⟨⟨id, d⟩, hr, k, hk, rfl⟩
    exact ⟨d, hr, hk⟩
  · rintro ⟨d, hr, hk⟩
    exact ⟨(x.interfaceId, d), hr, x.peer, hk, rfl⟩

namespace Memory

variable {m : Memory} {id : InterfaceId} {p : Peer} {x : Sighting}

/-- Whether no peer of the interface has the key of a kernel peer. -/
def IsStray (m : Memory) (x : Sighting) : Prop :=
  ∀ q ∈ (m.peersOf x.interfaceId).records, q.keys.publicKey ≠ x.peer.publicKey.text

/-- Whether the counters of a kernel peer are taken for those of a peer: it is on the peer's device
and has its key, or it is a stray and the peer goes by its key. -/
def TakenFor (m : Memory) (p : Peer) (x : Sighting) : Prop :=
  x.interfaceId = p.tunnel.interfaceId ∧ p.keys.publicKey = x.peer.publicKey.text ∨
    m.IsStray x ∧ p.id.text = x.peer.publicKey.text

/-- The identifier under which the counters of a kernel peer are filed. -/
def filedUnder (m : Memory) (x : Sighting) : PeerId :=
  (Keeper.peerWithKey? (m.peersOf x.interfaceId).records x.peer.publicKey.text).getD
    ⟨x.peer.publicKey.text⟩

theorem filedUnder_cases (m : Memory) (x : Sighting) :
    (∃ q ∈ (m.peersOf x.interfaceId).records,
      q.keys.publicKey = x.peer.publicKey.text ∧ m.filedUnder x = q.id) ∨
      m.IsStray x ∧ m.filedUnder x = ⟨x.peer.publicKey.text⟩ := by
  unfold filedUnder Keeper.peerWithKey? IsStray
  cases found : (m.peersOf x.interfaceId).records.reverse.find?
    fun q => q.keys.publicKey = x.peer.publicKey.text with
  | some q =>
    have hq := List.mem_reverse.1 (List.mem_of_find?_eq_some found)
    have key := List.find?_some found
    exact .inl ⟨q, hq, of_decide_eq_true key, rfl⟩
  | none =>
    refine .inr ⟨fun q hq => ?_, rfl⟩
    simpa using List.find?_eq_none.1 found q (List.mem_reverse.2 hq)

/-- The counters of a kernel peer are filed for the peer that they are taken for. -/
theorem filedUnder_eq_iff (hm : m.Filed) (hp : p ∈ (m.peersOf id).records)
    (only : ∀ q ∈ (m.peersOf id).records, q.keys.publicKey = p.keys.publicKey → q = p) :
    m.filedUnder x = p.id ↔ m.TakenFor p x := by
  obtain ⟨rfl, slot⟩ := hm.of_mem_records hp
  rcases m.filedUnder_cases x with ⟨q, hq, key, under⟩ | ⟨stray, under⟩
  · rw [under]
    obtain ⟨home, found⟩ := hm.of_mem_records hq
    constructor
    · intro same
      -- an identifier is in one slot only, so no peer elsewhere can stand in for this one
      rw [same] at found
      have here := hm.single (Directory.contains_of_find? found) (Directory.contains_of_find? slot)
      rw [here] at found
      cases found.symm.trans slot
      exact .inl ⟨here, key⟩
    · rintro (⟨here, own⟩ | ⟨stray, -⟩)
      · rw [only q (here ▸ hq) (key.trans own.symm)]
      · exact absurd key (stray q hq)
  · rw [under]
    constructor
    · intro named
      exact .inr ⟨stray, congrArg Id.text named.symm⟩
    · rintro (⟨here, own⟩ | ⟨-, named⟩)
      · exact absurd own (stray p (here ▸ hp))
      · exact Id.ext' named.symm

/-- The last kernel peer whose counters are taken for a peer. -/
structure LastFor (m : Memory) (p : Peer) (xs : List Sighting) (x : Sighting) : Prop where
  taken : m.TakenFor p x
  last : ∃ front back, xs = front ++ x :: back ∧ ∀ y ∈ back, ¬ m.TakenFor p y

theorem LastFor.mem {xs : List Sighting} (h : m.LastFor p xs x) : x ∈ xs := by
  obtain ⟨front, back, rfl, -⟩ := h.last
  exact List.mem_append_right front List.mem_cons_self

theorem Filed.recordAll (hm : m.Filed) (now : Instant) (rs : List (InterfaceId × Device)) :
    (Keeper.recordAll now rs m).Filed :=
  hm.congr (Keeper.interfaces_recordAll now rs m) (by rw [Keeper.recordAll_eq])

/-- What is reported of each peer of an interface is found by its identifier. -/
theorem statsOfPeers_eq_ok (hm : m.Filed) (managed : m.interfaces.contains id = true) :
    m.statsOfPeers id = .ok ((m.peersOf id).ids.filterMap m.peerStats.find?) := by
  have slot : m.peers.contains id = true := (hm.slots id).trans managed
  obtain ⟨ps, hps⟩ := Directory.contains_iff_find?.1 slot
  rw [statsOfPeers, hps, managed, peersOf_of_find? hps]

theorem Tallied.filter_filterMap (h : m.Tallied) {k : PeerId} {st : PeerStats} {ks : List PeerId}
    (nodup : ks.Nodup) (hk : k ∈ ks) (found : m.peerStats.find? k = some st) :
    (ks.filterMap m.peerStats.find?).filter (·.id = k) = [st] := by
  let reported (l : PeerId) := (m.peerStats.find? l).filter (·.id = k)
  have others {l : PeerId} (hl : l ≠ k) : reported l = none := by
    rw [Option.filter_eq_none_iff]
    intro st' found' same
    exact hl ((h l st' found').symm.trans (of_decide_eq_true same))
  have own : reported k = some st := by
    change (m.peerStats.find? k).filter (·.id = k) = some st
    rw [found, Option.filter_some, h k st found, decide_eq_true rfl, if_pos rfl]
  obtain ⟨front, back, rfl⟩ := List.append_of_mem hk
  have apart := List.nodup_middle.1 nodup
  rw [List.nodup_cons, List.mem_append, not_or] at apart
  have before : front.filterMap reported = [] :=
    List.filterMap_eq_nil_iff.2 fun l hl => others fun same => apart.1.1 (same ▸ hl)
  have after : back.filterMap reported = [] :=
    List.filterMap_eq_nil_iff.2 fun l hl => others fun same => apart.1.2 (same ▸ hl)
  rw [List.filter_filterMap]
  change (front ++ k :: back).filterMap reported = [st]
  rw [List.filterMap_append, List.filterMap_cons_some own, before, after]
  rfl

end Memory

/-- What is reported under an identifier is what the kernel says of a peer. -/
structure PeerStats.Tells (st : PeerStats) (id : PeerId) (k : DevicePeer) : Prop where
  id : st.id = id
  received : st.bytesReceived = k.received
  transmitted : st.bytesTransmitted = k.transmitted
  endpoint : st.lastEndpoint = k.endpoint.map Net.Endpoint.text
  handshake : st.lastHandshake = k.lastHandshake

namespace Keeper
open Memory

variable {m : Memory} {id : InterfaceId} {p : Peer} {now : Instant}

theorem statsOfAll_eq_map (now : Instant) (m : Memory) (rs : List (InterfaceId × Device)) :
    statsOfAll now m rs = (sightings rs).map fun x =>
      statsOf now (m.peersOf x.interfaceId).records x.peer := by
  simp only [statsOfAll, sightings, List.map_flatMap, List.map_map]
  rfl

/-- What the readings leave for a peer tells of the last kernel peer that is taken for it. -/
theorem find?_recordAll (hm : m.Filed) (hp : p ∈ (m.peersOf id).records)
    (only : ∀ q ∈ (m.peersOf id).records, q.keys.publicKey = p.keys.publicKey → q = p)
    {rs : List (InterfaceId × Device)} {x : Sighting} (hx : x ∈ sightings rs)
    (taken : m.TakenFor p x) :
    ∃ st y, (recordAll now rs m).peerStats.find? p.id = some st ∧
      m.LastFor p (sightings rs) y ∧ st.Tells p.id y.peer := by
  rw [recordAll_eq]
  change ∃ st y, (m.peerStats.insertAll _ _).find? p.id = some st ∧ _
  -- what is filed last is what is found first from the end
  rw [Directory.find?_insertAll, statsOfAll_eq_map, ← List.map_reverse, List.find?_map]
  change ∃ st y, (Option.map _ ((sightings rs).reverse.find? fun y => m.filedUnder y = p.id)).or _ =
    some st ∧ _
  cases found : (sightings rs).reverse.find? fun y => m.filedUnder y = p.id with
  | none =>
    have missing := List.find?_eq_none.1 found x (List.mem_reverse.2 hx)
    exact absurd ((filedUnder_eq_iff hm hp only).2 taken) (by simpa using missing)
  | some y =>
    obtain ⟨under, front, back, split, none⟩ := List.find?_eq_some_iff_append.1 found
    have under : m.filedUnder y = p.id := of_decide_eq_true under
    refine ⟨_, y, rfl,
      ⟨(filedUnder_eq_iff hm hp only).1 under, back.reverse, front.reverse, ?_, ?_⟩,
      under, rfl, rfl, rfl, rfl⟩
    · rw [← List.reverse_reverse (sightings rs), split]
      simp
    · intro z hz taken
      have other := none z (List.mem_reverse.1 hz)
      rw [(filedUnder_eq_iff hm hp only).2 taken] at other
      simp at other

/-- The sums of a device are reported of its interface, where the device is read once. -/
theorem statsOfInterface_recordAll {rs : List (InterfaceId × Device)} {d : Device}
    (managed : m.interfaces.contains id = true) (once : ∀ d', (id, d') ∈ rs → d' = d)
    (read : (id, d) ∈ rs) :
    (recordAll now rs m).statsOfInterface id = .ok (some (totalsOf now id d)) := by
  rw [statsOfInterface, interfaces_recordAll, if_pos managed, totals_of_read once read]

/-- Whether a peer of an interface and one of its device belong together: they have the same key,
and no other peer of the interface or of the device has it. -/
structure Matches (m : Memory) (id : InterfaceId) (d : Device) (p : Peer) (k : DevicePeer) :
    Prop where
  managed : p ∈ (m.peersOf id).records
  listed : k ∈ d.peers
  canonical : ∃ key : Key, p.keys.publicKey = key.text
  key : Key.parse p.keys.publicKey = .ok k.publicKey
  onlyManaged : ∀ q ∈ (m.peersOf id).records, q.keys.publicKey = p.keys.publicKey → q = p
  onlyListed : ∀ l ∈ d.peers, l.publicKey = k.publicKey → l = k

theorem Matches.text {d : Device} {k : DevicePeer} (h : Matches m id d p k) :
    p.keys.publicKey = k.publicKey.text := by
  obtain ⟨key, text⟩ := h.canonical
  have read := h.key
  rw [text, Key.parse_text] at read
  rw [text, Except.ok.inj read]

/-- Unless a stray is taken for it, a peer is reported as the kernel peer that it belongs to. -/
theorem Matches.own_of_lastFor {d : Device} {k : DevicePeer} {rs : List (InterfaceId × Device)}
    {x : Sighting} (pair : Matches m id d p k) (hm : m.Filed)
    (once : ∀ d', (id, d') ∈ rs → d' = d) (last : m.LastFor p (sightings rs) x)
    (known : ∀ y ∈ sightings rs, m.IsStray y → p.id.text ≠ y.peer.publicKey.text) :
    x.peer = k := by
  rcases last.taken with ⟨here, key⟩ | ⟨stray, named⟩
  · obtain ⟨d', read, listed⟩ := mem_sightings_iff.1 last.mem
    rw [here, (hm.of_mem_records pair.managed).1] at read
    cases once d' read
    have same : x.peer.publicKey.text = k.publicKey.text := key.symm.trans pair.text
    exact pair.onlyListed _ listed (Key.text_inj same)
  · exact absurd named (known x last.mem stray)

/-- What is reported of an interface and its peers after a pass over the devices: the sums of its
own device, and of each peer what the last kernel peer says that is taken for it. That one is the
peer's own unless a stray on some device has the peer's identifier for its key. -/
structure Attribution (m : Memory) (rs : List (InterfaceId × Device)) (t : Memory)
    (id : InterfaceId) (d : Device) : Prop where
  totals : ∃ st, t.statsOfInterface id = .ok (some st) ∧ st.id = id ∧ d.SumsUp st
  peers : ∃ sts, t.statsOfPeers id = .ok sts ∧ ∀ p k, Matches m id d p k →
    ∃ st x, sts.filter (·.id = p.id) = [st] ∧ st.Tells p.id x.peer ∧
      m.LastFor p (sightings rs) x ∧
      ((∀ y ∈ sightings rs, m.IsStray y → p.id.text ≠ y.peer.publicKey.text) → x.peer = k)

/-- Statistics can always be read, and what is then reported goes by the readings. -/
theorem statistics_follow_readings {s₀ s : Keeper} (started : Started s₀)
    (run : Relation.ReflTransGen Move s₀ s) (e : Surroundings) :
    let rs := e.kernel.readings s.memory.interfaces.ids
    ∃ t, refreshStats.run.run (s.within e) = (.ok (), t) ∧
      ∀ id d, (id, d) ∈ rs → Attribution s.memory rs t.memory id d := by
  intro rs
  have hm : s.memory.Filed := filed_of_run started run
  have before : s.memory.Tallied := tallied_of_run started run
  have tallied : (recordAll e.clock rs s.memory).Tallied :=
    (tallied_refreshStats (s := s.within e) before).of_run (run_refreshStats (s.within e))
  refine ⟨_, run_refreshStats (s.within e), fun id d read => ?_⟩
  change Attribution s.memory rs (recordAll e.clock rs s.memory) id d
  have managed : s.memory.interfaces.contains id = true :=
    Directory.contains_iff.2 (mem_of_mem_readings read)
  have once (d' : Device) (read' : (id, d') ∈ rs) : d' = d :=
    eq_of_mem_readings s.memory.interfaces.nodup_ids read' read
  constructor
  · exact ⟨_, statsOfInterface_recordAll managed once read, rfl, d.sumsUp_totalsOf _ _⟩
  · refine ⟨_, statsOfPeers_eq_ok (hm.recordAll _ _) (by simpa using managed), fun p k pair => ?_⟩
    obtain ⟨home, here⟩ := hm.of_mem_records pair.managed
    have own : s.memory.TakenFor p ⟨id, k⟩ := .inl ⟨home.symm, pair.text⟩
    have seen : ⟨id, k⟩ ∈ sightings rs := mem_sightings_iff.2 ⟨d, read, pair.listed⟩
    obtain ⟨st, x, found, last, tells⟩ := find?_recordAll hm pair.managed pair.onlyManaged seen own
    refine ⟨st, x, ?_, tells, last, pair.own_of_lastFor hm once last⟩
    rw [peersOf_recordAll]
    have listed := Directory.contains_iff.1 (Directory.contains_of_find? here)
    exact tallied.filter_filterMap (Directory.nodup_ids _) listed found

def roamingKey : Key := ⟨List.replicate 32 11, List.length_replicate⟩

def strangerKey : Key := ⟨List.replicate 32 12, List.length_replicate⟩

def roamer : Peer :=
  { id := ⟨roamingKey.text⟩, keys := { publicKey := roamingKey.text }
    tunnel := { interfaceId := ⟨"wg0"⟩ } }

def siteStore : Store where
  records := Store.Change.applyAll
    [.saveInterface { id := ⟨"wg0"⟩ }, .saveInterface { id := ⟨"wg1"⟩ }, .savePeer roamer] {}

/-- A keeper of two interfaces, one of which has the peer. -/
def site : Keeper := (load.run.run { store := siteStore }).2

theorem started_site : Started site :=
  ⟨{ store := siteStore }, Store.Records.Written.empty.changeAll _, Prod.ext rfl rfl⟩

def receiver (key : Key) (bytes : UInt64) : DevicePeer where
  publicKey := key
  presharedKey := none
  endpoint := none
  keepalive := 0
  lastHandshake := none
  received := bytes
  transmitted := 0
  allowedIps := []

def deviceOf (name : String) (ks : List DevicePeer) : Device := ⟨name, none, none, 0, 0, ks⟩

def devicesOf (here there : List DevicePeer) : Surroundings :=
  { Surroundings.calm with
    kernel :=
      { devices := (Directory.empty.insert ⟨"wg0"⟩ (deviceOf "wg0" here)).insert ⟨"wg1"⟩
          (deviceOf "wg1" there) } }

theorem peersOf_site : (site.memory.peersOf ⟨"wg0"⟩).records = [roamer] := by decide +kernel

/-- The peer belongs together with any kernel peer that alone on the device has its key. -/
theorem matches_roamer (ks : List DevicePeer) {k : DevicePeer} (listed : k ∈ ks)
    (key : k.publicKey = roamingKey) (only : ∀ l ∈ ks, l.publicKey = k.publicKey → l = k) :
    Matches site.memory ⟨"wg0"⟩ (deviceOf "wg0" ks) roamer k where
  managed := by
    rw [peersOf_site]
    exact List.mem_singleton_self _
  listed := listed
  canonical := ⟨roamingKey, rfl⟩
  key := key ▸ Key.parse_text roamingKey
  onlyManaged q hq _ := by
    rw [peersOf_site] at hq
    exact List.mem_singleton.1 hq
  onlyListed := only

theorem statistics_follow_readings_site :
    let e := devicesOf [receiver roamingKey 10, receiver strangerKey 5] [receiver strangerKey 7]
    ∃ t, Started site ∧ refreshStats.run.run (site.within e) = (.ok (), t) ∧
      (∃ st, t.memory.statsOfInterface ⟨"wg0"⟩ = .ok (some st) ∧ st.peerCount.toNat = 2 ∧
        st.bytesReceived.toNat = 15) ∧
      ∃ sts st, t.memory.statsOfPeers ⟨"wg0"⟩ = .ok sts ∧ sts.filter (·.id = roamer.id) = [st] ∧
        st.Tells roamer.id (receiver roamingKey 10) := by
  intro e
  have readings : e.kernel.readings site.memory.interfaces.ids =
      [(⟨"wg0"⟩, deviceOf "wg0" [receiver roamingKey 10, receiver strangerKey 5]),
        (⟨"wg1"⟩, deviceOf "wg1" [receiver strangerKey 7])] := by
    decide +kernel
  obtain ⟨t, read, all⟩ := statistics_follow_readings started_site .refl e
  rw [readings] at all
  obtain ⟨⟨sums, reported, -, sumsUp⟩, sts, listed, each⟩ := all _ _ List.mem_cons_self
  have count : sums.peerCount.toNat = 2 := sumsUp.count (by decide)
  have received : sums.bytesReceived.toNat = 15 := sumsUp.received (by decide +kernel)
  have pair := matches_roamer [receiver roamingKey 10, receiver strangerKey 5]
    List.mem_cons_self rfl (by decide +kernel)
  obtain ⟨st, x, here, tells, -, own⟩ := each _ _ pair
  have same : x.peer = receiver roamingKey 10 := by
    apply own
    intro y hy stray named
    have kinds : y = ⟨⟨"wg0"⟩, receiver roamingKey 10⟩ ∨ y.peer.publicKey = strangerKey := by
      rcases List.mem_cons.1 hy with rfl | hy
      · exact .inl rfl
      · rcases List.mem_cons.1 hy with rfl | hy
        · exact .inr rfl
        · rw [List.mem_singleton.1 hy]
          exact .inr rfl
    rcases kinds with rfl | other
    · exact stray roamer (peersOf_site ▸ List.mem_singleton_self _) rfl
    · rw [other] at named
      exact absurd (Key.text_inj named) (by decide)
  exact ⟨t, started_site, read, ⟨sums, reported, count, received⟩, sts, st, listed, here,
    same ▸ tells⟩

/-- What is reported of a peer are the counters that its key has on another device. -/
theorem statistics_of_another_device :
    let d := deviceOf "wg0" [receiver roamingKey 10]
    let e := devicesOf [receiver roamingKey 10] [receiver roamingKey 99]
    Started site ∧
      e.kernel.readings site.memory.interfaces.ids =
        [(⟨"wg0"⟩, d), (⟨"wg1"⟩, deviceOf "wg1" [receiver roamingKey 99])] ∧
      Matches site.memory ⟨"wg0"⟩ d roamer (receiver roamingKey 10) ∧
      (refreshStats.run.run (site.within e)).2.memory.statsOfPeers ⟨"wg0"⟩ =
        .ok [⟨roamer.id, none, none, false, 99, 0, .epoch⟩] := by
  intro d e
  refine ⟨started_site, by decide +kernel, ?_, by decide +kernel⟩
  exact matches_roamer _ (List.mem_singleton_self _) rfl fun _ hl _ => List.mem_singleton.1 hl

end Keeper

end TunnelKeeper
