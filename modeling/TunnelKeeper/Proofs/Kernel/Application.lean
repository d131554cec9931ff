import TunnelKeeper.Proofs.Kernel.Lost

/-!
# What becomes of a device

The changes that were sent to the kernel, and a device after them. A change leaves alone what it
does not set; a list of addresses replaces the old one if the change says so; a change that is an
update only creates no peer. A device is changed by what was sent under its name, and a peer of it
by what was sent under its key.
-/
namespace TunnelKeeper.Kernel
open TunnelKeeper Effect

def DevicePeer.changed (p : DevicePeer) (c : PeerChange) : DevicePeer :=
  { p with
    presharedKey := c.presharedKey.or p.presharedKey
    endpoint := c.endpoint.or p.endpoint
    keepalive := c.keepalive.getD p.keepalive
    allowedIps := if c.replaceAllowedIps then c.allowedIps else p.allowedIps ++ c.allowedIps }

def DevicePeer.blank (key : Key) : DevicePeer where
  publicKey := key
  presharedKey := none
  endpoint := none
  keepalive := 0
  lastHandshake := none
  received := 0
  transmitted := 0
  allowedIps := []

namespace Device

def peer? (d : Device) (key : Key) : Option DevicePeer := d.peers.find? (·.publicKey = key)

def changePeer (d : Device) (c : PeerChange) : Device :=
  if c.remove then { d with peers := d.peers.filter (·.publicKey ≠ c.publicKey) }
  else if (d.peer? c.publicKey).isSome then
    { d with peers := d.peers.map fun p => if p.publicKey = c.publicKey then p.changed c else p }
  else if c.updateOnly then d
  else { d with peers := d.peers ++ [(DevicePeer.blank c.publicKey).changed c] }

def changed (d : Device) (c : DeviceChange) : Device :=
  c.peers.foldl changePeer
    { d with
      privateKey := c.privateKey.or d.privateKey
      publicKey := (c.privateKey.map Key.publicKey).or d.publicKey
      listenPort := c.listenPort.getD d.listenPort
      firewallMark := c.firewallMark.getD d.firewallMark }

variable {d : Device} {c : PeerChange} {key : Key}

/-- A change of some peers, each of which keeps its key. -/
theorem find?_map_changed (ps : List DevicePeer) (c : PeerChange) (key : Key) :
    (ps.map fun p => if p.publicKey = c.publicKey then p.changed c else p).find?
        (·.publicKey = key) =
      (ps.find? (·.publicKey = key)).map
        fun p => if p.publicKey = c.publicKey then p.changed c else p := by
  rw [List.find?_map]
  congr 2
  funext p
  by_cases h : p.publicKey = c.publicKey <;> simp [h, DevicePeer.changed]

/-- An update changes the peer that it is about, if there is such a peer. -/
theorem peer?_changePeer_self (kept : c.remove = false) (update : c.updateOnly = true) :
    (d.changePeer c).peer? c.publicKey = (d.peer? c.publicKey).map (·.changed c) := by
  rw [changePeer, kept, update]
  cases known : d.peer? c.publicKey with
  | none => simpa using known
  | some p =>
    have here : p.publicKey = c.publicKey := by simpa using List.find?_some known
    refine (find?_map_changed d.peers c c.publicKey).trans ?_
    rw [← peer?, known, Option.map_some, Option.map_some, if_pos here]

theorem peer?_changePeer_of_ne (other : key ≠ c.publicKey) :
    (d.changePeer c).peer? key = d.peer? key := by
  unfold changePeer
  split
  case isTrue =>
    refine (List.find?_filter ..).trans ?_
    congr 1
    funext p
    by_cases h : p.publicKey = key <;> simp [h, other]
  case isFalse =>
    split
    case isTrue =>
      refine (find?_map_changed d.peers c key).trans ?_
      rw [← peer?]
      cases known : d.peer? key with
      | none => rfl
      | some p =>
        have here : p.publicKey = key := by simpa using List.find?_some known
        rw [Option.map_some, if_neg (here ▸ other)]
    case isFalse =>
      split
      case isTrue => rfl
      case isFalse =>
        refine (List.find?_append ..).trans ?_
        simp [peer?, DevicePeer.changed, DevicePeer.blank, Ne.symm other]

theorem changed_singleton (d : Device) (c : PeerChange) :
    d.changed { peers := [c] } = d.changePeer c := rfl

theorem peer?_foldl_changePeer {cs : List PeerChange} (others : ∀ c ∈ cs, c.publicKey ≠ key) :
    (cs.foldl changePeer d).peer? key = d.peer? key := by
  induction cs generalizing d with
  | nil => rfl
  | cons c cs ih =>
    rw [List.forall_mem_cons] at others
    rw [List.foldl_cons, ih others.2, peer?_changePeer_of_ne others.1.symm]

end Device

/-- What a call asks to change, under the name of the device. -/
def Call.change? : Call → Option (String × DeviceChange)
  | .configureDevice name change => some (name, change)
  | _ => none

def changes (k : Kernel) : List (String × DeviceChange) := k.calls.filterMap Call.change?

theorem changes_record (k : Kernel) (c : Call) :
    (k.record c).changes = k.changes ++ c.change?.toList := by
  rw [changes, record, List.filterMap_append]
  cases h : c.change? <;> simp [h, changes]

/-- The device of a name after changes some of which were sent to it. -/
def Device.after (name : String) (d : Device) (sent : List (String × DeviceChange)) : Device :=
  sent.foldl (fun d e => if e.1 = name then d.changed e.2 else d) d

theorem Device.after_cons_self (name : String) (d : Device) (c : DeviceChange)
    (sent : List (String × DeviceChange)) :
    d.after name ((name, c) :: sent) = (d.changed c).after name sent := by
  rw [Device.after, List.foldl_cons, if_pos rfl]
  rfl

/-- Whether a change is about one peer of one device. -/
def Concerns (name : String) (key : Key) (e : String × DeviceChange) : Prop :=
  e.1 = name ∧ ∃ c ∈ e.2.peers, c.publicKey = key

/-- A peer that no change is about stays as it is. -/
theorem Device.peer?_after {name : String} {key : Key} {sent : List (String × DeviceChange)}
    (others : ∀ e ∈ sent, ¬ Concerns name key e) (d : Device) :
    (d.after name sent).peer? key = d.peer? key := by
  induction sent generalizing d with
  | nil => rfl
  | cons e sent ih =>
    rw [List.forall_mem_cons] at others
    rw [Device.after, List.foldl_cons, ← Device.after, ih others.2]
    split
    case isTrue here =>
      exact Device.peer?_foldl_changePeer fun c hc same => others.1 ⟨here, c, hc, same⟩
    case isFalse => rfl

/-- The last change that was sent about a peer of a device. -/
def lastChange? (name : String) (key : Key) (sent : List (String × DeviceChange)) :
    Option PeerChange :=
  ((sent.filter (·.1 = name)).flatMap (·.2.peers)).reverse.find? (·.publicKey = key)

variable {name : String} {key : Key} {sent more : List (String × DeviceChange)}

theorem lastChange?_append :
    lastChange? name key (sent ++ more) =
      (lastChange? name key more).or (lastChange? name key sent) := by
  rw [lastChange?, List.filter_append, List.flatMap_append, List.reverse_append,
    List.find?_append]
  rfl

theorem lastChange?_single (n : String) (c : PeerChange) :
    lastChange? name key [(n, { peers := [c] })] =
      if n = name ∧ c.publicKey = key then some c else none := by
  by_cases hn : n = name <;> by_cases hk : c.publicKey = key <;> simp [lastChange?, hn, hk]

/-- A request that sends no change of a device. -/
def Quiet {α : Type} (r : Request α) : Prop :=
  ∀ cs, Yields (fun k : Kernel => k.changes = cs) (fun _ => True) (fun _ => True) r

theorem quiet_attempt {c : Call} (h : c.change? = none) : Quiet (attempt c) := by
  intro cs k hk
  have same : (k.record c).changes = cs := by rw [changes_record, h, Option.toList_none, hk]; simp
  apply ends_attempt
  · exact fun _ => ⟨same, fun _ _ => trivial, fun _ _ => trivial⟩
  · exact fun _ _ => ⟨same, fun _ _ => trivial, fun _ _ => trivial⟩

theorem quiet_attempt_modify {c : Call} {f : Kernel → Kernel} (h : c.change? = none)
    (hf : ∀ k, (f k).calls = k.calls) : Quiet (do attempt c; modify f) := by
  intro cs
  apply (quiet_attempt h cs).bind
  intro _ _ k hk
  have same : (f k).changes = cs := by rw [changes, hf, ← changes, hk]
  exact ends_modify.2 ⟨same, fun _ _ => trivial, fun _ _ => trivial⟩

theorem calls_changeLink (k : Kernel) (n : String) (f : Link → Link) :
    (k.changeLink n f).calls = k.calls := by
  unfold changeLink
  split <;> rfl

theorem quiet_linkByName (n : String) : Quiet (linkByName n) := by
  intro cs
  apply (quiet_attempt (c := .linkByName n) rfl cs).bind
  intro _ _ k hk
  rw [ends_bind, ends_get, andThen_ok]
  cases k.links.find? ⟨n⟩ <;> exact ⟨hk, fun _ _ => trivial, fun _ _ => trivial⟩

theorem quiet_linkSetUp (l : Link) : Quiet (linkSetUp l) :=
  quiet_attempt_modify rfl fun k => calls_changeLink k _ _

theorem quiet_linkSetDown (l : Link) : Quiet (linkSetDown l) :=
  quiet_attempt_modify rfl fun k => calls_changeLink k _ _

theorem quiet_linkSetMtu (l : Link) (mtu : UInt32) : Quiet (linkSetMtu l mtu) :=
  quiet_attempt_modify rfl fun k => calls_changeLink k _ _

/-- A change of a device is sent even where it fails, and then it is lost. -/
theorem ends_configureDevice (n : String) (c : DeviceChange) (k : Kernel) :
    Ends (configureDevice n c) k fun r t =>
      t.changes = k.changes ++ [(n, c)] ∧ ∀ e, r = .error e → LostChange k t := by
  rcases run : (configureDevice n c).run.run k with ⟨r, t⟩
  have sent : Ends (configureDevice n c) k fun _ t => t.changes = k.changes ++ [(n, c)] :=
    ends_attempt (fun _ => changes_record k _) fun _ _ => changes_record k _
  unfold Ends at sent ⊢
  rw [run] at sent ⊢
  refine ⟨sent, ?_⟩
  rintro e rfl
  exact .of_error run

end TunnelKeeper.Kernel
