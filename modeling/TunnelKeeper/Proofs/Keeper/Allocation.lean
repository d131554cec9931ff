import TunnelKeeper.Proofs.Keeper.Step
import TunnelKeeper.Proofs.Net.Block

/-!
# Free addresses are found

The search walks a subnet from its network address upwards and stops at the first address that is
not taken. It passes every address of the subnet before it gives up, so it gives up only if no
address is free, and what it finds is the lowest free address.
-/
namespace TunnelKeeper.Memory
open TunnelKeeper Net

variable {subnet : Cidr} {taken : Address → Bool}

def FromOn (candidate : Option Cidr) (a : Address) : Prop :=
  ∃ c, candidate = some c ∧ c.addr.value ≤ a.value

@[simp] theorem not_fromOn_none (a : Address) : ¬ FromOn none a := nofun

@[simp] theorem fromOn_some {c : Cidr} {a : Address} :
    FromOn (some c) a ↔ c.addr.value ≤ a.value := by
  simp [FromOn]

/-- Whether a candidate stands in the walk through a subnet. -/
structure OnWalk (subnet c : Cidr) : Prop where
  length : c.length = subnet.length
  family : c.addr.family = subnet.addr.family
  start : subnet.network.addr.value ≤ c.addr.value

theorem onWalk_network (subnet : Cidr) : OnWalk subnet subnet.network :=
  ⟨rfl, rfl, Nat.le_refl _⟩

theorem OnWalk.next {c d : Cidr} (h : OnWalk subnet c) (hd : c.next? = some d) :
    OnWalk subnet d := by
  rw [Cidr.next?_eq] at hd
  split at hd
  case isTrue =>
    cases hd
    exact ⟨h.length, h.family, Nat.le_succ_of_le h.start⟩
  case isFalse => contradiction

/-- The walk comes to every address of the subnet that is not before the candidate. -/
theorem OnWalk.eq_or_fromOn {c : Cidr} {a : Address} (h : OnWalk subnet c)
    (ha : subnet.contains a = true) (le : c.addr.value ≤ a.value) :
    a = c.addr ∨ FromOn c.next? a := by
  have family : a.family = c.addr.family := (Cidr.contains_iff.1 ha).1.trans h.family.symm
  have bound := a.value_lt
  rw [family] at bound
  by_cases same : c.addr.value = a.value
  · exact .inl (Address.ext' family same.symm)
  · rw [Cidr.next?_eq, dif_pos (by omega), fromOn_some]
    exact .inr (Nat.lt_of_le_of_ne le same)

/-- No address of the subnet comes after one that the walk has left it at. -/
theorem OnWalk.not_contains {c : Cidr} {a : Address} (h : OnWalk subnet c)
    (outside : ¬ subnet.contains c.addr = true) (le : c.addr.value ≤ a.value) :
    ¬ subnet.contains a = true := by
  intro ha
  have last := (Cidr.contains_iff.1 ha).2.2
  exact outside (Cidr.contains_iff.2 ⟨h.family, h.start, Nat.le_trans le last⟩)

/-- What the walk finds is the lowest address of the subnet from the candidate on that is not
taken. -/
structure IsFirst (subnet : Cidr) (taken : Address → Bool) (candidate : Option Cidr) (c : Cidr) :
    Prop where
  length : c.length = subnet.length
  inside : subnet.contains c.addr = true
  free : taken c.addr = false
  lowest {a : Address} : FromOn candidate a → subnet.contains a = true → taken a = false →
    c.addr.value ≤ a.value

theorem isFirst_of_firstFree? {candidate : Option Cidr} {c : Cidr}
    (walk : ∀ d, candidate = some d → OnWalk subnet d)
    (h : firstFree? subnet taken candidate = some c) : IsFirst subnet taken candidate c := by
  fun_induction firstFree? subnet taken candidate with
  | case1 => contradiction
  | case2 d inside isTaken ih =>
    have first := ih (fun e he => (walk d rfl).next he) h
    refine ⟨first.length, first.inside, first.free, fun from_ ha free => ?_⟩
    rcases (walk d rfl).eq_or_fromOn ha (fromOn_some.1 from_) with rfl | later
    · rw [isTaken] at free
      contradiction
    · exact first.lowest later ha free
  | case3 d inside free =>
    cases h
    exact ⟨(walk c rfl).length, inside, Bool.eq_false_iff.2 free,
      fun from_ _ _ => fromOn_some.1 from_⟩
  | case4 => contradiction

theorem taken_of_firstFree?_eq_none {candidate : Option Cidr}
    (walk : ∀ d, candidate = some d → OnWalk subnet d)
    (h : firstFree? subnet taken candidate = none) {a : Address} (from_ : FromOn candidate a)
    (ha : subnet.contains a = true) : taken a = true := by
  fun_induction firstFree? subnet taken candidate with
  | case1 => exact absurd from_ (not_fromOn_none a)
  | case2 d inside isTaken ih =>
    rcases (walk d rfl).eq_or_fromOn ha (fromOn_some.1 from_) with rfl | later
    · exact isTaken
    · exact ih (fun e he => (walk d rfl).next he) h later
  | case3 d inside free => contradiction
  | case4 d outside => exact absurd ha ((walk d rfl).not_contains outside (fromOn_some.1 from_))

theorem mapM_eq_ok {α β : Type} {f : α → Except KeeperError (List β)} {as : List α}
    (h : ∀ a ∈ as, ∃ bs, f a = .ok bs) :
    ∃ bss, as.mapM f = .ok bss ∧ ∀ b, b ∈ bss.flatten ↔ ∃ a ∈ as, ∃ bs, f a = .ok bs ∧ b ∈ bs := by
  induction as with
  | nil => exact ⟨[], rfl, by simp⟩
  | cons a as ih =>
    rw [List.forall_mem_cons] at h
    obtain ⟨⟨bs, hbs⟩, rest⟩ := h
    obtain ⟨bss, hbss, mem⟩ := ih rest
    refine ⟨bs :: bss, ?_, fun b => ?_⟩
    · rw [List.mapM_cons, hbs, hbss]
      rfl
    · rw [List.flatten_cons, List.mem_append, mem]
      simp [hbs]

theorem addressesAt_eq_ok_iff {place : AddressPlace} {s : String} {cs : List Cidr} :
    addressesAt place s = .ok cs ↔ Cidr.parseList s = .ok cs := by
  unfold addressesAt
  cases Cidr.parseList s with
  | error e => exact ⟨nofun, nofun⟩
  | ok ds =>
    constructor
    · rintro ⟨⟩
      rfl
    · rintro ⟨⟩
      rfl

section

variable {m : Memory} {id : InterfaceId} {i : Interface}

theorem usedAddresses_eq_ok (pass : Cidr → Bool) (managed : m.interfaces.find? id = some i)
    (peers : ∀ p ∈ (m.peersOf id).records, ∃ cs, Cidr.parseList p.tunnel.addresses.value = .ok cs) :
    ∃ used, m.usedAddresses id pass = .ok used ∧ ∀ c, c ∈ used ↔ pass c = true ∧
      ∃ p ∈ (m.peersOf id).records, ∃ cs, Cidr.parseList p.tunnel.addresses.value = .ok cs ∧
        c ∈ cs := by
  obtain ⟨bss, hbss, mem⟩ := mapM_eq_ok (f := fun p : Peer =>
    addressesAt (.peer p.id) p.tunnel.addresses.value) fun p hp =>
      (peers p hp).imp fun _ h => addressesAt_eq_ok_iff.2 h
  simp only [addressesAt_eq_ok_iff] at mem
  refine ⟨Cidr.sort (bss.flatten.filter pass), ?_, fun c => ?_⟩
  · rw [usedAddresses, peersOfInterface, if_pos (Directory.contains_of_find? managed)]
    refine bind_eq_ok_iff.2 ⟨_, rfl, ?_⟩
    exact bind_eq_ok_iff.2 ⟨bss, hbss, rfl⟩
  · rw [Cidr.sort, List.mem_mergeSort, List.mem_filter, mem, and_comm]

/-- Whether a text of addresses names an address, with whatever length. -/
def Names (s : String) (a : Address) : Prop :=
  ∃ cs, Cidr.parseList s = .ok cs ∧ ∃ c ∈ cs, c.addr = a

theorem heldAddresses_eq_ok (managed : m.interfaces.find? id = some i)
    (own : ∃ cs, Cidr.parseList i.addresses = .ok cs)
    (peers : ∀ p ∈ (m.peersOf id).records, ∃ cs, Cidr.parseList p.tunnel.addresses.value = .ok cs) :
    ∃ held, m.heldAddresses id subnet = .ok held ∧ ∀ a, subnet.contains a = true →
      ((∃ c ∈ held, c.addr = a) ↔
        (∃ p ∈ (m.peersOf id).records, Names p.tunnel.addresses.value a) ∨
          Names i.addresses a) := by
  obtain ⟨cs, hcs⟩ := own
  obtain ⟨used, hused, mem⟩ :=
    usedAddresses_eq_ok (fun c => subnet.contains c.addr) managed peers
  have found : m.interface id = .ok i := by rw [interface, managed]
  refine ⟨used ++ cs.filter fun c => subnet.contains c.addr, ?_, fun a ha => ?_⟩
  · refine bind_eq_ok_iff.2 ⟨used, hused, bind_eq_ok_iff.2 ⟨i, found, ?_⟩⟩
    exact bind_eq_ok_iff.2 ⟨cs, addressesAt_eq_ok_iff.2 hcs, rfl⟩
  · simp only [List.mem_append, List.mem_filter, mem]
    constructor
    · rintro ⟨c, ⟨-, p, hp, ds, hds, hc⟩ | ⟨hc, -⟩, rfl⟩
      · exact .inl ⟨p, hp, ds, hds, c, hc, rfl⟩
      · exact .inr ⟨cs, hcs, c, hc, rfl⟩
    · rintro (⟨p, hp, ds, hds, c, hc, rfl⟩ | ⟨ds, hds, c, hc, rfl⟩)
      · exact ⟨c, .inl ⟨ha, p, hp, ds, hds, hc⟩, rfl⟩
      · cases hcs.symm.trans hds
        exact ⟨c, .inr ⟨hc, ha⟩, rfl⟩

/-- An address of a subnet that an interface may give out to a new peer. -/
structure IsFree (m : Memory) (id : InterfaceId) (i : Interface) (subnet : Cidr)
    (reserved : List Cidr) (a : Address) : Prop where
  inside : subnet.contains a = true
  notNetwork : a ≠ subnet.network.addr
  notBroadcast : a.isV4 = true → a ≠ subnet.broadcast.addr
  notReserved : ∀ c ∈ reserved, c.addr ≠ a
  notHeld : ∀ p ∈ (m.peersOf id).records, ¬ Names p.tunnel.addresses.value a
  notOwn : ¬ Names i.addresses a

theorem isSetApart_eq_false_iff {a : Address} (ha : subnet.contains a = true) :
    isSetApart subnet a = false ↔
      a ≠ subnet.network.addr ∧ (a.isV4 = true → a ≠ subnet.broadcast.addr) := by
  have family : a.isV4 = subnet.addr.isV4 := by
    rw [Address.isV4, (Cidr.contains_iff.1 ha).1, Address.isV4]
  rw [isSetApart, Bool.or_eq_false_iff, decide_eq_false_iff_not, Bool.and_eq_false_imp, family]
  simp

theorem isFree_iff {reserved held : List Cidr} {a : Address} (ha : subnet.contains a = true)
    (mem : (∃ c ∈ held, c.addr = a) ↔
      (∃ p ∈ (m.peersOf id).records, Names p.tunnel.addresses.value a) ∨ Names i.addresses a) :
    IsFree m id i subnet reserved a ↔
      isTaken subnet (reserved ++ held) a = false := by
  have none : ((reserved ++ held).any fun c => c.addr = a) = false ↔
      (∀ c ∈ reserved, c.addr ≠ a) ∧ ¬ ∃ c ∈ held, c.addr = a := by
    simp
  rw [isTaken, Bool.or_eq_false_iff, isSetApart_eq_false_iff ha, none, mem]
  constructor
  · intro h
    refine ⟨⟨h.notNetwork, h.notBroadcast⟩, h.notReserved, ?_⟩
    rintro (⟨p, hp, held⟩ | own)
    · exact h.notHeld p hp held
    · exact h.notOwn own
  · rintro ⟨⟨network, broadcast⟩, reserved, held⟩
    exact ⟨ha, network, broadcast, reserved, fun p hp h => held (.inl ⟨p, hp, h⟩),
      fun h => held (.inr h)⟩

theorem freshAddress_of_found {reserved held : List Cidr} {c : Cidr}
    (hheld : m.heldAddresses id subnet = .ok held)
    (found : firstFree? subnet (isTaken subnet (reserved ++ held)) (some subnet.network) = some c) :
    m.freshAddress id subnet reserved = .ok c := by
  rw [freshAddress, hheld]
  simp [bind, Except.bind, found]

theorem freshAddress_of_exhausted {reserved held : List Cidr}
    (hheld : m.heldAddresses id subnet = .ok held)
    (exhausted : firstFree? subnet (isTaken subnet (reserved ++ held)) (some subnet.network) =
      none) : m.freshAddress id subnet reserved = .error (.exhausted subnet.network) := by
  rw [freshAddress, hheld]
  simp [bind, Except.bind, exhausted]

/-- A fresh address is the lowest free one of the subnet, and there is one unless the subnet is
exhausted. -/
theorem freshAddress_exact {s : String} {reserved : List Cidr}
    (managed : m.interfaces.find? id = some i)
    (own : ∃ cs, Cidr.parseList i.addresses = .ok cs)
    (peers : ∀ p ∈ (m.peersOf id).records, ∃ cs, Cidr.parseList p.tunnel.addresses.value = .ok cs)
    (parsed : Cidr.parse s = .ok subnet) :
    let fresh := do m.freshAddress id (← parseSubnet s) reserved
    ((∃ c, fresh = .ok c) ↔ ∃ a, IsFree m id i subnet reserved a) ∧
      (∀ c, fresh = .ok c → c.length = subnet.length ∧ IsFree m id i subnet reserved c.addr ∧
        ∀ a, IsFree m id i subnet reserved a → c.addr.value ≤ a.value) ∧
      ((¬ ∃ a, IsFree m id i subnet reserved a) → fresh = .error (.exhausted subnet.network)) := by
  obtain ⟨held, hheld, mem⟩ := heldAddresses_eq_ok managed own peers
  intro fresh
  have computed : fresh = m.freshAddress id subnet reserved := by
    have read : parseSubnet s = .ok subnet := by rw [parseSubnet, parsed]; rfl
    change (parseSubnet s >>= fun c => m.freshAddress id c reserved) = _
    rw [read]
    rfl
  have walk (d : Cidr) (hd : some subnet.network = some d) : OnWalk subnet d := by
    cases hd
    exact onWalk_network subnet
  have start {a : Address} (ha : subnet.contains a = true) : FromOn (some subnet.network) a :=
    fromOn_some.2 (Cidr.contains_iff.1 ha).2.1
  cases hf : firstFree? subnet (isTaken subnet (reserved ++ held)) (some subnet.network) with
  | some c =>
    rw [freshAddress_of_found hheld hf] at computed
    have first := isFirst_of_firstFree? walk hf
    have free : IsFree m id i subnet reserved c.addr :=
      (isFree_iff first.inside (mem _ first.inside)).2 first.free
    constructor
    · exact ⟨fun _ => ⟨_, free⟩, fun _ => ⟨c, computed⟩⟩
    constructor
    · intro d hd
      cases computed.symm.trans hd
      refine ⟨first.length, free, fun a ha => ?_⟩
      have untaken := (isFree_iff ha.inside (mem _ ha.inside)).1 ha
      exact first.lowest (start ha.inside) ha.inside untaken
    · intro exhausted
      exact absurd ⟨_, free⟩ exhausted
  | none =>
    rw [freshAddress_of_exhausted hheld hf] at computed
    have exhausted : ¬ ∃ a, IsFree m id i subnet reserved a := by
      rintro ⟨a, ha⟩
      have isTaken := taken_of_firstFree?_eq_none walk hf (start ha.inside) ha.inside
      have isFree := (isFree_iff ha.inside (mem _ ha.inside)).1 ha
      exact Bool.false_ne_true (isFree.symm.trans isTaken)
    have refused (c : Cidr) : fresh ≠ .ok c := by
      rw [computed]
      exact nofun
    constructor
    · exact ⟨fun ⟨c, hc⟩ => absurd hc (refused c), fun h => absurd h exhausted⟩
    constructor
    · intro c hc
      exact absurd hc (refused c)
    · exact fun _ => computed

end

def holder : Interface := { id := ⟨"wg0"⟩, addresses := "10.0.0.1/29" }

def held : Memory :=
  (({} : Memory).addInterface holder).addPeer holder.id
    { id := ⟨"a"⟩, tunnel := { interfaceId := holder.id, addresses := .chosen "10.0.0.2/32" } }

def heldSubnet : Cidr := ⟨.ofValue .v4 0x0A000000, 29, by decide⟩

theorem freshAddress_exact_held :
    held.interfaces.find? holder.id = some holder ∧ Cidr.parse "10.0.0.0/29" = .ok heldSubnet ∧
      ((∃ c, (do held.freshAddress holder.id (← parseSubnet "10.0.0.0/29") []) = .ok c) ↔
        ∃ a, IsFree held holder.id holder heldSubnet [] a) := by
  have managed : held.interfaces.find? holder.id = some holder := rfl
  have own : ∃ cs, Cidr.parseList holder.addresses = .ok cs := ⟨_, rfl⟩
  have peers : ∀ p ∈ (held.peersOf holder.id).records,
      ∃ cs, Cidr.parseList p.tunnel.addresses.value = .ok cs := by
    intro p hp
    cases List.mem_singleton.1 hp
    exact ⟨_, rfl⟩
  have parsed : Cidr.parse "10.0.0.0/29" = .ok heldSubnet := rfl
  exact ⟨managed, parsed, (freshAddress_exact managed own peers parsed).1⟩

end TunnelKeeper.Memory
