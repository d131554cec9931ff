import TunnelKeeper.Proofs.Keeper.FreshAddresses
import TunnelKeeper.Proofs.Net.ListText

/-!
# Fresh addresses of several subnets

The fresh addresses of an interface are searched for one subnet after the other, and no search looks
at what the others have found. Each of them is held by nobody. They differ where the subnets have no
address in common, and subnets of one block are given one address.
-/
namespace TunnelKeeper

namespace Net.Cidr

/-- Whether a block has an address to give out: it holds the address and does not set it apart. -/
structure Offers (c : Cidr) (a : Address) : Prop where
  inside : c.contains a = true
  notNetwork : a ≠ c.network.addr
  notBroadcast : a.isV4 = true → a ≠ c.broadcast.addr

theorem broadcast_of_network_eq {c d : Cidr} (h : c.network = d.network) :
    c.broadcast.addr = d.broadcast.addr := by
  have family : c.addr.family = d.addr.family := congrArg (·.addr.family) h
  have length : c.length = d.length := congrArg (·.length) h
  have bits : c.hostBits = d.hostBits := by rw [hostBits, hostBits, family, length]
  refine Address.ext' family ?_
  rw [value_broadcast, value_broadcast, h, bits]

/-- CIDRs of one block have the same addresses to give out. -/
theorem Offers.of_network_eq {c d : Cidr} {a : Address} (h : c.network = d.network)
    (offered : c.Offers a) : d.Offers a := by
  have family : c.addr.family = d.addr.family := congrArg (·.addr.family) h
  have last := broadcast_of_network_eq h
  refine ⟨?_, h ▸ offered.notNetwork, last ▸ offered.notBroadcast⟩
  rw [contains_iff, ← family, ← h, ← last]
  exact contains_iff.1 offered.inside

end Net.Cidr

namespace Memory
open Net

variable {m : Memory} {id : InterfaceId} {i : Interface} {s t c d : Cidr} {own : List Cidr}

theorem IsFree.offers {reserved : List Cidr} {a : Address} (h : IsFree m id i s reserved a) :
    s.Offers a :=
  ⟨h.inside, h.notNetwork, h.notBroadcast⟩

/-- An address that is free in one subnet is free in every subnet of the interface that offers
it. -/
theorem IsFree.of_offers {reserved : List Cidr} {a : Address} (h : IsFree m id i s reserved a)
    (named : Names i.addresses t.addr) (offered : t.Offers a) : IsFree m id i t [t] a := by
  refine ⟨offered.inside, offered.notNetwork, offered.notBroadcast, ?_, h.notHeld, h.notOwn⟩
  rw [List.forall_mem_singleton]
  rintro rfl
  exact h.notOwn named

/-- Two subnets of an interface are given one address if each of them offers what the other one is
given. -/
theorem IsLowest.addr_eq_iff (hs : IsLowest m id i s [s] c) (ht : IsLowest m id i t [t] d)
    (ownS : Names i.addresses s.addr) (ownT : Names i.addresses t.addr) :
    c.addr = d.addr ↔ s.Offers d.addr ∧ t.Offers c.addr := by
  constructor
  · intro same
    have offersS := hs.free.offers
    have offersT := ht.free.offers
    rw [same] at offersS
    rw [← same] at offersT
    exact ⟨offersS, offersT⟩
  · rintro ⟨offersS, offersT⟩
    have family : c.addr.family = d.addr.family :=
      (Cidr.contains_iff.1 hs.free.inside).1.trans (Cidr.contains_iff.1 offersS.inside).1.symm
    have le := hs.lowest (ht.free.of_offers ownS offersS)
    have ge := ht.lowest (hs.free.of_offers ownT offersT)
    exact Address.ext' family (Nat.le_antisymm le ge)

/-- Subnets of one block are given one address. -/
theorem IsLowest.eq_of_network_eq (hs : IsLowest m id i s [s] c) (ht : IsLowest m id i t [t] d)
    (ownS : Names i.addresses s.addr) (ownT : Names i.addresses t.addr)
    (h : s.network = t.network) : c = d := by
  have addr : c.addr = d.addr := (hs.addr_eq_iff ht ownS ownT).2
    ⟨ht.free.offers.of_network_eq h.symm, hs.free.offers.of_network_eq h⟩
  have length : s.length = t.length := congrArg (·.length) h
  rw [← hs.length, ← ht.length] at length
  exact Cidr.ext' addr length

/-- Every subnet of an interface is given the lowest of its addresses that nobody holds. Two of them
are given one address if each offers what the other one is given: always if they are one block, and
never if they have no address in common. -/
theorem fresh_of_each_subnet {text : String} (managed : m.interfaces.find? id = some i)
    (read : Cidr.parseList i.addresses = .ok own) (h : m.freshAddresses id = .ok text) :
    ∃ fresh, List.Forall₂ (fun s => IsLowest m id i s [s]) own fresh ∧
      (∃ cs, Cidr.parseList text = .ok cs ∧ cs.Perm fresh) ∧
      (∀ s c, (s, c) ∈ own.zip fresh → ∀ t d, (t, d) ∈ own.zip fresh →
        (c.addr = d.addr ↔ s.Offers d.addr ∧ t.Offers c.addr) ∧ (s.network = t.network → c = d)) ∧
      ((own.Pairwise fun s t => ∀ a, s.contains a = true → ¬ t.contains a = true) →
        (fresh.map Cidr.addr).Nodup) := by
  obtain ⟨j, managed', own', read', fresh, each, rfl⟩ := freshAddresses_eq_ok_iff.1 h
  cases managed.symm.trans managed'
  cases read.symm.trans read'
  have lowest : List.Forall₂ (fun s => IsLowest m id i s [s]) own fresh :=
    each.imp fun s c => isLowest_of_freshAddress managed
  have given {s c : Cidr} (hsc : (s, c) ∈ own.zip fresh) : IsLowest m id i s [s] c :=
    (List.forall₂_iff_zip.1 lowest).2 hsc
  have named {s c : Cidr} (hsc : (s, c) ∈ own.zip fresh) : Names i.addresses s.addr :=
    ⟨own, read, s, (List.of_mem_zip hsc).1, rfl⟩
  refine ⟨fresh, lowest, ⟨_, Cidr.parseList_listText fresh, Cidr.sort_perm fresh⟩, ?_, ?_⟩
  · intro s c hs t d ht
    constructor
    · exact (given hs).addr_eq_iff (given ht) (named hs) (named ht)
    · exact (given hs).eq_of_network_eq (given ht) (named hs) (named ht)
  · intro apart
    -- subnets and addresses are compared pair by pair, so that each address knows its subnet
    rw [← List.map_fst_zip lowest.length_eq.le, List.pairwise_map] at apart
    rw [← List.map_snd_zip lowest.length_eq.ge, List.map_map, List.Nodup, List.pairwise_map]
    refine apart.imp_of_mem fun {x y} hx hy none same => ?_
    have inside := (given hx).free.inside
    change x.2.addr = y.2.addr at same
    rw [same] at inside
    exact none _ inside (given hy).free.inside

/-- What the search finds for a subnet whose held addresses are known. -/
theorem freshAddress_of_used {used : List Cidr} (managed : m.interfaces.find? id = some i)
    (read : Cidr.parseList i.addresses = .ok own)
    (known : m.usedAddresses id (fun c => s.contains c.addr) = .ok used)
    (found : firstFree? s (isTaken s (s :: (used ++ own.filter fun c => s.contains c.addr)))
      (some s.network) = some c) : m.freshAddress id s [s] = .ok c := by
  refine freshAddress_of_found ?_ found
  have managed' : m.interface id = .ok i := by rw [interface, managed]
  refine bind_eq_ok_iff.2 ⟨used, known, bind_eq_ok_iff.2 ⟨i, managed', ?_⟩⟩
  exact bind_eq_ok_iff.2 ⟨own, addressesAt_eq_ok_iff.2 read, rfl⟩

def office (host : Nat) : Cidr := ⟨.ofValue .v4 (0x0A000000 + host), 24, (by decide : 24 ≤ 32)⟩

def campus (host : Nat) : Cidr :=
  ⟨.ofValue .v6 (0xFD00 * blockSize 112 + host), 64, (by decide : 64 ≤ 128)⟩

def router (addresses : String) : Interface := { id := ⟨"wg0"⟩, addresses }

def tenant : Peer :=
  { id := ⟨"a"⟩, tunnel := { interfaceId := ⟨"wg0"⟩, addresses := .chosen "10.0.0.2/24" } }

def tenanted (addresses : String) : Memory :=
  (({} : Memory).addInterface (router addresses)).addPeer ⟨"wg0"⟩ tenant

theorem fresh_of_each_subnet_dual :
    let i := router "fd00::1/64, 10.0.0.1/24"
    let m := tenanted i.addresses
    m.interfaces.find? i.id = some i ∧
      Cidr.parseList i.addresses = .ok [office 1, campus 1] ∧
      m.freshAddresses i.id = .ok "10.0.0.3/24,fd00::2/64" ∧
      ∃ fresh, List.Forall₂ (fun s => IsLowest m i.id i s [s]) [office 1, campus 1] fresh ∧
        (∃ cs, Cidr.parseList "10.0.0.3/24,fd00::2/64" = .ok cs ∧ cs.Perm fresh) ∧
        (fresh.map Cidr.addr).Nodup := by
  intro i m
  have managed : m.interfaces.find? i.id = some i := rfl
  have read : Cidr.parseList i.addresses = .ok [office 1, campus 1] := by
    have elements : (Text.listElements i.addresses).mapM Cidr.parse =
        .ok [campus 1, office 1] := by
      decide +kernel
    exact Cidr.parseList_of_sorted elements (by decide +kernel) (by decide +kernel)
  have held : m.usedAddresses i.id (fun c => (office 1).contains c.addr) = .ok [office 2] := by
    decide +kernel
  have none : m.usedAddresses i.id (fun c => (campus 1).contains c.addr) = .ok [] := by
    decide +kernel
  have inOffice : m.freshAddress i.id (office 1) [office 1] = .ok (office 3) :=
    freshAddress_of_used managed read held (by decide +kernel)
  have onCampus : m.freshAddress i.id (campus 1) [campus 1] = .ok (campus 2) :=
    freshAddress_of_used managed read none (by decide +kernel)
  have found : m.freshAddresses i.id = .ok "10.0.0.3/24,fd00::2/64" :=
    freshAddresses_eq_ok_iff.2
      ⟨i, managed, _, read, _, .cons inOffice (.cons onCampus .nil), by decide +kernel⟩
  have apart (a : Address) (ha : (office 1).contains a = true) :
      ¬ (campus 1).contains a = true := by
    intro hb
    have v4 := (Cidr.contains_iff.1 ha).1
    have v6 := (Cidr.contains_iff.1 hb).1
    exact nomatch v4.symm.trans v6
  obtain ⟨fresh, lowest, text, -, distinct⟩ := fresh_of_each_subnet managed read found
  exact ⟨managed, read, found, fresh, lowest, text, distinct (List.pairwise_pair.2 apart)⟩

/-- A router with two addresses in one subnet is given one fresh address twice. -/
theorem fresh_address_given_twice :
    let i := router "10.0.0.1/24,10.0.0.3/24"
    let m := tenanted i.addresses
    m.interfaces.find? i.id = some i ∧ Legible i.addresses ∧
      (∀ p ∈ (m.peersOf i.id).records, Legible p.tunnel.addresses.value) ∧
      m.freshAddresses i.id = .ok "10.0.0.4/24,10.0.0.4/24" ∧
      ∃ cs, Cidr.parseList "10.0.0.4/24,10.0.0.4/24" = .ok cs ∧ ¬ (cs.map Cidr.addr).Nodup := by
  intro i m
  have managed : m.interfaces.find? i.id = some i := rfl
  have read : Cidr.parseList i.addresses = .ok [office 1, office 3] := by
    have elements : (Text.listElements i.addresses).mapM Cidr.parse =
        .ok [office 1, office 3] := by
      decide +kernel
    exact Cidr.parseList_of_sorted elements (.refl _) (by decide +kernel)
  have held (s : Cidr) (h : s = office 1 ∨ s = office 3) :
      m.usedAddresses i.id (fun c => s.contains c.addr) = .ok [office 2] := by
    rcases h with rfl | rfl <;> decide +kernel
  have first : m.freshAddress i.id (office 1) [office 1] = .ok (office 4) :=
    freshAddress_of_used managed read (held _ (.inl rfl)) (by decide +kernel)
  have second : m.freshAddress i.id (office 3) [office 3] = .ok (office 4) :=
    freshAddress_of_used managed read (held _ (.inr rfl)) (by decide +kernel)
  have found : m.freshAddresses i.id = .ok "10.0.0.4/24,10.0.0.4/24" :=
    freshAddresses_eq_ok_iff.2
      ⟨i, managed, _, read, _, .cons first (.cons second .nil), by decide +kernel⟩
  have again : Cidr.parseList "10.0.0.4/24,10.0.0.4/24" = .ok [office 4, office 4] := by
    have elements : (Text.listElements "10.0.0.4/24,10.0.0.4/24").mapM Cidr.parse =
        .ok [office 4, office 4] := by
      decide +kernel
    exact Cidr.parseList_of_sorted elements (.refl _) (by decide +kernel)
  refine ⟨managed, ⟨_, read⟩, ?_, found, _, again, by decide +kernel⟩
  have peers : (m.peersOf i.id).records = [tenant] := by decide +kernel
  rw [peers, List.forall_mem_singleton]
  exact ⟨[office 2], by decide +kernel⟩

end Memory

end TunnelKeeper
