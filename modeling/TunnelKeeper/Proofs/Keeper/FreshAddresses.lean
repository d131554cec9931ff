import TunnelKeeper.Proofs.Keeper.Allocation
import TunnelKeeper.Proofs.Keeper.InterfaceEnds
import TunnelKeeper.Proofs.Net.CidrLists
import TunnelKeeper.Proofs.Net.CidrText

/-!
# Fresh addresses are not held

Whenever the search gives an address, the addresses of all peers of the interface could be read, and
none of them is that address. The text of several fresh addresses is read back as these addresses.
-/
namespace TunnelKeeper.Memory
open TunnelKeeper Net

/-- Whether a text of addresses can be read. -/
def Legible (s : String) : Prop := ∃ cs, Cidr.parseList s = .ok cs

/-- Whether two texts of addresses can be read and name no address in common. -/
structure Apart (s t : String) : Prop where
  left : Legible s
  right : Legible t
  disjoint {a : Address} : Names s a → ¬ Names t a

theorem Apart.symm {s t : String} (h : Apart s t) : Apart t s :=
  ⟨h.right, h.left, fun ht hs => h.disjoint hs ht⟩

theorem legible_listText (cs : List Cidr) : Legible (Cidr.listText cs) :=
  ⟨_, Cidr.parseList_listText cs⟩

theorem names_listText {cs : List Cidr} {a : Address} :
    Names (Cidr.listText cs) a ↔ ∃ c ∈ cs, c.addr = a := by
  simp [Names, Cidr.parseList_listText, Cidr.sort, List.mem_mergeSort]

variable {m : Memory} {id : InterfaceId} {subnet c : Cidr} {reserved held : List Cidr}

/-- The addresses that a subnet cannot give out are known only if all texts can be read. -/
theorem legible_of_heldAddresses (h : m.heldAddresses id subnet = .ok held) :
    (∃ i, m.interfaces.find? id = some i ∧ Legible i.addresses) ∧
      ∀ p ∈ (m.peersOf id).records, Legible p.tunnel.addresses.value := by
  obtain ⟨used, hused, h⟩ := bind_eq_ok_iff.1 h
  obtain ⟨i, hi, h⟩ := bind_eq_ok_iff.1 h
  obtain ⟨own, hown, -⟩ := bind_eq_ok_iff.1 h
  obtain ⟨peers, hpeers, hused⟩ := bind_eq_ok_iff.1 hused
  obtain ⟨bss, hbss, -⟩ := bind_eq_ok_iff.1 hused
  have managed := Keeper.interface_eq_ok_iff.1 hi
  rw [peersOfInterface, if_pos (Directory.contains_of_find? managed)] at hpeers
  cases hpeers
  refine ⟨⟨i, managed, own, addressesAt_eq_ok_iff.1 hown⟩, fun p hp => ?_⟩
  obtain ⟨cs, -, hcs⟩ := (Cidr.partners_of_forall₂ (Cidr.mapM_eq_ok_iff.1 hbss)).1 p hp
  exact ⟨cs, addressesAt_eq_ok_iff.1 hcs⟩

/-- What the search finds for a subnet: its lowest free address, with the length of the subnet. -/
structure IsLowest (m : Memory) (id : InterfaceId) (i : Interface) (subnet : Cidr)
    (reserved : List Cidr) (c : Cidr) : Prop where
  length : c.length = subnet.length
  free : IsFree m id i subnet reserved c.addr
  lowest {a : Address} : IsFree m id i subnet reserved a → c.addr.value ≤ a.value

theorem isLowest_of_freshAddress {i : Interface} (managed : m.interfaces.find? id = some i)
    (h : m.freshAddress id subnet reserved = .ok c) : IsLowest m id i subnet reserved c := by
  obtain ⟨held, hheld, h⟩ := bind_eq_ok_iff.1 h
  obtain ⟨⟨j, managed', own⟩, peers⟩ := legible_of_heldAddresses hheld
  cases managed.symm.trans managed'
  obtain ⟨held', hheld', mem⟩ := heldAddresses_eq_ok managed own peers
  cases hheld.symm.trans hheld'
  have walk (d : Cidr) (hd : some subnet.network = some d) : OnWalk subnet d := by
    cases hd
    exact onWalk_network subnet
  split at h
  case h_1 d found =>
    cases h
    have first := isFirst_of_firstFree? walk found
    refine ⟨first.length, (isFree_iff first.inside (mem _ first.inside)).2 first.free, fun ha => ?_⟩
    have start := fromOn_some.2 (Cidr.contains_iff.1 ha.inside).2.1
    exact first.lowest start ha.inside ((isFree_iff ha.inside (mem _ ha.inside)).1 ha)
  case h_2 => contradiction

/-- A fresh address is free, and it is found only where all texts can be read. -/
theorem isFree_of_freshAddress (h : m.freshAddress id subnet reserved = .ok c) :
    (∃ i, IsFree m id i subnet reserved c.addr) ∧
      ∀ p ∈ (m.peersOf id).records, Legible p.tunnel.addresses.value := by
  obtain ⟨held, hheld, -⟩ := bind_eq_ok_iff.1 h
  obtain ⟨⟨i, managed, -⟩, peers⟩ := legible_of_heldAddresses hheld
  exact ⟨⟨i, (isLowest_of_freshAddress managed h).free⟩, peers⟩

variable {p : Peer} {text : String}

/-- A fresh address is none that a peer of the interface holds. -/
theorem not_names_of_freshAddress (hp : p ∈ (m.peersOf id).records)
    (h : m.freshAddress id subnet reserved = .ok c) :
    ¬ Names p.tunnel.addresses.value c.addr := by
  obtain ⟨⟨i, free⟩, -⟩ := isFree_of_freshAddress h
  exact free.notHeld p hp

/-- The text of the fresh addresses lists one for each subnet that the interface has. -/
theorem freshAddresses_eq_ok_iff : m.freshAddresses id = .ok text ↔
    ∃ i, m.interfaces.find? id = some i ∧ ∃ own, Cidr.parseList i.addresses = .ok own ∧
      ∃ fresh, List.Forall₂ (fun s c => m.freshAddress id s [s] = .ok c) own fresh ∧
        Cidr.listText fresh = text := by
  simp only [freshAddresses, bind_eq_ok_iff, Keeper.interface_eq_ok_iff, addressesAt_eq_ok_iff,
    Cidr.mapM_eq_ok_iff, pure, Except.pure, Except.ok.injEq]

theorem legible_of_freshAddresses (h : m.freshAddresses id = .ok text) : Legible text := by
  obtain ⟨i, -, own, -, fresh, -, rfl⟩ := freshAddresses_eq_ok_iff.1 h
  exact legible_listText fresh

/-- Every address in a text of fresh addresses was found for a subnet of the interface. -/
theorem exists_freshAddress {a : Address} (h : m.freshAddresses id = .ok text)
    (ha : Names text a) : ∃ subnet c, m.freshAddress id subnet [subnet] = .ok c ∧ c.addr = a := by
  obtain ⟨i, -, own, -, fresh, each, rfl⟩ := freshAddresses_eq_ok_iff.1 h
  obtain ⟨c, hc, rfl⟩ := names_listText.1 ha
  obtain ⟨subnet, -, found⟩ := (Cidr.partners_of_forall₂ each).2 c hc
  exact ⟨subnet, c, found, rfl⟩

end TunnelKeeper.Memory
