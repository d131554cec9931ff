import TunnelKeeper.Proofs.Keeper.Legibility
import TunnelKeeper.Proofs.Service.Carrying

/-!
# Which addresses can be read

The addresses of a managed interface can always be read, and so can those of a peer that was
prepared or taken over. Those of a peer that was created or updated stay as they were sent, and a
single one that cannot be read blocks every search on its interface.
-/
namespace TunnelKeeper
open Keeper Memory Net

/-- Whether the addresses can be read of a peer that is sent with a request. -/
def Request.IsLegible : Request → Prop
  | .createPeer p => Legible p.tunnel.addresses.value
  | .updatePeer p => Legible p.tunnel.addresses.value
  | _ => True

namespace Service

variable {admits : Request → Service → Service → Prop} {s t : Service} {id : InterfaceId}
  {i : Interface}

def HasLegibleInterfaces (m : Memory) : Prop :=
  ∀ ⦃id i⦄, m.interfaces.find? id = some i → Legible i.addresses

theorem HasLegibleInterfaces.insert {m m' : Memory} (h : HasLegibleInterfaces m)
    (legible : Legible i.addresses) (interfaces : m'.interfaces = m.interfaces.insert i.id i) :
    HasLegibleInterfaces m' := by
  intro id j managed
  rw [interfaces] at managed
  rcases Directory.of_find?_insert managed with ⟨-, rfl⟩ | managed
  · exact legible
  · exact h managed

theorem HasLegibleInterfaces.congr {m m' : Memory} (h : HasLegibleInterfaces m)
    (interfaces : m'.interfaces = m.interfaces) : HasLegibleInterfaces m' := by
  intro id j managed
  rw [interfaces] at managed
  exact h managed

theorem legible_empty : Legible "" :=
  ⟨_, Cidr.parseList_eq_ok_iff.2 ⟨[], .nil, rfl⟩⟩

/-- Every turn leaves the addresses of the interfaces to be read. -/
theorem legible_of_turn {r : Request} {m m' : Memory} (turn : Turn s r m m')
    (h : HasLegibleInterfaces m) : HasLegibleInterfaces m' := by
  cases turn with
  | @bare _ i => exact h.insert (i := { id := i.id }) legible_empty rfl
  | created _ legible => exact h.insert legible rfl
  | updated _ legible => exact h.insert legible rfl
  | @found m now d link addresses =>
    have legible : Legible (importedInterface now d link addresses).addresses :=
      legible_listText addresses
    exact h.insert legible rfl
  | adopted => exact h.congr rfl
  | renewed => exact h.congr rfl
  | saved => exact h.congr rfl
  | dropped part => exact fun _ _ managed => h (part.interfaces managed)

theorem legible_of_managed (started : s.keeper.Started) (empty : s.keeper.store.records = {})
    (run : Relation.ReflTransGen (Move admits) s t)
    (managed : t.keeper.memory.interfaces.find? id = some i) : Legible i.addresses := by
  refine kept_of_requests (I := HasLegibleInterfaces) started empty ?_ ?_ run managed
  · exact fun _ _ managed => nomatch managed
  · exact fun _ _ _ _ _ _ => legible_of_turn

/-- Legible requests leave the addresses of all peers to be read. -/
theorem carries_legible {r : Request} (legible : r.IsLegible) (id : InterfaceId) :
    r.Carries id (fun _ p => Legible p.tunnel.addresses.value) s where
  updated _ _ _ h := h
  adopted _ _ := legible_listText _
  renewed _ _ h := h
  saved saves _ _ _ := by
    cases saves with
    | created => exact legible
    | updated => exact legible
    | prepared fresh => exact legible_of_freshAddresses fresh

/-- A preparation cannot read what the search for its addresses cannot. -/
theorem misreads_preparePeer_iff (managed : s.keeper.memory.interfaces.find? id = some i)
    (user : Option UserId) :
    (∃ place cause, ((preparePeer id user).run s).1 = .error (.keeper (.addresses place cause))) ↔
      Misreads (s.keeper.memory.freshAddresses id) := by
  rcases run : (preparePeer id user).run s with ⟨answer, u⟩
  cases (preparePeer_ends id user s).of_run run with
  | unmanaged h =>
    rw [interface_eq_ok_iff.2 managed] at h
    contradiction
  | notFound h =>
    rw [Misreads, h]
    simp
  | refused _ _ fresh saved =>
    rw [Misreads, fresh]
    constructor
    · rintro ⟨place, cause, ⟨⟩⟩
      obtain ⟨committed, -⟩ := misread_of_savePeer saved rfl
      contradiction
    · rintro ⟨_, _, ⟨⟩⟩
  | done _ fresh =>
    rw [Misreads, fresh]
    simp

/-- After every run over an empty store the addresses of a managed interface can be read. Those of
its peers can be read if those can that were sent with requests, and nothing else blocks a search:
it cannot read what it needs exactly if the addresses of some peer cannot be read. -/
theorem searches_blocked_by_peers (started : s.keeper.Started)
    (empty : s.keeper.store.records = {}) (run : Relation.ReflTransGen (Move admits) s t)
    (managed : t.keeper.memory.interfaces.find? id = some i) :
    Legible i.addresses ∧
      ((∀ r u v, admits r u v → r.IsLegible) → ¬ t.keeper.memory.Blocked id) ∧
      (∀ pass, Misreads (t.keeper.memory.usedAddresses id pass) ↔ t.keeper.memory.Blocked id) ∧
      (∀ text subnet reserved, Cidr.parse text = .ok subnet →
        (Misreads (do t.keeper.memory.freshAddress id (← parseSubnet text) reserved) ↔
          t.keeper.memory.Blocked id)) ∧
      (Misreads (t.keeper.memory.freshAddresses id) ↔
        t.keeper.memory.Blocked id ∧ Cidr.parseList i.addresses ≠ .ok []) ∧
      ∀ e user, (∃ place cause, ((preparePeer id user).run (t.within e)).1 =
          .error (.keeper (.addresses place cause))) ↔
        t.keeper.memory.Blocked id ∧ Cidr.parseList i.addresses ≠ .ok [] := by
  have legible := legible_of_managed started empty run managed
  have ⟨own, read⟩ := legible
  have fresh := misreads_freshAddresses_iff managed read
  have filled : own ≠ [] ↔ Cidr.parseList i.addresses ≠ .ok [] := by rw [read]; simp
  rw [filled] at fresh
  refine ⟨legible, fun sent => ?_, misreads_usedAddresses_iff managed, ?_, fresh, fun e user => ?_⟩
  · rintro ⟨p, hp, illegible⟩
    obtain ⟨k, filed⟩ := Directory.mem_records_iff.1 hp
    have carries (r u v) (admitted : admits r u v) :=
      carries_legible (s := u) (sent r u v admitted) id
    exact illegible (under_of_requests started empty carries run managed filed)
  · intro text subnet reserved parsed
    have subnetRead : parseSubnet text = .ok subnet := by rw [parseSubnet, parsed]; rfl
    rw [subnetRead]
    exact misreads_freshAddress_iff managed legible subnet reserved
  · exact (misreads_preparePeer_iff (s := t.within e) managed user).trans fresh

def gateway : Interface := { id := ⟨"wg0"⟩, addresses := "10.0.0.1/24" }

def guest (addresses : String) : Peer :=
  { member with tunnel := { interfaceId := ⟨"wg0"⟩, addresses := .chosen addresses } }

/-- The interface is created, and then the peer. -/
def admitted (addresses : String) : List Request :=
  [.createInterface gateway, .createPeer (guest addresses)]

theorem searches_blocked_by_peers_guest :
    vacant.keeper.Started ∧ vacant.keeper.store.records = {} ∧
      Relation.ReflTransGen (Move fun r _ _ => r.IsLegible) vacant
        (serve (admitted "10.0.0.2/24") vacant) ∧
      let m := (serve (admitted "10.0.0.2/24") vacant).keeper.memory
      m.interfaces.find? ⟨"wg0"⟩ = some gateway ∧ ¬ m.Blocked ⟨"wg0"⟩ ∧
        ¬ Misreads (m.freshAddresses ⟨"wg0"⟩) ∧ m.freshAddresses ⟨"wg0"⟩ = .ok "10.0.0.3/24" := by
  have run : Relation.ReflTransGen (Move fun r _ _ => r.IsLegible) vacant
      (serve (admitted "10.0.0.2/24") vacant) := by
    have legible : Legible "10.0.0.2/24" := ⟨_, rfl⟩
    exact move_serve ⟨trivial, legible, trivial⟩
  have managed : (serve (admitted "10.0.0.2/24") vacant).keeper.memory.interfaces.find? ⟨"wg0"⟩ =
      some gateway := by decide +kernel
  obtain ⟨-, legible, -, -, fresh, -⟩ :=
    searches_blocked_by_peers Keeper.started_vacant rfl run managed
  have free := legible fun _ _ _ sent => sent
  exact ⟨Keeper.started_vacant, rfl, run, managed, free, fun h => free (fresh.1 h).1,
    by decide +kernel⟩

/-- A peer whose addresses cannot be read is accepted, and then nothing can be searched. -/
theorem illegible_peer_blocks :
    vacant.keeper.Started ∧ vacant.keeper.store.records = {} ∧
      Relation.ReflTransGen (Move fun _ u _ => u.keeper.Healthy) vacant
        (serve (admitted "nonsense") vacant) ∧
      let t := serve (admitted "nonsense") vacant
      let unread := KeeperError.addresses (.peer ⟨"a"⟩) (.missingLength "nonsense")
      t.keeper.memory.interfaces.find? ⟨"wg0"⟩ = some gateway ∧
        t.keeper.memory.findPeer? ⟨"a"⟩ = some (guest "nonsense") ∧
        t.keeper.memory.usedAddresses ⟨"wg0"⟩ (fun _ => true) = .error unread ∧
        (do t.keeper.memory.freshAddress ⟨"wg0"⟩ (← parseSubnet "10.0.0.0/24") []) =
          .error unread ∧
        t.keeper.memory.freshAddresses ⟨"wg0"⟩ = .error unread ∧
        ((preparePeer ⟨"wg0"⟩ none).run (t.within .calm)).1 = .error (.keeper unread) := by
  have healthy (u : Service) : u.healed.keeper.Healthy := healthy_healed u.keeper
  refine ⟨Keeper.started_vacant, rfl, move_serve ⟨healthy _, healthy _, trivial⟩, ?_⟩
  refine ⟨?_, ?_, ?_, ?_, ?_, ?_⟩ <;> decide +kernel

end Service

end TunnelKeeper
