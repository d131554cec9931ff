import TunnelKeeper.Proofs.Keeper.Commitment
import TunnelKeeper.Proofs.Service.Turn

/-!
# What requests carry on

What every turn of every admitted request keeps holds after every run that begins with nothing
stored. For what is to hold of all peers of an interface four questions decide: whether it outlives
a new record of the interface, whether peers that are taken over have it, whether applied defaults
keep it, and whether peers that are saved have it.
-/
namespace TunnelKeeper
open Keeper Memory

/-- What each turn of a request keeps, the request keeps. -/
theorem Turn.kept_of_turns {I : Memory → Prop} {s : Service} {r : Request} {m m' : Memory}
    (kept : ∀ m m', Turn s r m m' → I m → I m') (turns : Relation.ReflTransGen (Turn s r) m m')
    (h : I m) : I m' := by
  induction turns with
  | refl => exact h
  | tail _ turn ih => exact kept _ _ turn ih

/-- What turns keep holds after a run over an empty store. -/
theorem Service.kept_of_requests {I : Memory → Prop} {admits : Request → Service → Service → Prop}
    {s t : Service} (started : s.keeper.Started) (empty : s.keeper.store.records = {})
    (start : I {})
    (kept : ∀ r u m m', admits r u (r.after u) → I u.keeper.memory → Turn u r m m' → I m → I m')
    (run : Relation.ReflTransGen (Move admits) s t) : I t.keeper.memory := by
  induction run with
  | refl =>
    rw [started.written_and_memory.2, empty]
    exact start
  | tail before move ih =>
    cases move with
    | request e r admitted =>
      have filed := filed_of_requests started before
      have turns := r.turns (s := Service.within _ e) filed
      exact Turn.kept_of_turns (fun m m' => kept r _ m m' admitted ih) turns ih

/-- Whether something holds of all peers of an interface, together with the interface. -/
def Memory.Under (id : InterfaceId) (Q : Interface → Peer → Prop) (m : Memory) : Prop :=
  ∀ ⦃i k p⦄, m.interfaces.find? id = some i → (m.peersOf id).find? k = some p → Q i p

/-- What a request has to do for something to go on to hold of all peers of an interface. -/
structure Request.Carries (id : InterfaceId) (Q : Interface → Peer → Prop) (s : Service)
    (r : Request) : Prop where
  updated {i j : Interface} {p : Peer} (asked : r = .updateInterface i) (here : i.id = id)
    (managed : s.keeper.memory.interfaces.find? id = some j) : Q j p → Q i p
  adopted {i : Interface} (serves : i.role = .server) (k : Kernel.DevicePeer) :
    Q i (importedPeer i k)
  renewed {i : Interface} {p : Peer} (asked : r = .applyDefaults id)
    (managed : s.keeper.memory.interfaces.find? id = some i) : Q i p → Q i (p.applyDefaults i)
  saved {i : Interface} {p : Peer} {change : Option Kernel.PeerChange} (saves : r.Saves s p)
    (home : p.tunnel.interfaceId = id)
    (managed : s.keeper.memory.interfaces.find? id = some i)
    (needed : neededChange s.keeper.memory p = .ok change) : Q i p

variable {id : InterfaceId} {Q : Interface → Peer → Prop} {m m' : Memory} {s : Service}
  {r : Request}

namespace Memory.Under

theorem empty : Under id Q {} := fun _ _ _ managed => nomatch managed

/-- Another record of an interface, which has to suit the peers that are there. -/
theorem insertInterface {i : Interface} (h : m.Under id Q)
    (interfaces : m'.interfaces = m.interfaces.insert i.id i)
    (peers : ∀ j, m'.peersOf j = m.peersOf j)
    (suits : i.id = id → ∀ ⦃k p⦄, (m.peersOf id).find? k = some p → Q i p) : m'.Under id Q := by
  intro j k p managed filed
  rw [interfaces] at managed
  rw [peers] at filed
  rcases Directory.of_find?_insert managed with ⟨here, rfl⟩ | managed
  · exact suits here.symm filed
  · exact h managed filed

/-- An interface that has no peers yet. -/
theorem newInterface {i : Interface} (h : m.Under id Q) (vacant : m.peersOf i.id = .empty)
    (interfaces : m'.interfaces = m.interfaces.insert i.id i)
    (peers : ∀ j, m'.peersOf j = m.peersOf j) : m'.Under id Q := by
  apply h.insertInterface interfaces peers
  rintro rfl k p filed
  rw [vacant] at filed
  contradiction

theorem addPeer {j : InterfaceId} {p : Peer} (h : m.Under id Q)
    (suits : j = id → ∀ ⦃i⦄, m.interfaces.find? id = some i → Q i p) :
    (m.addPeer j p).Under id Q := by
  intro i k q managed filed
  rw [find?_peersOf_addPeer] at filed
  split at filed
  case isTrue same =>
    cases filed
    exact suits same.1.symm managed
  case isFalse => exact h managed filed

theorem part (h : m.Under id Q) (part : m'.Part m) : m'.Under id Q :=
  fun _ _ _ managed filed => h (part.interfaces managed) (part.peers filed)

end Memory.Under

/-- One turn of a request that carries on what holds of the peers of an interface. -/
theorem Turn.under (turn : Turn s r m m') (carries : r.Carries id Q s)
    (start : s.keeper.memory.Under id Q) (h : m.Under id Q) : m'.Under id Q := by
  cases turn with
  | @bare _ i vacant =>
    exact h.newInterface (i := { id := i.id }) vacant rfl (peersOf_addInterface _ _)
  | created vacant => exact h.newInterface vacant rfl fun _ => rfl
  | updated managed =>
    refine h.insertInterface rfl (fun _ => rfl) ?_
    rintro rfl k p filed
    exact carries.updated rfl rfl managed (h managed filed)
  | found vacant => exact h.newInterface vacant rfl (peersOf_addInterface _ _)
  | adopted managed serves =>
    apply h.addPeer
    rintro rfl j managed'
    cases managed.symm.trans managed'
    exact carries.adopted serves _
  | renewed managed same filed =>
    apply h.addPeer
    rintro rfl j managed'
    rw [same] at managed'
    cases managed.symm.trans managed'
    exact carries.renewed rfl managed (start managed filed)
  | saved saves needed =>
    exact h.addPeer fun home _ managed => carries.saved saves home managed needed
  | dropped part => exact h.part part

/-- What admitted requests carry on holds of all peers of an interface after a run. -/
theorem Service.under_of_requests {admits : Request → Service → Service → Prop} {s t : Service}
    (started : s.keeper.Started) (empty : s.keeper.store.records = {})
    (carries : ∀ r u v, admits r u v → r.Carries id Q u)
    (run : Relation.ReflTransGen (Move admits) s t) : t.keeper.memory.Under id Q := by
  refine kept_of_requests started empty .empty ?_ run
  exact fun r u m m' admitted start turn h => turn.under (carries r u _ admitted) start h

namespace Service

/-- Requests one after the other, none of which meets a fault. -/
def serve (rs : List Request) (s : Service) : Service := rs.foldl (fun s r => r.after s.healed) s

/-- Whether requests are admitted one after the other, none of which meets a fault. -/
def AllAdmitted (admits : Request → Service → Service → Prop) : List Request → Service → Prop
  | [], _ => True
  | r :: rs, s => admits r s.healed (r.after s.healed) ∧ AllAdmitted admits rs (r.after s.healed)

theorem move_serve {admits : Request → Service → Service → Prop} {rs : List Request} {s : Service}
    (h : AllAdmitted admits rs s) : Relation.ReflTransGen (Move admits) s (serve rs s) := by
  induction rs generalizing s with
  | nil => exact .refl
  | cons r rs ih =>
    have first : Move admits s (r.after s.healed) :=
      .request ⟨s.healed.keeper.kernel, s.keeper.clock, .healthy⟩ r h.1
    exact .head first (ih h.2)

def vacant : Service := { solo with keeper := Keeper.vacant }

end Service

end TunnelKeeper
