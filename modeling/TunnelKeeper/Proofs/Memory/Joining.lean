import TunnelKeeper.Proofs.Memory.Filing
import TunnelKeeper.Proofs.Store.Change

/-!
# Joining

A peer may join an interface that is managed if it stands in no other slot, and a prepared one only
if it does not take the place of a committed one. What holds between memory and the stored records
and survives a peer that joins survives any number of them.
-/
namespace TunnelKeeper.Memory
open TunnelKeeper Store

/-- Whether a peer may be filed under an interface without hiding a committed one. -/
structure Joins (m : Memory) (id : InterfaceId) (p : Peer) : Prop extends Fits m id p where
  hidesNone {q : Peer} : p.isPrepared = true → (m.peersOf id).find? p.id = some q →
    q.isPrepared = true

/-- Whether a peer may be saved without hiding a committed one. -/
def MayBeSaved (m : Memory) (p : Peer) : Prop :=
  ∀ q, m.findPeer? p.id = some q → p.isPrepared = true → q.isPrepared = true

variable {m : Memory} {id : InterfaceId}

/-- A peer may still join after another one that is as prepared as it if they are the same. -/
theorem Joins.addPeer {p q : Peer} (h : Joins m id q)
    (same : p.id = q.id → p.isPrepared = q.isPrepared) : Joins (m.addPeer id p) id q := by
  constructor
  · exact h.toFits.addPeer
  · intro _ prepared hold
    rw [find?_peersOf_addPeer] at hold
    split at hold
    case isTrue hq =>
      cases hold
      rw [same hq.2.symm, prepared]
    case isFalse => exact h.hidesNone prepared hold

theorem Joins.addPeers {ps : List Peer} {q : Peer} (h : Joins m id q)
    (same : ∀ p ∈ ps, p.id = q.id → p.isPrepared = q.isPrepared) :
    Joins (m.addPeers id ps) id q := by
  induction ps generalizing m with
  | nil => exact h
  | cons p ps ih =>
    rw [List.forall_mem_cons] at same
    exact ih (h.addPeer same.1) same.2

/-- Whether something between memory and records survives a peer that joins. -/
def SurvivesJoining (K : Memory → Records → Prop) : Prop :=
  ∀ m r id p, K m r → Joins m id p → K (m.addPeer id p) (Change.applyAll (saves [p]) r)

theorem SurvivesJoining.all {K : Memory → Records → Prop} (hK : SurvivesJoining K)
    {r : Records} {ps : List Peer} (h : K m r) (joins : ∀ p ∈ ps, Joins m id p)
    (same : ∀ p ∈ ps, ∀ q ∈ ps, p.id = q.id → p.isPrepared = q.isPrepared) :
    K (m.addPeers id ps) (Change.applyAll (saves ps) r) := by
  induction ps generalizing m r with
  | nil => exact h
  | cons p ps ih =>
    rw [List.forall_mem_cons] at joins
    have tail {q : Peer} (hq : q ∈ ps) : q ∈ p :: ps := List.mem_cons_of_mem p hq
    rw [addPeers_cons, applyAll_saves_cons]
    apply ih (hK _ _ _ _ h joins.1)
    · intro q hq
      exact (joins.2 q hq).addPeer (same p List.mem_cons_self q (tail hq))
    · intro q hq t ht
      exact same q (tail hq) t (tail ht)

/-- What survives joining holds wherever a pass over peers stops, and the others may still join. -/
theorem SurvivesJoining.upTo {K : Memory → Records → Prop} (hK : SurvivesJoining K)
    {r : Records} {ps done rest : List Peer} (split : ps = done ++ rest) (h : K m r)
    (joins : ∀ p ∈ ps, Joins m id p)
    (same : ∀ p ∈ ps, ∀ q ∈ ps, p.id = q.id → p.isPrepared = q.isPrepared) :
    K (m.addPeers id done) (Change.applyAll (saves done) r) ∧
      ∀ p ∈ rest, Joins (m.addPeers id done) id p := by
  have left {p : Peer} (hp : p ∈ done) : p ∈ ps := split ▸ List.mem_append_left rest hp
  have right {p : Peer} (hp : p ∈ rest) : p ∈ ps := split ▸ List.mem_append_right done hp
  constructor
  · exact hK.all h (fun p hp => joins p (left hp)) fun p hp q hq => same p (left hp) q (left hq)
  · exact fun p hp => (joins p (right hp)).addPeers fun q hq => same q (left hq) p (right hp)

end TunnelKeeper.Memory
