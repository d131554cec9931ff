import TunnelKeeper.Proofs.Keeper.Holding
import TunnelKeeper.Proofs.Service.Request

/-!
# A prepared address stays held

The addresses that a preparation gave to a peer are given to nobody else, whatever requests follow
and whatever fails in them, until the peer or its interface is deleted, the peer expires, or a
request gives it other addresses. It does not matter whether the peer is still prepared or was
committed, nor how often the defaults of its interface were applied.
-/
namespace TunnelKeeper.Service
open TunnelKeeper Effect Memory

variable {s : Service} {id : InterfaceId} {p : Peer}

/-- Whether a request takes from a peer an address that it was prepared with. A record that is
refused takes nothing, and neither does one whose text names all of the addresses. -/
inductive Releases (id : InterfaceId) (p : Peer) (s : Service) : Request → Prop
  | deletePeer (deleted : ((deletePeer p.id).run s).1 = .ok ()) : Releases id p s (.deletePeer p.id)
  | deleteInterface (deleted : ((deleteInterface id).run s).1 = .ok ()) :
      Releases id p s (.deleteInterface id)
  | expire {c : Settings} {cutoff : Instant} {q : Peer}
      (due : Keeper.staleBefore? s.keeper.clock c.preparedTtl = some cutoff)
      (known : s.keeper.memory.findPeer? p.id = some q) (stale : Keeper.isStale cutoff q = true) :
      Releases id p s (.runBackground c)
  | create {q : Peer} (same : q.id = p.id) (other : ¬ Retains q p.tunnel.addresses.value)
      (accepted : ∀ e, ((createPeer q).run s).1 = .error (.keeper e) → e.isRefusal = false) :
      Releases id p s (.createPeer q)
  | update {q : Peer} (same : q.id = p.id) (other : ¬ Retains q p.tunnel.addresses.value)
      (accepted : ∀ e, ((updatePeer q).run s).1 = .error (.keeper e) → e.isRefusal = false) :
      Releases id p s (.updatePeer q)
  | prepare {j : InterfaceId} {user : Option UserId} {q : Peer} (same : q.id = p.id)
      (other : ¬ Retains q p.tunnel.addresses.value)
      (prepared : ((preparePeer j user).run s).1 = .ok q) : Releases id p s (.preparePeer j user)

/-- What saving one record leaves held, unless it is refused. -/
theorem SaveEnds.holds {q : Peer} {r : Except ServiceError Peer} {t : Service}
    (h : SaveEnds q s r t) {peer : PeerId} {text : String}
    (held : s.keeper.memory.Holds id peer text)
    (retains : q.id = peer → (∀ e, r = .error (.keeper e) → e.isRefusal = false) →
      Retains q text) : t.keeper.memory.Holds id peer text := by
  have ends := Keeper.holds_savePeer q held
  cases h with
  | refused => exact held
  | failed saved =>
    apply ends.of_run saved
    intro same accepted
    apply retains same
    rintro _ ⟨⟩
    exact accepted _ rfl
  | done saved =>
    apply ends.of_run saved
    intro same _
    exact retains same nofun

theorem UpdateEnds.holds {q : Peer} {r : Except ServiceError Peer} {t : Service}
    (h : UpdateEnds q s r t) {peer : PeerId} {text : String}
    (held : s.keeper.memory.Holds id peer text)
    (retains : q.id = peer → (∀ e, r = .error (.keeper e) → e.isRefusal = false) →
      Retains q text) : t.keeper.memory.Holds id peer text := by
  cases h with
  | unknown => exact held
  | known _ save => exact save.holds held retains

/-- What a preparation leaves held, unless the new peer takes the place of the one that holds. -/
theorem PrepareEnds.holds {j : InterfaceId} {user : Option UserId} {r : Except ServiceError Peer}
    {t : Service} (h : PrepareEnds j user s r t) {peer : PeerId} {text : String}
    (held : s.keeper.memory.Holds id peer text)
    (retains : ∀ q, r = .ok q → q.id = peer → Retains q text) :
    t.keeper.memory.Holds id peer text := by
  cases h with
  | unmanaged => exact held
  | notFound => exact held
  | refused => exact held
  | done _ _ saved =>
    apply (Keeper.holds_savePeer _ held).of_run saved
    intro same _
    exact retains _ rfl same

/-- A request that releases none of the addresses leaves them held. -/
theorem holds_after {r : Request} (h : s.keeper.memory.Holds id p.id p.tunnel.addresses.value)
    (kept : ¬ Releases id p s r) :
    (r.after s).keeper.memory.Holds id p.id p.tunnel.addresses.value := by
  let P (k : Keeper) : Prop := k.memory.Holds id p.id p.tunnel.addresses.value
  have kernel (k : Kernel) : P { s.keeper with kernel := k } := h
  cases r with
  | prepareInterface c j => exact after_prepareInterface (P := P) h c j
  | createInterface i =>
    apply after_createInterface (P := P)
    apply (Keeper.holds_createInterface i.id h).mono
    intro r t ht
    exact ⟨ht, fun _ => Keeper.holds_updateInterface i ht⟩
  | updateInterface i => exact after_keep_look (P := P) (Keeper.holds_updateInterface i h)
  | deleteInterface j =>
    apply after_keep (P := P)
    apply Keeper.holds_deleteInterface j h
    rintro rfl deleted
    apply kept
    apply Releases.deleteInterface
    rw [deleteInterface, Job.run_keep (Prod.ext deleted rfl)]
    rfl
  | importCandidates => exact after_importCandidates (P := P) kernel
  | importInterface j =>
    exact after_importInterface (P := P) kernel (fun k c _ => Keeper.holds_importInterface c h) j
  | applyDefaults j => exact after_keep (P := P) (Keeper.holds_applyDefaults j h)
  | preparePeer j user =>
    apply PrepareEnds.holds (preparePeer_ends j user s) h
    intro q prepared same
    by_contra other
    exact kept (.prepare same other prepared)
  | createPeer q =>
    apply SaveEnds.holds (createPeer_ends q s) h
    intro same accepted
    by_contra other
    exact kept (.create same other accepted)
  | updatePeer q =>
    apply UpdateEnds.holds (updatePeer_ends q s) h
    intro same accepted
    by_contra other
    exact kept (.update same other accepted)
  | deletePeer k =>
    apply after_keep (P := P)
    apply Keeper.holds_removePeer k h
    rintro rfl deleted
    apply kept
    apply Releases.deletePeer
    rw [deletePeer, Job.run_keep (Prod.ext deleted rfl)]
    rfl
  | runBackground c =>
    apply after_runBackground (P := P)
    apply (Keeper.holds_expirePrepared c.preparedTtl h ?_).mono
    · intro r t ht
      exact ⟨ht, Keeper.holds_refreshStats ht⟩
    · intro cutoff q due known
      by_contra stale
      exact kept (.expire due known (Bool.eq_true_of_not_eq_false stale))

/-- A peer that was just prepared holds its addresses. -/
theorem holds_of_preparePeer {user : Option UserId} {t : Service}
    (filed : s.keeper.memory.Filed) (prepared : (preparePeer id user).run s = (.ok p, t)) :
    Legible p.tunnel.addresses.value ∧
      t.keeper.memory.Holds id p.id p.tunnel.addresses.value := by
  have ends := (preparePeer_ends id user s).of_run prepared
  cases ends with
  | @done i addresses k managed fresh saved =>
    cases filed.interface managed
    cases (savePeer_ends_of_prepared rfl s.keeper).of_run saved with
    | done fits =>
      refine ⟨legible_of_freshAddresses fresh, filed.addPeer fits, _, ?_, fun _ _ named => named⟩
      exact (find?_peersOf_addPeer _ _ _ _ _).trans (if_pos ⟨rfl, rfl⟩)

/-- What was given to a prepared peer is not given out again while nothing releases it. -/
theorem prepared_addresses_stay_held {s₀ s s' t : Service} {user : Option UserId}
    {e : Keeper.Surroundings} (started : s₀.keeper.Started)
    (before : Relation.ReflTransGen (Move fun _ _ _ => True) s₀ s)
    (prepared : (preparePeer id user).run (s.within e) = (.ok p, s'))
    (after : Relation.ReflTransGen (Move fun r u _ => ¬ Releases id p u r) s' t) :
    Legible p.tunnel.addresses.value ∧
      (∀ subnet reserved c,
        (do t.keeper.memory.freshAddress id (← parseSubnet subnet) reserved) = .ok c →
          ¬ Names p.tunnel.addresses.value c.addr) ∧
      (∀ fresh, t.keeper.memory.freshAddresses id = .ok fresh →
        Apart fresh p.tunnel.addresses.value) ∧
      ∀ e user q u, (preparePeer id user).run (t.within e) = (.ok q, u) →
        Apart q.tunnel.addresses.value p.tunnel.addresses.value := by
  have filed : s.keeper.memory.Filed := filed_of_requests started before
  obtain ⟨legible, held⟩ := holds_of_preparePeer (s := s.within e) filed prepared
  have still : t.keeper.memory.Holds id p.id p.tunnel.addresses.value := by
    clear prepared
    induction after with
    | refl => exact held
    | tail _ move ih =>
      cases move with
      | request e r kept => exact holds_after ih kept
  refine ⟨legible, fun subnet reserved c found => ?_, fun fresh => still.apart legible,
    fun e user q u next => ?_⟩
  · obtain ⟨_, -, found⟩ := bind_eq_ok_iff.1 found
    exact still.not_names found
  · have ends := (preparePeer_ends id user (t.within e)).of_run next
    cases ends with
    | done _ fresh => exact still.apart legible fresh

/-- A service with one interface that has addresses to give. -/
def lender : Service where
  keeper :=
    (Keeper.load.run.run
      { store := { records := Store.Change.applyAll [.saveInterface holder] {} } }).2
  keys :=
    { pair := fun n =>
        ⟨"", if n = 1 then "AAAAAAAAAAAAAAAAAAAAAAAAAAAAAAAAAAAAAAAAAAA="
          else "AQEBAQEBAQEBAQEBAQEBAQEBAQEBAQEBAQEBAQEBAQE="⟩
      presharedKey := fun _ => "" }

theorem started_lender : lender.keeper.Started :=
  ⟨_, Store.Records.Written.empty.changeAll [.saveInterface holder], Prod.ext rfl rfl⟩

def firstPeer : Peer := (lender.within .calm).nextPeer holder "10.0.0.2/29" none

/-- What it leaves when it has prepared the peer. -/
def lent : Service := ((preparePeer holder.id none).run (lender.within .calm)).2

theorem prepared_addresses_stay_held_lender :
    lender.keeper.Started ∧
      (preparePeer holder.id none).run (lender.within .calm) = (.ok firstPeer, lent) ∧
      ¬ Releases holder.id firstPeer (lent.within .full) (.createPeer firstPeer) ∧
      let t := (Request.createPeer firstPeer).after (lent.within .full)
      t.keeper.memory.freshAddresses holder.id = .ok "10.0.0.3/29" ∧
        Apart "10.0.0.3/29" firstPeer.tunnel.addresses.value := by
  have fresh : (lender.within .calm).keeper.memory.freshAddresses holder.id =
      .ok "10.0.0.2/29" := by decide +kernel
  have managed : (lender.within .calm).keeper.memory.interfaces.find? holder.id = some holder := rfl
  have prepared : (preparePeer holder.id none).run (lender.within .calm) = (.ok firstPeer, lent) :=
    Prod.ext (by rw [preparePeer_eq_ok managed fresh rfl]; rfl) rfl
  have kept : ¬ Releases holder.id firstPeer (lent.within .full) (.createPeer firstPeer) := by
    rintro (_ | _ | _ | ⟨-, other, -⟩)
    exact other fun _ _ named => named
  have next :
      ((Request.createPeer firstPeer).after (lent.within .full)).keeper.memory.freshAddresses
        holder.id = .ok "10.0.0.3/29" := by
    decide +kernel
  have later : Relation.ReflTransGen (Move fun r u _ => ¬ Releases holder.id firstPeer u r) lent
      ((Request.createPeer firstPeer).after (lent.within .full)) :=
    .single (.request .full _ kept)
  have held := prepared_addresses_stay_held started_lender .refl prepared later
  exact ⟨started_lender, prepared, kept, next, held.2.2.1 _ next⟩

end TunnelKeeper.Service
