import TunnelKeeper.Proofs.Keeper.Commitment
import TunnelKeeper.Proofs.Keeper.Sending
import TunnelKeeper.Proofs.Memory.Counting
import TunnelKeeper.Proofs.Memory.KeyUse
import TunnelKeeper.Proofs.Service.Recreation
import TunnelKeeper.Proofs.Service.Serial

/-!
# Keys that are pushed and revoked

The kernel knows peers by their keys, and a key is revoked only where a peer is deleted. After
requests of which none loses anything, the last change that was sent for a key that a peer uses is
no removal as long as no key is revoked that another peer still uses, and a key whose last change is
no removal is used as long as no update gives up the last use of a key. Nothing sees to either.
-/
namespace TunnelKeeper
open Effect Kernel Service

/-! ## Committed peers -/

namespace Memory

variable {m : Memory} {id : InterfaceId} {p : Peer}

/-- Whether no peer is prepared only. -/
def AllCommitted (m : Memory) : Prop :=
  ∀ i k p, (m.peersOf i).find? k = some p → p.isPrepared = false

theorem AllCommitted.of_known {k : PeerId} (h : m.AllCommitted) (known : m.findPeer? k = some p) :
    p.isPrepared = false := by
  obtain ⟨i, hi⟩ := exists_of_findPeer? known
  exact h i k p hi

theorem AllCommitted.addPeer (h : m.AllCommitted) (committed : p.isPrepared = false) :
    (m.addPeer id p).AllCommitted := by
  intro j k q hq
  rw [find?_peersOf_addPeer] at hq
  split at hq
  case isTrue =>
    cases hq
    exact committed
  case isFalse => exact h j k q hq

theorem AllCommitted.removePeer {k : PeerId} (h : m.AllCommitted) :
    (m.removePeer id k).AllCommitted := by
  intro j l q hq
  rw [find?_peersOf_removePeer] at hq
  split at hq
  case isTrue => contradiction
  case isFalse => exact h j l q hq

end Memory

/-! ## What a request does -/

namespace Keeper
open Memory

/-- A committed peer was filed, and its change was sent. -/
structure Pushed (p : Peer) (c : PeerChange) (s t : Keeper) : Prop where
  committed : p.isPrepared = false
  fits : Fits s.memory p.tunnel.interfaceId p
  keyed : Key.parse p.keys.publicKey = .ok c.publicKey
  kept : c.remove = false
  memory : t.memory = s.memory.addPeer p.tunnel.interfaceId p
  sent : t.kernel.changes = s.kernel.changes ++ [(p.tunnel.interfaceId.text, { peers := [c] })]

/-- A peer was removed, and so was its key. -/
structure Revoked (id : PeerId) (p : Peer) (key : Key) (s t : Keeper) : Prop where
  known : s.memory.findPeer? id = some p
  keyed : Key.parse p.keys.publicKey = .ok key
  memory : t.memory = s.memory.removePeer p.tunnel.interfaceId id
  sent : t.kernel.changes =
    s.kernel.changes ++ [(p.tunnel.interfaceId.text, { peers := [.removal key] })]

/-- A committed peer that was saved was pushed. -/
theorem pushed_of_saved {p : Peer} {s t : Keeper} (committed : p.isPrepared = false)
    (saved : (savePeer p).run.run s = (.ok (), t)) : ∃ c, Pushed p c s t := by
  have memory := (of_savePeer_eq_ok saved).1
  have fits : Fits s.memory p.tunnel.interfaceId p := by
    cases (savePeer_ends p s).of_run saved with
    | prepared fits => exact fits
    | done fits => exact fits
  cases (savePeer_sends p s).of_run saved with
  | prepared prepared =>
    rw [prepared] at committed
    contradiction
  | committed _ _ asks sent => exact ⟨_, committed, fits, asks.publicKey, asks.kept, memory, sent⟩

end Keeper

namespace PeerRequest

/-- What a request does to the keeper where nothing is lost and all peers are committed. -/
inductive Outcome (s : Keeper) : PeerRequest → Keeper → Prop
  | refused {r : PeerRequest} : Outcome s r s
  | created {p : Peer} {c : PeerChange} {t : Keeper} (new : s.memory.findPeer? p.id = none)
      (pushed : Keeper.Pushed (committed p) c s t) : Outcome s (.create p) t
  | updated {p q : Peer} {c : PeerChange} {t : Keeper} (known : s.memory.findPeer? p.id = some q)
      (pushed : Keeper.Pushed (committed p) c s t) : Outcome s (.update p) t
  | deleted {id : PeerId} {p : Peer} {key : Key} {t : Keeper} (revoked : s.Revoked id p key t) :
      Outcome s (.delete id) t

theorem pushed_of_saveEnds {p : Peer} {s t : Service} {r : Except ServiceError Peer}
    (h : SaveEnds (committed p) s r t) (lossless : ¬ s.keeper.Lost t.keeper) :
    t.keeper = s.keeper ∨ ∃ c, Keeper.Pushed (committed p) c s.keeper t.keeper := by
  cases h with
  | refused => exact .inl rfl
  | failed saved =>
    cases (Keeper.savePeer_sends (committed p) s.keeper).of_run saved with
    | refused => exact .inl rfl
    | lost lost => exact absurd lost lossless
  | done saved => exact .inr (Keeper.pushed_of_saved rfl saved)

theorem outcome_create {p : Peer} {s : Service} (all : s.keeper.memory.AllCommitted) :
    (createPeer p).Ends s fun _ t =>
      ¬ s.keeper.Lost t.keeper → Outcome s.keeper (.create p) t.keeper := by
  apply (createPeer_creates p s).mono
  intro r t ends lossless
  cases ends with
  | refused => exact .refused
  | saved free save =>
    rcases pushed_of_saveEnds save lossless with same | ⟨c, pushed⟩
    · rw [same]
      exact .refused
    · refine .created ?_ pushed
      refine Option.eq_none_iff_forall_ne_some.2 fun q known => ?_
      exact Bool.false_ne_true ((all.of_known known).symm.trans (free q known))

theorem outcome_update {p : Peer} {s : Service} (all : s.keeper.memory.AllCommitted) :
    (updatePeer p).Ends s fun _ t =>
      ¬ s.keeper.Lost t.keeper → Outcome s.keeper (.update p) t.keeper := by
  apply (updatePeer_ends p s).mono
  intro r t ends lossless
  cases ends with
  | unknown => exact .refused
  | @known q _ _ known save =>
    have unmarked : q.preparedAt = none :=
      Option.isNone_iff_eq_none.1 (Option.isSome_eq_false_iff.1 (all.of_known known))
    rw [unmarked] at save
    rcases pushed_of_saveEnds save lossless with same | ⟨c, pushed⟩
    · rw [same]
      exact .refused
    · exact .updated known pushed

theorem outcome_delete {id : PeerId} {s : Service} (all : s.keeper.memory.AllCommitted) :
    (deletePeer id).Ends s fun _ t =>
      ¬ s.keeper.Lost t.keeper → Outcome s.keeper (.delete id) t.keeper := by
  apply Job.ends_keep
  apply (Keeper.removePeer_sends id s.keeper).mono
  intro r t ends
  cases ends with
  | refused => exact fun _ => .refused
  | lost lost => exact fun lossless => absurd lost lossless
  | prepared known prepared =>
    rw [all.of_known known] at prepared
    contradiction
  | committed known _ keyed sent memory => exact fun _ => .deleted ⟨known, keyed, memory, sent⟩

/-- The answer to a request is made of what its job answers, and nothing more is done. -/
theorem outcome_job (r : PeerRequest) {s : Service} (all : s.keeper.memory.AllCommitted) :
    r.job.Ends s fun _ t => ¬ s.keeper.Lost t.keeper → Outcome s.keeper r t.keeper := by
  cases r with
  | create p =>
    apply Job.ends_bind.2
    apply (outcome_create all).mono
    rintro (_ | _) t ht <;> exact ht
  | update p =>
    apply Job.ends_bind.2
    apply (outcome_update all).mono
    rintro (_ | _) t ht <;> exact ht
  | delete id =>
    apply Job.ends_bind.2
    apply (outcome_delete all).mono
    rintro (_ | _) t ht <;> exact ht

/-! ## Runs -/

def after (r : PeerRequest) (s : Service) : Service := (r.job.run s).2

/-- One request with whatever faults ahead of it, as far as it is admitted with the states before
and after it. -/
inductive AdmittedMove (admits : PeerRequest → Service → Service → Prop) (s : Service) :
    Service → Prop
  | answer (f : Faults) (r : PeerRequest) (admitted : admits r (s.under f) (r.after (s.under f))) :
      AdmittedMove admits s (r.after (s.under f))

/-- Whether a deletion revokes no key that another peer of the interface still uses. -/
def FreesKey (m m' : Memory) : PeerRequest → Prop
  | .delete id => ∀ p key, m.findPeer? id = some p → Key.parse p.keys.publicKey = .ok key →
      ¬ m'.Uses p.tunnel.interfaceId key
  | _ => True

/-- Whether an update gives up no last use of a key. -/
def KeepsKey (m m' : Memory) : PeerRequest → Prop
  | .update p => ∀ q key, m.findPeer? p.id = some q → Key.parse q.keys.publicKey = .ok key →
      m'.Uses q.tunnel.interfaceId key
  | _ => True

/-- What holds of a keeper after requests that sent changes on top of others, as far as deletions
free the keys and updates keep them. -/
structure Tracked (frees keeps : Prop) (base : List (String × DeviceChange)) (s : Keeper) :
    Prop where
  filed : s.memory.Filed
  allCommitted : s.memory.AllCommitted
  sent : ∃ sent, s.kernel.changes = base ++ sent ∧ (frees → s.memory.AllPushed sent) ∧
    (keeps → s.memory.AllUsed sent)

namespace Tracked

variable {frees keeps : Prop} {base : List (String × DeviceChange)} {s t : Keeper} {p : Peer}

theorem pushed {c : PeerChange} (h : Tracked frees keeps base s) (pushed : Keeper.Pushed p c s t)
    (replaced : keeps → ∀ q key, s.memory.findPeer? p.id = some q →
      Key.parse q.keys.publicKey = .ok key → t.memory.Uses q.tunnel.interfaceId key) :
    Tracked frees keeps base t := by
  obtain ⟨sent, changes, allPushed, allUsed⟩ := h.sent
  constructor
  case filed =>
    rw [pushed.memory]
    exact h.filed.addPeer pushed.fits
  case allCommitted =>
    rw [pushed.memory]
    exact h.allCommitted.addPeer pushed.committed
  case sent =>
    refine ⟨sent ++ [(p.tunnel.interfaceId.text, { peers := [c] })], ?_, ?_, ?_⟩
    · rw [pushed.sent, changes, List.append_assoc]
    · intro freed
      rw [pushed.memory]
      exact (allPushed freed).addPeer pushed.keyed pushed.kept
    · intro kept
      rw [pushed.memory]
      apply (allUsed kept).addPeer pushed.committed pushed.keyed
      intro q key here own
      have uses := replaced kept q key (h.filed.findPeer?_of_find? here) own
      rwa [(h.filed.peer here).2, pushed.memory] at uses

theorem revoked {id : PeerId} {key : Key} (h : Tracked frees keeps base s)
    (revoked : s.Revoked id p key t) (freed : frees → ¬ t.memory.Uses p.tunnel.interfaceId key) :
    Tracked frees keeps base t := by
  obtain ⟨sent, changes, allPushed, allUsed⟩ := h.sent
  constructor
  case filed =>
    rw [revoked.memory]
    exact h.filed.removePeer _ _
  case allCommitted =>
    rw [revoked.memory]
    exact h.allCommitted.removePeer
  case sent =>
    refine ⟨sent ++ [(p.tunnel.interfaceId.text, { peers := [.removal key] })], ?_, ?_, ?_⟩
    · rw [revoked.sent, changes, List.append_assoc]
    · intro frees
      have unused := freed frees
      rw [revoked.memory] at unused ⊢
      exact (allPushed frees).removePeer unused
    · intro kept
      rw [revoked.memory]
      exact (allUsed kept).removePeer (h.filed.find?_of_findPeer? revoked.known) revoked.keyed

theorem step {r : PeerRequest} (h : Tracked frees keeps base s) (outcome : Outcome s r t)
    (freed : frees → r.FreesKey s.memory t.memory) (kept : keeps → r.KeepsKey s.memory t.memory) :
    Tracked frees keeps base t := by
  cases outcome with
  | refused => exact h
  | created new pushed =>
    refine h.pushed pushed fun _ q _ known => ?_
    cases new.symm.trans known
  | updated known pushed => exact h.pushed pushed kept
  | deleted revoked =>
    exact h.revoked revoked fun frees => freed frees _ _ revoked.known revoked.keyed

end Tracked

variable {admits : PeerRequest → Service → Service → Prop} {s t : Service}

theorem tracked_of_run (filed : s.keeper.memory.Filed) (vacant : s.keeper.memory.allPeers = [])
    (lossless : ∀ r v w, admits r v w → ¬ v.keeper.Lost w.keeper)
    (run : Relation.ReflTransGen (AdmittedMove admits) s t) :
    Tracked (∀ r v w, admits r v w → r.FreesKey v.keeper.memory w.keeper.memory)
      (∀ r v w, admits r v w → r.KeepsKey v.keeper.memory w.keeper.memory)
      s.keeper.kernel.changes t.keeper := by
  induction run with
  | refl =>
    have empty {i : InterfaceId} {k : PeerId} {p : Peer} :
        (s.keeper.memory.peersOf i).find? k ≠ some p := by
      intro hp
      have listed := Memory.mem_allPeers_iff.2 ⟨i, k, hp⟩
      rw [vacant] at listed
      contradiction
    refine ⟨filed, ?_, [], (List.append_nil _).symm, ?_, fun _ _ _ _ => nofun⟩
    · exact fun _ _ _ hp => absurd hp empty
    · rintro - _ _ ⟨_, _, hp, -⟩
      exact absurd hp empty
  | @tail v _ _ move ih =>
    cases move with
    | answer f r admitted =>
      have before : Tracked _ _ s.keeper.kernel.changes (v.under f).keeper :=
        ⟨ih.filed, ih.allCommitted, ih.sent⟩
      have outcome : Outcome (v.under f).keeper r (r.after (v.under f)).keeper :=
        outcome_job r ih.allCommitted (lossless r _ _ admitted)
      exact before.step outcome (fun frees => frees r _ _ admitted)
        fun keeps => keeps r _ _ admitted

/-- After requests of which none loses anything, from no peers on, the last change that was sent for
a key of a committed peer is no removal if no deletion revokes a key that is still used, and a key
whose last change is no removal is the key of such a peer if no update gives up a key. -/
theorem keys_follow_peers (filed : s.keeper.memory.Filed) (vacant : s.keeper.memory.allPeers = [])
    (lossless : ∀ r v w, admits r v w → ¬ v.keeper.Lost w.keeper)
    (run : Relation.ReflTransGen (AdmittedMove admits) s t) :
    ∃ sent, t.keeper.kernel.changes = s.keeper.kernel.changes ++ sent ∧
      ∀ i key c, lastChange? i.text key sent = some c →
        ((∀ r v w, admits r v w → r.FreesKey v.keeper.memory w.keeper.memory) →
          t.keeper.memory.Uses i key → c.remove = false) ∧
        ((∀ r v w, admits r v w → r.KeepsKey v.keeper.memory w.keeper.memory) →
          c.remove = false → t.keeper.memory.Uses i key) := by
  obtain ⟨-, -, sent, changes, allPushed, allUsed⟩ :=
    tracked_of_run filed vacant lossless run
  refine ⟨sent, changes, fun i key c last => ⟨fun frees used => ?_, fun keeps kept => ?_⟩⟩
  · obtain ⟨c', pushed, kept⟩ := allPushed frees i key used
    cases last.symm.trans pushed
    exact kept
  · exact allUsed keeps i key c last kept

/-! ## Planned runs -/

def answerAll (rs : List PeerRequest) (s : Service) : Service :=
  rs.foldl (fun s r => r.after (s.under .none)) s

theorem admitted_answerAll {rs : List PeerRequest} (s : Service)
    (h : ∀ r ∈ rs, ∀ v : Service, v.keeper.Healthy → admits r v (r.after v)) :
    Relation.ReflTransGen (AdmittedMove admits) s (answerAll rs s) := by
  induction rs generalizing s with
  | nil => exact .refl
  | cons r rs ih =>
    rw [List.forall_mem_cons] at h
    have healthy : (s.under .none).keeper.Healthy := Keeper.healthy_healed s.keeper
    exact .head (.answer .none r (h.1 _ healthy)) (ih _ h.2)

def host : Service :=
  { Service.solo with
    keeper := Keeper.carryOut (Keeper.calmly [.createInterface ⟨"wg0"⟩]) Keeper.vacant }

theorem filed_host : host.keeper.memory.Filed := by
  have run : Relation.ReflTransGen (Keeper.AdmittedMove fun _ _ _ => True) Keeper.vacant
      host.keeper := Keeper.admitted_calmly _ fun _ _ _ _ => trivial
  exact Keeper.filed_of_admitted Keeper.started_vacant run

def neighbour : Peer :=
  { pushable with
    id := ⟨"b"⟩
    keys := { publicKey := "AQEBAQEBAQEBAQEBAQEBAQEBAQEBAQEBAQEBAQEBAQE=" } }

/-- The service after both peers were created. -/
def shared : Service := answerAll [.create pushable, .create neighbour] host

theorem freesKey_of_unused {m m' : Memory} {id : PeerId} {p : Peer} {key : Key}
    (known : m.findPeer? id = some p) (keyed : Key.parse p.keys.publicKey = .ok key)
    (unused : ¬ m'.Uses p.tunnel.interfaceId key) : (PeerRequest.delete id).FreesKey m m' := by
  intro q key' known' keyed'
  cases known.symm.trans known'
  cases keyed.symm.trans keyed'
  exact unused

theorem keys_follow_peers_host :
    host.keeper.memory.allPeers = [] ∧
      shared.keeper.memory.Uses ⟨"wg0"⟩ Keeper.memberKey ∧
      ∃ sent, (answerAll [.delete pushable.id] shared).keeper.kernel.changes =
          host.keeper.kernel.changes ++ sent ∧
        ∀ i key c, lastChange? i.text key sent = some c →
          (c.remove = false ↔
            (answerAll [.delete pushable.id] shared).keeper.memory.Uses i key) := by
  let admits (r : PeerRequest) (v w : Service) : Prop := v.keeper.Healthy ∧
    r.FreesKey v.keeper.memory w.keeper.memory ∧ r.KeepsKey v.keeper.memory w.keeper.memory
  have created : Relation.ReflTransGen (AdmittedMove admits) host shared := by
    apply admitted_answerAll
    refine List.forall_mem_cons.2 ⟨?_, List.forall_mem_singleton.2 ?_⟩
    · exact fun v healthy => ⟨healthy, trivial, trivial⟩
    · exact fun v healthy => ⟨healthy, trivial, trivial⟩
  have deletion (v : Service) (frees : (PeerRequest.delete pushable.id).FreesKey
      v.keeper.memory ((PeerRequest.delete pushable.id).after (v.under .none)).keeper.memory) :
      AdmittedMove admits v (answerAll [.delete pushable.id] v) :=
    .answer .none _ ⟨Keeper.healthy_healed v.keeper, frees, trivial⟩
  have known : shared.keeper.memory.findPeer? pushable.id = some pushable := by decide +kernel
  have keyed : Key.parse pushable.keys.publicKey = .ok Keeper.memberKey := by decide +kernel
  have unused : ¬ ((PeerRequest.delete pushable.id).after (shared.under .none)).keeper.memory.Uses
      pushable.tunnel.interfaceId Keeper.memberKey := by decide +kernel
  have empty : host.keeper.memory.allPeers = [] := by decide +kernel
  have used : shared.keeper.memory.Uses ⟨"wg0"⟩ Keeper.memberKey := by decide +kernel
  obtain ⟨sent, changes, follow⟩ := keys_follow_peers filed_host empty
    (fun _ _ _ admitted => admitted.1.not_lost)
    (created.tail (deletion shared (freesKey_of_unused known keyed unused)))
  refine ⟨empty, used, sent, changes, fun i key c last => ?_⟩
  obtain ⟨kept, uses⟩ := follow i key c last
  exact ⟨uses fun _ _ _ admitted => admitted.2.2, kept fun _ _ _ admitted => admitted.2.1⟩

/-- What requests send on top of what made the host. -/
def sentFor (rs : List PeerRequest) : List (String × DeviceChange) :=
  (answerAll rs host).keeper.kernel.changes.drop host.keeper.kernel.changes.length

/-- Whether requests, none of which meets a fault, make the last change of a key say the contrary of
its use: it is removed while a peer uses it, or it stays while none does. -/
structure Strays (removed : Bool) (rs : List PeerRequest) : Prop where
  run : Relation.ReflTransGen (AdmittedMove fun _ v _ => v.keeper.Healthy) host (answerAll rs host)
  changes : (answerAll rs host).keeper.kernel.changes = host.keeper.kernel.changes ++ sentFor rs
  last : (lastChange? "wg0" Keeper.memberKey (sentFor rs)).map (·.remove) = some removed
  used : (answerAll rs host).keeper.memory.Uses ⟨"wg0"⟩ Keeper.memberKey ↔ removed = true

def rekeyed : Peer := { pushable with keys := neighbour.keys }

def twin : Peer := { neighbour with keys := pushable.keys }

/-- An update that replaces the key of a peer leaves the old key, and the deletion of a peer removes
a key that another peer has too. -/
theorem keys_stray :
    host.keeper.memory.allPeers = [] ∧ Strays false [.create pushable, .update rekeyed] ∧
      Strays true [.create pushable, .create twin, .delete pushable.id] := by
  have calm (rs : List PeerRequest) :
      Relation.ReflTransGen (AdmittedMove fun _ v _ => v.keeper.Healthy) host (answerAll rs host) :=
    admitted_answerAll host fun _ _ _ healthy => healthy
  refine ⟨by decide +kernel, ?_, ?_⟩
  · exact ⟨calm _, by decide +kernel, by decide +kernel, by decide +kernel⟩
  · exact ⟨calm _, by decide +kernel, by decide +kernel, by decide +kernel⟩

end PeerRequest

end TunnelKeeper
