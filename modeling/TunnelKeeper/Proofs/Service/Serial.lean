import Mathlib.Data.List.Induction
import TunnelKeeper.Proofs.Service.Holding
import TunnelKeeper.Proofs.Service.Interleaving

/-!
# Requests about one peer at the same time

Requests to create, update or delete a peer change something in one of their turns at most, and look
before and after it. Two such requests have the effect of one after the other, in one of the two
orders, if neither of them changes anything while the other one is under way. Nothing sees to that:
a request that changes something between the first look and the change of another one is overwritten
by it.
-/
namespace TunnelKeeper
open Service

namespace Job

variable {α β : Type}

/-- Jobs that do nothing but look. -/
inductive Looks : Job α → Prop
  | done {a : α} : Looks (.done a)
  | fail {e : ServiceError} : Looks (.fail e)
  | look {β : Type} {action : Service → β × Service} {rest : β → Job α}
      (same : ∀ s, (action s).2 = s) (h : ∀ b, Looks (rest b)) : Looks (.call action rest)

/-- Jobs that do nothing but look, apart from one turn. -/
inductive ChangesOnce : Job α → Prop
  | looks {j : Job α} (h : j.Looks) : ChangesOnce j
  | look {β : Type} {action : Service → β × Service} {rest : β → Job α}
      (same : ∀ s, (action s).2 = s) (h : ∀ b, ChangesOnce (rest b)) :
      ChangesOnce (.call action rest)
  | change {β : Type} {action : Service → β × Service} {rest : β → Job α}
      (h : ∀ b, (rest b).Looks) : ChangesOnce (.call action rest)

namespace Looks

variable {j : Job α}

theorem of_answer? {x : Except ServiceError α} (h : j.answer? = some x) : j.Looks := by
  cases j with
  | done => exact .done
  | fail => exact .fail
  | call => contradiction

theorem next (h : j.Looks) (s : Service) : (j.next s).1.Looks ∧ (j.next s).2 = s := by
  cases h with
  | done => exact ⟨.done, rfl⟩
  | fail => exact ⟨.fail, rfl⟩
  | look same h => exact ⟨h _, same s⟩

theorem run (h : j.Looks) (s : Service) : (j.run s).2 = s := by
  induction h with
  | done => rfl
  | fail => rfl
  | @look _ action rest same h ih =>
    change ((rest (action s).1).run (action s).2).2 = s
    rw [same s]
    exact ih _

theorem bind {f : α → Job β} (h : j.Looks) (hf : ∀ a, (f a).Looks) : (j >>= f).Looks := by
  induction h with
  | done => exact hf _
  | fail => exact .fail
  | look same h ih => exact .look same ih

theorem bind_changesOnce {f : α → Job β} (h : j.Looks) (hf : ∀ a, (f a).ChangesOnce) :
    (j >>= f).ChangesOnce := by
  induction h with
  | done => exact hf _
  | fail => exact .looks .fail
  | look same h ih => exact .look same ih

end Looks

namespace ChangesOnce

variable {j : Job α}

theorem bind {f : α → Job β} (h : j.ChangesOnce) (hf : ∀ a, (f a).Looks) :
    (j >>= f).ChangesOnce := by
  induction h with
  | looks h => exact .looks (h.bind hf)
  | look same h ih => exact .look same ih
  | change h => exact .change fun b => (h b).bind hf

/-- After a turn that changed something a job does nothing but look. -/
theorem next (h : j.ChangesOnce) (s : Service) :
    (j.next s).1.ChangesOnce ∧ ((j.next s).2 = s ∨ (j.next s).1.Looks) := by
  cases h with
  | looks h => exact ⟨.looks (h.next s).1, .inl (h.next s).2⟩
  | look same h => exact ⟨h _, .inl (same s)⟩
  | change h => exact ⟨.looks (h _), .inr (h _)⟩

end ChangesOnce

theorem looks_attempt_look (f : Memory → Except KeeperError α) :
    (attempt (Step.look f)).Looks := by
  refine .look (fun s => ?_) fun _ => .done
  have same : ((Step.look f).run.run s.keeper).2 = s.keeper :=
    Step.ends_look (R := fun _ k => k = s.keeper).2 rfl
  change { s with keeper := ((Step.look f).run.run s.keeper).2 } = s
  rw [same]

theorem looks_ofExcept (r : Except KeeperError α) : (ofExcept r).Looks := by
  cases r with
  | ok a => exact .done
  | error e => exact .fail

theorem looks_look (f : Memory → Except KeeperError α) : (look f).Looks :=
  (looks_attempt_look f).bind looks_ofExcept

theorem changesOnce_keep (step : Step α) : (keep step).ChangesOnce :=
  .change looks_ofExcept

end Job

/-! ## Two jobs that change something once -/

namespace Race

variable {α : Type} {r : Race α} {turns : List Side} {a b : Side}

/-- Whether no job changes anything while the other one is under way: that one has not begun, or it
has ended. -/
def Undisturbed (r : Race α) (turns : List Side) : Prop :=
  ∀ before b after, turns = before ++ b :: after →
    ((r.play before).turn b).service = (r.play before).service ∨
      b.other ∉ before ∨ ∃ x, ((r.play before).job b.other).answer? = some x

/-- The answers of one job and then the other, and what they leave. -/
def sequence (r : Race α) (a : Side) : Except ServiceError α × Except ServiceError α × Service :=
  let first := (r.job a).run r.service
  let second := (r.job a.other).run first.2
  (first.1, second.1, second.2)

/-- Whether the answers and what is left are those of one job after the other. -/
def IsSerial (r t : Race α) : Prop :=
  ∃ a, (t.job a).answer? = some (r.sequence a).1 ∧
    (t.job a.other).answer? = some (r.sequence a).2.1 ∧ t.service = (r.sequence a).2.2

theorem job_play_of_not_mem (h : a ∉ turns) : (r.play turns).job a = r.job a := by
  induction turns using List.reverseRecOn with
  | nil => rfl
  | append_singleton turns b ih =>
    rw [List.mem_append, List.mem_singleton, not_or] at h
    rcases a.eq_or_eq_other b with rfl | rfl
    · exact absurd rfl h.2
    · rw [play_concat, job_turn_of_other, ih h.1]

/-- How two jobs stand to each other: nothing was changed yet, or one of them made its change first
and the other one goes on as after the whole of it. -/
inductive Stands (r : Race α) (turns : List Side) (t : Race α) : Prop
  | unchanged (same : t.service = r.service) (once : ∀ a, (t.job a).ChangesOnce)
      (rest : ∀ a, (t.job a).run r.service = (r.job a).run r.service)
  | ahead (a : Side) (begun : a ∈ turns ∨ ∃ x, (t.job a).answer? = some x) (looks : (t.job a).Looks)
      (first : ((t.job a).run t.service).1 = ((r.job a).run r.service).1)
      (second : (t.job a.other).run t.service =
        (r.job a.other).run ((r.job a).run r.service).2)

theorem run_turn_self (t : Race α) (b : Side) :
    ((t.turn b).job b).run (t.turn b).service = (t.job b).run t.service := by
  rw [job_turn_self]
  exact Job.run_next _ _

namespace Stands

/-- The first change is made by a job while the other one has not begun or has ended. -/
theorem ahead_of_change {t : Race α} (same : t.service = r.service)
    (once : ∀ a, (t.job a).ChangesOnce)
    (rest : ∀ a, (t.job a).run r.service = (r.job a).run r.service) (played : r.play turns = t)
    (changed : (t.turn b).service ≠ t.service)
    (alone : b.other ∉ turns ∨ ∃ x, (t.job b.other).answer? = some x) :
    Stands r (turns ++ [b]) (t.turn b) := by
  have run : ((t.turn b).job b).run (t.turn b).service = (r.job b).run r.service := by
    rw [run_turn_self, same, rest b]
  have looks : ((t.turn b).job b).Looks := by
    rw [job_turn_self]
    exact ((once b).next t.service).2.resolve_left changed
  rcases alone with fresh | ⟨x, ended⟩
  · have idle : t.job b.other = r.job b.other := by
      rw [← played]
      exact job_play_of_not_mem fresh
    refine .ahead b (.inl (by simp)) looks (by rw [run]) ?_
    rw [job_turn_other, idle, ← run, looks.run]
  · have kept : ((t.turn b).job b.other).answer? = some x := by rw [job_turn_other, ended]
    have whole : (r.job b.other).run r.service = (x, r.service) := by
      rw [← rest, Job.run_of_answer? ended]
    refine .ahead b.other (.inr ⟨x, kept⟩) (.of_answer? kept) ?_ ?_
    · rw [Job.run_of_answer? kept, whole]
    · rw [Side.other_other, run, whole]

theorem turn {t : Race α} (h : Stands r turns t) (played : r.play turns = t)
    (calm : (t.turn b).service = t.service ∨ b.other ∉ turns ∨
      ∃ x, (t.job b.other).answer? = some x) : Stands r (turns ++ [b]) (t.turn b) := by
  cases h with
  | unchanged same once rest =>
    by_cases quiet : (t.turn b).service = t.service
    · refine .unchanged (quiet.trans same) (fun a => ?_) fun a => ?_
      · rcases b.eq_or_eq_other a with rfl | rfl
        · rw [job_turn_self]
          exact ((once a).next t.service).1
        · rw [job_turn_other]
          exact once b.other
      · rcases b.eq_or_eq_other a with rfl | rfl
        · rw [← rest, ← same, ← run_turn_self, quiet]
        · rw [job_turn_other, rest]
    · exact ahead_of_change same once rest played quiet (calm.resolve_left quiet)
  | ahead a begun looks first second =>
    have begun' : a ∈ turns ++ [b] ∨ ∃ x, ((t.turn b).job a).answer? = some x :=
      begun.imp (List.mem_append_left [b]) fun ⟨x, ended⟩ => ⟨x, answer?_turn ended b⟩
    rcases a.eq_or_eq_other b with rfl | rfl
    · have quiet : (t.turn b).service = t.service := (looks.next t.service).2
      refine .ahead b begun' ?_ (by rw [run_turn_self, first]) ?_
      · rw [job_turn_self]
        exact (looks.next t.service).1
      · rw [job_turn_other, quiet, second]
    · have same := t.job_turn_of_other a
      refine .ahead a begun' (same ▸ looks) ?_ (by rw [run_turn_self, second])
      rw [same]
      -- The other job changes something only if this one has ended, and then nothing counts for it.
      rcases calm with quiet | fresh | ⟨x, ended⟩
      · rw [quiet, first]
      · rw [Side.other_other] at fresh
        obtain ⟨x, ended⟩ := begun.resolve_left fresh
        rw [Job.run_of_answer? ended] at first ⊢
        exact first
      · rw [Side.other_other] at ended
        rw [Job.run_of_answer? ended] at first ⊢
        exact first

theorem play (once : ∀ a, (r.job a).ChangesOnce) (calm : r.Undisturbed turns) :
    Stands r turns (r.play turns) := by
  induction turns using List.reverseRecOn with
  | nil => exact .unchanged rfl once fun _ => rfl
  | append_singleton turns b ih =>
    have before : r.Undisturbed turns := fun first c second split =>
      calm first c (second ++ [b]) (by rw [split]; simp)
    rw [play_concat]
    exact (ih before).turn rfl (calm turns b [] rfl)

end Stands

/-- Two jobs that change something once and do not disturb each other have the effect of one after
the other. -/
theorem isSerial_of_undisturbed (once : ∀ a, (r.job a).ChangesOnce) (calm : r.Undisturbed turns)
    (ended : ∀ a, ∃ x, ((r.play turns).job a).answer? = some x) : r.IsSerial (r.play turns) := by
  have final {a : Side} {x : Except ServiceError α}
      (h : ((r.play turns).job a).answer? = some x) (s : Service) :
      ((r.play turns).job a).run s = (x, s) := Job.run_of_answer? h s
  cases Stands.play once calm with
  | unchanged same _ rest =>
    obtain ⟨x, hx⟩ := ended .left
    obtain ⟨y, hy⟩ := ended .right
    have left : (r.job .left).run r.service = (x, r.service) := by rw [← rest, final hx]
    have right : (r.job .right).run r.service = (y, r.service) := by rw [← rest, final hy]
    have sequence : r.sequence .left = (x, y, r.service) := by
      simp [Race.sequence, Side.other, left, right]
    refine ⟨.left, ?_⟩
    rw [sequence]
    exact ⟨hx, hy, same⟩
  | ahead a _ _ first second =>
    obtain ⟨x, hx⟩ := ended a
    obtain ⟨y, hy⟩ := ended a.other
    rw [final hx] at first
    rw [final hy] at second
    have sequence : r.sequence a = (x, y, (r.play turns).service) := by
      rw [Race.sequence, ← first, ← second]
    refine ⟨a, ?_⟩
    rw [sequence]
    exact ⟨hx, hy, rfl⟩

end Race

/-! ## Requests about peers -/

inductive PeerRequest where
  | create (p : Peer)
  | update (p : Peer)
  | delete (id : PeerId)

namespace PeerRequest

/-- The job of a request; a deletion answers with no peer. -/
def job : PeerRequest → Job (Option Peer)
  | .create p => createPeer p >>= fun q => pure (some q)
  | .update p => updatePeer p >>= fun q => pure (some q)
  | .delete id => deletePeer id >>= fun _ => pure none

theorem changesOnce_save (p : Peer) (id : PeerId) :
    (Job.keep (Keeper.savePeers [p]) >>= fun _ => Job.look (·.peer id)).ChangesOnce :=
  (Job.changesOnce_keep _).bind fun _ => Job.looks_look _

theorem changesOnce_createPeer (p : Peer) : (createPeer p).ChangesOnce := by
  apply (Job.looks_attempt_look _).bind_changesOnce
  rintro (e | known)
  · dsimp only
    split
    · exact changesOnce_save _ _
    · exact .looks .fail
  · dsimp only
    split
    · exact .looks .fail
    · exact changesOnce_save _ _

theorem changesOnce_job (q : PeerRequest) : q.job.ChangesOnce := by
  cases q with
  | create p => exact (changesOnce_createPeer p).bind fun _ => .done
  | update p =>
    have update : (updatePeer p).ChangesOnce :=
      (Job.looks_look _).bind_changesOnce fun known => changesOnce_save _ _
    exact update.bind fun _ => .done
  | delete id => exact (Job.changesOnce_keep _).bind fun _ => .done

def race (request : Side → PeerRequest) (s : Service) : Race (Option Peer) where
  job a := (request a).job
  service := s

/-- Requests about peers that do not disturb each other have the effect of one after the other. -/
theorem isSerial_of_requests (request : Side → PeerRequest) (s : Service) {turns : List Side}
    (calm : (race request s).Undisturbed turns)
    (ended : ∀ a, ∃ x, (((race request s).play turns).job a).answer? = some x) :
    (race request s).IsSerial ((race request s).play turns) :=
  Race.isSerial_of_undisturbed (fun a => (request a).changesOnce_job) calm ended

def pushable : Peer where
  id := ⟨"a"⟩
  keys := { publicKey := "AAAAAAAAAAAAAAAAAAAAAAAAAAAAAAAAAAAAAAAAAAA=" }
  tunnel := { interfaceId := ⟨"wg0"⟩ }

def prepared : Peer := { pushable with preparedAt := some .epoch }

def hosting (p : Peer) : Service :=
  let store : Store := { records := Store.Change.applyAll [.saveInterface { id := ⟨"wg0"⟩ }] {} }
  let started := (Keeper.load.run.run { store := store }).2
  { solo with keeper := ((Keeper.savePeers [p]).run.run started).2 }

def updateAndDelete : Side → PeerRequest
  | .left => .update pushable
  | .right => .delete pushable.id

theorem isSerial_of_requests_hosting :
    let r := race updateAndDelete (hosting pushable)
    let turns : List Side := [.left, .left, .left, .right]
    r.Undisturbed turns ∧ (∀ a, ∃ x, ((r.play turns).job a).answer? = some x) ∧
      r.IsSerial (r.play turns) := by
  intro r turns
  have update : ((r.play [.left, .left, .left]).job .left).answer? =
      some (.ok (some pushable)) := by decide +kernel
  have calm : r.Undisturbed turns := by
    intro before b after split
    have place : before = turns.take before.length ∧ turns[before.length]? = some b := by
      simp [split]
    revert place
    generalize before.length = n
    rintro ⟨rfl, taken⟩
    rcases n with _ | _ | _ | _ | n
    · cases taken
      exact .inr (.inl (by decide))
    · cases taken
      exact .inr (.inl (by decide))
    · cases taken
      exact .inr (.inl (by decide))
    · cases taken
      exact .inr (.inr ⟨_, update⟩)
    · simp [turns] at taken
  have ended : ∀ a, ∃ x, ((r.play turns).job a).answer? = some x := by
    rintro (_ | _)
    · exact ⟨.ok (some pushable), by decide +kernel⟩
    · exact ⟨.ok none, by decide +kernel⟩
  exact ⟨calm, ended, isSerial_of_requests updateAndDelete (hosting pushable) calm ended⟩

def updateAndCreate : Side → PeerRequest
  | .left => .update pushable
  | .right => .create pushable

def createTwice : Side → PeerRequest := fun _ => .create pushable

/-- An update brings a deleted peer back, an update makes a committed peer prepared again, and a
peer is created twice, where one request after the other never does so. -/
theorem peer_requests_interfere :
    (let r := race updateAndDelete (hosting pushable)
      let t := r.play [.left, .right, .left, .left]
      (t.job .left).answer? = some (.ok (some pushable)) ∧
        (t.job .right).answer? = some (.ok none) ∧
        t.service.keeper.memory.findPeer? pushable.id = some pushable ∧
        ∀ a, (r.sequence a).2.2.keeper.memory.findPeer? pushable.id = none) ∧
    (let r := race updateAndCreate (hosting prepared)
      let t := r.play [.left, .right, .right, .right, .left, .left]
      (t.job .left).answer? = some (.ok (some prepared)) ∧
        (t.job .right).answer? = some (.ok (some pushable)) ∧
        t.service.keeper.memory.findPeer? pushable.id = some prepared ∧
        ∀ a, (r.sequence a).2.2.keeper.memory.findPeer? pushable.id = some pushable) ∧
    let r := race createTwice (hosting prepared)
    let t := r.play [.left, .right, .left, .right, .left, .right]
    (∀ a, (t.job a).answer? = some (.ok (some pushable))) ∧
      ∀ a, (r.sequence a).2.1 = .error (.keeper (.rejected (.peerExists pushable.id))) := by
  refine ⟨⟨?_, ?_, ?_, ?_⟩, ⟨?_, ?_, ?_, ?_⟩, ?_, ?_⟩
  · decide +kernel
  · decide +kernel
  · decide +kernel
  · rintro (_ | _) <;> decide +kernel
  · decide +kernel
  · decide +kernel
  · decide +kernel
  · rintro (_ | _) <;> decide +kernel
  · rintro (_ | _) <;> decide +kernel
  · rintro (_ | _) <;> decide +kernel

end PeerRequest

end TunnelKeeper
