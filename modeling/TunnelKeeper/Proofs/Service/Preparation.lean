import Mathlib.Data.List.Induction
import TunnelKeeper.Proofs.Service.Holding
import TunnelKeeper.Proofs.Service.Interleaving

/-!
# Two preparations at the same time

A preparation searches for addresses in its second turn and files the new peer in its last one. If
one of two preparations for an interface has ended before the other one searches, then they give
addresses apart from each other. Otherwise both search in the same memory, and both give the same
addresses: nothing holds an address between the search and the filing.
-/
namespace TunnelKeeper.Service
open TunnelKeeper Effect Memory

/-! ## The turns of a preparation -/

/-- What is left of a preparation that has found its addresses. -/
def fileNext (i : Interface) (user : Option UserId) (addresses : String) : Job Peer := do
  let keys ← Job.keyPair
  let presharedKey ← Job.presharedKey
  let p := preparedPeer i addresses user keys presharedKey (← Job.now)
  Job.keep (Keeper.savePeers [p])
  return p

/-- What is left of a preparation that has found its interface. -/
def searchNext (id : InterfaceId) (user : Option UserId) (i : Interface) : Job Peer := do
  let addresses ← Job.look (·.freshAddresses id)
  fileNext i user addresses

/-- Whether a job does no more than to file a prepared peer with certain addresses, for which it may
draw on what does not belong to the keeper. -/
inductive Files (id : InterfaceId) (addresses : String) : Job Peer → Prop
  | draw {β : Type} {action : Service → β × Service} {rest : β → Job Peer}
      (same : ∀ s, (action s).2.keeper = s.keeper) (h : ∀ b, Files id addresses (rest b)) :
      Files id addresses (.call action rest)
  | save {p : Peer} (home : p.tunnel.interfaceId = id)
      (given : p.tunnel.addresses.value = addresses) (prepared : p.isPrepared = true) :
      Files id addresses (Job.keep (Keeper.savePeers [p]) >>= fun _ => pure p)

theorem files_fileNext (i : Interface) (user : Option UserId) (addresses : String) :
    Files i.id addresses (fileNext i user addresses) := by
  apply Files.draw (fun _ => rfl)
  intro keys
  apply Files.draw (fun _ => rfl)
  intro presharedKey
  apply Files.draw (fun _ => rfl)
  intro now
  exact .save rfl rfl rfl

/-- How far a preparation has come after so many turns, and the addresses it has found. -/
inductive Progress (id : InterfaceId) (user : Option UserId) :
    Nat → Option String → Job Peer → Prop
  | start : Progress id user 0 none (preparePeer id user)
  | managed {i : Interface} (home : i.id = id) : Progress id user 1 none (searchNext id user i)
  | found {n : Nat} {addresses : String} {j : Job Peer} (searched : 2 ≤ n)
      (h : Files id addresses j) : Progress id user n (some addresses) j
  | ended {n : Nat} {p : Peer} (searched : 2 ≤ n) :
      Progress id user n (some p.tunnel.addresses.value) (.done p)
  | failed {n : Nat} {e : ServiceError} : Progress id user n none (.fail e)

/-- What one turn of a preparation does to memory: nothing, unless it ends and files its peer. -/
inductive Filing (id : InterfaceId) (m : Memory) (j j' : Job Peer) (m' : Memory) : Prop
  | same (memory : m' = m) (h : ∀ p, j' = .done p → j = .done p)
  | filed {p : Peer} (fits : Fits m id p) (done : j' = .done p) (memory : m' = m.addPeer id p)

theorem Filing.failed {id : InterfaceId} {m : Memory} {j : Job Peer} {e : ServiceError} :
    Filing id m j (.fail e) m :=
  .same rfl fun _ done => nomatch done

theorem Files.ne_done {id : InterfaceId} {addresses : String} {j : Job Peer}
    (h : Files id addresses j) (p : Peer) : j ≠ .done p := by
  cases h with
  | draw => exact nofun
  | save => exact nofun

variable {id : InterfaceId}

/-- A preparation finds its addresses in the second turn, in the memory that is there then. -/
theorem Progress.turn {user : Option UserId} {n : Nat} {found : Option String} {j j' : Job Peer}
    {s s' : Service} (h : Progress id user n found j) (filed : s.keeper.memory.Filed)
    (turn : j.next s = (j', s')) :
    Filing id s.keeper.memory j j' s'.keeper.memory ∧
      ∃ found', Progress id user (n + 1) found' j' ∧
        ∀ x, found' = some x → found = some x ∨
          n = 1 ∧ s.keeper.memory.freshAddresses id = .ok x := by
  cases h with
  | start =>
    change (Job.look (·.interface id) >>= searchNext id user).next s = _ at turn
    rw [Job.next_look] at turn
    cases hi : s.keeper.memory.interface id with
    | error e =>
      rw [hi] at turn
      cases turn
      exact ⟨.failed, none, .failed, nofun⟩
    | ok i =>
      rw [hi] at turn
      cases turn
      have home := filed.interface (Keeper.interface_eq_ok_iff.1 hi)
      exact ⟨.same rfl fun _ done => (nomatch done), none, .managed home, nofun⟩
  | @managed i home =>
    subst home
    rw [searchNext, Job.next_look] at turn
    cases hx : s.keeper.memory.freshAddresses i.id with
    | error e =>
      rw [hx] at turn
      cases turn
      exact ⟨.failed, none, .failed, nofun⟩
    | ok x =>
      rw [hx] at turn
      cases turn
      have files := files_fileNext i user x
      refine ⟨.same rfl fun p done => absurd done (files.ne_done p), some x,
        .found (Nat.le_refl 2) files, ?_⟩
      rintro _ ⟨⟩
      exact .inr ⟨rfl, rfl⟩
  | found searched h =>
    have later := Nat.le_succ_of_le searched
    cases h with
    | @draw _ action _ same rest =>
      cases turn
      rw [same s]
      have files := rest (action s).1
      exact ⟨.same rfl fun p done => absurd done (files.ne_done p), _, .found later files,
        fun _ => .inl⟩
    | @save p home given prepared =>
      subst home given
      rw [Keeper.savePeers_singleton, Job.next_keep] at turn
      rcases saved : (Keeper.savePeer p).run.run s.keeper with ⟨r, k⟩
      rw [saved] at turn
      cases (savePeer_ends_of_prepared prepared s.keeper).of_run saved with
      | refused =>
        cases turn
        exact ⟨.failed, none, .failed, nofun⟩
      | done fits =>
        cases turn
        exact ⟨.filed fits rfl rfl, _, .ended later, fun _ => .inl⟩
  | ended searched =>
    cases turn
    exact ⟨.same rfl fun _ done => done, _, .ended (Nat.le_succ_of_le searched), fun _ => .inl⟩
  | failed =>
    cases turn
    exact ⟨.failed, none, .failed, nofun⟩

/-! ## Two preparations -/

def preparations (id : InterfaceId) (user : Side → Option UserId) (s : Service) : Race Peer where
  job a := preparePeer id (user a)
  service := s

/-- Whether one job has succeeded before the other one takes its second turn. -/
def SucceedsBefore (r : Race Peer) (turns : List Side) (a : Side) : Prop :=
  ∃ first second p, turns = first ++ second ∧ first.count a.other ≤ 1 ∧
    (r.play first).job a = .done p

section

variable {r : Race Peer} {turns : List Side} {a b : Side}

theorem SucceedsBefore.done (h : SucceedsBefore r turns a) :
    ∃ p, (r.play turns).job a = .done p := by
  obtain ⟨first, second, p, rfl, -, done⟩ := h
  refine ⟨p, ?_⟩
  rw [Race.play_append]
  exact Job.answer?_eq_done_iff.1
    (Race.answer?_play (Job.answer?_eq_done_iff.2 done) second)

/-- Whether a job succeeds before the other one searches is settled when that one searches. -/
theorem succeedsBefore_concat (h : b = a.other ∨ 2 ≤ turns.count a.other) :
    SucceedsBefore r (turns ++ [b]) a ↔ SucceedsBefore r turns a := by
  constructor
  · rintro ⟨first, second, p, split, early, done⟩
    rcases List.eq_nil_or_concat second with rfl | ⟨second, c, rfl⟩
    · rw [List.append_nil] at split
      subst split
      rw [List.count_append] at early
      rcases h with rfl | late
      · rw [Race.play_concat, Race.job_turn_of_other] at done
        refine ⟨turns, [], p, (List.append_nil _).symm, ?_, done⟩
        omega
      · omega
    · rw [List.concat_eq_append, ← List.append_assoc] at split
      obtain ⟨rfl, -⟩ := List.append_inj' split rfl
      exact ⟨first, second, p, rfl, early, done⟩
  · rintro ⟨first, second, p, rfl, early, done⟩
    exact ⟨first, second ++ [b], p, List.append_assoc .., early, done⟩

end

/-- What is known of the addresses that one of two preparations has found: if the other one had
succeeded before, they are apart from its addresses, and otherwise they are those that were fresh at
the start. -/
structure Given (id : InterfaceId) (user : Side → Option UserId) (s : Service) (turns : List Side)
    (r : Race Peer) (a : Side) (addresses : String) : Prop where
  after : SucceedsBefore (preparations id user s) turns a.other →
    ∃ p, r.job a.other = .done p ∧ Apart addresses p.tunnel.addresses.value
  beside : ¬ SucceedsBefore (preparations id user s) turns a.other →
    s.keeper.memory.freshAddresses id = .ok addresses

/-- What holds after turns of two preparations. -/
structure Standing (id : InterfaceId) (user : Side → Option UserId) (s : Service)
    (turns : List Side) (r : Race Peer) : Prop where
  filed : r.service.keeper.memory.Filed
  untouched : (∀ a p, r.job a ≠ .done p) → r.service.keeper.memory = s.keeper.memory
  held {a : Side} {p : Peer} : r.job a = .done p → (∀ q, r.job a.other ≠ .done q) →
    r.service.keeper.memory.Holds id p.id p.tunnel.addresses.value
  progress (a : Side) : ∃ found, Progress id (user a) (turns.count a) found (r.job a) ∧
    ∀ x, found = some x → Given id user s turns r a x

theorem Progress.two_le {user : Option UserId} {n : Nat} {found : Option String} {j : Job Peer}
    (h : Progress id user n found j) {x : String} (hx : found = some x) : 2 ≤ n := by
  cases h with
  | found searched => exact searched
  | ended searched => exact searched
  | start => contradiction
  | managed => contradiction
  | failed => contradiction

theorem Progress.of_done {user : Option UserId} {n : Nat} {found : Option String} {j : Job Peer}
    (h : Progress id user n found j) {p : Peer} (done : j = .done p) :
    2 ≤ n ∧ found = some p.tunnel.addresses.value := by
  cases h with
  | start => exact nomatch done
  | managed => exact nomatch done
  | found _ files => exact absurd done (files.ne_done p)
  | ended searched =>
    cases done
    exact ⟨searched, rfl⟩
  | failed => contradiction

variable {user : Side → Option UserId} {s : Service} {turns : List Side} {r : Race Peer}
  {a b : Side} {x : String}

theorem standing_start (filed : s.keeper.memory.Filed) :
    Standing id user s [] (preparations id user s) where
  filed := filed
  untouched _ := rfl
  held done := nomatch done
  progress _ := ⟨none, .start, nofun⟩

theorem Given.legible (h : Given id user s turns r a x) : Legible x := by
  by_cases early : SucceedsBefore (preparations id user s) turns a.other
  · obtain ⟨p, -, apart⟩ := h.after early
    exact apart.left
  · exact legible_of_freshAddresses (h.beside early)

/-- What was known of found addresses stays known. -/
theorem Given.turn (h : Given id user s turns r a x) (searched : b = a ∨ 2 ≤ turns.count a) :
    Given id user s (turns ++ [b]) (r.turn b) a x := by
  have settled : SucceedsBefore (preparations id user s) (turns ++ [b]) a.other ↔
      SucceedsBefore (preparations id user s) turns a.other := by
    apply succeedsBefore_concat
    rwa [Side.other_other]
  constructor
  · intro early
    obtain ⟨p, done, apart⟩ := h.after (settled.1 early)
    exact ⟨p, Race.job_turn_of_done done b, apart⟩
  · intro late
    exact h.beside fun early => late (settled.2 early)

namespace Standing

theorem legible (h : Standing id user s turns r) {p : Peer} (done : r.job a = .done p) :
    Legible p.tunnel.addresses.value := by
  obtain ⟨found, progress, given⟩ := h.progress a
  exact (given _ (progress.of_done done).2).legible

/-- What is known of addresses when they are found. -/
theorem given (h : Standing id user s turns r) (played : (preparations id user s).play turns = r)
    (once : turns.count a = 1) (fresh : r.service.keeper.memory.freshAddresses id = .ok x) :
    Given id user s turns r a x := by
  have searching (p : Peer) : r.job a ≠ .done p := fun done => by
    obtain ⟨found, progress, -⟩ := h.progress a
    have late := (progress.of_done done).1
    omega
  constructor
  · intro early
    obtain ⟨p, done⟩ := early.done
    rw [played] at done
    have held := h.held done fun q ended => searching q (a.other_other ▸ ended)
    exact ⟨p, done, held.apart (h.legible done) fresh⟩
  · intro late
    have alone (p : Peer) : r.job a.other ≠ .done p := fun done => by
      apply late
      refine ⟨turns, [], p, (List.append_nil _).symm, ?_, by rw [played, done]⟩
      rw [Side.other_other, once]
    have none (c : Side) (p : Peer) : r.job c ≠ .done p := by
      rcases a.eq_or_eq_other c with rfl | rfl
      · exact searching p
      · exact alone p
    rw [← h.untouched none]
    exact fresh

/-- A peer that was filed holds its addresses as long as the other preparation goes on. -/
theorem held_turn (h : Standing id user s turns r)
    (filing : Filing id r.service.keeper.memory (r.job b) ((r.turn b).job b)
      (r.turn b).service.keeper.memory) {p : Peer} (done : (r.turn b).job a = .done p)
    (alone : ∀ q, (r.turn b).job a.other ≠ .done q) :
    (r.turn b).service.keeper.memory.Holds id p.id p.tunnel.addresses.value := by
  rcases b.eq_or_eq_other a with rfl | rfl
  · rw [Race.job_turn_other] at alone
    cases filing with
    | same memory before => exact memory ▸ h.held (before p done) alone
    | filed fits done' memory =>
      cases done.symm.trans done'
      rw [memory]
      refine ⟨h.filed.addPeer fits, p, ?_, fun _ _ named => named⟩
      rw [find?_peersOf_addPeer, if_pos ⟨rfl, rfl⟩]
  · rw [Race.job_turn_other] at done
    rw [Side.other_other] at alone
    cases filing with
    | same memory =>
      refine memory ▸ h.held done fun q ended => ?_
      rw [Side.other_other] at ended
      exact alone q (Race.job_turn_of_done ended b)
    | filed _ done' => exact absurd done' (alone _)

theorem turn (h : Standing id user s turns r) (played : (preparations id user s).play turns = r)
    (b : Side) : Standing id user s (turns ++ [b]) (r.turn b) := by
  obtain ⟨found, progress, given⟩ := h.progress b
  have turned : (r.job b).next r.service = ((r.turn b).job b, (r.turn b).service) := by
    rw [r.job_turn_self b]
    rfl
  obtain ⟨filing, found', progress', origin⟩ := progress.turn h.filed turned
  constructor
  case filed =>
    cases filing with
    | same memory => exact memory ▸ h.filed
    | filed fits _ memory => exact memory ▸ h.filed.addPeer fits
  case untouched =>
    intro none
    cases filing with
    | same memory =>
      refine memory.trans (h.untouched fun a p done => ?_)
      exact none a p (Race.job_turn_of_done done b)
    | filed _ done => exact absurd done (none b _)
  case held =>
    intro a p
    exact h.held_turn filing
  case progress =>
    intro a
    rcases b.eq_or_eq_other a with rfl | rfl
    · refine ⟨found', ?_, fun x hx => ?_⟩
      · rw [List.count_append, List.count_singleton_self]
        exact progress'
      · have known : Given id user s turns r a x := by
          rcases origin x hx with earlier | ⟨once, fresh⟩
          · exact given x earlier
          · exact h.given played once fresh
        exact known.turn (.inl rfl)
    · obtain ⟨found, progress, given⟩ := h.progress b.other
      refine ⟨found, ?_, fun x hx => (given x hx).turn (.inr (progress.two_le hx))⟩
      have same : (turns ++ [b]).count b.other = turns.count b.other := by
        rw [List.count_append, List.count_singleton, if_neg (by simpa using b.other_ne.symm),
          Nat.add_zero]
      rw [same, Race.job_turn_other]
      exact progress

end Standing

theorem standing_play (filed : s.keeper.memory.Filed) (turns : List Side) :
    Standing id user s turns ((preparations id user s).play turns) := by
  induction turns using List.reverseRecOn with
  | nil => exact standing_start filed
  | append_singleton turns b ih =>
    rw [Race.play_concat]
    exact ih.turn rfl b

/-- Two preparations for one interface give addresses apart from each other if one of them succeeds
before the other one searches. Otherwise they give the same addresses. -/
theorem addresses_of_preparations (filed : s.keeper.memory.Filed) {p q : Peer}
    (left : ((preparations id user s).play turns).job .left = .done p)
    (right : ((preparations id user s).play turns).job .right = .done q) :
    (SucceedsBefore (preparations id user s) turns .left ∨
        SucceedsBefore (preparations id user s) turns .right →
      Apart p.tunnel.addresses.value q.tunnel.addresses.value) ∧
    (¬ (SucceedsBefore (preparations id user s) turns .left ∨
        SucceedsBefore (preparations id user s) turns .right) →
      p.tunnel.addresses.value = q.tunnel.addresses.value) := by
  have standing : Standing id user s turns ((preparations id user s).play turns) :=
    standing_play filed turns
  obtain ⟨_, progress, given⟩ := standing.progress .left
  have givenLeft := given _ (progress.of_done left).2
  obtain ⟨_, progress, given⟩ := standing.progress .right
  have givenRight := given _ (progress.of_done right).2
  constructor
  · rintro (early | early)
    · obtain ⟨p', done, apart⟩ := givenRight.after early
      cases left.symm.trans done
      exact apart.symm
    · obtain ⟨q', done, apart⟩ := givenLeft.after early
      cases right.symm.trans done
      exact apart
  · rintro late
    obtain ⟨lateLeft, lateRight⟩ := not_or.1 late
    have first := givenLeft.beside lateRight
    rw [givenRight.beside lateLeft] at first
    exact (Except.ok.inj first).symm

def secondPeer (addresses : String) : Peer :=
  nextPeer ⟨lender.keeper, lender.keysAfter⟩ holder addresses none

/-- One preparation after the other. -/
def inSequence : List Side := List.replicate 6 .left ++ List.replicate 6 .right

theorem addresses_of_preparations_in_sequence :
    let r := preparations holder.id (fun _ => none) lender
    let p := lender.nextPeer holder "10.0.0.2/29" none
    lender.keeper.memory.Filed ∧ (r.play inSequence).job .left = .done p ∧
      (r.play inSequence).job .right = .done (secondPeer "10.0.0.3/29") ∧
      SucceedsBefore r inSequence .left ∧ Apart "10.0.0.2/29" "10.0.0.3/29" := by
  intro r p
  have filed : lender.keeper.memory.Filed := started_lender.filed
  have left : (r.play inSequence).job .left = .done p :=
    Job.answer?_eq_done_iff.1 (by decide +kernel)
  have right : (r.play inSequence).job .right = .done (secondPeer "10.0.0.3/29") :=
    Job.answer?_eq_done_iff.1 (by decide +kernel)
  have early : SucceedsBefore r inSequence .left := by
    refine ⟨List.replicate 6 .left, List.replicate 6 .right, p, rfl, by decide, ?_⟩
    exact Job.answer?_eq_done_iff.1 (by decide +kernel)
  exact ⟨filed, left, right, early, (addresses_of_preparations filed left right).1 (.inl early)⟩

/-- Two preparations that take turns one by one. -/
def alternating : List Side := (List.replicate 6 [.left, .right]).flatten

/-- Two preparations with different keys give the same address. -/
theorem same_address_of_alternating :
    let r := (preparations holder.id (fun _ => none) lender).play alternating
    let p := lender.nextPeer holder "10.0.0.2/29" none
    let q := secondPeer "10.0.0.2/29"
    r.job .left = .done p ∧ r.job .right = .done q ∧ p.id ≠ q.id ∧
      ∃ a, Names p.tunnel.addresses.value a ∧ Names q.tunnel.addresses.value a := by
  intro r p q
  have left : r.job .left = .done p := Job.answer?_eq_done_iff.1 (by decide +kernel)
  have right : r.job .right = .done q := Job.answer?_eq_done_iff.1 (by decide +kernel)
  have named : Names "10.0.0.2/29" (.ofValue .v4 0x0A000002) :=
    ⟨[⟨.ofValue .v4 0x0A000002, 29, by decide⟩], by decide +kernel, _,
      List.mem_singleton_self _, rfl⟩
  exact ⟨left, right, by decide, _, named, named⟩

end TunnelKeeper.Service
