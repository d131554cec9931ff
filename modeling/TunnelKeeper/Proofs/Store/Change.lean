import TunnelKeeper.Proofs.Directory
import TunnelKeeper.Proofs.Effect
import TunnelKeeper.Store.Basic

/-!
# Changes of the store

The four writes are changes of the stored records. A write is noted whether or not a fault meets it,
and without a fault it is carried out. What a store holds is what such changes have made of nothing,
so every record stands under its own identifier and no peer carries the mark of a prepared one.
-/
namespace TunnelKeeper.Store
open TunnelKeeper Effect

attribute [ext] Records

inductive Change where
  | saveInterface (i : Interface)
  | savePeer (p : Peer)
  | deleteInterface (id : InterfaceId)
  | deletePeer (id : PeerId)

namespace Change

def operation : Change → Operation
  | .saveInterface _ => .saveInterface
  | .savePeer _ => .savePeer
  | .deleteInterface _ => .deleteInterface
  | .deletePeer _ => .deletePeer

def entry : Change → Write
  | .saveInterface i => .saveInterface i.id
  | .savePeer p => .savePeer p.id
  | .deleteInterface id => .deleteInterface id
  | .deletePeer id => .deletePeer id

def apply : Change → Records → Records
  | .saveInterface i, r => r.saveInterface i
  | .savePeer p, r => r.savePeer p
  | .deleteInterface id, r => r.deleteInterface id
  | .deletePeer id, r => r.deletePeer id

def request : Change → Request Unit
  | .saveInterface i => Store.saveInterface i
  | .savePeer p => Store.savePeer p
  | .deleteInterface id => Store.deleteInterface id
  | .deletePeer id => Store.deletePeer id

def applyAll (cs : List Change) (r : Records) : Records := cs.foldl (fun r c => c.apply r) r

@[simp] theorem applyAll_nil (r : Records) : applyAll [] r = r := rfl

@[simp] theorem applyAll_cons (c : Change) (cs : List Change) (r : Records) :
    applyAll (c :: cs) r = applyAll cs (c.apply r) := rfl

end Change

/-- The changes that store the committed ones among peers. -/
def saves (ps : List Peer) : List Change := (ps.filter (! ·.isPrepared)).map .savePeer

theorem saves_of_committed {ps : List Peer} (h : ∀ p ∈ ps, p.isPrepared = false) :
    saves ps = ps.map .savePeer := by
  rw [saves, List.filter_eq_self.2 fun p hp => ?_]
  rw [h p hp]
  rfl

theorem saves_of_prepared {p : Peer} (h : p.isPrepared = true) : saves [p] = [] := by
  simp [saves, h]

theorem applyAll_saves_cons (p : Peer) (ps : List Peer) (r : Records) :
    Change.applyAll (saves (p :: ps)) r =
      Change.applyAll (saves ps) (Change.applyAll (saves [p]) r) := by
  cases h : p.isPrepared <;> simp [saves, h]

theorem unmarked_of_committed {p : Peer} (h : p.isPrepared = false) :
    { p with preparedAt := none } = p := by
  rw [← Option.isNone_iff_eq_none.1 (Option.isSome_eq_false_iff.1 h)]

/-- The changes that delete peers. -/
def deletions (ps : List Peer) : List Change := ps.map fun p => .deletePeer p.id

theorem interfaces_deletions (ps : List Peer) (r : Records) :
    (Change.applyAll (deletions ps) r).interfaces = r.interfaces := by
  induction ps generalizing r with
  | nil => rfl
  | cons p ps ih => exact ih (r.deletePeer p.id)

theorem find?_deletions (ps : List Peer) (r : Records) (id : PeerId) :
    (Change.applyAll (deletions ps) r).peers.find? id =
      if ∃ p ∈ ps, p.id = id then none else r.peers.find? id := by
  induction ps generalizing r with
  | nil => simp [deletions]
  | cons p ps ih =>
    refine (ih (r.deletePeer p.id)).trans ?_
    rw [Records.deletePeer, Directory.find?_erase]
    by_cases hp : id = p.id
    · simp [hp]
    · simp [hp, Ne.symm hp]

/-- Deleting peers again deletes no others. -/
theorem applyAll_deletions_again {ps qs : List Peer} (h : qs ⊆ ps) (r : Records) :
    Change.applyAll (deletions ps) (Change.applyAll (deletions qs) r) =
      Change.applyAll (deletions ps) r := by
  apply Records.ext
  · rw [interfaces_deletions, interfaces_deletions, interfaces_deletions]
  · ext id : 1
    rw [find?_deletions, find?_deletions, find?_deletions]
    by_cases deleted : ∃ p ∈ ps, p.id = id
    · rw [if_pos deleted, if_pos deleted]
    · have kept : ¬ ∃ p ∈ qs, p.id = id := fun ⟨p, hp, hid⟩ => deleted ⟨p, h hp, hid⟩
      rw [if_neg deleted, if_neg kept, if_neg deleted]

/-- Saving peers files the committed ones, without their marks. -/
theorem applyAll_saves (ps : List Peer) (r : Records) :
    Change.applyAll (saves ps) r =
      { r with
        peers := r.peers.insertAll (·.id)
          ((ps.filter (! ·.isPrepared)).map fun p => { p with preparedAt := none }) } := by
  induction ps generalizing r with
  | nil => rfl
  | cons p ps ih =>
    rw [applyAll_saves_cons, ih]
    cases h : p.isPrepared <;> simp [saves, h, Change.apply, Records.savePeer, Directory.insertAll]

/-- Saving peers again replaces what was saved of them before. -/
theorem applyAll_saves_again {ps qs : List Peer} (h : qs ⊆ ps) (r : Records) :
    Change.applyAll (saves ps) (Change.applyAll (saves qs) r) = Change.applyAll (saves ps) r := by
  rw [applyAll_saves, applyAll_saves, applyAll_saves]
  congr 1
  apply Directory.insertAll_insertAll
  intro q hq
  obtain ⟨p, hp, rfl⟩ := List.mem_map.1 hq
  obtain ⟨known, committed⟩ := List.mem_filter.1 hp
  exact ⟨_, List.mem_map_of_mem (List.mem_filter.2 ⟨h known, committed⟩), rfl⟩

/-- Saving peers that are stored already changes nothing. -/
theorem applyAll_saves_of_stored {r : Records} {ps : List Peer}
    (h : ∀ p ∈ ps, p.isPrepared = false → r.peers.find? p.id = some p) :
    Change.applyAll (saves ps) r = r := by
  rw [applyAll_saves, Directory.insertAll_of_find?]
  intro p hp
  obtain ⟨q, hq, rfl⟩ := List.mem_map.1 hp
  obtain ⟨hq, committed⟩ := List.mem_filter.1 hq
  rw [Bool.not_eq_true'] at committed
  rw [unmarked_of_committed committed]
  exact h q hq committed

/-- The store after a write was recorded and counted. -/
def noted (s : Store) (c : Change) : Store :=
  { s with
    writes := s.writes ++ [c.entry]
    made := fun o => if o = c.operation then s.made o + 1 else s.made o }

/-- The store after a write that no fault met. -/
def changed (s : Store) (c : Change) : Store := { s.noted c with records := c.apply s.records }

def changedAll (s : Store) (cs : List Change) : Store := cs.foldl changed s

def fault? (s : Store) (c : Change) : Option StoreError := s.faults c.operation (s.made c.operation)

theorem Change.request_eq_write (c : Change) : c.request = write c.operation c.entry c.apply := by
  cases c <;> rfl

def counted (s : Store) (o : Operation) : Store :=
  { s with made := fun q => if q = o then s.made q + 1 else s.made q }

theorem ends_attempt {o : Operation} {s : Store} {R : Except StoreError Unit → Store → Prop}
    (ok : s.faults o (s.made o) = none → R (.ok ()) (s.counted o))
    (failed : ∀ e, s.faults o (s.made o) = some e → R (.error e) (s.counted o)) :
    Ends (attempt o) s R := by
  rw [attempt, ends_bind, ends_get, andThen_ok, ends_bind, ends_set, andThen_ok]
  cases h : s.faults o (s.made o) with
  | none => exact ok h
  | some e => exact failed e h

/-- A write is carried out unless a fault meets it, and noted in either case. -/
theorem ends_request {c : Change} {s : Store} {R : Except StoreError Unit → Store → Prop}
    (ok : s.fault? c = none → R (.ok ()) (s.changed c))
    (failed : ∀ e, s.fault? c = some e → R (.error e) (s.noted c)) : Ends c.request s R := by
  rw [c.request_eq_write, write, ends_bind, ends_modify, andThen_ok]
  exact ends_bind.2 (ends_attempt (fun h => ok h) fun e h => failed e h)

@[simp] theorem records_noted (s : Store) (c : Change) : (s.noted c).records = s.records := rfl

@[simp] theorem records_changed (s : Store) (c : Change) :
    (s.changed c).records = c.apply s.records := rfl

@[simp] theorem records_changedAll (s : Store) (cs : List Change) :
    (s.changedAll cs).records = Change.applyAll cs s.records := by
  induction cs generalizing s with
  | nil => rfl
  | cons c cs ih => exact ih (s.changed c)

theorem writes_changedAll (s : Store) (cs : List Change) :
    (s.changedAll cs).writes = s.writes ++ cs.map Change.entry := by
  induction cs generalizing s with
  | nil => exact (List.append_nil _).symm
  | cons c cs ih =>
    refine (ih (s.changed c)).trans ?_
    rw [List.map_cons, List.append_cons]
    rfl

/-- Whether one state of the store comes after another under the same fault plan. -/
structure Later (s t : Store) : Prop where
  faults : t.faults = s.faults
  made (o : Operation) : s.made o ≤ t.made o

namespace Later

theorem refl (s : Store) : Later s s := ⟨rfl, fun _ => Nat.le_refl _⟩

theorem trans {s t u : Store} (h : Later s t) (h' : Later t u) : Later s u :=
  ⟨h'.faults.trans h.faults, fun o => Nat.le_trans (h.made o) (h'.made o)⟩

theorem noted (s : Store) (c : Change) : Later s (s.noted c) := by
  refine ⟨rfl, fun o => ?_⟩
  simp only [Store.noted]
  split <;> omega

theorem changed (s : Store) (c : Change) : Later s (s.changed c) :=
  ⟨rfl, (noted s c).made⟩

theorem changedAll (s : Store) (cs : List Change) : Later s (s.changedAll cs) := by
  induction cs generalizing s with
  | nil => exact refl s
  | cons c cs ih => exact (changed s c).trans (ih (s.changed c))

end Later

/-- Whether a write failed that was made between two states of the store. -/
def LostWrite (s t : Store) : Prop :=
  ∃ c : Change, ∃ n, s.made c.operation ≤ n ∧ n < t.made c.operation ∧
    s.faults c.operation n ≠ none

theorem LostWrite.of_fault? {s t : Store} {c : Change} {e : StoreError} (later : Later s t)
    (h : t.fault? c = some e) : LostWrite s (t.noted c) := by
  refine ⟨c, t.made c.operation, later.made _, ?_, ?_⟩
  · simp [noted]
  · rw [← later.faults, show t.faults c.operation (t.made c.operation) = some e from h]
    exact Option.some_ne_none e

namespace Records

/-- What a store can hold: what changes have made of nothing. -/
inductive Written : Records → Prop
  | empty : Written {}
  | change (c : Change) {r : Records} (h : Written r) : Written (c.apply r)

theorem Written.changeAll {r : Records} (h : Written r) (cs : List Change) :
    Written (Change.applyAll cs r) := by
  induction cs generalizing r with
  | nil => exact h
  | cons c cs ih => exact ih (h.change c)

/-- The interface of every stored peer is stored. -/
def Complete (r : Records) : Prop :=
  ∀ {id : PeerId} {p : Peer}, r.peers.find? id = some p →
    r.interfaces.contains p.tunnel.interfaceId = true

/-- Every record stands under its own identifier. -/
structure Filed (r : Records) : Prop where
  interface {id : InterfaceId} {i : Interface} : r.interfaces.find? id = some i → i.id = id
  peer {id : PeerId} {p : Peer} : r.peers.find? id = some p → p.id = id

theorem Filed.change {r : Records} (h : Filed r) (c : Change) : Filed (c.apply r) := by
  cases c with
  | saveInterface j =>
    constructor
    · intro _ _ hi
      rcases Directory.of_find?_insert hi with ⟨hid, rfl⟩ | hi
      · exact hid.symm
      · exact h.interface hi
    · exact h.peer
  | savePeer q =>
    constructor
    · exact h.interface
    · intro _ _ hp
      rcases Directory.of_find?_insert hp with ⟨hid, rfl⟩ | hp
      · exact hid.symm
      · exact h.peer hp
  | deleteInterface j => exact ⟨fun hi => h.interface (Directory.of_find?_erase hi).2, h.peer⟩
  | deletePeer j => exact ⟨h.interface, fun hp => h.peer (Directory.of_find?_erase hp).2⟩

theorem Written.filed {r : Records} (h : Written r) : Filed r := by
  induction h with
  | empty => exact ⟨nofun, nofun⟩
  | change c _ ih => exact ih.change c

/-- A stored peer is not marked as prepared. -/
theorem Written.unmarked {r : Records} (h : Written r) {id : PeerId} {p : Peer}
    (hp : r.peers.find? id = some p) : p.preparedAt = none := by
  induction h generalizing id p with
  | empty => contradiction
  | change c h ih =>
    cases c with
    | saveInterface j => exact ih hp
    | savePeer q =>
      rcases Directory.of_find?_insert hp with ⟨-, rfl⟩ | hp
      · rfl
      · exact ih hp
    | deleteInterface j => exact ih hp
    | deletePeer j => exact ih (Directory.of_find?_erase hp).2

theorem Written.committed {r : Records} (h : Written r) {id : PeerId} {p : Peer}
    (hp : r.peers.find? id = some p) : p.isPrepared = false := by
  rw [Peer.isPrepared, h.unmarked hp]
  rfl

end Records

end TunnelKeeper.Store
