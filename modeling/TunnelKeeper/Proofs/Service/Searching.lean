import Mathlib.Data.List.Sort
import TunnelKeeper.Proofs.Keeper.Commitment
import TunnelKeeper.Proofs.Memory.AllPeers
import TunnelKeeper.Proofs.Service.Filter
import TunnelKeeper.Proofs.Service.Job
import TunnelKeeper.Proofs.Service.Listing
import TunnelKeeper.Service.Peers

/-!
# Searches

A search lists exactly the managed peers that it asks for, in the order that it asks for. No two
peers are equal in that order, so there is only one such list, and a search for a user and an
interface gives what is left of either search alone.
-/
namespace TunnelKeeper

theorem Id.isBlank_eq_false_iff {kind : IdKind} {i : Id kind} :
    i.isBlank = false ↔ ∃ c ∈ i.text.toList, Text.isBlank c = false := by
  simp [isBlank, Text.isBlankText]

namespace SortKey

variable {k : SortKey} {a b : Peer}

/-- Whether the field of a peer that is sorted by is less than that of another. -/
def Less (k : SortKey) (a b : Peer) : Prop :=
  match k with
  | .identifier => a.id.text < b.id.text
  | .displayName => a.displayName < b.displayName
  | .publicKey => a.keys.publicKey < b.keys.publicKey

def Alike (k : SortKey) (a b : Peer) : Prop :=
  match k with
  | .identifier => a.id.text = b.id.text
  | .displayName => a.displayName = b.displayName
  | .publicKey => a.keys.publicKey = b.keys.publicKey

theorem less_iff : k.Less a b ↔ Search.keyOf k a < Search.keyOf k b := by
  cases k <;> rfl

theorem alike_iff : k.Alike a b ↔ Search.keyOf k a = Search.keyOf k b := by
  cases k <;> rfl

theorem alike_comm : k.Alike a b ↔ k.Alike b a := by
  rw [alike_iff, alike_iff, eq_comm]

end SortKey

namespace Search
open Text

variable {q : Search} {m : Memory} {a b p : Peer} {ps : List Peer} {i : InterfaceId} {u : UserId}

/-- Whether a peer comes before another by the field alone, in the direction of the search. -/
def KeyBefore (q : Search) (a b : Peer) : Prop :=
  if q.descending then q.sort.Less b a else q.sort.Less a b

/-- Whether a peer is listed before another: by the field, and where it is the same as both are
filed. -/
def Precedes (q : Search) (a b : Peer) : Prop :=
  q.KeyBefore a b ∨ q.sort.Alike a b ∧ a.FiledBefore b

/-- Whether a search is for the peers of an interface. A blank name does not count. -/
def NamesInterface (q : Search) (i : InterfaceId) : Prop :=
  q.interface = some i ∧ ∃ c ∈ i.text.toList, isBlank c = false

def NamesUser (q : Search) (u : UserId) : Prop :=
  q.user = some u ∧ ∃ c ∈ u.text.toList, isBlank c = false

/-- Whether a search asks for a managed peer: one of the interface and of the user that it names,
with its text in some field whatever the letter case. -/
structure Finds (q : Search) (m : Memory) (p : Peer) : Prop where
  managed : ∃ i ps k, m.peers.find? i = some ps ∧ ps.find? k = some p
  inside (i : InterfaceId) : q.NamesInterface i → p.tunnel.interfaceId = i
  owned (u : UserId) : q.NamesUser u → p.owner = some u
  mentioned : ∃ f ∈ [p.id.text, p.displayName, p.keys.publicKey, p.tunnel.addresses.value],
    lowercaseList (trimList q.filter.toList) <:+: lowercaseList f.toList

/-- Whether a search names a user or a managed interface. -/
def Answerable (q : Search) (m : Memory) : Prop :=
  (∃ u, q.NamesUser u) ∨ ∃ i r, q.NamesInterface i ∧ m.interfaces.find? i = some r

theorem interface?_eq_some_iff : q.interface? = some i ↔ q.NamesInterface i := by
  rw [interface?, Option.filter_eq_some_iff, Bool.not_eq_true', Id.isBlank_eq_false_iff]
  rfl

theorem user?_eq_some_iff : q.user? = some u ↔ q.NamesUser u := by
  rw [user?, Option.filter_eq_some_iff, Bool.not_eq_true', Id.isBlank_eq_false_iff]
  rfl

/-- A search looks for its text among the peers of the interface and of the user that it names. -/
theorem finds_iff : q.Finds m p ↔
    (p ∈ m.allPeers ∧ (∀ i, q.interface? = some i → p.tunnel.interfaceId = i) ∧
      ∀ u, q.user? = some u → p.owner = some u) ∧ q.matchesPeer p = true := by
  simp only [Memory.mem_allPeers_iff_find?, interface?_eq_some_iff, user?_eq_some_iff]
  constructor
  · rintro ⟨managed, inside, owned, mentioned⟩
    exact ⟨⟨managed, inside, owned⟩, matchesPeer_iff.2 mentioned⟩
  · rintro ⟨⟨managed, inside, owned⟩, found⟩
    exact ⟨managed, inside, owned, matchesPeer_iff.1 found⟩

theorem NamesInterface.unique {j : InterfaceId} (h : q.NamesInterface i) (h' : q.NamesInterface j) :
    i = j :=
  Option.some.inj (h.1.symm.trans h'.1)

theorem NamesUser.unique {v : UserId} (h : q.NamesUser u) (h' : q.NamesUser v) : u = v :=
  Option.some.inj (h.1.symm.trans h'.1)

theorem finds_iff_of_interface (h : q.NamesInterface i) :
    q.Finds m p ↔ { q with interface := none }.Finds m p ∧ p.tunnel.interfaceId = i := by
  constructor
  · rintro ⟨managed, inside, owned, mentioned⟩
    exact ⟨⟨managed, nofun, owned, mentioned⟩, inside i h⟩
  · rintro ⟨⟨managed, -, owned, mentioned⟩, home⟩
    refine ⟨managed, fun j named => ?_, owned, mentioned⟩
    exact home.trans (h.unique named)

theorem finds_iff_of_user (h : q.NamesUser u) :
    q.Finds m p ↔ { q with user := none }.Finds m p ∧ p.owner = some u := by
  constructor
  · rintro ⟨managed, inside, owned, mentioned⟩
    exact ⟨⟨managed, inside, nofun, mentioned⟩, owned u h⟩
  · rintro ⟨⟨managed, inside, -, mentioned⟩, owner⟩
    refine ⟨managed, inside, fun v named => ?_, mentioned⟩
    rw [owner, h.unique named]

theorem compareText_eq (s t : String) : compareText s t = compare s t := rfl

instance : Std.TransCmp compareText :=
  inferInstanceAs (Std.TransCmp fun s t : String => compare s t)

theorem compareText_eq_lt_iff {s t : String} : compareText s t = .lt ↔ s < t :=
  compareOfLessAndEq_eq_lt

theorem compareText_eq_eq_iff {s t : String} : compareText s t = .eq ↔ s = t := by
  rw [compareText_eq, Std.compare_eq_iff_eq]

theorem compareText_swap (s t : String) : (compareText s t).swap = compareText t s :=
  Std.OrientedCmp.eq_swap.symm

instance (q : Search) : Std.TransCmp q.comparePeers where
  eq_swap := by
    intro a b
    unfold comparePeers
    split <;> simp [compareText_swap]
  isLE_trans := by
    intro a b c
    simp only [comparePeers]
    split
    · simp only [compareText_swap]
      exact fun hab hbc => Std.TransCmp.isLE_trans hbc hab
    · exact fun hab hbc => Std.TransCmp.isLE_trans hab hbc

theorem comparePeers_eq_lt_iff : q.comparePeers a b = .lt ↔ q.KeyBefore a b := by
  unfold comparePeers KeyBefore
  split
  · rw [compareText_swap, compareText_eq_lt_iff, SortKey.less_iff]
  · rw [compareText_eq_lt_iff, SortKey.less_iff]

theorem comparePeers_eq_eq_iff : q.comparePeers a b = .eq ↔ q.sort.Alike a b := by
  unfold comparePeers
  split
  · rw [compareText_swap, compareText_eq_eq_iff, eq_comm, SortKey.alike_iff]
  · rw [compareText_eq_eq_iff, SortKey.alike_iff]

theorem KeyBefore.asymm (h : q.KeyBefore a b) : ¬ q.KeyBefore b a := by
  intro h'
  have swap : q.comparePeers b a = (q.comparePeers a b).swap := Std.OrientedCmp.eq_swap
  rw [comparePeers_eq_lt_iff.2 h, comparePeers_eq_lt_iff.2 h'] at swap
  contradiction

theorem KeyBefore.not_alike (h : q.KeyBefore a b) : ¬ q.sort.Alike a b := by
  intro same
  have less := comparePeers_eq_lt_iff.2 h
  rw [comparePeers_eq_eq_iff.2 same] at less
  contradiction

theorem Precedes.asymm (h : q.Precedes a b) : ¬ q.Precedes b a := by
  rintro (before | ⟨same, filed⟩)
  · rcases h with h | ⟨same, -⟩
    · exact h.asymm before
    · exact before.not_alike (SortKey.alike_comm.1 same)
  · rcases h with h | ⟨-, h⟩
    · exact h.not_alike (SortKey.alike_comm.1 same)
    · exact h.asymm filed

/-- There is only one list in the order of a search. -/
theorem eq_of_precedes {ps qs : List Peer} (hp : ps.Pairwise q.Precedes)
    (hq : qs.Pairwise q.Precedes) (same : ∀ p, p ∈ ps ↔ p ∈ qs) : ps = qs := by
  have : Std.Irrefl q.Precedes := ⟨fun p h => h.asymm h⟩
  have : Std.Antisymm q.Precedes := ⟨fun p r h h' => (h.asymm h').elim⟩
  exact hp.eq_of_mem_iff hq same

theorem nodup_of_precedes (h : ps.Pairwise q.Precedes) : ps.Nodup := by
  apply h.imp
  rintro p _ before rfl
  exact before.asymm before

/-- The matching peers among those given, in order. -/
def ranked (q : Search) (ps : List Peer) : List Peer :=
  (({ elements := ps.filter q.matchesPeer } : Listing Peer).sortBy q.comparePeers).elements

theorem select?_eq (q : Search) (ps : List Peer) :
    q.select? ps = Listing.page? ⟨q.ranked ps, q.size⟩ q.offset := rfl

theorem mem_ranked : p ∈ q.ranked ps ↔ p ∈ ps ∧ q.matchesPeer p = true :=
  Listing.mem_sortBy.trans List.mem_filter

theorem pairwise_ranked (h : ps.Pairwise Peer.FiledBefore) : (q.ranked ps).Pairwise q.Precedes := by
  apply (Listing.pairwise_sortBy (l := ⟨ps.filter q.matchesPeer, 0⟩) (h.filter _)).imp
  rintro a b (before | ⟨same, filed⟩)
  · exact .inl (comparePeers_eq_lt_iff.1 before)
  · exact .inr ⟨comparePeers_eq_eq_iff.1 same, filed⟩

end Search

namespace Service

variable {q : Search} {s : Service}

theorem run_findPeers {ps : List Peer} (h : (searched q).run s = (.ok ps, s)) :
    (findPeers q).run s =
      match q.select? ps with
      | some found => (.ok found, s)
      | none => (.error .noMorePages, s) := by
  change ((searched q).bind _).run s = _
  rw [Job.run_bind, h]
  change Job.run (match q.select? ps with | some found => _ | none => _) s = _
  cases q.select? ps <;> rfl

/-- A search looks among the peers of the interface and of the user that it names. -/
theorem searched_of_filed (hm : s.keeper.memory.Filed) (asked : q.Answerable s.keeper.memory) :
    ∃ ps, (searched q).run s = (.ok ps, s) ∧ ps.Pairwise Peer.FiledBefore ∧
      ∀ p, p ∈ ps ↔ p ∈ s.keeper.memory.allPeers ∧
        (∀ i, q.interface? = some i → p.tunnel.interfaceId = i) ∧
        ∀ u, q.user? = some u → p.owner = some u := by
  have ordered := hm.pairwise_allPeers
  simp only [Search.Answerable, ← Search.interface?_eq_some_iff, ← Search.user?_eq_some_iff]
    at asked
  unfold searched
  cases hi : q.interface? with
  | some i =>
    cases hu : q.user? with
    | some u =>
      refine ⟨_, Job.run_look _ s, (ordered.filter _).filter _, fun p => ?_⟩
      simp [Memory.peersOfUser, and_assoc, and_comm]
    | none =>
      have managed : s.keeper.memory.interfaces.contains i = true := by
        simpa [hi, hu, Directory.contains, Option.isSome_iff_exists] using asked
      have listed : s.keeper.memory.peersOfInterface i =
          .ok (s.keeper.memory.peersOf i).records := if_pos managed
      refine ⟨_, (Job.run_look _ s).trans (by rw [listed]; rfl), hm.pairwise_peersOf i, fun p => ?_⟩
      simp [hm.mem_peersOf_iff]
  | none =>
    cases hu : q.user? with
    | some u =>
      refine ⟨_, Job.run_look _ s, ordered.filter _, fun p => ?_⟩
      simp [Memory.peersOfUser]
    | none => simp [hi, hu] at asked

/-- A search without pages lists what it asks for, in order. -/
theorem found_of_filed (hm : s.keeper.memory.Filed) (all : q.size = 0)
    (asked : q.Answerable s.keeper.memory) :
    ∃ found, (findPeers q).run s = (.ok found, s) ∧ found.Pairwise q.Precedes ∧
      ∀ p, p ∈ found ↔ q.Finds s.keeper.memory p := by
  obtain ⟨ps, searched, ordered, mem⟩ := searched_of_filed hm asked
  refine ⟨q.ranked ps, ?_, Search.pairwise_ranked ordered, fun p => ?_⟩
  · rw [run_findPeers searched, Search.select?_eq, Listing.page?, if_pos all]
  · rw [Search.mem_ranked, mem, Search.finds_iff]

/-- What a search lists is left of a wider search in the same order when only what it asks for is
kept. -/
theorem found_of_wider (wide : Search) {kept : Peer → Bool} {found : List Peer}
    (hm : s.keeper.memory.Filed) (all : wide.size = 0) (asked : wide.Answerable s.keeper.memory)
    (ordered : found.Pairwise wide.Precedes)
    (mem : ∀ p, p ∈ found ↔ wide.Finds s.keeper.memory p ∧ kept p = true) :
    ∃ more, (findPeers wide).run s = (.ok more, s) ∧ found = more.filter kept := by
  obtain ⟨more, answer, order, all⟩ := found_of_filed hm all asked
  refine ⟨more, answer, Search.eq_of_precedes ordered (order.filter _) fun p => ?_⟩
  rw [mem, List.mem_filter, all]

/-- After every run a search lists exactly what it asks for, once each and in order, and the look
through one interface agrees with the look through all. -/
theorem search_exact {s₀ : Keeper} (started : s₀.Started)
    (run : Relation.ReflTransGen Keeper.Move s₀ s.keeper) (all : q.size = 0)
    (asked : q.Answerable s.keeper.memory) :
    ∃ found, (findPeers q).run s = (.ok found, s) ∧
      (∀ p, p ∈ found ↔ q.Finds s.keeper.memory p) ∧ found.Nodup ∧ found.Pairwise q.Precedes ∧
      ∀ i u, q.NamesInterface i → q.NamesUser u →
        (∃ owned, (findPeers { q with interface := none }).run s = (.ok owned, s) ∧
          found = owned.filter fun p => p.tunnel.interfaceId = i) ∧
        ∀ r, s.keeper.memory.interfaces.find? i = some r →
          ∃ filed, (findPeers { q with user := none }).run s = (.ok filed, s) ∧
            found = filed.filter fun p => p.owner = some u := by
  have admitted : ∀ k l, Keeper.Move k l → Keeper.AdmittedMove (fun _ _ _ => True) k l
    | _, _, .act e a => .act e a trivial
  have hm := Keeper.filed_of_admitted started (run.lift id admitted)
  obtain ⟨found, answer, ordered, mem⟩ := found_of_filed hm all asked
  refine ⟨found, answer, mem, Search.nodup_of_precedes ordered, ordered, fun i u hi hu => ?_⟩
  constructor
  · apply found_of_wider { q with interface := none } hm all (.inl ⟨u, hu⟩) ordered
    intro p
    rw [mem, Search.finds_iff_of_interface hi, decide_eq_true_iff]
  · intro r managed
    apply found_of_wider { q with user := none } hm all (.inr ⟨i, r, hi, managed⟩) ordered
    intro p
    rw [mem, Search.finds_iff_of_user hu, decide_eq_true_iff]

def annsPeer (id name : String) (home : InterfaceId := ⟨"wg0"⟩) : Peer where
  id := ⟨id⟩
  displayName := name
  owner := some ⟨"ann"⟩
  tunnel := { interfaceId := home }

/-- The peers of two users under two interfaces, in the order of their identifiers. -/
def crowd : List Peer :=
  [annsPeer "chair" "Office", annsPeer "desk" "Office", annsPeer "door" "Home",
    { annsPeer "guest" "Office Guest" with owner := some ⟨"bob"⟩ }, annsPeer "lamp" "office lamp",
    annsPeer "phone" "Office Phone" ⟨"wg1"⟩]

def crowded : Service where
  keeper :=
    (Keeper.load.run.run
      { store :=
          { records := Store.Change.applyAll
              (.saveInterface { id := ⟨"wg0"⟩ } :: .saveInterface { id := ⟨"wg1"⟩ } ::
                crowd.map .savePeer) {} } }).2
  keys := { pair := fun _ => {}, presharedKey := fun _ => "" }

theorem started_crowded : crowded.keeper.Started :=
  ⟨_, Store.Records.Written.empty.changeAll (.saveInterface { id := ⟨"wg0"⟩ } ::
    .saveInterface { id := ⟨"wg1"⟩ } :: crowd.map .savePeer), Prod.ext rfl rfl⟩

/-- A search for what the user has in the office, by name and backwards. -/
def officeSearch : Search where
  interface := some ⟨"wg0"⟩
  user := some ⟨"ann"⟩
  filter := " OFFICE "
  sort := .displayName
  descending := true

theorem search_exact_office :
    crowded.keeper.Started ∧ officeSearch.size = 0 ∧
      officeSearch.Answerable crowded.keeper.memory ∧
      (findPeers officeSearch).run crowded =
        (.ok [annsPeer "lamp" "office lamp", annsPeer "chair" "Office", annsPeer "desk" "Office"],
          crowded) := by
  have interface : officeSearch.interface? = some ⟨"wg0"⟩ := by decide
  have user : officeSearch.user? = some ⟨"ann"⟩ := by decide
  have asked : officeSearch.Answerable crowded.keeper.memory :=
    .inl ⟨_, Search.user?_eq_some_iff.1 user⟩
  obtain ⟨found, answer, mem, -, ordered, -⟩ := search_exact started_crowded .refl rfl asked
  have managed : crowded.keeper.memory.allPeers = crowd := by decide +kernel
  have left : (crowd.filter fun p =>
      (p.tunnel.interfaceId = ⟨"wg0"⟩ ∧ p.owner = some ⟨"ann"⟩) ∧ officeSearch.matchesPeer p) =
      [annsPeer "chair" "Office", annsPeer "desk" "Office", annsPeer "lamp" "office lamp"] := by
    decide +kernel
  have finds (p : Peer) : officeSearch.Finds crowded.keeper.memory p ↔
      p ∈ [annsPeer "chair" "Office", annsPeer "desk" "Office", annsPeer "lamp" "office lamp"] := by
    rw [← left, Search.finds_iff, managed]
    simp [interface, user, and_assoc]
  have backwards (id : String) : officeSearch.Precedes (annsPeer "lamp" "office lamp")
      (annsPeer id "Office") :=
    .inl (show "Office" < "office lamp" by decide)
  have tie : officeSearch.Precedes (annsPeer "chair" "Office") (annsPeer "desk" "Office") :=
    .inr ⟨rfl, .inr ⟨rfl, by decide⟩⟩
  have listed : found =
      [annsPeer "lamp" "office lamp", annsPeer "chair" "Office", annsPeer "desk" "Office"] := by
    apply Search.eq_of_precedes ordered
    · simp [backwards, tie]
    · intro p
      rw [mem, finds]
      simp only [List.mem_cons]
      tauto
  rw [listed] at answer
  exact ⟨started_crowded, rfl, asked, answer⟩

end Service

end TunnelKeeper
