import TunnelKeeper.Proofs.Service.Searching

/-!
# Pages of a search

The pages of a search that are asked for one after the other, until there are no more, are the whole
answer cut into pieces of one size, of which the last may be shorter. Only an empty answer has an
empty page.
-/
namespace TunnelKeeper

def Search.page (q : Search) (size offset : Nat) : Search :=
  { q with size := size, offset := offset }

namespace Service

variable {q : Search} {s : Service} {n o : Nat} {all : List Peer}

/-- The pages from an offset on, until there are no more. -/
inductive Pages (q : Search) (n : Nat) (s : Service) : Nat → List (List Peer) → Prop
  | last {o : Nat} (answer : (findPeers (q.page n o)).run s = (.error .noMorePages, s)) :
    Pages q n s o []
  | next {o : Nat} {page : List Peer} {pages : List (List Peer)}
    (answer : (findPeers (q.page n o)).run s = (.ok page, s)) (rest : Pages q n s (o + n) pages) :
    Pages q n s o (page :: pages)

theorem Pages.unique {ps ps' : List (List Peer)} (h : Pages q n s o ps) (h' : Pages q n s o ps') :
    ps = ps' := by
  induction h generalizing ps' with
  | last answer =>
    cases h' with
    | last => rfl
    | next answer' => cases answer.symm.trans answer'
  | next answer rest ih =>
    cases h' with
    | last answer' => cases answer.symm.trans answer'
    | next answer' rest' =>
      cases answer.symm.trans answer'
      rw [ih rest']

/-- Looking among peers changes nothing. -/
theorem searched_leaves (q : Search) (s : Service) : ((searched q).run s).2 = s := by
  unfold searched
  split
  · rw [Job.run_look]
  · rw [Job.run_look]
  · rw [Job.run_look]
  · rfl

/-- What a search that succeeds without pages looks among, and what it makes of it. -/
theorem of_whole (whole : ((findPeers { q with size := 0 }).run s).1 = .ok all) :
    ∃ ps, (searched q).run s = (.ok ps, s) ∧ q.ranked ps = all := by
  have leaves := searched_leaves q s
  cases h : (searched q).run s with
  | mk r t =>
    rw [h] at leaves
    cases leaves
    cases r with
    | error e =>
      change (((searched q).bind _).run t).1 = _ at whole
      rw [Job.run_bind, h] at whole
      contradiction
    | ok ps =>
      have found : (searched { q with size := 0 }).run t = (.ok ps, t) := h
      rw [run_findPeers found] at whole
      cases whole
      exact ⟨ps, rfl, rfl⟩

/-- The answer at an offset is a piece of the whole answer, or there are no more pages. -/
theorem run_page (whole : ((findPeers { q with size := 0 }).run s).1 = .ok all) (pos : 0 < n)
    (o : Nat) :
    (findPeers (q.page n o)).run s =
      if 0 < o ∧ all.length ≤ o then (.error .noMorePages, s)
      else (.ok ((all.drop o).take n), s) := by
  obtain ⟨ps, found, rfl⟩ := of_whole whole
  have found : (searched (q.page n o)).run s = (.ok ps, s) := found
  have sized : ¬ n = 0 := Nat.ne_of_gt pos
  have piece : (q.page n o).select? ps =
      if 0 < o ∧ (q.ranked ps).length ≤ o then none
      else some (((q.ranked ps).drop o).take n) := if_neg sized
  rw [run_findPeers found, piece]
  by_cases beyond : 0 < o ∧ (q.ranked ps).length ≤ o
  · rw [if_pos beyond, if_pos beyond]
  · rw [if_neg beyond, if_neg beyond]

theorem run_page_eq_noMorePages_iff
    (whole : ((findPeers { q with size := 0 }).run s).1 = .ok all) (pos : 0 < n) (o : Nat) :
    (findPeers (q.page n o)).run s = (.error .noMorePages, s) ↔ 0 < o ∧ all.length ≤ o := by
  rw [run_page whole pos]
  split <;> simp_all

/-- From an offset that is not beyond a first empty page, the pages are the rest of the answer. -/
theorem exists_pages (whole : ((findPeers { q with size := 0 }).run s).1 = .ok all) (pos : 0 < n)
    (inside : all ≠ [] ∨ 0 < o) :
    ∃ pages, Pages q n s o pages ∧ pages.flatten = all.drop o ∧
      (∀ p ∈ pages.dropLast, p.length = n) ∧ [] ∉ pages := by
  induction left : all.length - o using Nat.strongRecOn generalizing o with
  | ind k ih =>
    have answer := run_page whole pos o
    by_cases beyond : all.length ≤ o
    · have behind : 0 < o := by
        rcases inside with some | behind
        · exact Nat.lt_of_lt_of_le (List.length_pos_of_ne_nil some) beyond
        · exact behind
      rw [if_pos ⟨behind, beyond⟩] at answer
      exact ⟨[], .last answer, (List.drop_eq_nil_of_le beyond).symm, nofun, nofun⟩
    · rw [if_neg fun h => beyond h.2] at answer
      have behind : 0 < o + n := Nat.add_pos_right o pos
      obtain ⟨pages, rest, joined, full, given⟩ :=
        ih (all.length - (o + n)) (by omega) (.inr behind) rfl
      refine ⟨_ :: pages, .next answer rest, ?_, ?_, ?_⟩
      · rw [List.flatten_cons, joined, ← List.drop_drop, List.take_append_drop]
      · cases rest with
        | last => nofun
        | next another =>
          have more : ¬ all.length ≤ o + n := by
            intro beyond
            cases another.symm.trans ((run_page_eq_noMorePages_iff whole pos _).2 ⟨behind, beyond⟩)
          rw [List.dropLast_cons_cons, List.forall_mem_cons]
          refine ⟨?_, full⟩
          rw [List.length_take, List.length_drop]
          omega
      · have some : (all.drop o).take n ≠ [] := by
          apply List.ne_nil_of_length_pos
          rw [List.length_take, List.length_drop]
          omega
        rw [List.mem_cons, not_or]
        exact ⟨some.symm, given⟩

/-- The pages of a search that succeeds without pages are its answer, cut into pieces of the same
size up to the last one, none of them empty but the only one of an empty answer. -/
theorem pages_partition (whole : ((findPeers { q with size := 0 }).run s).1 = .ok all)
    (pos : 0 < n) :
    (∃ pages, (∀ ps, Pages q n s 0 ps ↔ ps = pages) ∧ pages.flatten = all ∧
      (∀ p ∈ pages.dropLast, p.length = n) ∧ ([] ∈ pages → pages = [[]])) ∧
    ∀ o, (findPeers (q.page n o)).run s = (.error .noMorePages, s) ↔ 0 < o ∧ all.length ≤ o := by
  refine ⟨?_, run_page_eq_noMorePages_iff whole pos⟩
  have only {pages : List (List Peer)} (h : Pages q n s 0 pages) (ps : List (List Peer)) :
      Pages q n s 0 ps ↔ ps = pages :=
    ⟨fun h' => h'.unique h, fun same => same ▸ h⟩
  by_cases empty : all = []
  · cases empty
    have first : (findPeers (q.page n 0)).run s = (.ok [], s) := by
      rw [run_page whole pos, if_neg (fun h => Nat.lt_irrefl 0 h.1), List.drop_nil, List.take_nil]
    have second := (run_page_eq_noMorePages_iff whole pos (0 + n)).2 ⟨by omega, Nat.zero_le _⟩
    exact ⟨[[]], only (.next first (.last second)), rfl, nofun, fun _ => rfl⟩
  · obtain ⟨pages, listed, joined, full, given⟩ := exists_pages whole pos (.inl empty)
    exact ⟨pages, only listed, joined, full, fun h => absurd h given⟩

def deskPeer : Peer where
  id := ⟨"desk"⟩
  owner := some ⟨"ann"⟩
  tunnel := { interfaceId := ⟨"wg0"⟩ }

def phonePeer : Peer where
  id := ⟨"phone"⟩
  owner := some ⟨"ann"⟩
  tunnel := { interfaceId := ⟨"wg1"⟩ }

/-- A service with a peer of the same user under each of two interfaces. -/
def twoHomes : Service where
  keeper :=
    (Keeper.load.run.run
      { store :=
          { records := Store.Change.applyAll
              [.saveInterface { id := ⟨"wg0"⟩ }, .saveInterface { id := ⟨"wg1"⟩ },
                .savePeer deskPeer, .savePeer phonePeer] {} } }).2
  keys := { pair := fun _ => {}, presharedKey := fun _ => "" }

theorem started_twoHomes : twoHomes.keeper.Started :=
  ⟨_, Store.Records.Written.empty.changeAll [.saveInterface { id := ⟨"wg0"⟩ },
    .saveInterface { id := ⟨"wg1"⟩ }, .savePeer deskPeer, .savePeer phonePeer], Prod.ext rfl rfl⟩

def wideSearch : Search where
  user := some ⟨"ann"⟩

theorem pages_partition_twoHomes : ∃ all pages,
    ((findPeers { wideSearch with size := 0 }).run twoHomes).1 = .ok all ∧ 0 < 1 ∧
      Pages wideSearch 1 twoHomes 0 pages ∧ pages.flatten = all ∧ deskPeer ∈ all ∧
      phonePeer ∈ all := by
  have user : wideSearch.user? = some ⟨"ann"⟩ := by decide
  have asked : wideSearch.Answerable twoHomes.keeper.memory :=
    .inl ⟨_, Search.user?_eq_some_iff.1 user⟩
  have filed := Keeper.Started.filed started_twoHomes
  obtain ⟨all, whole, -, mem⟩ := found_of_filed filed rfl asked
  have whole : ((findPeers { wideSearch with size := 0 }).run twoHomes).1 = .ok all :=
    congrArg Prod.fst whole
  obtain ⟨⟨pages, only, joined, -⟩, -⟩ := pages_partition whole Nat.one_pos
  have owned {p : Peer} (managed : p ∈ twoHomes.keeper.memory.allPeers)
      (owner : p.owner = some ⟨"ann"⟩) : p ∈ all := by
    refine (mem p).2 (Search.finds_iff.2 ⟨⟨managed, nofun, fun u named => ?_⟩, rfl⟩)
    cases user.symm.trans named
    exact owner
  have desk : deskPeer ∈ twoHomes.keeper.memory.allPeers := by decide
  have phone : phonePeer ∈ twoHomes.keeper.memory.allPeers := by decide
  exact ⟨all, pages, whole, Nat.one_pos, (only pages).2 rfl, joined, owned desk rfl,
    owned phone rfl⟩

end Service

end TunnelKeeper
