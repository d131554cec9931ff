import TunnelKeeper.Proofs.Text.Lowercase
import TunnelKeeper.Service.Search

/-!
# What a filter finds

A search compares its filter with four fields of a peer, all in lower case. A filter that stands in
a field letter by letter is found there, provided that its capital sigmas read the same in the field
as in the filter. They need not: a word that ends in a sigma in the filter may go on in the field,
and a sigma that begins the filter may end a word there.
-/
namespace TunnelKeeper.Search
open Text

variable {q : Search} {p : Peer} {f : String} {a b : List Char}

/-- A peer matches if the filter in lower case stands in some field in lower case. -/
theorem matchesPeer_iff : q.matchesPeer p = true ↔
    ∃ f ∈ fields p, lowercaseList (trimList q.filter.toList) <:+: lowercaseList f.toList := by
  rw [matchesPeer, Bool.or_eq_true, List.any_eq_true, List.isEmpty_iff]
  constructor
  · rintro (blank | ⟨f, field, occurs⟩)
    · exact ⟨p.id.text, List.mem_cons_self, blank ▸ List.nil_infix⟩
    · exact ⟨f, field, occursIn_iff.1 occurs⟩
  · rintro ⟨f, field, occurs⟩
    exact .inr ⟨f, field, occursIn_iff.2 occurs⟩

theorem matchesPeer_of_sameWordEnds (field : f ∈ fields p)
    (occurs : f.toList = a ++ trimList q.filter.toList ++ b)
    (same : SameWordEnds a b (trimList q.filter.toList)) : q.matchesPeer p = true := by
  refine matchesPeer_iff.2 ⟨f, field, ?_⟩
  rw [occurs, lowercaseList_append, lowerWithin_eq_iff.2 same]
  exact List.infix_append _ _ _

/-- Where a filter stands in a field letter by letter, the field in lower case has the filter in
lower case at that place exactly if the capital sigmas of the filter end the same words in both, and
then the peer is found. They do if there are none. They also do if no cased letter touches the
filter on a side where nothing in the filter comes between it and a sigma. -/
theorem literal_found (field : f ∈ fields p)
    (occurs : f.toList = a ++ trimList q.filter.toList ++ b) :
    let n := trimList q.filter.toList
    lowercaseList f.toList =
        lowerWithin [] (n ++ b) a ++ lowerWithin a.reverse b n ++
          lowerWithin (n.reverse ++ a.reverse) [] b ∧
      (lowerWithin a.reverse b n = lowercaseList n ↔ SameWordEnds a b n) ∧
      (SameWordEnds a b n → q.matchesPeer p = true) ∧
      ('Σ' ∉ n → q.matchesPeer p = true) ∧
      ((∀ u v, n = u ++ 'Σ' :: v →
          (u.all isCaseIgnorable = true → startsCased a.reverse = false) ∧
            (v.all isCaseIgnorable = true → startsCased b = false)) →
        q.matchesPeer p = true) := by
  intro n
  have found : SameWordEnds a b n → q.matchesPeer p = true :=
    matchesPeer_of_sameWordEnds field occurs
  refine ⟨?_, lowerWithin_eq_iff, found, fun none => ?_, fun settled => ?_⟩
  · rw [occurs, lowercaseList_append]
  · exact found (sameWordEnds_of_not_mem none)
  · exact found (sameWordEnds_of_settled settled)

def namesake (name : String) : Peer := { id := ⟨"a"⟩, displayName := name }

theorem literal_found_word :
    let q : Search := { filter := " ΟΔΟΣ " }
    let p := namesake "ΠΑΛΙΑ ΟΔΟΣ 7"
    "ΠΑΛΙΑ ΟΔΟΣ 7" ∈ fields p ∧
      "ΠΑΛΙΑ ΟΔΟΣ 7".toList = "ΠΑΛΙΑ ".toList ++ trimList q.filter.toList ++ " 7".toList ∧
      q.matchesPeer p = true := by
  intro q p
  have field : "ΠΑΛΙΑ ΟΔΟΣ 7" ∈ fields p := List.mem_cons_of_mem _ List.mem_cons_self
  have occurs : "ΠΑΛΙΑ ΟΔΟΣ 7".toList =
      "ΠΑΛΙΑ ".toList ++ trimList q.filter.toList ++ " 7".toList := by decide +kernel
  have front : startsCased "ΠΑΛΙΑ ".toList.reverse = false := by decide +kernel
  have back : startsCased " 7".toList = false := by decide +kernel
  obtain ⟨-, -, -, -, found⟩ := literal_found field occurs
  exact ⟨field, occurs, found fun _ _ _ => ⟨fun _ => front, fun _ => back⟩⟩

/-- A filter that ends in a capital sigma misses a name in which the word goes on, and one that is a
capital sigma misses a name that ends in one. -/
theorem literal_missed :
    let missed (filter name : String) : Prop :=
      let q : Search := { filter }
      name ∈ fields (namesake name) ∧ trimList q.filter.toList <:+: name.toList ∧
        q.matchesPeer (namesake name) = false
    missed "ΟΔΟΣ" "ΟΔΟΣΗΜΑ" ∧ missed "Σ" "ΟΔΟΣ" := by
  intro missed
  refine ⟨⟨List.mem_cons_of_mem _ List.mem_cons_self, ?_, ?_⟩,
    ⟨List.mem_cons_of_mem _ List.mem_cons_self, ?_, ?_⟩⟩
  · exact occursIn_iff.1 (by decide +kernel)
  · decide +kernel
  · exact occursIn_iff.1 (by decide +kernel)
  · decide +kernel

end TunnelKeeper.Search
