import Mathlib.Data.List.DropRight
import TunnelKeeper.Proofs.Text.Words

/-!
# Trimmed text

A text is trimmed when no blank character stands at its ends. Trimming leaves such a text, and
leaves it alone. The elements of a comma separated list are trimmed and have no commas, so a list of
them that is written with a space after each comma has the same elements.
-/
namespace TunnelKeeper.Text

/-- Whether no blank character stands at the ends. -/
structure Trimmed (cs : List Char) : Prop where
  head : ∀ c ∈ cs.head?, isBlank c = false
  last : ∀ c ∈ cs.getLast?, isBlank c = false

variable {cs ds : List Char} {s t : String}

theorem trimEnd_eq_rdropWhile (cs : List Char) : trimEnd cs = cs.rdropWhile isBlank := rfl

theorem trimList_subset (cs : List Char) : trimList cs ⊆ cs := by
  intro c hc
  have kept : c ∈ trimStart cs := (List.rdropWhile_prefix isBlank _).subset hc
  exact (List.dropWhile_suffix isBlank).subset kept

theorem trimmed_trimList (cs : List Char) : Trimmed (trimList cs) := by
  rw [trimList, trimEnd_eq_rdropWhile]
  constructor
  · intro c hc
    -- taking blanks from the end leaves the first character, unless it leaves nothing
    obtain ⟨blanks, whole⟩ := List.rdropWhile_prefix isBlank (trimStart cs)
    have stop := List.head?_dropWhile_not isBlank cs
    rw [← trimStart, ← whole, List.head?_append, hc] at stop
    exact stop
  · intro c hc
    obtain ⟨filled, rfl⟩ := List.mem_getLast?_eq_getLast hc
    simpa using List.rdropWhile_last_not isBlank _ filled

theorem Trimmed.trimList_eq (h : Trimmed cs) : trimList cs = cs := by
  have start : trimStart cs = cs := by
    cases cs with
    | nil => rfl
    | cons c cs => exact List.dropWhile_cons_of_neg (by simp [h.head c rfl])
  rw [trimList, start, trimEnd_eq_rdropWhile, List.rdropWhile_eq_self_iff]
  intro filled
  simp [h.last _ (List.getLast_mem_getLast? filled)]

theorem trimmed_iff : Trimmed cs ↔ trimList cs = cs := by
  constructor
  · exact Trimmed.trimList_eq
  · intro kept
    rw [← kept]
    exact trimmed_trimList cs

theorem trimList_trimList (cs : List Char) : trimList (trimList cs) = trimList cs :=
  (trimmed_trimList cs).trimList_eq

theorem trimList_eq_nil_iff : trimList cs = [] ↔ ∀ c ∈ cs, isBlank c = true := by
  rw [trimList, trimEnd_eq_rdropWhile, List.rdropWhile_eq_nil_iff, ← List.dropWhile_eq_nil_iff,
    trimStart, List.dropWhile_idempotent, List.dropWhile_eq_nil_iff]

theorem nonBlank?_eq_none_iff : nonBlank? s = none ↔ ∀ c ∈ s.toList, isBlank c = true := by
  rw [← trimList_eq_nil_iff]
  simp [nonBlank?, trim]

theorem eq_trim_of_nonBlank? (h : nonBlank? s = some t) : t = trim s := by
  by_cases empty : (trim s).isEmpty <;> simp_all [nonBlank?]

theorem trim_of_trimmed (h : Trimmed s.toList) : trim s = s := by
  rw [trim, h.trimList_eq, String.ofList_toList]

theorem nonBlank?_of_trimmed (h : Trimmed s.toList) (filled : s.toList ≠ []) :
    nonBlank? s = some s := by
  simpa [nonBlank?, trim, h.trimList_eq] using filled

/-- Whether a text can be an element of a list: it is not empty, it is trimmed and has no comma. -/
structure IsElement (w : List Char) : Prop where
  filled : w ≠ []
  trimmed : Trimmed w
  whole : ',' ∉ w

theorem of_mem_listElements (h : t ∈ listElements s) :
    IsElement t.toList ∧ t.toList ⊆ s.toList := by
  obtain ⟨w, hw, rfl⟩ := List.mem_map.1 h
  obtain ⟨hw, filled⟩ := List.mem_filter.1 hw
  obtain ⟨v, hv, rfl⟩ := List.mem_map.1 hw
  obtain ⟨whole, sub⟩ := of_mem_splitOn hv
  rw [String.toList_ofList]
  have kept := trimList_subset v
  exact ⟨⟨by simpa using filled, trimmed_trimList v, fun comma => whole (kept comma)⟩,
    fun c hc => sub (kept hc)⟩

theorem isElement_of_mem_lists {lists : List String} :
    ∀ w ∈ lists.flatMap listElements, IsElement w.toList := by
  intro w hw
  obtain ⟨l, -, hw⟩ := List.mem_flatMap.1 hw
  exact (of_mem_listElements hw).1

theorem listElements_eq_nil_iff :
    listElements s = [] ↔ ∀ w ∈ s.toList.splitOn ',', ∀ c ∈ w, isBlank c = true := by
  simp [listElements, trimList_eq_nil_iff]

theorem listElements_ofList_intercalate {ws : List (List Char)} (h : ∀ w ∈ ws, ',' ∉ w) :
    listElements (String.ofList ([','].intercalate ws)) =
      ((ws.map trimList).filter (! ·.isEmpty)).map String.ofList := by
  rw [listElements, String.toList_ofList]
  cases ws with
  | nil => rfl
  | cons w ws => rw [List.splitOn_intercalate ',' h (List.cons_ne_nil _ _)]

/-- What is trimmed at both ends is trimmed, whatever stands between. -/
theorem Trimmed.append (hc : Trimmed cs) (hd : Trimmed ds) (filled : cs ≠ []) (filled' : ds ≠ [])
    (between : List Char) : Trimmed (cs ++ between ++ ds) := by
  obtain ⟨c, cs, rfl⟩ := List.exists_cons_of_ne_nil filled
  constructor
  · simpa using hc.head
  · rw [List.getLast?_append_of_ne_nil _ filled']
    exact hd.last

/-- Trimmed words are trimmed as a whole when they are joined. -/
theorem trimmed_intercalate (mark : List Char) {ws : List (List Char)} (some : ws ≠ [])
    (h : ∀ w ∈ ws, w ≠ [] ∧ Trimmed w) :
    mark.intercalate ws ≠ [] ∧ Trimmed (mark.intercalate ws) := by
  induction ws with
  | nil => contradiction
  | cons w ws ih =>
    rw [List.forall_mem_cons] at h
    cases ws with
    | nil => simpa using h.1
    | cons v ws =>
      obtain ⟨filled, trimmed⟩ := ih (List.cons_ne_nil _ _) h.2
      rw [List.intercalate_cons_cons]
      exact ⟨by simp [filled], h.1.2.append trimmed h.1.1 filled mark⟩

/-- A space after a comma makes no difference to the elements. -/
theorem intercalate_comma_space (w : List Char) (ws : List (List Char)) :
    [',', ' '].intercalate (w :: ws) = [','].intercalate (w :: ws.map (' ' :: ·)) := by
  induction ws generalizing w with
  | nil => rfl
  | cons v ws ih => simp [List.intercalate_cons_cons, ih]

theorem trimList_space (cs : List Char) : trimList (' ' :: cs) = trimList cs := by
  rw [trimList, trimStart, List.dropWhile_cons_of_pos isBlank_space]
  rfl

theorem toList_join (ws : List String) :
    (", ".intercalate ws).toList = [',', ' '].intercalate (ws.map String.toList) :=
  String.toList_intercalate

/-- Elements that are written as a list are its elements. -/
theorem listElements_join {ws : List String} (h : ∀ w ∈ ws, IsElement w.toList) :
    listElements (", ".intercalate ws) = ws := by
  have trimmed : (ws.map String.toList).map trimList = ws.map String.toList := by
    simpa using fun w hw => (h w hw).trimmed.trimList_eq
  have kept : (ws.map String.toList).filter (! ·.isEmpty) = ws.map String.toList := by
    rw [List.filter_eq_self]
    simpa using fun w hw => by simpa using (h w hw).filled
  have back : (ws.map String.toList).map String.ofList = ws := by simp [Function.comp_def]
  rw [← String.ofList_toList (s := ", ".intercalate ws), toList_join]
  cases ws with
  | nil => rfl
  | cons w ws =>
    have spaced : ∀ v ∈ w.toList :: (ws.map String.toList).map (' ' :: ·), ',' ∉ v := by
      simp_all [IsElement.whole]
    have same : (w.toList :: (ws.map String.toList).map (' ' :: ·)).map trimList =
        ((w :: ws).map String.toList).map trimList := by
      simp [trimList_space]
    rw [List.map_cons, intercalate_comma_space, listElements_ofList_intercalate spaced, same,
      trimmed, kept, back]

theorem nonBlank?_join {ws : List String} (some : ws ≠ []) (h : ∀ w ∈ ws, IsElement w.toList) :
    nonBlank? (", ".intercalate ws) = .some (", ".intercalate ws) := by
  have trimmed : ∀ v ∈ ws.map String.toList, v ≠ [] ∧ Trimmed v := by
    rw [List.forall_mem_map]
    exact fun w hw => ⟨(h w hw).filled, (h w hw).trimmed⟩
  have joined := trimmed_intercalate [',', ' '] (by simpa using some) trimmed
  rw [← toList_join] at joined
  exact nonBlank?_of_trimmed joined.2 joined.1

end TunnelKeeper.Text
