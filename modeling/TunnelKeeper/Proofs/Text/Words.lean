import TunnelKeeper.Text.Blank

/-!
# Joined words

Words that are joined by a mark are the words between the marks again, provided that the mark stands
in none of them. The elements of a comma separated list come back as they were written if they have
no blank characters.
-/
namespace TunnelKeeper.Text

/-- What holds of every character of the words and of the mark holds of the joined words. -/
theorem forall_mem_intercalate {P : Char → Prop} {mark : Char} {words : List (List Char)}
    (hmark : P mark) (h : ∀ w ∈ words, ∀ c ∈ w, P c) : ∀ c ∈ [mark].intercalate words, P c := by
  induction words with
  | nil => simp
  | cons w words ih =>
    rw [List.forall_mem_cons] at h
    have rest := ih h.2
    cases words with
    | nil => simpa using h.1
    | cons v words =>
      simp only [List.intercalate_cons_cons, List.mem_append, List.mem_singleton]
      rintro c ((hc | rfl) | hc)
      · exact h.1 c hc
      · exact hmark
      · exact rest c hc

/-- Words that are written and read back one by one come back as a whole. -/
theorem mapM_map_eq_pure {m : Type → Type} [Monad m] [LawfulMonad m] {α β : Type} {read : α → m β}
    {write : β → α} {bs : List β} (h : ∀ b ∈ bs, read (write b) = pure b) :
    (bs.map write).mapM read = pure bs := by
  induction bs with
  | nil => simp
  | cons b bs ih =>
    rw [List.forall_mem_cons] at h
    simp [h.1, ih h.2]

/-- The words between marks have no mark, and only characters of the text. -/
theorem of_mem_splitOn {mark : Char} {cs w : List Char} (h : w ∈ cs.splitOn mark) :
    mark ∉ w ∧ w ⊆ cs := by
  induction cs generalizing w with
  | nil =>
    rw [List.splitOn_nil, List.mem_singleton] at h
    simp [h]
  | cons c cs ih =>
    obtain ⟨v, vs, hv⟩ := List.exists_cons_of_ne_nil (List.splitOn_ne_nil mark cs)
    rw [List.splitOn_cons_eq_if_modifyHead] at h
    rw [hv] at h ih
    split at h
    case isTrue =>
      rcases List.mem_cons.1 h with rfl | later
      · simp
      · exact ⟨(ih later).1, List.subset_cons_of_subset c (ih later).2⟩
    case isFalse other =>
      rcases List.mem_cons.1 h with rfl | later
      · have first := ih List.mem_cons_self
        refine ⟨?_, List.cons_subset_cons c first.2⟩
        simpa using ⟨fun same => other (by simp [same]), first.1⟩
      · have rest := ih (List.mem_cons_of_mem v later)
        exact ⟨rest.1, List.subset_cons_of_subset c rest.2⟩

/-- What stands before every mark belongs to the first word. -/
theorem splitOn_append_of_not_mem {mark : Char} {cs ds : List Char} (h : mark ∉ cs) :
    (cs ++ ds).splitOn mark = (ds.splitOn mark).modifyHead (cs ++ ·) := by
  induction cs with
  | nil =>
    rw [List.nil_append]
    cases ds.splitOn mark <;> rfl
  | cons c cs ih =>
    rw [List.mem_cons, not_or] at h
    have other : (c == mark) = false := by simpa using Ne.symm h.1
    rw [List.cons_append, List.splitOn_cons_eq_if_modifyHead, other, ih h.2]
    cases ds.splitOn mark <;> rfl

theorem trimList_of_not_blank {cs : List Char} (h : ∀ c ∈ cs, isBlank c = false) :
    trimList cs = cs := by
  have keeps (ds : List Char) (hd : ∀ c ∈ ds, isBlank c = false) : ds.dropWhile isBlank = ds := by
    cases ds with
    | nil => rfl
    | cons d ds => exact List.dropWhile_cons_of_neg (by simp [hd d List.mem_cons_self])
  rw [trimList, trimStart, keeps cs h, trimEnd, keeps cs.reverse, List.reverse_reverse]
  intro c hc
  exact h c (List.mem_reverse.1 hc)

theorem listElements_intercalate {words : List String} (filled : ∀ w ∈ words, w.toList ≠ [])
    (comma : ∀ w ∈ words, ',' ∉ w.toList)
    (blank : ∀ w ∈ words, ∀ c ∈ w.toList, isBlank c = false) :
    listElements (",".intercalate words) = words := by
  have trimmed : (words.map String.toList).map trimList = words.map String.toList := by
    rw [List.map_map]
    apply List.map_congr_left
    intro w hw
    exact trimList_of_not_blank (blank w hw)
  have kept : (words.map String.toList).filter (! ·.isEmpty) = words.map String.toList := by
    rw [List.filter_eq_self]
    simpa using filled
  have back : (words.map String.toList).map String.ofList = words := by
    simp [Function.comp_def]
  rw [listElements, String.toList_intercalate]
  cases words with
  | nil => rfl
  | cons w words =>
    change ((List.splitOn ',' ([','].intercalate _)).map trimList |>.filter _).map _ = _
    rw [List.splitOn_intercalate ',' (by simpa using comma) (by simp), trimmed, kept, back]

end TunnelKeeper.Text
