import TunnelKeeper.Model.Directory.Lookup

/-!
# Contents of directories

Which identifiers occur and which records stand in a directory after each of its operations. Of
several records that are filed under one identifier one after the other, the last one stays.
-/
namespace TunnelKeeper.Directory

variable {kind : IdKind} {α β : Type}

theorem contains_iff_find? {d : Directory kind α} {i : Id kind} :
    d.contains i = true ↔ ∃ a, d.find? i = some a := by
  rw [contains, Option.isSome_iff_exists]

theorem contains_of_find? {d : Directory kind α} {i : Id kind} {a : α} (h : d.find? i = some a) :
    d.contains i = true :=
  contains_iff_find?.2 ⟨a, h⟩

theorem contains_eq_false_iff {d : Directory kind α} {i : Id kind} :
    d.contains i = false ↔ d.find? i = none := by
  rw [contains, Option.isSome_eq_false_iff, Option.isNone_iff_eq_none]

theorem mem_records_iff {d : Directory kind α} {a : α} :
    a ∈ d.records ↔ ∃ i, d.find? i = some a := by
  simp only [records, List.mem_map, find?_eq_some_iff]
  constructor
  · rintro ⟨⟨i, b⟩, he, rfl⟩
    exact ⟨i, he⟩
  · rintro ⟨i, he⟩
    exact ⟨(i, a), he, rfl⟩

theorem mem_entries_iff {d : Directory kind α} {e : Id kind × α} :
    e ∈ d.entries ↔ d.find? e.1 = some e.2 :=
  find?_eq_some_iff.symm

theorem nodup_ids (d : Directory kind α) : d.ids.Nodup := by
  apply List.pairwise_map.2
  apply d.sorted.imp
  intro e f less same
  exact Id.lt_irrefl _ (same ▸ less)

@[simp] theorem contains_empty (i : Id kind) : (empty : Directory kind α).contains i = false := rfl

theorem of_find?_insert {d : Directory kind α} {i j : Id kind} {a b : α}
    (h : (d.insert i a).find? j = some b) : (j = i ∧ b = a) ∨ d.find? j = some b := by
  rw [find?_insert] at h
  split at h
  case isTrue hj => cases h; exact .inl ⟨hj, rfl⟩
  case isFalse => exact .inr h

theorem of_find?_erase {d : Directory kind α} {i j : Id kind} {a : α}
    (h : (d.erase i).find? j = some a) : j ≠ i ∧ d.find? j = some a := by
  rw [find?_erase] at h
  split at h
  case isTrue => contradiction
  case isFalse hj => exact ⟨hj, h⟩

theorem contains_insert (d : Directory kind α) (i j : Id kind) (a : α) :
    (d.insert i a).contains j = (decide (j = i) || d.contains j) := by
  by_cases h : j = i <;> simp [contains, find?_insert, h]

theorem contains_erase (d : Directory kind α) (i j : Id kind) :
    (d.erase i).contains j = (!decide (j = i) && d.contains j) := by
  by_cases h : j = i <;> simp [contains, find?_erase, h]

theorem contains_map (d : Directory kind α) (f : α → β) (i : Id kind) :
    (d.map f).contains i = d.contains i := by
  simp [contains]

theorem erase_empty (i : Id kind) : (empty : Directory kind α).erase i = empty := rfl

theorem insertAll_append (d : Directory kind α) (id : α → Id kind) (as bs : List α) :
    d.insertAll id (as ++ bs) = (d.insertAll id as).insertAll id bs :=
  List.foldl_append

theorem find?_insertAll (d : Directory kind α) (id : α → Id kind) (as : List α) (k : Id kind) :
    (d.insertAll id as).find? k = (as.reverse.find? fun a => id a = k).or (d.find? k) := by
  induction as generalizing d with
  | nil => rfl
  | cons a as ih =>
    change ((d.insert (id a) a).insertAll id as).find? k = _
    rw [ih, List.reverse_cons, List.find?_append, Option.or_assoc, find?_insert]
    by_cases h : id a = k
    · simp [h]
    · simp [h, Ne.symm h]

/-- Records that are replaced by others under the same identifiers need not be filed at all. -/
theorem insertAll_insertAll {d : Directory kind α} {id : α → Id kind} {as bs : List α}
    (h : ∀ a ∈ as, ∃ b ∈ bs, id b = id a) :
    (d.insertAll id as).insertAll id bs = d.insertAll id bs := by
  ext k : 1
  rw [find?_insertAll, find?_insertAll, find?_insertAll]
  cases hb : bs.reverse.find? fun b => id b = k with
  | some b => rfl
  | none =>
    have missing : as.reverse.find? (fun a => id a = k) = none := by
      refine List.find?_eq_none.2 fun a ha hk => ?_
      obtain ⟨b, hb', same⟩ := h a (List.mem_reverse.1 ha)
      have other := List.find?_eq_none.1 hb b (List.mem_reverse.2 hb')
      rw [same] at other
      exact other hk
    rw [missing, Option.none_or]

theorem insert_insert (d : Directory kind α) (i : Id kind) (a b : α) :
    (d.insert i a).insert i b = d.insert i b := by
  ext k : 1
  rw [find?_insert, find?_insert, find?_insert]
  split <;> rfl

theorem insert_of_find? {d : Directory kind α} {i : Id kind} {a : α} (h : d.find? i = some a) :
    d.insert i a = d := by
  ext k : 1
  by_cases hk : k = i <;> simp [find?_insert, hk, h]

/-- Records that are filed already are filed again without any change. -/
theorem insertAll_of_find? {d : Directory kind α} {id : α → Id kind} {as : List α}
    (h : ∀ a ∈ as, d.find? (id a) = some a) : d.insertAll id as = d := by
  induction as with
  | nil => rfl
  | cons a as ih =>
    rw [List.forall_mem_cons] at h
    change (d.insert (id a) a).insertAll id as = d
    rw [insert_of_find? h.1, ih h.2]

theorem records_map (d : Directory kind α) (f : α → β) : (d.map f).records = d.records.map f := by
  simp [records, map]

/-- Records that a function does not tell from those that they replace. -/
theorem map_insertAll {d : Directory kind α} {id : α → Id kind} {f : α → β} {as : List α}
    (h : ∀ a ∈ as, ∃ b, d.find? (id a) = some b ∧ f a = f b) :
    (d.insertAll id as).map f = d.map f := by
  ext k : 1
  rw [find?_map, find?_map, find?_insertAll]
  cases found : as.reverse.find? fun a => id a = k with
  | none => rfl
  | some a =>
    have ha := List.mem_reverse.1 (List.mem_of_find?_eq_some found)
    have hk : id a = k := by simpa using List.find?_some found
    obtain ⟨b, hb, same⟩ := h a ha
    rw [← hk, hb, Option.some_or, Option.map_some, Option.map_some, same]

/-- What is found was filed or was there before. -/
theorem of_find?_insertAll {d : Directory kind α} {id : α → Id kind} {as : List α} {k : Id kind}
    {a : α} (h : (d.insertAll id as).find? k = some a) :
    (a ∈ as ∧ id a = k) ∨ d.find? k = some a := by
  rw [find?_insertAll, Option.or_eq_some_iff] at h
  rcases h with h | ⟨-, h⟩
  · have hk := List.find?_some h
    exact .inl ⟨List.mem_reverse.1 (List.mem_of_find?_eq_some h), of_decide_eq_true hk⟩
  · exact .inr h

theorem find?_insertAll_of_forall_ne {d : Directory kind α} {id : α → Id kind} {as : List α}
    {k : Id kind} (h : ∀ a ∈ as, id a ≠ k) : (d.insertAll id as).find? k = d.find? k := by
  have missing : as.reverse.find? (fun a => id a = k) = none := by
    simpa [List.find?_eq_none] using h
  rw [find?_insertAll, missing, Option.none_or]

/-- Records that are told apart by their identifiers are all found. -/
theorem find?_insertAll_of_mem {d : Directory kind α} {id : α → Id kind} {as : List α} {a : α}
    (unique : ∀ b ∈ as, id b = id a → b = a) (h : a ∈ as) :
    (d.insertAll id as).find? (id a) = some a := by
  rw [find?_insertAll]
  cases hf : as.reverse.find? fun b => id b = id a with
  | none => simpa using List.find?_eq_none.1 hf a (List.mem_reverse.2 h)
  | some b =>
    have hb := List.mem_reverse.1 (List.mem_of_find?_eq_some hf)
    have hid : id b = id a := by simpa using List.find?_some hf
    simp [unique b hb hid]

theorem contains_insertAll_iff {d : Directory kind α} {id : α → Id kind} {as : List α}
    {k : Id kind} :
    (d.insertAll id as).contains k = true ↔ (∃ a ∈ as, id a = k) ∨ d.contains k = true := by
  induction as generalizing d with
  | nil => simp [insertAll]
  | cons a as ih =>
    change ((d.insert (id a) a).insertAll id as).contains k = true ↔ _
    rw [ih, contains_insert, Bool.or_eq_true, decide_eq_true_eq]
    simp only [List.mem_cons, or_and_right, exists_or, exists_eq_left, eq_comm (a := k)]
    simp only [or_assoc, or_left_comm]

end TunnelKeeper.Directory
