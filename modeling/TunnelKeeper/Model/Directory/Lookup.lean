import TunnelKeeper.Model.Directory

/-!
# Looking things up

What a look-up answers after each operation of a directory. A directory is known by its look-ups:
two that answer alike have the same entries.
-/
namespace TunnelKeeper.Directory

variable {kind : IdKind} {α β : Type}

private theorem lookup_cons_eq (i : Id kind) (e : Id kind × α) (es : List (Id kind × α)) :
    (e :: es).lookup i = if i = e.1 then some e.2 else es.lookup i := by
  obtain ⟨k, b⟩ := e
  by_cases h : i = k
  · simp [h]
  · simp [List.lookup_cons, h, beq_false_of_ne h]

private theorem lookup_insertEntry (i j : Id kind) (a : α) (es : List (Id kind × α)) :
    (insertEntry i a es).lookup j = if j = i then some a else es.lookup j := by
  induction es with
  | nil => simp [insertEntry, lookup_cons_eq]
  | cons e es ih =>
    obtain ⟨k, b⟩ := e
    simp only [insertEntry]
    split
    case isTrue => rw [lookup_cons_eq]
    case isFalse =>
      split
      case isTrue hik =>
        subst hik
        by_cases h : j = i <;> simp [lookup_cons_eq, h]
      case isFalse hik =>
        rw [lookup_cons_eq, lookup_cons_eq, ih]
        by_cases hk : j = k
        · simp [hk, Ne.symm hik]
        · simp [hk]

private theorem lookup_eq_some_iff {es : List (Id kind × α)}
    (h : es.Pairwise fun a b => a.1 < b.1) {i : Id kind} {a : α} :
    es.lookup i = some a ↔ (i, a) ∈ es := by
  induction es with
  | nil => simp
  | cons e es ih =>
    obtain ⟨hk, hes⟩ := List.pairwise_cons.1 h
    rw [lookup_cons_eq, List.mem_cons]
    by_cases hik : i = e.1
    · have hne : (i, a) ∉ es := fun hm => Id.lt_irrefl i (by simpa [hik] using hk _ hm)
      simp [hik, Prod.ext_iff, eq_comm, hik ▸ hne]
    · simp [hik, Prod.ext_iff, ih hes]

theorem find?_eq_some_iff {d : Directory kind α} {i : Id kind} {a : α} :
    d.find? i = some a ↔ (i, a) ∈ d.entries :=
  lookup_eq_some_iff d.sorted

theorem find?_eq_none_iff {d : Directory kind α} {i : Id kind} :
    d.find? i = none ↔ i ∉ d.ids := by
  rw [Option.eq_none_iff_forall_ne_some, ids, List.mem_map]
  constructor
  · rintro h ⟨e, he, rfl⟩
    exact h e.2 (find?_eq_some_iff.2 he)
  · exact fun h a ha => h ⟨(i, a), find?_eq_some_iff.1 ha, rfl⟩

theorem contains_iff {d : Directory kind α} {i : Id kind} : d.contains i = true ↔ i ∈ d.ids := by
  rw [contains, Option.isSome_iff_ne_none, ne_eq, find?_eq_none_iff, Decidable.not_not]

@[simp] theorem find?_empty (i : Id kind) : (empty : Directory kind α).find? i = none := rfl

theorem find?_insert (d : Directory kind α) (i j : Id kind) (a : α) :
    (d.insert i a).find? j = if j = i then some a else d.find? j :=
  lookup_insertEntry i j a d.entries

@[simp] theorem find?_insert_self (d : Directory kind α) (i : Id kind) (a : α) :
    (d.insert i a).find? i = some a := by
  simp [find?_insert]

theorem find?_filter (d : Directory kind α) (p : Id kind → α → Bool) (i : Id kind) :
    (d.filter p).find? i = (d.find? i).filter (p i) := by
  ext a
  rw [find?_eq_some_iff, Option.filter_eq_some_iff, find?_eq_some_iff]
  exact List.mem_filter

theorem find?_erase (d : Directory kind α) (i j : Id kind) :
    (d.erase i).find? j = if j = i then none else d.find? j := by
  rw [erase, find?_filter]
  by_cases h : j = i <;> cases d.find? j <;> simp [h, Option.filter]

@[simp] theorem find?_map (d : Directory kind α) (f : α → β) (i : Id kind) :
    (d.map f).find? i = (d.find? i).map f := by
  obtain ⟨es, hes⟩ := d
  change (es.map fun e => (e.1, f e.2)).lookup i = (es.lookup i).map f
  clear hes
  induction es with
  | nil => rfl
  | cons e es ih =>
    rw [List.map_cons, lookup_cons_eq, lookup_cons_eq, ih]
    by_cases h : i = e.1 <;> simp [h]

private theorem eq_of_mem_iff {es fs : List (Id kind × α)}
    (hes : es.Pairwise fun a b => a.1 < b.1) (hfs : fs.Pairwise fun a b => a.1 < b.1)
    (h : ∀ e, e ∈ es ↔ e ∈ fs) : es = fs := by
  induction es generalizing fs with
  | nil =>
    cases fs with
    | nil => rfl
    | cons f fs => exact absurd ((h f).2 List.mem_cons_self) List.not_mem_nil
  | cons e es ih =>
    cases fs with
    | nil => exact absurd ((h e).1 List.mem_cons_self) List.not_mem_nil
    | cons f fs =>
      obtain ⟨he, hes'⟩ := List.pairwise_cons.1 hes
      obtain ⟨hf, hfs'⟩ := List.pairwise_cons.1 hfs
      have head : e = f := by
        rcases List.mem_cons.1 ((h e).1 List.mem_cons_self) with hef | hef
        · exact hef
        · rcases List.mem_cons.1 ((h f).2 List.mem_cons_self) with hfe | hfe
          · exact hfe.symm
          · exact absurd (Id.lt_trans (hf e hef) (he f hfe)) (Id.lt_irrefl f.1)
      subst head
      congr 1
      refine ih hes' hfs' fun g => ⟨fun hg => ?_, fun hg => ?_⟩
      · rcases List.mem_cons.1 ((h g).1 (List.mem_cons_of_mem _ hg)) with rfl | hg'
        · exact absurd (he g hg) (Id.lt_irrefl g.1)
        · exact hg'
      · rcases List.mem_cons.1 ((h g).2 (List.mem_cons_of_mem _ hg)) with rfl | hg'
        · exact absurd (hf g hg) (Id.lt_irrefl g.1)
        · exact hg'

/-- Directories that answer every look-up alike are equal. -/
@[ext] theorem eq_of_find? {d e : Directory kind α} (h : ∀ i, d.find? i = e.find? i) : d = e := by
  have hmem : ∀ x, x ∈ d.entries ↔ x ∈ e.entries := fun x => by
    rw [← find?_eq_some_iff, ← find?_eq_some_iff, h]
  obtain ⟨es, hes⟩ := d
  obtain ⟨fs, hfs⟩ := e
  cases eq_of_mem_iff hes hfs hmem
  rfl

end TunnelKeeper.Directory
