import TunnelKeeper.Model.Id

/-!
# Directories

A directory files records under identifiers. Its entries are kept in ascending order of the
identifiers, each of which occurs once, so two directories that answer every look-up alike are
equal.
-/
namespace TunnelKeeper

structure Directory (kind : IdKind) (α : Type) where
  entries : List (Id kind × α)
  sorted : entries.Pairwise fun a b => a.1 < b.1

namespace Directory

variable {kind : IdKind} {α β : Type}

def empty : Directory kind α := ⟨[], .nil⟩

instance : Inhabited (Directory kind α) := ⟨empty⟩

def ids (d : Directory kind α) : List (Id kind) := d.entries.map (·.1)

def records (d : Directory kind α) : List α := d.entries.map (·.2)

def find? (d : Directory kind α) (i : Id kind) : Option α := d.entries.lookup i

def contains (d : Directory kind α) (i : Id kind) : Bool := (d.find? i).isSome

/-- The entries with the record under `i` put in or replaced. -/
def insertEntry (i : Id kind) (a : α) : List (Id kind × α) → List (Id kind × α)
  | [] => [(i, a)]
  | (j, b) :: es =>
    if i < j then (i, a) :: (j, b) :: es
    else if i = j then (i, a) :: es
    else (j, b) :: insertEntry i a es

theorem mem_insertEntry {i : Id kind} {a : α} {es : List (Id kind × α)} {e : Id kind × α}
    (h : e ∈ insertEntry i a es) : e = (i, a) ∨ e ∈ es := by
  induction es with
  | nil => simpa [insertEntry] using h
  | cons f es ih =>
    obtain ⟨j, b⟩ := f
    simp only [insertEntry] at h
    split at h
    · simpa using h
    · split at h
      · rcases List.mem_cons.1 h with h | h
        · exact .inl h
        · exact .inr (List.mem_cons_of_mem _ h)
      · rcases List.mem_cons.1 h with h | h
        · exact .inr (h ▸ List.mem_cons_self)
        · exact (ih h).imp id (List.mem_cons_of_mem _)

theorem sorted_insertEntry (i : Id kind) (a : α) {es : List (Id kind × α)}
    (h : es.Pairwise fun a b => a.1 < b.1) :
    (insertEntry i a es).Pairwise fun a b => a.1 < b.1 := by
  induction es with
  | nil => simp [insertEntry]
  | cons f es ih =>
    obtain ⟨j, b⟩ := f
    obtain ⟨hj, hes⟩ := List.pairwise_cons.1 h
    simp only [insertEntry]
    split
    case isTrue hij =>
      refine List.pairwise_cons.2 ⟨fun e he => ?_, h⟩
      rcases List.mem_cons.1 he with rfl | he
      · exact hij
      · exact Id.lt_trans hij (hj e he)
    case isFalse hij =>
      split
      case isTrue heq =>
        subst heq
        exact List.pairwise_cons.2 ⟨hj, hes⟩
      case isFalse hne =>
        refine List.pairwise_cons.2 ⟨fun e he => ?_, ih hes⟩
        rcases mem_insertEntry he with rfl | he
        · exact Id.lt_of_not_lt_of_ne hij hne
        · exact hj e he

/-- Files a record, in place of the one that was there. -/
def insert (d : Directory kind α) (i : Id kind) (a : α) : Directory kind α :=
  ⟨insertEntry i a d.entries, sorted_insertEntry i a d.sorted⟩

def filter (d : Directory kind α) (p : Id kind → α → Bool) : Directory kind α :=
  ⟨d.entries.filter fun e => p e.1 e.2, d.sorted.filter _⟩

def erase (d : Directory kind α) (i : Id kind) : Directory kind α := d.filter fun j _ => j ≠ i

def map (d : Directory kind α) (f : α → β) : Directory kind β :=
  ⟨d.entries.map fun e => (e.1, f e.2), List.pairwise_map.2 d.sorted⟩

def size (d : Directory kind α) : Nat := d.entries.length

def insertAll (d : Directory kind α) (id : α → Id kind) (as : List α) : Directory kind α :=
  as.foldl (fun d a => d.insert (id a) a) d

end Directory

end TunnelKeeper
