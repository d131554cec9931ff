import Mathlib.Data.List.Nodup
import TunnelKeeper.Json.Members
import TunnelKeeper.Proofs.Json.Text
import TunnelKeeper.Proofs.Text.Words

/-!
# Forms that are read back

A form and a reader are faithful to each other when every value has a plain form and is read from
it. Options and lists of faithful forms are faithful, and in a record whose names are all different
every member is found under its name. What is faithful survives being written as a text.
-/
namespace TunnelKeeper.Json
open TunnelKeeper

variable {α : Type} {toJson : α → Json} {decode : Json → Option α}

/-- Every value has a plain form, from which it is read back. -/
structure Faithful (toJson : α → Json) (decode : Json → Option α) : Prop where
  plain (a : α) : (toJson a).Plain
  read (a : α) : decode (toJson a) = some a

/-- Whether every value is read back from its text. -/
def Survives (toJson : α → Json) (decode : Json → Option α) : Prop :=
  ∀ a, (ofText? (toJson a).toText).bind decode = some a

theorem Faithful.survives (h : Faithful toJson decode) : Survives toJson decode := by
  intro a
  rw [(h.plain a).ofText?_toText, Option.bind_some, h.read]

theorem faithful_text : Faithful text string? := ⟨.text, fun _ => rfl⟩

theorem text_ne_null (s : String) : text s ≠ .null := nofun

theorem faithful_bool : Faithful .bool bool? := ⟨.bool, fun _ => rfl⟩

theorem natural?_natural {max n : Nat} (h : n ≤ max) : natural? max (.natural n) = some n := by
  have bounds : (0 : Int) ≤ n ∧ (n : Int) ≤ max := by omega
  rw [natural, natural?, if_pos bounds]
  rfl

/-- Numbers of a type that goes up to `max`. -/
theorem faithful_number {toNat : α → Nat} {ofNat : Nat → α} {max : Nat}
    (bound : ∀ a, toNat a ≤ max) (back : ∀ a, ofNat (toNat a) = a) :
    Faithful (fun a => .natural (toNat a)) fun j => (natural? max j).map ofNat where
  plain a := .integer _
  read a := by rw [natural?_natural (bound a), Option.map_some, back]

/-- A value that is given is read by the reader of what may be missing. -/
theorem Faithful.optional?_eq (h : Faithful toJson decode) {a : α} (given : toJson a ≠ .null) :
    optional? decode (toJson a) = some (some a) := by
  have read : (decode (toJson a)).map some = some (some a) := by rw [h.read, Option.map_some]
  rw [← read]
  generalize toJson a = j at given
  cases j with
  | null => contradiction
  | _ => rfl

/-- A value that may be missing, where null stands for no other value. -/
theorem Faithful.optional (h : Faithful toJson decode) (given : ∀ a, toJson a ≠ .null) :
    Faithful (.optional toJson) (optional? decode) where
  plain a :=
    match a with
    | none => .null
    | some a => h.plain a
  read a :=
    match a with
    | none => rfl
    | some a => h.optional?_eq (given a)

theorem Faithful.list (h : Faithful toJson decode) : Faithful (.list toJson) (list? decode) where
  plain as := by
    apply Plain.array
    intro j hj
    obtain ⟨a, -, rfl⟩ := List.mem_map.1 hj
    exact h.plain a
  read as := by
    change (as.map toJson).mapM decode = pure as
    exact Text.mapM_map_eq_pure fun a _ => h.read a

variable {names : List String} {ms : Members}

theorem plain_record (plain : ∀ m ∈ ms, m.2.Plain) : (record ms).Plain := by
  apply Plain.object
  · intro m hm
    obtain ⟨m, -, rfl⟩ := List.mem_map.1 hm
    rfl
  · intro m hm
    obtain ⟨m, h, rfl⟩ := List.mem_map.1 hm
    exact plain m h

def Members.Found (ms : Members) : Prop :=
  ∀ (k : Nat) {name : String} {j : Json}, ms[k]? = some (name, j) → ms.lookup name = some j

theorem lookup_of_mem (once : (ms.map (·.1)).Nodup) {m : String × Json} (h : m ∈ ms) :
    ms.lookup m.1 = some m.2 := by
  induction ms with
  | nil => contradiction
  | cons n ns ih =>
    obtain ⟨new, once⟩ := List.nodup_cons.1 once
    change n.1 ∉ ns.map (·.1) at new
    rw [List.lookup_cons]
    rcases List.mem_cons.1 h with rfl | h
    · simp
    · have other : m.1 ≠ n.1 := by
        intro same
        rw [← same] at new
        exact new (List.mem_map_of_mem h)
      rw [beq_false_of_ne other, ih once h]

theorem found_of_nodup (once : (ms.map (·.1)).Nodup) : ms.Found :=
  fun _ _ _ h => lookup_of_mem once (List.mem_of_getElem? h)

theorem Members.read_of_notMem (name : String) {decode : Json → Option α} {a : α}
    (missing : name ∉ ms.map (·.1)) : ms.read name decode a = some a := by
  have none : ms.lookup name = none := by
    rw [List.lookup_eq_none_iff]
    intro m hm
    simpa using fun same : name = m.1 => missing (same ▸ List.mem_map_of_mem hm)
  rw [read, none]

theorem namedMembers?_map (known : ∀ m ∈ ms, m.1 ∈ names) (once : (ms.map (·.1)).Nodup) :
    namedMembers? names (ms.map fun m => (some m.1, m.2)) = some ms := by
  have named : (ms.map fun m => ((some m.1, m.2) : JsonText × Json)).mapM
      (fun m => m.1.map fun s => (s, m.2)) = some ms :=
    Text.mapM_map_eq_pure (m := Option) fun m _ => rfl
  have all : ms.filter (fun m => names.contains m.1) = ms := by
    simpa using known
  simp only [namedMembers?, named, Option.bind_eq_bind, Option.bind_some, all, once, guard_true,
    Option.pure_def]

/-- Reading a record goes on with its members, which are all found. -/
theorem members?_bind {read : Members → Option α} {a : Option α} (known : ∀ m ∈ ms, m.1 ∈ names)
    (once : (ms.map (·.1)).Nodup) (h : ms.Found → read ms = a) :
    (members? names (record ms) >>= read) = a :=
  (congrArg (· >>= read) (namedMembers?_map known once)).trans (h (found_of_nodup once))

theorem fullMembers?_bind {read : Members → Option α} {a : Option α}
    (known : ∀ m ∈ ms, m.1 ∈ names) (once : (ms.map (·.1)).Nodup) (h : ms.Found → read ms = a) :
    (fullMembers? names (record ms) >>= read) = a :=
  (congrArg (· >>= read) (namedMembers?_map known once)).trans (h (found_of_nodup once))

end TunnelKeeper.Json
