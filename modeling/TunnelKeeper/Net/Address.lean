/-!
# Addresses

An address is a number of 32 or 128 bits. The family decides the width; the bits themselves never
tell which family an address belongs to.
-/
namespace TunnelKeeper.Net

inductive Family where
  | v4
  | v6
deriving DecidableEq, Repr

def Family.width : Family → Nat
  | .v4 => 32
  | .v6 => 128

/-- The number of addresses that differ in the last `bits` bits only. -/
def blockSize (bits : Nat) : Nat := Nat.pow 2 bits

theorem blockSize_pos (bits : Nat) : 0 < blockSize bits := Nat.two_pow_pos bits

theorem blockSize_add (m n : Nat) : blockSize (m + n) = blockSize m * blockSize n :=
  Nat.pow_add 2 m n

structure Address where
  family : Family
  value : Nat
  value_lt : value < blockSize family.width
deriving DecidableEq, Repr

namespace Address

/-- The address with the given bits; bits beyond the width are dropped. -/
def ofValue (family : Family) (value : Nat) : Address :=
  ⟨family, value % blockSize family.width, Nat.mod_lt _ (blockSize_pos _)⟩

@[simp] theorem family_ofValue (f : Family) (n : Nat) : (ofValue f n).family = f := rfl

theorem value_ofValue {f : Family} {n : Nat} (h : n < blockSize f.width) :
    (ofValue f n).value = n :=
  Nat.mod_eq_of_lt h

@[ext] theorem ext' {a b : Address} (hf : a.family = b.family) (hv : a.value = b.value) :
    a = b := by
  cases a
  cases b
  cases hf
  cases hv
  rfl

def isV4 (a : Address) : Bool := a.family == .v4

/-- The lowest address that agrees with `a` outside the last `host` bits. -/
def blockStart (a : Address) (host : Nat) : Address :=
  ofValue a.family (a.value / blockSize host * blockSize host)

/-- The highest address that agrees with `a` outside the last `host` bits. -/
def blockEnd (a : Address) (host : Nat) : Address :=
  ofValue a.family (a.value / blockSize host * blockSize host + (blockSize host - 1))

/-- The number as digits of a base that is a power of two, the most significant first. -/
def groups (bits count : Nat) (value : Nat) : List Nat :=
  (List.range count).map fun i => value / blockSize (bits * (count - 1 - i)) % blockSize bits

def ofGroups (bits : Nat) (gs : List Nat) : Nat :=
  gs.foldl (fun n g => n * blockSize bits + g) 0

/-- Adds one to a number whose last byte stands first, with a carry into the byte after each one
that overflows. There is no answer when the last carry is left over. -/
def carry : List Nat → Option (List Nat)
  | [] => none
  | b :: bs => if b + 1 < blockSize 8 then some ((b + 1) :: bs) else (carry bs).map (0 :: ·)

def next? (a : Address) : Option Address :=
  (carry (groups 8 (a.family.width / 8) a.value).reverse).map fun bs =>
    ofValue a.family (ofGroups 8 bs.reverse)

def octets (value : Nat) : List Nat := groups 8 4 value

def segments (value : Nat) : List Nat := groups 16 8 value

/-- IPv4 comes before IPv6; within a family the lower number comes first. -/
def lt (a b : Address) : Prop :=
  a.family.width < b.family.width ∨ a.family = b.family ∧ a.value < b.value

instance : LT Address := ⟨lt⟩

instance (a b : Address) : Decidable (a < b) :=
  inferInstanceAs <| Decidable <|
    a.family.width < b.family.width ∨ a.family = b.family ∧ a.value < b.value

theorem ofGroups_append (bits : Nat) (gs : List Nat) (g : Nat) :
    ofGroups bits (gs ++ [g]) = ofGroups bits gs * blockSize bits + g := by
  simp [ofGroups]

theorem groups_succ (bits count value : Nat) :
    groups bits (count + 1) value =
      groups bits count (value / blockSize bits) ++ [value % blockSize bits] := by
  unfold groups
  rw [List.range_succ, List.map_append]
  congr 1
  · refine List.map_congr_left fun i hi => ?_
    have h : count + 1 - 1 - i = 1 + (count - 1 - i) := by
      have := List.mem_range.1 hi
      omega
    rw [h, Nat.mul_add, Nat.mul_one, blockSize_add, Nat.div_div_eq_div_mul]
  · simp [blockSize]

@[simp] theorem length_groups (bits count value : Nat) :
    (groups bits count value).length = count := by
  simp [groups]

theorem lt_of_mem_groups {bits count value g : Nat} (h : g ∈ groups bits count value) :
    g < blockSize bits := by
  obtain ⟨i, -, rfl⟩ := List.mem_map.1 h
  exact Nat.mod_lt _ (blockSize_pos bits)

/-- The digits of a number make the number again, as far as there are digits enough. -/
theorem ofGroups_groups (bits count value : Nat) :
    ofGroups bits (groups bits count value) = value % blockSize (bits * count) := by
  induction count generalizing value with
  | zero => simp [groups, ofGroups, blockSize, Nat.mod_one]
  | succ count ih =>
    rw [groups_succ, ofGroups_append, ih, Nat.mul_succ, Nat.add_comm (bits * count), blockSize_add,
      Nat.mod_mul, Nat.mul_comm (blockSize bits), Nat.add_comm]

theorem ofGroups_lt (bs : List Nat) (h : ∀ b ∈ bs, b < blockSize 8) :
    ofGroups 8 bs.reverse < blockSize (8 * bs.length) := by
  induction bs with
  | nil => exact blockSize_pos 0
  | cons b bs ih =>
    rw [List.forall_mem_cons] at h
    have ih := ih h.2
    have hb := h.1
    have base : blockSize 8 = 256 := rfl
    rw [List.reverse_cons, ofGroups_append, List.length_cons, Nat.mul_succ, blockSize_add, base]
    rw [base] at hb
    omega

theorem ofGroups_carry (bs : List Nat) (h : ∀ b ∈ bs, b < blockSize 8) :
    match carry bs with
    | some cs => ofGroups 8 cs.reverse = ofGroups 8 bs.reverse + 1 ∧
        ofGroups 8 bs.reverse + 1 < blockSize (8 * bs.length)
    | none => ofGroups 8 bs.reverse + 1 = blockSize (8 * bs.length) := by
  induction bs with
  | nil => rfl
  | cons b bs ih =>
    rw [List.forall_mem_cons] at h
    have ih := ih h.2
    have hb := h.1
    have rest := ofGroups_lt bs h.2
    have base : blockSize 8 = 256 := rfl
    rw [List.length_cons, Nat.mul_succ, blockSize_add, carry, base]
    rw [base] at hb
    by_cases fits : b + 1 < 256
    · simp only [if_pos fits, List.reverse_cons, ofGroups_append, base]
      omega
    · rw [if_neg fits]
      cases hc : carry bs with
      | some cs =>
        rw [hc] at ih
        simp only [Option.map_some, List.reverse_cons, ofGroups_append, base]
        omega
      | none =>
        rw [hc] at ih
        simp only [Option.map_none, List.reverse_cons, ofGroups_append, base]
        omega

/-- The carry counts: the next address has the next number, and the last one has none after it. -/
theorem next?_eq (a : Address) :
    a.next? = if h : a.value + 1 < blockSize a.family.width then some ⟨a.family, a.value + 1, h⟩
      else none := by
  have whole : 8 * (a.family.width / 8) = a.family.width := by cases a.family <;> rfl
  have digits := ofGroups_groups 8 (a.family.width / 8) a.value
  rw [whole, Nat.mod_eq_of_lt a.value_lt] at digits
  have carried := ofGroups_carry (groups 8 (a.family.width / 8) a.value).reverse
    fun b hb => lt_of_mem_groups (List.mem_reverse.1 hb)
  rw [List.reverse_reverse, digits, List.length_reverse, length_groups, whole] at carried
  unfold next?
  cases hc : carry (groups 8 (a.family.width / 8) a.value).reverse with
  | some bs =>
    rw [hc] at carried
    rw [Option.map_some, carried.1, dif_pos carried.2]
    exact congrArg some (ext' rfl (value_ofValue carried.2))
  | none =>
    rw [hc] at carried
    rw [Option.map_none, dif_neg]
    omega

end Address

end TunnelKeeper.Net
