import Mathlib.Data.List.Basic
import Mathlib.Tactic.IntervalCases
import TunnelKeeper.Key.Basic
import TunnelKeeper.Proofs.Text.Trimmed

/-!
# Written keys are read back

Base64 text is read as the bytes that it was written for, whatever remains for its last group, and
the text of a key as that key. Nothing is said of text that was written by others.
-/
namespace TunnelKeeper.Key
open TunnelKeeper Text

namespace Base64

theorem sextet?_symbol {n : Nat} (h : n < 64) : sextet? (symbol n) = some n := by
  revert n
  decide +kernel

theorem symbol_ne_pad {n : Nat} (h : n < 64) : symbol n ≠ pad := by
  revert n
  decide +kernel

theorem sextets_map_symbol {ns : List Nat} (h : ∀ n ∈ ns, n < 64) (offset : Nat) :
    sextets offset (ns.map symbol) = .ok ns := by
  induction ns generalizing offset with
  | nil => rfl
  | cons n ns ih =>
    rw [List.forall_mem_cons] at h
    simp [sextets, sextet?_symbol h.1, ih h.2, Except.map]

def sextetsOf (a b c : UInt8) : List Nat :=
  [a.toNat / 4, a.toNat % 4 * 16 + b.toNat / 16, b.toNat % 16 * 4 + c.toNat / 64, c.toNat % 64]

theorem lt_of_mem_sextetsOf {a b c : UInt8} {n : Nat} (h : n ∈ sextetsOf a b c) : n < 64 := by
  have ha := a.toNat_lt
  have hb := b.toNat_lt
  have hc := c.toNat_lt
  simp only [sextetsOf, List.mem_cons, List.not_mem_nil, or_false] at h
  omega

theorem bytesOf_sextetsOf (a b c : UInt8) : bytesOf (sextetsOf a b c) = [a, b, c] := by
  have ha := a.toNat_lt
  have hb := b.toNat_lt
  have hc := c.toNat_lt
  have first : a.toNat / 4 * 4 + (a.toNat % 4 * 16 + b.toNat / 16) / 16 = a.toNat := by omega
  have second : (a.toNat % 4 * 16 + b.toNat / 16) % 16 * 16 +
      (b.toNat % 16 * 4 + c.toNat / 64) / 4 = b.toNat := by omega
  have third : (b.toNat % 16 * 4 + c.toNat / 64) % 4 * 64 + c.toNat % 64 = c.toNat := by omega
  change [Nat.toUInt8 _, Nat.toUInt8 _, Nat.toUInt8 _] = _
  rw [first, second, third]
  simp

/-- One sextet more than there are bytes is enough. -/
theorem bytesOf_take (a b c : UInt8) {m : Nat} (pos : 1 ≤ m) (le : m ≤ 3) :
    bytesOf ((sextetsOf a b c).take (m + 1)) = [a, b, c].take m := by
  have all := bytesOf_sextetsOf a b c
  interval_cases m
  · exact congrArg (List.take 1) all
  · exact congrArg (List.take 2) all
  · exact all

/-- A last group, filled with padding, that leaves no bits over. -/
theorem decodeLast_group (a b c : UInt8) {m : Nat} (pos : 1 ≤ m) (le : m ≤ 3)
    (spare : spareBits ((sextetsOf a b c).take (m + 1)) = 0) (offset : Nat) :
    decodeLast offset (((sextetsOf a b c).take (m + 1)).map symbol ++ List.replicate (3 - m) pad) =
      .ok ([a, b, c].take m) := by
  have bounded : ∀ n ∈ (sextetsOf a b c).take (m + 1), n < 64 :=
    fun n hn => lt_of_mem_sextetsOf (List.mem_of_mem_take hn)
  have count : ((sextetsOf a b c).take (m + 1)).length = m + 1 := by
    rw [List.length_take]
    exact Nat.min_eq_left (Nat.succ_le_succ le)
  rw [← bytesOf_take a b c pos le]
  generalize (sextetsOf a b c).take (m + 1) = ns at *
  have body : (ns.map symbol ++ List.replicate (3 - m) pad).takeWhile (· ≠ pad) =
      ns.map symbol := by
    rw [List.takeWhile_append_of_pos, List.takeWhile_replicate]
    · simp
    · intro b hb
      obtain ⟨n, hn, rfl⟩ := List.mem_map.1 hb
      simpa using symbol_ne_pad (bounded n hn)
  have tail : (ns.map symbol ++ List.replicate (3 - m) pad).drop (m + 1) =
      List.replicate (3 - m) pad := List.drop_left' (by rw [List.length_map, count])
  have filled : ¬ m + 1 < 2 := by omega
  have whole : (m + 1 + (3 - m)) % 4 = 0 := by omega
  simp only [decodeLast, body, sextets_map_symbol bounded, List.length_append, List.length_map,
    List.length_replicate, count, tail, whole]
  simp [filled, spare, bind, Except.bind, pure, Except.pure]

theorem encode_cons (a b c : UInt8) (rest : List UInt8) :
    encode (a :: b :: c :: rest) = (sextetsOf a b c).map symbol ++ encode rest := rfl

theorem decodeFrom_encode (bs : List UInt8) (offset : Nat) :
    decodeFrom offset (encode bs) = .ok bs := by
  induction bs using encode.induct generalizing offset with
  | case1 => rfl
  | case2 a =>
    have spare : spareBits ((sextetsOf a 0 0).take 2) = 0 := by simp [sextetsOf, spareBits]
    exact decodeLast_group a 0 0 (m := 1) (by decide) (by decide) spare offset
  | case3 a b =>
    have spare : spareBits ((sextetsOf a b 0).take 3) = 0 := by simp [sextetsOf, spareBits]
    exact decodeLast_group a b 0 (m := 2) (by decide) (by decide) spare offset
  | case4 a b c rest ih =>
    rw [encode_cons]
    cases written : encode rest with
    | nil =>
      have none := ih 0
      rw [written] at none
      cases none
      exact decodeLast_group a b c (m := 3) (by decide) (by decide) rfl offset
    | cons e es =>
      have bounded : ∀ n ∈ sextetsOf a b c, n < 64 := fun _ => lt_of_mem_sextetsOf
      have group := sextets_map_symbol bounded offset
      have rest := ih (offset + 4)
      rw [written] at rest
      simp only [sextetsOf, List.map, List.cons_append, List.nil_append] at group ⊢
      rw [decodeFrom, group, rest]
      exact congrArg (Except.ok <| · ++ _) (bytesOf_sextetsOf a b c)

theorem length_encode_mod (bs : List UInt8) : (encode bs).length % 4 = 0 := by
  induction bs using encode.induct with
  | case1 => rfl
  | case2 => simp [encode]
  | case3 => simp [encode]
  | case4 a b c rest ih =>
    simp only [encode, List.length_cons]
    omega

/-- Every sequence of bytes reads back. -/
theorem decode_encode (bs : List UInt8) : decode (encode bs) = .ok bs := by
  have full := length_encode_mod bs
  have read := decodeFrom_encode bs 0
  unfold decode
  cases last : (encode bs).getLast? with
  | none =>
    rw [List.getLast?_eq_none_iff.1 last] at read
    exact read
  | some b => simpa [full] using read

/-- The bytes that base64 text is written with. -/
def IsLetter (b : UInt8) : Prop := b = pad ∨ ∃ n < 64, b = symbol n

theorem isLetter_of_mem_encode {bs : List UInt8} : ∀ b ∈ encode bs, IsLetter b := by
  have group (a b c : UInt8) (m : Nat) :
      ∀ d ∈ ((sextetsOf a b c).take m).map symbol, IsLetter d := by
    rw [List.forall_mem_map]
    exact fun n hn => .inr ⟨n, lt_of_mem_sextetsOf (List.mem_of_mem_take hn), rfl⟩
  induction bs using encode.induct with
  | case1 => exact List.forall_mem_nil _
  | case2 a => exact List.forall_mem_append.2 ⟨group a 0 0 2, by simp [IsLetter]⟩
  | case3 a b => exact List.forall_mem_append.2 ⟨group a b 0 3, by simp [IsLetter]⟩
  | case4 a b c rest ih => exact List.forall_mem_append.2 ⟨group a b c 4, ih⟩

theorem IsLetter.isBlank {b : UInt8} (h : IsLetter b) : isBlank (Char.ofNat b.toNat) = false := by
  obtain rfl | ⟨n, hn, rfl⟩ := h
  · decide
  · revert n
    decide +kernel

/-- A letter is one byte of text. -/
theorem IsLetter.utf8EncodeChar {b : UInt8} (h : IsLetter b) :
    String.utf8EncodeChar (Char.ofNat b.toNat) = [b] := by
  obtain rfl | ⟨n, hn, rfl⟩ := h
  · decide
  · revert n
    decide +kernel

end Base64

theorem toList_text (k : Key) :
    k.text.toList = (Base64.encode k.bytes).map fun b => Char.ofNat b.toNat :=
  String.toList_ofList

theorem isBlank_of_mem_text {k : Key} : ∀ c ∈ k.text.toList, isBlank c = false := by
  rw [toList_text, List.forall_mem_map]
  exact fun b hb => (Base64.isLetter_of_mem_encode b hb).isBlank

theorem utf8_text (k : Key) :
    k.text.toList.flatMap String.utf8EncodeChar = Base64.encode k.bytes := by
  rw [toList_text, List.flatMap_map,
    List.flatMap_congr fun b hb => (Base64.isLetter_of_mem_encode b hb).utf8EncodeChar,
    List.flatMap_singleton']

@[simp] theorem parse_text (k : Key) : parse k.text = .ok k := by
  unfold parse
  rw [trimList_of_not_blank isBlank_of_mem_text, utf8_text, Base64.decode_encode]
  simp only [ofBytes?, k.length_eq, dif_pos]

/-- Different keys have different texts. -/
theorem text_inj {a b : Key} (h : a.text = b.text) : a = b := by
  have read := parse_text a
  rw [h, parse_text] at read
  exact (Except.ok.inj read).symm

theorem parse_trim (s : String) : parse (trim s) = parse s := by
  simp only [parse, trim, String.toList_ofList, trimList_trimList]

/-- Blank text is no key. -/
theorem parse_of_blank {s : String} (h : trimList s.toList = []) :
    parse s = .error (.length 0) := by
  unfold parse
  rw [h]
  rfl

theorem text_ne_empty (k : Key) : k.text ≠ "" := by
  intro empty
  have read := parse_text k
  rw [empty, parse_of_blank (by rfl)] at read
  contradiction

end TunnelKeeper.Key
