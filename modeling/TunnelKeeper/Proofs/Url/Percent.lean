import TunnelKeeper.Proofs.Text.Digits
import TunnelKeeper.Proofs.Text.Utf8
import TunnelKeeper.Url.Percent

/-!
# Encoded segments of a path

A text is written as one segment of a path by writing each of its bytes as itself, where it is a
character that may stand in a segment, or as a percent sign and two digits, of either case. The path
is decoded before it is cut into segments, but for the slashes, percent signs and plus signs that
are encoded; what is left then is decoded once more. Each segment is found as it was written, and
gives the text back.
-/
namespace TunnelKeeper.Url.Percent
open TunnelKeeper Text

def isPlain (c : Char) : Bool := c.isAlphanum || "-._~!$&\x27()*+,;=:@".toList.contains c

/-- The bytes that a segment is written for. -/
inductive Encodes : List Char → List UInt8 → Prop
  | nil : Encodes [] []
  | plain {c : Char} {cs : List Char} {bs : List UInt8} (plain : isPlain c = true)
    (rest : Encodes cs bs) : Encodes (c :: cs) (UInt8.ofNat c.toNat :: bs)
  | escaped {high low : Char} {b : UInt8} {cs : List Char} {bs : List UInt8}
    (digits : hexValue? [high, low] = some b.toNat) (rest : Encodes cs bs) :
    Encodes ('%' :: high :: low :: cs) (b :: bs)

/-- The characters of which a path keeps the written form. -/
def IsKept (c : Char) : Prop := c = '/' ∨ c = '%' ∨ c = '+'

instance : DecidablePred IsKept := fun _ => inferInstanceAs (Decidable (_ ∨ _ ∨ _))

/-- What a segment looks like where a path is cut: the characters of a text, of which only slashes,
percent signs and plus signs are still encoded. -/
inductive Reads : List Char → List Char → Prop
  | nil : Reads [] []
  | char {c : Char} {cs ds : List Char} (slash : c ≠ '/') (percent : c ≠ '%')
    (rest : Reads cs ds) : Reads (c :: cs) (c :: ds)
  | kept {c high low : Char} {cs ds : List Char} (kept : IsKept c)
    (digits : hexValue? [high, low] = some c.toNat) (rest : Reads cs ds) :
    Reads ('%' :: high :: low :: cs) (c :: ds)

theorem isPlain_ascii {c : Char} (h : isPlain c = true) : c.toNat < 0x80 := by
  rw [isPlain, Bool.or_eq_true] at h
  rcases h with alphanumeric | mark
  · rcases (Bool.or_eq_true _ _).mp alphanumeric with letter | digit
    · have range := toNat_of_isAlpha letter
      omega
    · have range := toNat_of_isDigit digit
      omega
  · have marks : ("-._~!$&\x27()*+,;=:@".toList.all fun d => d.toNat < 0x80) = true := by
      decide +kernel
    exact of_decide_eq_true (List.all_eq_true.1 marks c (List.contains_iff_mem.1 mark))

theorem isPlain_ne {c : Char} (h : isPlain c = true) : c ≠ '/' ∧ c ≠ '%' := by
  constructor
  · rintro rfl
    exact absurd h (by decide)
  · rintro rfl
    exact absurd h (by decide)

/-- What no digit of an escaped byte is. -/
structure IsHex (c : Char) : Prop where
  ascii : c.toNat < 0x80
  slash : c ≠ '/'
  percent : c ≠ '%'

theorem isHex_of_hexDigit? {c : Char} {n : Nat} (h : hexDigit? c = some n) : IsHex c := by
  have range : c.toNat < 0x80 ∧ 48 ≤ c.toNat := by
    unfold hexDigit? at h
    simp only [Char.le_def, UInt32.le_iff_toNat_le] at h
    split_ifs at h <;> simp at * <;> omega
  refine ⟨range.1, ?_, ?_⟩
  · rintro rfl
    exact absurd range.2 (by decide)
  · rintro rfl
    exact absurd range.2 (by decide)

theorem isHex_of_hexValue? {high low : Char} {n : Nat} (h : hexValue? [high, low] = some n) :
    IsHex high ∧ IsHex low := by
  simp only [hexValue?, List.foldlM_cons, Option.bind_eq_bind, Option.bind_eq_some_iff,
    Option.map_eq_some_iff] at h
  obtain ⟨m, ⟨first, high, -⟩, k, ⟨second, low, -⟩, -⟩ := h
  exact ⟨isHex_of_hexDigit? high, isHex_of_hexDigit? low⟩

def byte (c : Char) : UInt8 := UInt8.ofNat c.toNat

theorem toNat_byte_of_ascii {c : Char} (h : c.toNat < 0x80) : (byte c).toNat = c.toNat :=
  toNat_byte (by omega)

theorem byte_inj {c d : Char} (hc : c.toNat < 0x80) (hd : d.toNat < 0x80) (h : byte c = byte d) :
    c = d := by
  have number := congrArg UInt8.toNat h
  rw [toNat_byte_of_ascii hc, toNat_byte_of_ascii hd] at number
  exact Char.toNat_inj.1 number

theorem byte_ne_sign {c : Char} (ascii : c.toNat < 0x80) (h : c ≠ '%') : byte c ≠ sign := by
  exact fun same => h (byte_inj ascii (by decide) same)

theorem encode_cons_ascii {c : Char} (h : c.toNat < 0x80) (cs : List Char) :
    encode (c :: cs) = byte c :: encode cs := by
  rw [encode, List.flatMap_cons, utf8EncodeChar_ascii h]
  rfl

theorem encode_append (cs ds : List Char) : encode (cs ++ ds) = encode cs ++ encode ds :=
  List.flatMap_append

theorem encode_cons (c : Char) (cs : List Char) :
    encode (c :: cs) = String.utf8EncodeChar c ++ encode cs := List.flatMap_cons

/-- A text of characters that may stand in a segment is written as it is. -/
theorem encodes_of_plain {cs : List Char} (h : cs.all isPlain = true) : Encodes cs (encode cs) := by
  induction cs with
  | nil => exact .nil
  | cons c cs ih =>
    rw [List.all_cons, Bool.and_eq_true] at h
    rw [encode_cons_ascii (isPlain_ascii h.1)]
    exact .plain h.1 (ih h.2)

variable {kept : List UInt8}

theorem decodeBytes_cons {a : UInt8} (h : a ≠ sign) (bs : List UInt8) :
    decodeBytes kept (a :: bs) = a :: decodeBytes kept bs := by
  match bs with
  | [] => rfl
  | [_] => rfl
  | b :: c :: bs => rw [decodeBytes, if_neg h]

theorem decodeBytes_append {as : List UInt8} (h : sign ∉ as) (bs : List UInt8) :
    decodeBytes kept (as ++ bs) = as ++ decodeBytes kept bs := by
  induction as with
  | nil => rfl
  | cons a as ih =>
    rw [List.mem_cons, not_or] at h
    rw [List.cons_append, decodeBytes_cons (Ne.symm h.1), ih h.2, List.cons_append]

theorem decodeBytes_of_not_mem {as : List UInt8} (h : sign ∉ as) : decodeBytes kept as = as := by
  have whole := @decodeBytes_append kept as h []
  simpa only [decodeBytes, List.append_nil] using whole

theorem hexByte?_byte {high low : Char} {b : UInt8}
    (digits : hexValue? [high, low] = some b.toNat) : hexByte? (byte high) (byte low) = some b := by
  obtain ⟨first, second⟩ := isHex_of_hexValue? digits
  rw [hexByte?, toNat_byte_of_ascii first.ascii, toNat_byte_of_ascii second.ascii, Char.ofNat_toNat,
    Char.ofNat_toNat, digits, Option.map_some]
  simp

theorem encode_escape {high low : Char} {n : Nat} (digits : hexValue? [high, low] = some n)
    (cs : List Char) :
    encode ('%' :: high :: low :: cs) = sign :: byte high :: byte low :: encode cs := by
  obtain ⟨first, second⟩ := isHex_of_hexValue? digits
  rw [encode_cons_ascii (by decide), encode_cons_ascii first.ascii, encode_cons_ascii second.ascii]
  rfl

/-- An escaped byte is decoded unless it is to be kept. -/
theorem decodeBytes_escape {high low : Char} {b : UInt8}
    (digits : hexValue? [high, low] = some b.toNat) (other : b ∉ kept) (bs : List UInt8) :
    decodeBytes kept (sign :: byte high :: byte low :: bs) = b :: decodeBytes kept bs := by
  rw [decodeBytes, if_pos rfl, hexByte?_byte digits]
  simp [other]

theorem decodeBytes_escape_of_mem {high low : Char} {b : UInt8}
    (digits : hexValue? [high, low] = some b.toNat) (mem : b ∈ kept) (bs : List UInt8) :
    decodeBytes kept (sign :: byte high :: byte low :: bs) =
      sign :: byte high :: byte low :: decodeBytes kept bs := by
  obtain ⟨first, second⟩ := isHex_of_hexValue? digits
  rw [decodeBytes, if_pos rfl, hexByte?_byte digits]
  simp [mem, decodeBytes_cons (byte_ne_sign first.ascii first.percent),
    decodeBytes_cons (byte_ne_sign second.ascii second.percent)]

/-- What is written for bytes of which none is kept is decoded. -/
theorem Encodes.decoded {cs : List Char} {bs : List UInt8} (h : Encodes cs bs)
    (other : ∀ b ∈ bs, b ∉ kept) (rest : List UInt8) :
    decodeBytes kept (encode cs ++ rest) = bs ++ decodeBytes kept rest := by
  induction h with
  | nil => rfl
  | plain plain _ ih =>
    rw [List.forall_mem_cons] at other
    have ascii := isPlain_ascii plain
    rw [encode_cons_ascii ascii, List.cons_append,
      decodeBytes_cons (byte_ne_sign ascii (isPlain_ne plain).2), ih other.2]
    rfl
  | escaped digits _ ih =>
    rw [List.forall_mem_cons] at other
    rw [encode_escape digits, List.cons_append, List.cons_append, List.cons_append,
      decodeBytes_escape digits other.1, ih other.2, List.cons_append]

/-- What is written for several bytes is written for the first ones and then for the others. -/
theorem Encodes.split {cs : List Char} {as bs : List UInt8} (h : Encodes cs (as ++ bs)) :
    ∃ ds es, cs = ds ++ es ∧ Encodes ds as ∧ Encodes es bs := by
  induction as generalizing cs with
  | nil => exact ⟨[], cs, rfl, .nil, h⟩
  | cons a as ih =>
    rw [List.cons_append] at h
    cases h with
    | plain plain rest =>
      obtain ⟨ds, es, rfl, front, back⟩ := ih rest
      exact ⟨_ :: ds, es, rfl, .plain plain front, back⟩
    | escaped digits rest =>
      obtain ⟨ds, es, rfl, front, back⟩ := ih rest
      exact ⟨_ :: _ :: _ :: ds, es, rfl, .escaped digits front, back⟩

theorem Encodes.of_singleton {cs : List Char} {b : UInt8} (h : Encodes cs [b]) :
    (∃ c, isPlain c = true ∧ byte c = b ∧ cs = [c]) ∨
      ∃ high low, hexValue? [high, low] = some b.toNat ∧ cs = ['%', high, low] := by
  cases h with
  | plain plain rest =>
    cases rest
    exact .inl ⟨_, plain, rfl, rfl⟩
  | escaped digits rest =>
    cases rest
    exact .inr ⟨_, _, digits, rfl⟩

theorem keptInPath_iff {b : UInt8} :
    b ∈ keptInPath ↔ b = byte '/' ∨ b = byte '%' ∨ b = byte '+' := by
  simp [keptInPath, byte]

theorem IsKept.ascii {c : Char} (h : IsKept c) : c.toNat < 0x80 := by
  rcases h with rfl | rfl | rfl <;> decide

theorem IsKept.mem_keptInPath {c : Char} (h : IsKept c) : byte c ∈ keptInPath := by
  rw [keptInPath_iff]
  rcases h with rfl | rfl | rfl <;> simp

theorem not_mem_keptInPath {c : Char} (h : ¬ IsKept c) {b : UInt8}
    (mem : b ∈ String.utf8EncodeChar c) : b ∉ keptInPath := by
  intro kept
  rw [keptInPath_iff] at kept
  rcases kept with rfl | rfl | rfl
  · exact h (.inl (Char.toNat_inj.1 (toNat_of_mem_utf8EncodeChar mem (by decide))))
  · exact h (.inr (.inl (Char.toNat_inj.1 (toNat_of_mem_utf8EncodeChar mem (by decide)))))
  · exact h (.inr (.inr (Char.toNat_inj.1 (toNat_of_mem_utf8EncodeChar mem (by decide)))))

/-- Where a path is cut, a text that was written as a segment is read but for what is kept. -/
theorem Encodes.reads {text cs : List Char} (h : Encodes cs (encode text)) :
    ∃ ds, Reads ds text ∧
      ∀ rest, decodeBytes keptInPath (encode cs ++ rest) =
        encode ds ++ decodeBytes keptInPath rest := by
  induction text generalizing cs with
  | nil =>
    cases h
    exact ⟨[], .nil, fun _ => rfl⟩
  | cons c text ih =>
    rw [encode_cons] at h
    obtain ⟨first, later, rfl, front, back⟩ := h.split
    obtain ⟨ds, reads, later⟩ := ih back
    by_cases kept : IsKept c
    · rw [utf8EncodeChar_ascii kept.ascii, ← byte] at front
      obtain ⟨d, plain, same, rfl⟩ | ⟨high, low, digits, rfl⟩ := front.of_singleton
      · obtain rfl := byte_inj (isPlain_ascii plain) kept.ascii same
        have other := isPlain_ne plain
        refine ⟨d :: ds, .char other.1 other.2 reads, fun rest => ?_⟩
        have ascii := isPlain_ascii plain
        rw [List.singleton_append, encode_cons_ascii ascii, encode_cons_ascii ascii,
          List.cons_append, decodeBytes_cons (byte_ne_sign ascii other.2), later, List.cons_append]
      · have value := digits
        rw [toNat_byte_of_ascii kept.ascii] at value
        refine ⟨'%' :: high :: low :: ds, .kept kept value reads, fun rest => ?_⟩
        simp only [List.cons_append, List.nil_append, encode_escape digits]
        rw [decodeBytes_escape_of_mem digits kept.mem_keptInPath, later]
    · have slash : c ≠ '/' := fun same => kept (.inl same)
      have percent : c ≠ '%' := fun same => kept (.inr (.inl same))
      refine ⟨c :: ds, .char slash percent reads, fun rest => ?_⟩
      rw [encode_append, List.append_assoc, front.decoded fun b => not_mem_keptInPath kept,
        later, encode_cons, List.append_assoc]

namespace Reads

variable {cs text : List Char}

theorem slash_not_mem (h : Reads cs text) : '/' ∉ cs := by
  induction h with
  | nil => exact List.not_mem_nil
  | char slash _ _ ih => simpa using ⟨Ne.symm slash, ih⟩
  | kept _ digits _ ih =>
    obtain ⟨first, second⟩ := isHex_of_hexValue? digits
    simpa using ⟨Ne.symm first.slash, Ne.symm second.slash, ih⟩

theorem eq_nil_iff (h : Reads cs text) : cs = [] ↔ text = [] := by
  cases h <;> simp

/-- What is still encoded is decoded with the segment. -/
theorem decode (h : Reads cs text) : decode cs = text := by
  have bytes : decodeBytes [] (encode cs) = encode text := by
    induction h with
    | nil => rfl
    | @char c cs text _ percent _ ih =>
      have unmarked : sign ∉ String.utf8EncodeChar c := fun mem =>
        percent (Char.toNat_inj.1 (toNat_of_mem_utf8EncodeChar mem (by decide)))
      rw [encode_cons, decodeBytes_append unmarked, ih, encode_cons]
    | @kept c high low cs text kept digits _ ih =>
      have ascii := kept.ascii
      rw [← toNat_byte_of_ascii ascii] at digits
      rw [encode_escape digits, decodeBytes_escape digits List.not_mem_nil, ih,
        encode_cons_ascii ascii]
  rw [Percent.decode, bytes, decodeLenient_encode]

/-- A word without characters that are kept is read as it is. -/
theorem eq_iff_of_not_kept (h : Reads cs text) {word : List Char}
    (plain : ∀ c ∈ word, ¬ IsKept c) : cs = word ↔ text = word := by
  induction h generalizing word with
  | nil => rfl
  | char _ _ _ ih =>
    cases word with
    | nil => simp
    | cons d word => simp [ih (List.forall_mem_cons.1 plain).2]
  | @kept c high low cs text kept _ _ ih =>
    -- a word that had a percent sign, or the character it is kept for, would not be plain
    constructor
    · rintro rfl
      exact absurd (.inr (.inl rfl)) (plain '%' List.mem_cons_self)
    · rintro rfl
      exact absurd kept (plain c List.mem_cons_self)

end Reads

end TunnelKeeper.Url.Percent
