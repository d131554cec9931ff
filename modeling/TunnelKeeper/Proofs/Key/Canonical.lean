import TunnelKeeper.Proofs.Effect
import TunnelKeeper.Proofs.Key.Text
import TunnelKeeper.Proofs.Text.Utf8

/-!
# Keys have one text

Only base64 text that the bytes are written as is read: what is read is written as it was read. A
group is taken apart as it was put together, since its symbols stand for six bits each and its spare
bits are zero. So the text of a key, with blank characters around it or not, is all that is read as
the key.
-/
namespace TunnelKeeper.Key
open TunnelKeeper Text

namespace Base64

theorem of_sextet? {b : UInt8} {n : Nat} (h : sextet? b = some n) : n < 64 ∧ symbol n = b := by
  have all : ∀ m < 256, ∀ n ∈ sextet? (UInt8.ofNat m), n < 64 ∧ symbol n = UInt8.ofNat m := by
    decide +kernel
  have here := all b.toNat b.toNat_lt
  rw [UInt8.ofNat_toNat] at here
  exact here n h

theorem of_sextets {bs : List UInt8} {ns : List Nat} {offset : Nat}
    (h : sextets offset bs = .ok ns) : (∀ n ∈ ns, n < 64) ∧ bs = ns.map symbol := by
  induction bs generalizing ns offset with
  | nil =>
    cases h
    exact ⟨List.forall_mem_nil _, rfl⟩
  | cons b bs ih =>
    rw [sextets] at h
    cases first : sextet? b with
    | none => simp [first] at h
    | some n =>
      simp only [first] at h
      cases rest : sextets (offset + 1) bs with
      | error e => simp [rest, Except.map] at h
      | ok ms =>
        simp only [rest, Except.map, Except.ok.injEq] at h
        obtain ⟨below, rfl⟩ := of_sextet? first
        obtain ⟨belows, rfl⟩ := ih rest
        subst h
        exact ⟨List.forall_mem_cons.2 ⟨below, belows⟩, rfl⟩

/-- Sextets that leave no bits over are those of their bytes. -/
theorem encode_bytesOf {ns : List Nat} (below : ∀ n ∈ ns, n < 64) (two : 2 ≤ ns.length)
    (four : ns.length ≤ 4) (spare : spareBits ns = 0) :
    encode (bytesOf ns) = ns.map symbol ++ List.replicate (4 - ns.length) pad := by
  have byte {n : Nat} (h : n < 256) : n.toUInt8.toNat = n := Nat.mod_eq_of_lt h
  match ns, two, four with
  | [a, b], _, _ =>
    simp only [List.forall_mem_cons] at below
    obtain ⟨ha, hb, -⟩ := below
    change b % 16 = 0 at spare
    have first : (a * 4 + b / 16) / 4 = a := by omega
    have second : (a * 4 + b / 16) % 4 * 16 = b := by omega
    simp only [bytesOf, encode]
    rw [byte (by omega), first, second]
    rfl
  | [a, b, c], _, _ =>
    simp only [List.forall_mem_cons] at below
    obtain ⟨ha, hb, hc, -⟩ := below
    change c % 4 = 0 at spare
    have first : (a * 4 + b / 16) / 4 = a := by omega
    have second : (a * 4 + b / 16) % 4 * 16 + (b % 16 * 16 + c / 4) / 16 = b := by omega
    have third : (b % 16 * 16 + c / 4) % 16 * 4 = c := by omega
    simp only [bytesOf, encode]
    rw [byte (by omega), byte (by omega), first, second, third]
    rfl
  | [a, b, c, d], _, _ =>
    simp only [List.forall_mem_cons] at below
    obtain ⟨ha, hb, hc, hd, -⟩ := below
    have first : (a * 4 + b / 16) / 4 = a := by omega
    have second : (a * 4 + b / 16) % 4 * 16 + (b % 16 * 16 + c / 4) / 16 = b := by omega
    have third : (b % 16 * 16 + c / 4) % 16 * 4 + (c % 4 * 64 + d) / 64 = c := by omega
    have fourth : (c % 4 * 64 + d) % 64 = d := by omega
    simp only [bytesOf, encode]
    rw [byte (by omega), byte (by omega), byte (by omega), first, second, third, fourth]
    rfl

/-- What a last group that is read consists of: two symbols or more, unless there is nothing at all,
and then padding, up to a whole group. -/
structure LastGroup (bs : List UInt8) (ns : List Nat) : Prop where
  below : ∀ n ∈ ns, n < 64
  filled : 2 ≤ ns.length ∨ bs = []
  spare : spareBits ns = 0
  whole : bs.length % 4 = 0
  eq : bs = ns.map symbol ++ List.replicate (bs.length - ns.length) pad

theorem of_decodeLast {bs out : List UInt8} {offset : Nat} (h : decodeLast offset bs = .ok out) :
    ∃ ns, LastGroup bs ns ∧ out = bytesOf ns := by
  unfold decodeLast at h
  have parts := List.prefix_iff_eq_append.1 (List.takeWhile_prefix (l := bs) (· ≠ pad))
  generalize bs.takeWhile (· ≠ pad) = body at h parts
  obtain ⟨ns, read, h⟩ := bind_eq_ok_iff.1 h
  simp only [check_eq_ok_iff] at h
  obtain ⟨padded, filled, whole, spare, bytes⟩ := h
  obtain ⟨below, rfl⟩ := of_sextets read
  generalize bs.drop (ns.map symbol).length = tail at padded parts
  rw [List.length_map] at filled
  have pads : tail = List.replicate tail.length pad := by
    rw [List.eq_replicate_iff]
    refine ⟨rfl, fun b hb => by_contra fun other => padded ⟨List.ne_nil_of_mem hb, .inr ?_⟩⟩
    exact List.any_eq_true.2 ⟨b, hb, by simpa using other⟩
  have eq : bs = ns.map symbol ++ List.replicate (bs.length - ns.length) pad := by
    have rest : bs.length - ns.length = tail.length := by
      rw [← parts, List.length_append, List.length_map, Nat.add_sub_cancel_left]
    rw [rest, ← pads, parts]
  refine ⟨ns, ⟨below, ?_, ?_, ?_, eq⟩, (Except.ok.inj bytes).symm⟩
  · by_contra! few
    exact filled few
  · exact not_not.1 spare
  · exact not_not.1 whole

theorem encode_of_decodeLast {bs out : List UInt8} {offset : Nat} (short : bs.length ≤ 4)
    (h : decodeLast offset bs = .ok out) : encode out = bs := by
  obtain ⟨ns, ⟨below, filled, spare, whole, eq⟩, rfl⟩ := of_decodeLast h
  have fits : ns.length ≤ bs.length := by
    rw [eq, List.length_append, List.length_map]
    exact Nat.le_add_right _ _
  obtain two | rfl := filled
  · have four : bs.length = 4 := by omega
    rw [encode_bytesOf below two (fits.trans short) spare, ← four, ← eq]
  · rw [List.eq_nil_of_length_eq_zero (Nat.le_zero.1 fits)]
    rfl

theorem encode_append {group rest : List UInt8} (h : group.length = 3) :
    encode (group ++ rest) = encode group ++ encode rest := by
  match group, h with
  | [a, b, c], _ => rfl

theorem encode_of_decodeFrom {bs out : List UInt8} {offset : Nat}
    (h : decodeFrom offset bs = .ok out) : encode out = bs := by
  induction offset, bs using decodeFrom.induct generalizing out with
  | case1 offset a b c d e rest ih =>
    rw [decodeFrom] at h
    obtain ⟨ns, first, h⟩ := bind_eq_ok_iff.1 h
    obtain ⟨bytes, later, h⟩ := bind_eq_ok_iff.1 h
    cases h
    obtain ⟨below, group⟩ := of_sextets first
    have four : ns.length = 4 := by simpa using (congrArg List.length group).symm
    obtain ⟨n, m, l, k, rfl⟩ := List.length_eq_four.1 four
    rw [encode_append rfl, encode_bytesOf below (Nat.le_add_left 2 2) le_rfl rfl, ← group, ih later]
    rfl
  | case2 offset bs short =>
    have four : bs.length ≤ 4 := by
      rcases bs with _ | ⟨a, _ | ⟨b, _ | ⟨c, _ | ⟨d, _ | ⟨e, rest⟩⟩⟩⟩⟩
      case cons.cons.cons.cons.cons => exact (short a b c d e rest rfl).elim
      all_goals simp
    rw [decodeFrom] at h
    · exact encode_of_decodeLast four h
    · exact short

/-- What is read is written as it was read. -/
theorem encode_of_decode {bs out : List UInt8} (h : decode bs = .ok out) : encode out = bs := by
  unfold decode at h
  cases last : bs.getLast? with
  | none =>
    rw [last] at h
    cases h
    exact (List.getLast?_eq_none_iff.1 last).symm
  | some b =>
    simp only [last] at h
    split at h
    · cases h
    · exact encode_of_decodeFrom h

end Base64

theorem bytes_of_ofBytes? {bytes : List UInt8} {k : Key} (h : ofBytes? bytes = some k) :
    k.bytes = bytes := by
  unfold ofBytes? at h
  split at h
  · cases h
    rfl
  · cases h

/-- A key is read from its own text only, which may have blank characters around it. -/
theorem parse_eq_ok_iff {s : String} {k : Key} : parse s = .ok k ↔ trim s = k.text := by
  constructor
  · intro read
    unfold parse at read
    cases bytes : Base64.decode ((trimList s.toList).flatMap String.utf8EncodeChar) with
    | error e => simp [bytes] at read
    | ok out =>
      have written : k.bytes = out := by
        simp only [bytes] at read
        cases found : ofBytes? out with
        | none => simp [found] at read
        | some l =>
          simp only [found, Except.ok.injEq] at read
          exact read ▸ bytes_of_ofBytes? found
      have same := Base64.encode_of_decode bytes
      rw [← written, ← utf8_text] at same
      rw [trim, ← encode_injective same, String.ofList_toList]
  · intro same
    rw [← parse_trim, same, parse_text]

/-- A key is read from its text, and whatever is read as the key is that text once the blank
characters around it are gone. So two trimmed texts of one key are the same. -/
theorem one_text_each (k : Key) :
    parse k.text = .ok k ∧ (∀ s, parse s = .ok k → trim s = k.text) ∧
      ∀ s t, Trimmed s.toList → Trimmed t.toList → parse s = .ok k → parse t = .ok k → s = t := by
  refine ⟨parse_text k, fun s => parse_eq_ok_iff.1, fun s t hs ht read read' => ?_⟩
  rw [← trim_of_trimmed hs, ← trim_of_trimmed ht, parse_eq_ok_iff.1 read, parse_eq_ok_iff.1 read']

/-- The key of zeros, read with blank characters around it and without them. -/
theorem one_text_each_zero :
    let zero : Key := ⟨List.replicate 32 0, rfl⟩
    let bare := "AAAAAAAAAAAAAAAAAAAAAAAAAAAAAAAAAAAAAAAAAAA="
    let padded := "\tAAAAAAAAAAAAAAAAAAAAAAAAAAAAAAAAAAAAAAAAAAA= \n"
    (parse padded = .ok zero ∧ trim padded = zero.text) ∧
      Trimmed bare.toList ∧ parse bare = .ok zero ∧ bare = zero.text := by
  intro zero bare padded
  have trimmed : Trimmed bare.toList := trimmed_iff.2 (by decide +kernel)
  have trimmed' : Trimmed zero.text.toList := trimmed_iff.2 (by decide +kernel)
  exact ⟨⟨by decide +kernel, (one_text_each zero).2.1 padded (by decide +kernel)⟩, trimmed,
    by decide +kernel, (one_text_each zero).2.2 bare zero.text trimmed trimmed'
      (by decide +kernel) (one_text_each zero).1⟩

/-- Two bits of the last symbol belong to no byte and must be zero. -/
example : parse "AAAAAAAAAAAAAAAAAAAAAAAAAAAAAAAAAAAAAAAAAAB=" =
    .error (.encoding (.lastSymbol 66 42)) := by
  decide +kernel

end TunnelKeeper.Key
