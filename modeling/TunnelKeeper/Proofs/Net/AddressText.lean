import TunnelKeeper.Net.AddressText
import TunnelKeeper.Proofs.Text.Digits
import TunnelKeeper.Proofs.Text.Words

/-!
# Written addresses are read back

The text of an address is read as that address, in either family. The gap of an IPv6 text stands for
a run of zero groups that is really there, and no IPv6 text is read as an IPv4 address.
-/
namespace TunnelKeeper.Net.Address
open TunnelKeeper Text

def IsMark (c : Char) : Prop := c = '.' ∨ c = ':' ∨ IsDigit c

theorem octet?_decimal {n : Nat} (h : n < 256) : octet? (decimal n) = some n := by
  revert n
  decide +kernel

theorem v4Value?_v4Text (value : Nat) : v4Value? (v4Text value) = some (value % blockSize 32) := by
  have apart : ∀ w ∈ (octets value).map decimal, '.' ∉ w := by
    intro w hw dot
    obtain ⟨n, -, rfl⟩ := List.mem_map.1 hw
    exact (isDigit_of_mem_decimal dot).ne.1 rfl
  have read : ((octets value).map decimal).mapM octet? = some (octets value) :=
    mapM_map_eq_pure fun n hn => octet?_decimal (lt_of_mem_groups hn)
  rw [v4Value?, v4Text, List.splitOn_intercalate _ apart (by simp [octets, groups]), read]
  exact congrArg some (ofGroups_groups 8 4 value)

theorem isMark_of_mem_v4Text {value : Nat} : ∀ c ∈ v4Text value, IsMark c := by
  refine forall_mem_intercalate (.inl rfl) fun w hw c hc => ?_
  obtain ⟨n, -, rfl⟩ := List.mem_map.1 hw
  exact .inr (.inr (isDigit_of_mem_decimal hc))

/-- One word alone is no IPv4 address. -/
theorem v4Value?_of_not_mem {cs : List Char} (h : '.' ∉ cs) : v4Value? cs = none := by
  rw [v4Value?, List.splitOn_eq_singleton h]
  cases hc : octet? cs <;> simp [hc]

theorem octet?_eq_none {cs : List Char} (h : ':' ∈ cs) : octet? cs = none := by
  have digits : cs.all Char.isDigit = false := by
    rw [List.all_eq_false]
    exact ⟨':', h, by decide⟩
  unfold octet?
  split
  · rfl
  · simp [naturalUpTo?, natural?, digits]

/-- A text with a colon is no IPv4 address. -/
theorem v4Value?_of_colon {cs : List Char} (h : ':' ∈ cs) : v4Value? cs = none := by
  obtain ⟨w, hw, colon⟩ : ∃ w ∈ cs.splitOn '.', ':' ∈ w := by
    by_contra none
    push Not at none
    have marks : ∀ c ∈ ['.'].intercalate (cs.splitOn '.'), c ≠ ':' :=
      forall_mem_intercalate (by decide) fun w hw c hc same => none w hw (same ▸ hc)
    rw [List.intercalate_splitOn] at marks
    exact marks ':' h rfl
  have unread : (cs.splitOn '.').mapM octet? = none := by
    obtain ⟨front, back, split⟩ := List.append_of_mem hw
    rw [split, List.mapM_append, List.mapM_cons, octet?_eq_none colon]
    cases front.mapM octet? <;> rfl
  rw [v4Value?, unread]

theorem segment?_hexadecimal {g : Nat} (h : g < 65536) : segment? (hexadecimal g) = some g := by
  have filled : 1 ≤ (hexadecimal g).length := List.length_pos_iff.2 (hexadecimal_ne_nil g)
  rw [segment?, if_pos ⟨filled, length_hexadecimal_le h⟩, hexValue?_hexadecimal]

theorem mapM_segment? {gs : List Nat} (h : ∀ g ∈ gs, g < 65536) :
    (gs.map hexadecimal).mapM segment? = some gs :=
  mapM_map_eq_pure fun g hg => segment?_hexadecimal (h g hg)

theorem tailSegments?_map {gs : List Nat} (h : ∀ g ∈ gs, g < 65536) :
    tailSegments? (gs.map hexadecimal) = some gs := by
  unfold tailSegments?
  split
  case h_1 empty =>
    rw [List.reverse_eq_nil_iff, List.map_eq_nil_iff] at empty
    rw [empty]
  case h_2 last front hl =>
    have word : last ∈ gs.map hexadecimal := by
      rw [← List.mem_reverse, hl]
      exact List.mem_cons_self
    obtain ⟨g, -, rfl⟩ := List.mem_map.1 word
    rw [v4Value?_of_not_mem fun dot => (isDigit_of_mem_hexadecimal dot).ne.1 rfl]
    exact mapM_segment? h

theorem colon_not_mem_hexadecimal (g : Nat) : ':' ∉ hexadecimal g :=
  fun colon => (isDigit_of_mem_hexadecimal colon).ne.2.1 rfl

@[simp] theorem segmentsText_nil : segmentsText [] = [] := rfl

theorem segmentsText_cons_cons (g h : Nat) (gs : List Nat) :
    segmentsText (g :: h :: gs) = hexadecimal g ++ ':' :: segmentsText (h :: gs) := by
  simp [segmentsText, List.intercalate_cons_cons]

/-- Groups begin with a digit. -/
theorem segmentsText_cons_eq (g : Nat) (gs : List Nat) :
    ∃ c cs, segmentsText (g :: gs) = c :: cs ∧ c ≠ ':' := by
  obtain ⟨c, cs, hc⟩ := List.exists_cons_of_ne_nil (hexadecimal_ne_nil g)
  have digit : c ≠ ':' := by
    rintro rfl
    exact colon_not_mem_hexadecimal g (hc ▸ List.mem_cons_self)
  cases gs with
  | nil => exact ⟨c, cs, by simp [segmentsText, hc], digit⟩
  | cons h gs => exact ⟨c, _, by rw [segmentsText_cons_cons, hc]; rfl, digit⟩

theorem isMark_of_mem_segmentsText {gs : List Nat} : ∀ c ∈ segmentsText gs, IsMark c := by
  refine forall_mem_intercalate (.inr (.inl rfl)) fun w hw c hc => ?_
  obtain ⟨n, -, rfl⟩ := List.mem_map.1 hw
  exact .inr (.inr (isDigit_of_mem_hexadecimal hc))

theorem colonWords_segmentsText (gs : List Nat) :
    colonWords (segmentsText gs) = gs.map hexadecimal := by
  cases gs with
  | nil => rfl
  | cons g gs =>
    obtain ⟨c, cs, hc, -⟩ := segmentsText_cons_eq g gs
    have filled : (segmentsText (g :: gs)).isEmpty = false := by rw [hc]; rfl
    rw [colonWords, filled, segmentsText]
    apply List.splitOn_intercalate
    · intro w hw
      obtain ⟨n, -, rfl⟩ := List.mem_map.1 hw
      exact colon_not_mem_hexadecimal n
    · simp

theorem splitGap_cons {c : Char} {cs : List Char} (h : ¬ (c = ':' ∧ cs.head? = some ':')) :
    splitGap (c :: cs) = (splitGap cs).map fun p => (c :: p.1, p.2) := by
  cases cs with
  | nil => rfl
  | cons d cs =>
    rw [splitGap, if_neg]
    simpa using h

theorem splitGap_append {w : List Char} (h : ':' ∉ w) (cs : List Char) :
    splitGap (w ++ cs) = (splitGap cs).map fun p => (w ++ p.1, p.2) := by
  induction w with
  | nil => simp
  | cons c w ih =>
    simp only [List.mem_cons, not_or] at h
    rw [List.cons_append, splitGap_cons fun both => h.1 both.1.symm, ih h.2, Option.map_map]
    rfl

/-- There is no gap within groups. -/
theorem splitGap_segmentsText (gs : List Nat) (cs : List Char) :
    splitGap (segmentsText gs ++ cs) =
      (splitGap cs).map fun p => (segmentsText gs ++ p.1, p.2) := by
  induction gs with
  | nil => simp
  | cons g gs ih =>
    cases gs with
    | nil =>
      have alone : segmentsText [g] = hexadecimal g := by simp [segmentsText]
      rw [alone, splitGap_append (colon_not_mem_hexadecimal g)]
    | cons h gs =>
      obtain ⟨c, ds, hc, digit⟩ := segmentsText_cons_eq h gs
      have single : ¬ (':' = ':' ∧ (segmentsText (h :: gs) ++ cs).head? = some ':') := by
        simp [hc, digit]
      rw [segmentsText_cons_cons, List.append_assoc, splitGap_append (colon_not_mem_hexadecimal g),
        List.cons_append, splitGap_cons single, ih, Option.map_map, Option.map_map]
      simp [Function.comp_def]

theorem splitGap_segmentsText_eq_none (gs : List Nat) : splitGap (segmentsText gs) = none := by
  simpa [splitGap] using splitGap_segmentsText gs []

theorem splitGap_gap (gs : List Nat) (cs : List Char) :
    splitGap (segmentsText gs ++ ':' :: ':' :: cs) = some (segmentsText gs, cs) := by
  simpa [splitGap] using splitGap_segmentsText gs (':' :: ':' :: cs)

theorem leadingZeros_le (gs : List Nat) : leadingZeros gs ≤ gs.length :=
  (List.takeWhile_prefix _).length_le

/-- As many zeros as a list begins with stand at its front. -/
theorem take_of_le_leadingZeros {gs : List Nat} {n : Nat} (h : n ≤ leadingZeros gs) :
    gs.take n = List.replicate n 0 := by
  induction gs generalizing n with
  | nil =>
    cases Nat.le_zero.1 h
    rfl
  | cons g gs ih =>
    cases n with
    | zero => rfl
    | succ n =>
      by_cases zero : g = 0
      · subst zero
        have rest : n ≤ leadingZeros gs := by simpa [leadingZeros] using h
        rw [List.take_succ_cons, ih rest, List.replicate_succ]
      · simp [leadingZeros, zero] at h

/-- The zeros of the longest run are there. -/
theorem longestZeroRun_le (gs : List Nat) :
    (longestZeroRun gs).2 ≤ leadingZeros (gs.drop (longestZeroRun gs).1) := by
  unfold longestZeroRun
  generalize List.range gs.length = places
  have start : (0, 0).2 ≤ leadingZeros (gs.drop (0, 0).1) := Nat.zero_le _
  revert start
  generalize (0, 0) = best
  induction places generalizing best with
  | nil => exact id
  | cons i places ih =>
    intro h
    apply ih
    dsimp only
    split
    · exact Nat.le_refl _
    · exact h

/-- A list is what stands before its longest run of zeros, the run, and what stands after it. -/
theorem split_longestZeroRun (gs : List Nat) :
    gs = gs.take (longestZeroRun gs).1 ++ List.replicate (longestZeroRun gs).2 0 ++
      gs.drop ((longestZeroRun gs).1 + (longestZeroRun gs).2) := by
  have run := take_of_le_leadingZeros (longestZeroRun_le gs)
  rw [← run, List.append_assoc, ← List.drop_drop, List.take_append_drop, List.take_append_drop]

/-- An address that is written with an IPv4 tail. -/
theorem v6Value?_embedded {value : Nat}
    (h : (segments value).take 6 = [0, 0, 0, 0, 0, 0xffff]) :
    v6Value? ([':', ':', 'f', 'f', 'f', 'f', ':'] ++ v4Text value) =
      some (ofGroups 16 (segments value)) := by
  have gap : splitGap ([':', ':', 'f', 'f', 'f', 'f', ':'] ++ v4Text value) =
      some ([], ['f', 'f', 'f', 'f', ':'] ++ v4Text value) := rfl
  have tail : ':' ∉ v4Text value := by
    intro colon
    have unread := v4Value?_of_colon colon
    rw [v4Value?_v4Text] at unread
    contradiction
  have words : colonWords (['f', 'f', 'f', 'f', ':'] ++ v4Text value) =
      [['f', 'f', 'f', 'f'], v4Text value] := by
    change (['f', 'f', 'f', 'f'] ++ ':' :: v4Text value).splitOn ':' = _
    rw [List.splitOn_append_cons_self_of_not_mem (by decide), List.splitOn_eq_singleton tail]
  have read : tailSegments? [['f', 'f', 'f', 'f'], v4Text value] =
      some [0xffff, value % blockSize 32 / 65536, value % blockSize 32 % 65536] := by
    simp only [tailSegments?, List.reverse_cons, List.reverse_nil, List.nil_append,
      List.cons_append, v4Value?_v4Text]
    rfl
  have high : value % blockSize 32 / 65536 = value / blockSize 16 % blockSize 16 :=
    Nat.mod_mul_right_div_self value 65536 65536
  have low : value % blockSize 32 % 65536 = value % blockSize 16 :=
    Nat.mod_mul_right_mod value 65536 65536
  have last : (segments value).drop 6 =
      [value / blockSize 16 % blockSize 16, value / blockSize 0 % blockSize 16] := rfl
  have whole : segments value =
      [0, 0, 0, 0, 0, 0xffff, value / blockSize 16 % blockSize 16, value % blockSize 16] := by
    rw [← List.take_append_drop 6 (segments value), h, last]
    simp [blockSize]
  rw [v6Value?, gap]
  simp only [words, read, high, low, whole]
  rfl

/-- All groups are written. -/
theorem v6Value?_segmentsText {gs : List Nat} (bounded : ∀ g ∈ gs, g < 65536)
    (eight : gs.length = 8) : v6Value? (segmentsText gs) = some (ofGroups 16 gs) := by
  have read := tailSegments?_map bounded
  rw [v6Value?, splitGap_segmentsText_eq_none]
  simp only [colonWords_segmentsText, read, eight, if_true]

/-- A gap stands for the zeros that are missing. -/
theorem v6Value?_gap {front back : List Nat} (boundedFront : ∀ g ∈ front, g < 65536)
    (boundedBack : ∀ g ∈ back, g < 65536) (fits : front.length + back.length ≤ 7) :
    v6Value? (segmentsText front ++ [':', ':'] ++ segmentsText back) =
      some (ofGroups 16
        (front ++ List.replicate (8 - front.length - back.length) 0 ++ back)) := by
  have gap : splitGap (segmentsText front ++ [':', ':'] ++ segmentsText back) =
      some (segmentsText front, segmentsText back) := by
    rw [List.append_assoc]
    exact splitGap_gap front (segmentsText back)
  rw [v6Value?, gap]
  simp only [colonWords_segmentsText, mapM_segment? boundedFront, tailSegments?_map boundedBack]
  rw [if_pos fits]

theorem v6Value?_v6Text {value : Nat} (h : value < blockSize 128) :
    v6Value? (v6Text value) = some value := by
  have total : ofGroups 16 (segments value) = value := by
    rw [segments, ofGroups_groups]
    exact Nat.mod_eq_of_lt h
  have eight : (segments value).length = 8 := length_groups 16 8 value
  have bounded : ∀ g ∈ segments value, g < 65536 := fun _ hg => lt_of_mem_groups hg
  unfold v6Text
  dsimp only
  split
  case isTrue embedded => rw [v6Value?_embedded embedded, total]
  case isFalse =>
    split
    case isTrue => rw [v6Value?_segmentsText bounded eight, total]
    case isFalse long =>
      have within := longestZeroRun_le (segments value)
      have bound := leadingZeros_le ((segments value).drop (longestZeroRun (segments value)).1)
      have whole := split_longestZeroRun (segments value)
      revert long within bound whole
      generalize longestZeroRun (segments value) = run
      intro long within bound whole
      have front : ((segments value).take run.1).length = min run.1 8 := by
        rw [List.length_take, eight]
      have back : ((segments value).drop (run.1 + run.2)).length = 8 - (run.1 + run.2) := by
        rw [List.length_drop, eight]
      rw [List.length_drop, eight] at bound
      rw [v6Value?_gap (fun g hg => bounded g (List.mem_of_mem_take hg))
        (fun g hg => bounded g (List.mem_of_mem_drop hg)) (by omega)]
      have zeros : 8 - ((segments value).take run.1).length -
          ((segments value).drop (run.1 + run.2)).length = run.2 := by omega
      rw [zeros, ← whole, total]

theorem v4Value?_v6Text (value : Nat) : v4Value? (v6Text value) = none := by
  apply v4Value?_of_colon
  unfold v6Text
  dsimp only
  split
  · simp
  · split
    · have two : ∃ g h gs, segments value = g :: h :: gs := ⟨_, _, _, rfl⟩
      obtain ⟨g, h, gs, two⟩ := two
      simp [two, segmentsText_cons_cons]
    · simp

theorem isMark_of_mem_v6Text {value : Nat} : ∀ c ∈ v6Text value, IsMark c := by
  have colon : IsMark ':' := .inr (.inl rfl)
  have digit : IsMark 'f' := .inr (.inr ⟨15, by decide, rfl⟩)
  unfold v6Text
  dsimp only
  split
  · rw [List.forall_mem_append]
    exact ⟨by simp [colon, digit], isMark_of_mem_v4Text⟩
  split
  · exact isMark_of_mem_segmentsText
  · rw [List.forall_mem_append, List.forall_mem_append]
    exact ⟨⟨isMark_of_mem_segmentsText, by simp [colon]⟩, isMark_of_mem_segmentsText⟩

theorem isMark_of_mem_text {a : Address} : ∀ c ∈ a.text, IsMark c := by
  unfold text
  split
  · exact isMark_of_mem_v4Text
  · exact isMark_of_mem_v6Text

end TunnelKeeper.Net.Address
