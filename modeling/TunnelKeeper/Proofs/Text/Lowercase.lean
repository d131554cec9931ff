import Mathlib.Data.List.Infix
import TunnelKeeper.Text.Lowercase

/-!
# Lower case of a part of a text

What stands around a part of a text decides the lower case of its capital sigmas and of nothing
else. A part therefore reads the same in lower case wherever it stands, as long as each capital
sigma in it ends a word in the part exactly if it ends a word in the whole text. Only a cased letter
that touches the part can make a difference, and only for a sigma at that end of the part, where
characters ignored for case are passed over.
-/
namespace TunnelKeeper.Text

variable {a b n part whole : List Char}

theorem occursIn_iff : occursIn part whole = true ↔ part <:+: whole := by
  induction whole with
  | nil => rw [occursIn, List.isEmpty_iff, List.infix_nil]
  | cons c cs ih =>
    rw [occursIn, Bool.or_eq_true, List.isPrefixOf_iff_prefix, ih, List.infix_cons_iff]

/-- The lower case of a character, for a capital sigma by whether it ends a word. -/
def lowerOf (wordEnd : Bool) (c : Char) : List Char :=
  if c = 'Σ' then [if wordEnd then 'ς' else 'σ']
  else if c = 'İ' then ['i', '\u0307']
  else [lowerChar c]

/-- The lower case of a part of a text; `before` holds what precedes it, the nearest first, and
`after` what follows it. -/
def lowerWithin (before after : List Char) : List Char → List Char
  | [] => []
  | c :: cs => lowerOf (isWordEnd before (cs ++ after)) c ++ lowerWithin (c :: before) after cs

theorem lowerAfter_append (before part after : List Char) :
    lowerAfter before (part ++ after) =
      lowerWithin before after part ++ lowerAfter (part.reverse ++ before) after := by
  induction part generalizing before with
  | nil => rfl
  | cons c cs ih =>
    have head : lowerAfter before (c :: (cs ++ after)) =
        lowerOf (isWordEnd before (cs ++ after)) c ++ lowerAfter (c :: before) (cs ++ after) := rfl
    rw [List.cons_append, head, ih, lowerWithin, List.append_assoc, List.reverse_cons,
      List.append_assoc, List.singleton_append]

theorem lowerAfter_eq (before part : List Char) :
    lowerAfter before part = lowerWithin before [] part := by
  have whole := lowerAfter_append before part []
  rwa [List.append_nil, lowerAfter, List.append_nil] at whole

theorem lowercaseList_eq (part : List Char) : lowercaseList part = lowerWithin [] [] part :=
  lowerAfter_eq [] part

/-- The lower case of a text is that of its parts, each with what stands around it. -/
theorem lowercaseList_append (a n b : List Char) :
    lowercaseList (a ++ n ++ b) =
      lowerWithin [] (n ++ b) a ++ lowerWithin a.reverse b n ++
        lowerWithin (n.reverse ++ a.reverse) [] b := by
  rw [lowercaseList, List.append_assoc, lowerAfter_append, lowerAfter_append, lowerAfter_eq,
    List.append_nil, List.append_assoc]

/-- Whether the capital sigmas of a text end words in it exactly if they do between two others. -/
def SameWordEnds (a b n : List Char) : Prop :=
  ∀ u v, n = u ++ 'Σ' :: v → isWordEnd (u.reverse ++ a.reverse) (v ++ b) = isWordEnd u.reverse v

/-- Only a capital sigma looks around itself. -/
theorem lowerOf_eq_iff {x y : Bool} {c : Char} : lowerOf x c = lowerOf y c ↔ (c = 'Σ' → x = y) := by
  unfold lowerOf
  split
  case isTrue sigma => cases x <;> cases y <;> simp [sigma]
  case isFalse other => simp [other]

theorem length_lowerOf (x y : Bool) (c : Char) : (lowerOf x c).length = (lowerOf y c).length := by
  unfold lowerOf
  split <;> rfl

/-- A text reads the same in lower case between two others and on its own exactly if its capital
sigmas end the same words. -/
theorem lowerWithin_eq_iff : lowerWithin a.reverse b n = lowercaseList n ↔ SameWordEnds a b n := by
  -- the characters that were passed stay at hand, since they decide how the next sigma is read
  suffices passed : ∀ p, lowerWithin (p ++ a.reverse) b n = lowerWithin p [] n ↔
      ∀ u v, n = u ++ 'Σ' :: v →
        isWordEnd (u.reverse ++ (p ++ a.reverse)) (v ++ b) = isWordEnd (u.reverse ++ p) v by
    simpa only [lowercaseList_eq, SameWordEnds, List.nil_append, List.append_nil] using passed []
  induction n with
  | nil => simp [lowerWithin]
  | cons c cs ih =>
    intro p
    have rest := ih (c :: p)
    have parts : lowerWithin (p ++ a.reverse) b (c :: cs) = lowerWithin p [] (c :: cs) ↔
        (c = 'Σ' → isWordEnd (p ++ a.reverse) (cs ++ b) = isWordEnd p cs) ∧
          lowerWithin (c :: p ++ a.reverse) b cs = lowerWithin (c :: p) [] cs := by
      rw [lowerWithin, lowerWithin, List.append_nil, ← lowerOf_eq_iff]
      constructor
      · exact fun same => List.append_inj same (length_lowerOf _ _ c)
      · rintro ⟨head, tail⟩
        rw [head, ← tail]
        rfl
    rw [parts, rest]
    constructor
    · rintro ⟨head, tail⟩ u v split
      cases u with
      | nil =>
        cases split
        exact head rfl
      | cons d u =>
        cases split
        simpa using tail u v rfl
    · intro all
      constructor
      · rintro rfl
        exact all [] cs rfl
      · rintro u v rfl
        simpa using all (c :: u) v rfl

/-- What follows is looked at only where nothing else stops the look. -/
theorem startsCased_append (n b : List Char) :
    startsCased (n ++ b) = (startsCased n || n.all isCaseIgnorable && startsCased b) := by
  induction n with
  | nil => rfl
  | cons c cs ih =>
    unfold startsCased at ih ⊢
    cases ignored : isCaseIgnorable c with
    | true => simpa [ignored] using ih
    | false => simp [ignored]

/-- A capital sigma reads the same if on either side something in the text itself stops the look, or
no cased letter follows beyond. -/
theorem sameWordEnds_of_settled (settled : ∀ u v, n = u ++ 'Σ' :: v →
    (u.all isCaseIgnorable = true → startsCased a.reverse = false) ∧
      (v.all isCaseIgnorable = true → startsCased b = false)) : SameWordEnds a b n := by
  have stopped {w c : List Char} (h : w.all isCaseIgnorable = true → startsCased c = false) :
      startsCased (w ++ c) = startsCased w := by
    rw [startsCased_append]
    cases ignored : w.all isCaseIgnorable with
    | true => rw [h ignored, Bool.and_false, Bool.or_false]
    | false => rw [Bool.false_and, Bool.or_false]
  intro u v split
  obtain ⟨front, back⟩ := settled u v split
  rw [isWordEnd, stopped (by rwa [List.all_reverse]), stopped back, isWordEnd]

theorem sameWordEnds_of_not_mem (none : 'Σ' ∉ n) : SameWordEnds a b n := by
  rintro u v rfl
  simp at none

end TunnelKeeper.Text
