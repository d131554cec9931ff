import TunnelKeeper.Proofs.Text.Digits
import TunnelKeeper.Proofs.Text.Trimmed

/-!
# Lines

The lines of a text are what stands between its line feeds. A text without a line feed is one line;
what is written behind such a text continues the line, and only its own line feeds begin further
lines.
-/
namespace TunnelKeeper.Text

def OneLine (s : String) : Prop := '\n' ∉ s.toList

instance (s : String) : Decidable (OneLine s) := inferInstanceAs (Decidable ('\n' ∉ s.toList))

def lines (s : String) : List String := (s.toList.splitOn '\n').map String.ofList

/-- The text up to its first line feed. -/
def firstLine (s : String) : String := (lines s).headD ""

/-- The lines that begin at a line feed. -/
def furtherLines (s : String) : List String := (lines s).tail

variable {s t : String}

theorem lines_of_oneLine (h : OneLine s) : lines s = [s] := by
  simp [lines, List.splitOn_eq_singleton h]

theorem firstLine_of_oneLine (h : OneLine s) : firstLine s = s := by
  simp [firstLine, lines_of_oneLine h]

theorem furtherLines_of_oneLine (h : OneLine s) : furtherLines s = [] := by
  simp [furtherLines, lines_of_oneLine h]

/-- A line feed ends a line. -/
theorem lines_append_newline (s t : String) : lines (s ++ "\n" ++ t) = lines s ++ lines t := by
  have cut : (s ++ "\n" ++ t).toList = s.toList ++ '\n' :: t.toList := by simp
  rw [lines, cut, List.splitOn_append_cons_self, List.map_append]
  rfl

theorem lines_eq_cons (s : String) : lines s = firstLine s :: furtherLines s := by
  rw [firstLine, furtherLines, lines]
  cases h : s.toList.splitOn '\n' with
  | nil => exact absurd h (List.splitOn_ne_nil _ _)
  | cons w ws => rfl

/-- What is written behind one line continues it. -/
theorem lines_append (h : OneLine s) (t : String) :
    lines (s ++ t) = (s ++ firstLine t) :: furtherLines t := by
  rw [lines, String.toList_append, splitOn_append_of_not_mem h, firstLine, furtherLines, lines]
  cases ht : t.toList.splitOn '\n' with
  | nil => exact absurd ht (List.splitOn_ne_nil _ _)
  | cons w ws => simp

theorem firstLine_append (h : OneLine s) (t : String) : firstLine (s ++ t) = s ++ firstLine t := by
  rw [firstLine, lines_append h]
  rfl

/-- The lines of several texts are their first lines and the further ones. -/
theorem count_flatMap_lines (l : String) (texts : List String) : (texts.flatMap lines).count l =
    (texts.map firstLine).count l + (texts.flatMap furtherLines).count l := by
  induction texts with
  | nil => rfl
  | cons s texts ih =>
    simp only [List.flatMap_cons, List.map_cons, List.count_append, List.count_cons, ih,
      lines_eq_cons s]
    omega

theorem OneLine.append (hs : OneLine s) (ht : OneLine t) : OneLine (s ++ t) := by
  simp_all [OneLine]

/-- A text whose characters all stand in one line. -/
theorem OneLine.of_subset (h : OneLine s) (sub : t.toList ⊆ s.toList) : OneLine t :=
  fun feed => h (sub feed)

theorem OneLine.trim (h : OneLine s) : OneLine (trim s) := by
  apply h.of_subset
  rw [Text.trim, String.toList_ofList]
  exact trimList_subset _

theorem oneLine_toString (n : Nat) : OneLine (toString n) := by
  have digits : (toString n).toList = decimal n := String.toList_ofList
  rw [OneLine, digits]
  exact fun feed => absurd (isDigit_of_mem_decimal feed).isBlank (by decide)

theorem oneLine_join {ws : List String} (h : ∀ w ∈ ws, OneLine w) :
    OneLine (", ".intercalate ws) := by
  rw [OneLine, toList_join]
  cases ws with
  | nil => simp
  | cons w ws =>
    rw [List.forall_mem_cons] at h
    have words : ∀ v ∈ w.toList :: (ws.map String.toList).map (' ' :: ·), ∀ c ∈ v, c ≠ '\n' := by
      simp only [List.forall_mem_cons, List.forall_mem_map]
      constructor
      · exact fun c hc same => h.1 (same ▸ hc)
      · exact fun v hv => ⟨by decide, fun c hc same => h.2 v hv (same ▸ hc)⟩
    rw [List.map_cons, intercalate_comma_space]
    exact fun feed => forall_mem_intercalate (by decide) words _ feed rfl

end TunnelKeeper.Text
