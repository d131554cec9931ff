import TunnelKeeper.ConfigFile.Render
import TunnelKeeper.Proofs.Text.Lines
import TunnelKeeper.Proofs.Text.Trimmed

/-!
# Reading configuration files

A file is read line by line. Blank lines and comments are passed over, a name in brackets begins a
section, and any other line is a setting, cut at the first equals sign that stands between spaces.
Lines that are none of these, and settings before the first section, are not accepted. Lines that
show settings, and lines that show sections, do so whatever follows them, so that parts of a file
are read one by one.
-/
namespace TunnelKeeper.ConfigFile
open TunnelKeeper Text

inductive Line where
  | skipped
  | heading (name : String)
  | setting (key value : String)
  | other
deriving DecidableEq, Repr

/-- What stands before and behind the first place where a mark stands. -/
def cut? (mark : List Char) : List Char → Option (List Char × List Char)
  | [] => none
  | c :: cs =>
    if mark.isPrefixOf (c :: cs) then some ([], (c :: cs).drop mark.length)
    else (cut? mark cs).map fun (before, behind) => (c :: before, behind)

def Line.ofText (s : String) : Line :=
  let cs := s.toList
  if isBlankText s || cs.head? = some '#' then .skipped
  else if cs.head? = some '[' && cs.getLast? = some ']' then
    .heading (String.ofList cs.tail.dropLast)
  else
    match cut? [' ', '=', ' '] cs with
    | some (key, value) => .setting (String.ofList key) (String.ofList value)
    | none => .other

def IsKey (key : String) : Prop := key.toList ≠ [] ∧ key.toList.all Char.isAlpha = true

instance (key : String) : Decidable (IsKey key) :=
  inferInstanceAs (Decidable (key.toList ≠ [] ∧ key.toList.all Char.isAlpha = true))

theorem IsKey.isAlpha {key : String} (h : IsKey key) : ∀ c ∈ key.toList, c.isAlpha = true :=
  List.all_eq_true.1 h.2

theorem IsKey.oneLine {key : String} (h : IsKey key) : OneLine key :=
  fun feed => by simpa using h.isAlpha '\n' feed

theorem isBlank_of_isAlpha {c : Char} (h : c.isAlpha = true) : isBlank c = false := by
  have letter := toNat_of_isAlpha h
  simp only [isBlank, Bool.or_eq_false_iff, Bool.and_eq_false_iff, decide_eq_false_iff_not,
    beq_eq_false_iff_ne]
  omega

theorem cut?_key {cs : List Char} (h : ' ' ∉ cs) (value : List Char) :
    cut? [' ', '=', ' '] (cs ++ ' ' :: '=' :: ' ' :: value) = some (cs, value) := by
  induction cs with
  | nil => rfl
  | cons c cs ih =>
    rw [List.mem_cons, not_or] at h
    simp [cut?, h.1, ih h.2]

namespace Line

theorem ofText_comment (s : String) : ofText ("# " ++ s) = .skipped := by
  simp [ofText]

theorem ofText_setting {key : String} (h : IsKey key) (value : String) :
    ofText (key ++ " = " ++ value) = .setting key value := by
  have space : ' ' ∉ key.toList := fun space => by simpa using h.isAlpha ' ' space
  have read := cut?_key space value.toList
  have back := String.ofList_toList (s := key)
  obtain ⟨c, cs, hc⟩ := List.exists_cons_of_ne_nil h.1
  have letter : c.isAlpha = true := h.isAlpha c (hc ▸ List.mem_cons_self)
  have comment : c ≠ '#' := by
    rintro rfl
    contradiction
  have bracket : c ≠ '[' := by
    rintro rfl
    contradiction
  rw [hc, List.cons_append] at read
  rw [hc] at back
  simp [ofText, isBlankText, hc, isBlank_of_isAlpha letter, comment, bracket, read, back]

end Line

theorem unlines_cons (l : String) (ls : List String) :
    unlines (l :: ls) = l ++ "\n" ++ unlines ls := by
  simp [unlines]

theorem unlines_append (ls ls' : List String) :
    unlines (ls ++ ls') = unlines ls ++ unlines ls' := by
  simp [unlines]

/-- The lines of a file that is written line by line. -/
theorem lines_unlines (ls : List String) : lines (unlines ls) = ls.flatMap lines ++ [""] := by
  induction ls with
  | nil => rfl
  | cons l ls ih =>
    rw [unlines_cons, lines_append_newline, ih, List.flatMap_cons, List.append_assoc]

theorem lines_unlines_of_oneLine {ls : List String} (h : ∀ l ∈ ls, OneLine l) :
    lines (unlines ls) = ls ++ [""] := by
  rw [lines_unlines, List.flatMap_congr fun l hl => lines_of_oneLine (h l hl)]
  simp

structure Section where
  name : String
  settings : List (String × String) := []
deriving DecidableEq, Repr

/-- The settings before the first heading, and the sections. -/
def collect : List Line → Option (List (String × String) × List Section)
  | [] => some ([], [])
  | .skipped :: ls => collect ls
  | .heading name :: ls =>
    (collect ls).map fun (settings, sections) => ([], ⟨name, settings⟩ :: sections)
  | .setting key value :: ls =>
    (collect ls).map fun (settings, sections) => ((key, value) :: settings, sections)
  | .other :: _ => none

def read (file : String) : Option (List Section) :=
  match collect ((lines file).map Line.ofText) with
  | some ([], sections) => some sections
  | _ => none

/-- Whether lines show settings of the section in which they stand. -/
structure ShowSettings (ls : List String) (settings : List (String × String)) : Prop where
  oneLine : ∀ l ∈ ls, OneLine l
  reads : ∀ rest more sections, collect rest = some (more, sections) →
    collect (ls.map Line.ofText ++ rest) = some (settings ++ more, sections)

structure ShowSections (ls : List String) (sections : List Section) : Prop where
  oneLine : ∀ l ∈ ls, OneLine l
  reads : ∀ rest more, collect rest = some ([], more) →
    collect (ls.map Line.ofText ++ rest) = some ([], sections ++ more)

variable {ls ls' : List String}

namespace ShowSettings

variable {settings settings' : List (String × String)}

theorem nil : ShowSettings [] [] where
  oneLine := List.forall_mem_nil _
  reads _ _ _ h := h

theorem append (h : ShowSettings ls settings) (h' : ShowSettings ls' settings') :
    ShowSettings (ls ++ ls') (settings ++ settings') where
  oneLine := List.forall_mem_append.2 ⟨h.oneLine, h'.oneLine⟩
  reads rest more sections hrest := by
    rw [List.map_append, List.append_assoc, List.append_assoc]
    exact h.reads _ _ _ (h'.reads _ _ _ hrest)

theorem skipped {l : String} (one : OneLine l) (h : Line.ofText l = .skipped) :
    ShowSettings [l] [] where
  oneLine := List.forall_mem_singleton.2 one
  reads rest more sections hrest := by
    rw [List.map_singleton, h]
    exact hrest

theorem setting {key value : String} (hkey : IsKey key) (one : OneLine value) :
    ShowSettings [key ++ " = " ++ value] [(key, value)] where
  oneLine := List.forall_mem_singleton.2 ((hkey.oneLine.append (by decide)).append one)
  reads rest more sections hrest := by
    rw [List.map_singleton, Line.ofText_setting hkey]
    change (collect rest).map _ = _
    rw [hrest]
    rfl

end ShowSettings

namespace ShowSections

variable {sections sections' : List Section}

theorem nil : ShowSections [] [] where
  oneLine := List.forall_mem_nil _
  reads _ _ h := h

theorem append (h : ShowSections ls sections) (h' : ShowSections ls' sections') :
    ShowSections (ls ++ ls') (sections ++ sections') where
  oneLine := List.forall_mem_append.2 ⟨h.oneLine, h'.oneLine⟩
  reads rest more hrest := by
    rw [List.map_append, List.append_assoc, List.append_assoc]
    exact h.reads _ _ (h'.reads _ _ hrest)

theorem of_comments (h : ShowSettings ls []) : ShowSections ls [] where
  oneLine := h.oneLine
  reads rest more hrest := h.reads rest [] more hrest

/-- A heading with settings behind it. -/
theorem heading {l name : String} {settings : List (String × String)} (one : OneLine l)
    (hl : Line.ofText l = .heading name) (h : ShowSettings ls settings) :
    ShowSections (l :: ls) [⟨name, settings⟩] where
  oneLine := List.forall_mem_cons.2 ⟨one, h.oneLine⟩
  reads rest more hrest := by
    rw [List.map_cons, hl]
    change (collect (ls.map Line.ofText ++ rest)).map _ = _
    rw [h.reads rest [] more hrest, List.append_nil]
    rfl

/-- Lines that show sections are a file of these sections. -/
theorem read_unlines (h : ShowSections ls sections) : read (unlines ls) = some sections := by
  have whole := h.reads [.skipped] [] rfl
  rw [List.append_nil] at whole
  have last : Line.ofText "" = .skipped := rfl
  rw [read, lines_unlines_of_oneLine h.oneLine, List.map_append, List.map_singleton, last, whole]

end ShowSections

end TunnelKeeper.ConfigFile
