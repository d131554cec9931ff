import TunnelKeeper.Proofs.ConfigFile.ReadBack

/-!
# Injected lines

A line feed inside a text begins a line that the text alone decides. All other lines of the file of
an interface are its own: one heading for the interface, one for each enabled peer, comments, and
settings of fields that give something. So a file without injected lines says what it should, which
is so where no text has a line feed; but texts are written as they are, and any of them can inject
headings and hooks, that of a disabled peer included.
-/
namespace TunnelKeeper.ConfigFile
open TunnelKeeper Text

/-- What a written text shows up to its first line feed, unless it is a heading. -/
inductive Own (fields : List Field) : String → Prop
  | empty : Own fields ""
  | comment (s : String) : Own fields ("# " ++ s)
  | entry {f : Field} (hf : f ∈ fields) (key : IsKey f.1) (given : f.2.IsGiven) :
    Own fields (f.1 ++ " = " ++ f.2.value)

/-- Its first line is passed over or shows the field. -/
theorem Own.ofText {fields : List Field} {l : String} (h : Own fields l) :
    Line.ofText (firstLine l) = .skipped ∨
      ∃ f ∈ fields, f.2.IsGiven ∧ ∃ value, Line.ofText (firstLine l) = .setting f.1 value := by
  cases h with
  | empty => exact .inl rfl
  | comment s =>
    left
    rw [firstLine_append (by decide), Line.ofText_comment]
  | @entry f hf key given =>
    refine .inr ⟨f, hf, given, firstLine f.2.value, ?_⟩
    rw [firstLine_append (key.oneLine.append (by decide)), Line.ofText_setting key]

theorem Own.firstLine_ne {fields : List Field} {l heading name : String} (h : Own fields l)
    (hheading : Line.ofText heading = .heading name) : firstLine l ≠ heading := by
  rintro rfl
  rcases h.ofText with skipped | ⟨f, -, -, value, setting⟩
  · rw [hheading] at skipped
    contradiction
  · rw [hheading] at setting
    contradiction

variable {fields : List Field}

theorem own_fields (keyed : Keyed fields) : ∀ l ∈ fields.flatMap Field.lines, Own fields l := by
  intro l hl
  obtain ⟨f, hf, hl⟩ := List.mem_flatMap.1 hl
  rw [Field.lines_eq] at hl
  split at hl
  case isTrue given =>
    rw [List.mem_singleton.1 hl]
    exact .entry hf (keyed.keys f hf) given
  case isFalse => contradiction

/-- Whether lines are a heading with own lines around it. -/
def IsSection (heading : String) (fields : List Field) (ls : List String) : Prop :=
  ∃ before behind, ls = before ++ heading :: behind ∧ (∀ l ∈ before, Own fields l) ∧
    ∀ l ∈ behind, Own fields l

variable {ls : List String} {heading name : String}

theorem count_own (h : ∀ l ∈ ls, Own fields l) (hheading : Line.ofText heading = .heading name) :
    (ls.map firstLine).count heading = 0 := by
  rw [List.count_eq_zero, List.mem_map]
  rintro ⟨l, hl, same⟩
  exact (h l hl).firstLine_ne hheading same

namespace IsSection

variable {shown : String}

theorem own (h : IsSection shown fields ls) : ∀ l ∈ ls, l = shown ∨ Own fields l := by
  obtain ⟨before, behind, rfl, hbefore, hbehind⟩ := h
  intro l hl
  rcases List.mem_append.1 hl with hl | hl
  · exact .inr (hbefore l hl)
  · rcases List.mem_cons.1 hl with same | hl
    · exact .inl same
    · exact .inr (hbehind l hl)

theorem count (h : IsSection shown fields ls) (one : OneLine shown)
    (hheading : Line.ofText heading = .heading name) :
    (ls.map firstLine).count heading = if shown = heading then 1 else 0 := by
  obtain ⟨before, behind, rfl, hbefore, hbehind⟩ := h
  simp [count_own hbefore hheading, count_own hbehind hheading, firstLine_of_oneLine one,
    List.count_cons]

end IsSection

theorem isSection_own (keyed : Keyed fields) (version name publicKey : String) :
    IsSection "[Interface]" fields (ownSection version name publicKey fields) := by
  refine ⟨_, _, rfl, ?_, List.forall_mem_append.2 ⟨?_, own_fields keyed⟩⟩
  · rw [generated_comment]
    simp only [List.forall_mem_cons]
    exact ⟨.comment _, .comment _, List.forall_mem_nil _⟩
  · rw [publicKey_comment]
    cases nonBlank? publicKey with
    | none => exact List.forall_mem_nil _
    | some key => exact List.forall_mem_singleton.2 (.comment _)

theorem isSection_other (keyed : Keyed fields) (name : String) :
    IsSection "[Peer]" fields (otherSection name fields) := by
  refine ⟨_, _, rfl, ?_, own_fields keyed⟩
  simp only [List.forall_mem_cons]
  exact ⟨.empty, .comment _, List.forall_mem_nil _⟩

theorem own_disabled (role : Role) {p : Peer} (disabled : p.isDisabled = true) :
    ∀ l ∈ peerSection role p, Own (peerFields role p) l := by
  rw [peerSection, if_pos disabled, disabled_comment]
  simp only [List.forall_mem_cons]
  exact ⟨.empty, .comment _, List.forall_mem_nil _⟩

theorem isSection_peer (role : Role) {p : Peer} (enabled : p.isDisabled = false) :
    IsSection "[Peer]" (peerFields role p) (peerSection role p) := by
  rw [peerSection_eq role enabled]
  exact isSection_other (keyed_peerFields role p) _

theorem isSection_interface (version : String) (i : Interface) :
    IsSection "[Interface]" (interfaceFields i) (interfaceSection version i) := by
  rw [interfaceSection_eq]
  exact isSection_own (keyed_interfaceFields i) _ _ _

/-- Each enabled peer shows one heading. -/
theorem count_peers (role : Role) (peers : List Peer)
    (hheading : Line.ofText heading = .heading name) :
    ((peers.flatMap (peerSection role)).map firstLine).count heading =
      if "[Peer]" = heading then (peers.filter fun p => !p.isDisabled).length else 0 := by
  induction peers with
  | nil => simp
  | cons p peers ih =>
    rw [List.flatMap_cons, List.map_append, List.count_append, ih]
    cases state : p.isDisabled with
    | false =>
      rw [(isSection_peer role state).count (by decide) hheading]
      split <;> simp [state, Nat.add_comm]
    | true =>
      rw [count_own (own_disabled role state) hheading]
      simp [state]

/-- The lines that begin at a line feed inside a written text. -/
def injected (version : String) (i : Interface) (peers : List Peer) : List String :=
  (interfaceLines version i peers).flatMap furtherLines

theorem count_interfaceFile (version : String) (i : Interface) (peers : List Peer)
    (filled : heading ≠ "") (hheading : Line.ofText heading = .heading name) :
    (lines (interfaceFile version i peers)).count heading =
      (if "[Interface]" = heading then 1 else 0) +
        (if "[Peer]" = heading then (peers.filter fun p => !p.isDisabled).length else 0) +
        (injected version i peers).count heading := by
  rw [interfaceFile, lines_unlines, List.count_append, count_flatMap_lines, interfaceLines,
    List.map_append, List.count_append, count_peers i.role peers hheading,
    (isSection_interface version i).count (by decide) hheading]
  simp [injected, interfaceLines, filled.symm]

/-- A hook does not show a field of a peer. -/
theorem hook_ne_peerField {h : Hooks String} {role : Role} {p : Peer} {hook f : Field}
    (hhook : hook ∈ hookFields h) (hf : f ∈ peerFields role p) : hook.1 ≠ f.1 := by
  have apart : ∀ key ∈ ["PreUp", "PostUp", "PreDown", "PostDown"], ∀ key' ∈
      ["PublicKey", "PresharedKey", "AllowedIPs", "Endpoint", "PersistentKeepalive"],
      key ≠ key' := by decide
  apply apart
  · exact List.mem_map_of_mem (f := Prod.fst) hhook
  · have key := List.mem_map_of_mem (f := Prod.fst) hf
    cases role <;> simp [peerFields] at key ⊢ <;> tauto

/-- A written text that shows a hook in its first line shows one that is set. -/
theorem isGiven_of_hook {version : String} {i : Interface} {peers : List Peer} {hook : Field}
    (hhook : hook ∈ hookFields i.hooks) {l value : String}
    (hl : l ∈ interfaceLines version i peers)
    (shown : Line.ofText (firstLine l) = .setting hook.1 value) : hook.2.IsGiven := by
  have of_own {fields : List Field} (own : Own fields l) :
      ∃ f ∈ fields, f.2.IsGiven ∧ f.1 = hook.1 := by
    rcases own.ofText with skipped | ⟨f, hf, given, _, setting⟩
    · rw [shown] at skipped
      contradiction
    · rw [shown] at setting
      injection setting with same
      exact ⟨f, hf, given, same.symm⟩
  have of_peer {p : Peer} (own : Own (peerFields i.role p) l) : hook.2.IsGiven := by
    obtain ⟨f, hf, -, same⟩ := of_own own
    exact absurd same.symm (hook_ne_peerField hhook hf)
  rw [interfaceLines, List.mem_append, List.mem_flatMap] at hl
  rcases hl with hl | ⟨p, -, hl⟩
  · rcases (isSection_interface version i).own l hl with rfl | own
    · have heading : Line.ofText (firstLine "[Interface]") = .heading "Interface" := by decide
      rw [heading] at shown
      contradiction
    · obtain ⟨f, hf, given, same⟩ := of_own own
      have hook_eq := List.inj_on_of_nodup_map (keyed_interfaceFields i).distinct hf
        (List.mem_append_right _ hhook) same
      exact hook_eq ▸ given
  · cases state : p.isDisabled with
    | true => exact of_peer (own_disabled i.role state l hl)
    | false =>
      rcases (isSection_peer i.role state).own l hl with rfl | own
      · have heading : Line.ofText (firstLine "[Peer]") = .heading "Peer" := by decide
        rw [heading] at shown
        contradiction
      · exact of_peer own

/-- All lines of a file that no text injected are its own. -/
theorem lines_own_or_injected (version : String) (i : Interface) (peers : List Peer) :
    (lines (interfaceFile version i peers)).count "[Interface]" =
        1 + (injected version i peers).count "[Interface]" ∧
      (lines (interfaceFile version i peers)).count "[Peer]" =
        (peers.filter fun p => !p.isDisabled).length +
          (injected version i peers).count "[Peer]" ∧
      (∀ hook ∈ hookFields i.hooks, ∀ value,
        hook.1 ++ " = " ++ value ∈ lines (interfaceFile version i peers) →
        hook.2.IsGiven ∨ hook.1 ++ " = " ++ value ∈ injected version i peers) ∧
      (OneLine version → (∀ t ∈ interfaceTexts i, OneLine t) →
        (∀ p ∈ peers, ∀ t ∈ peerTexts i.role p, OneLine t) → injected version i peers = []) := by
  refine ⟨?_, ?_, ?_, ?_⟩
  · have heading : Line.ofText "[Interface]" = .heading "Interface" := by decide
    rw [count_interfaceFile version i peers (by decide) heading]
    simp
  · have heading : Line.ofText "[Peer]" = .heading "Peer" := by decide
    rw [count_interfaceFile version i peers (by decide) heading]
    simp
  · intro hook hhook value hline
    have key : IsKey hook.1 :=
      (keyed_interfaceFields i).keys hook (List.mem_append_right _ hhook)
    have shown := Line.ofText_setting key value
    rw [interfaceFile, lines_unlines, List.mem_append, List.mem_flatMap] at hline
    rcases hline with ⟨l, hl, hline⟩ | last
    · rw [lines_eq_cons, List.mem_cons] at hline
      rcases hline with first | further
      · rw [first] at shown
        exact .inl (isGiven_of_hook hhook hl shown)
      · exact .inr (List.mem_flatMap_of_mem hl further)
    · rw [List.mem_singleton.1 last] at shown
      cases shown
  · intro hversion own others
    rw [injected, List.flatMap_eq_nil_iff]
    have written := showSections_interfaceLines hversion own others
    exact fun l hl => furtherLines_of_oneLine (written.oneLine l hl)

def spoiltInterface : Interface := { id := ⟨"wg0"⟩, displayName := "a\n[Interface]" }

def spoilingPeers : List Peer :=
  [{ id := ⟨"b"⟩, displayName := "b\nPostUp = reboot #", disabledAt := some .epoch },
    { id := ⟨"c"⟩, displayName := "c\n[Peer]" }]

/-- Names of records bring in two headings and a hook. -/
theorem names_inject_lines :
    (lines (interfaceFile "0" spoiltInterface spoilingPeers)).count "[Interface]" ≠ 1 ∧
      (lines (interfaceFile "0" spoiltInterface spoilingPeers)).count "[Peer]" ≠
        (spoilingPeers.filter fun p => !p.isDisabled).length ∧
      "PostUp" ++ " = " ++ "reboot # is disabled" ∈
        lines (interfaceFile "0" spoiltInterface spoilingPeers) ∧
      ¬ (Source.text spoiltInterface.hooks.postUp).IsGiven := by
  decide +kernel

end TunnelKeeper.ConfigFile
