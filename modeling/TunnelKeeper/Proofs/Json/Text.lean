import TunnelKeeper.Proofs.Json.Token

/-!
# Written values

Every value without broken strings and without numbers that are no integers is read back from its
text. The characters of a value take a reader that awaits a value to the stage where it has that
value, whatever is still open around it.
-/
namespace TunnelKeeper.Json
open TunnelKeeper

/-- Values whose strings all have a text and whose numbers are all integers. -/
inductive Plain : Json → Prop
  | null : Plain .null
  | bool (b : Bool) : Plain (.bool b)
  | integer (n : Int) : Plain (.integer n)
  | text (s : String) : Plain (.text s)
  | array {elements : List Json} (plain : ∀ j ∈ elements, Plain j) : Plain (.array elements)
  | object {members : List (JsonText × Json)} (named : ∀ m ∈ members, m.1.isSome = true)
      (plain : ∀ m ∈ members, Plain m.2) : Plain (.object members)

/-- Whether the characters take a reader from one stage to another, before any text that ends
numbers and words. -/
def Advances (cs : List Char) (p q : Progress) : Prop :=
  ∃ ts : List Token, ts.foldlM Progress.step p = some q ∧
    ∀ rest, EndsScalar rest → tokens? (cs ++ rest) = (tokens? rest).map (ts ++ ·)

variable {p q r : Progress} {cs ds : List Char} {stack : List Frame}

namespace Advances

theorem nil : Advances [] p p := ⟨[], rfl, fun _ _ => by simp⟩

theorem scalar {j : Json} (step : p.step (.scalar j) = some q)
    (read : ∀ rest, EndsScalar rest → tokens? (cs ++ rest) = (tokens? rest).map (.scalar j :: ·)) :
    Advances cs p q :=
  ⟨[.scalar j], by simp [step], read⟩

/-- A mark may stand before anything. -/
theorem cons {c : Char} {t : Token} (mark : punctuation? c = some t) (step : p.step t = some q)
    (next : Advances cs q r) : Advances (c :: cs) p r := by
  obtain ⟨ts, steps, read⟩ := next
  refine ⟨t :: ts, by simp [step, steps], ?_⟩
  intro rest ends
  rw [List.cons_append, tokens?_punctuation mark, read rest ends, Option.map_map]
  rfl

/-- A mark may stand after anything. -/
theorem append {c : Char} {t : Token} (first : Advances cs p q) (mark : punctuation? c = some t)
    (next : Advances (c :: ds) q r) : Advances (cs ++ c :: ds) p r := by
  obtain ⟨ts, steps, read⟩ := first
  obtain ⟨us, steps', read'⟩ := next
  refine ⟨ts ++ us, by simp [List.foldlM_append, steps, steps'], ?_⟩
  intro rest ends
  have endsMark : EndsScalar (c :: ds ++ rest) := endsScalar_cons mark _
  rw [List.append_assoc, read _ endsMark, read' rest ends, Option.map_map]
  congr 1
  funext vs
  simp

end Advances

/-- Whether a value may come next, inside what is open on the stack. -/
def AwaitsValue (p : Progress) (stack : List Frame) : Prop :=
  ∀ t q, Progress.start stack t = some q → p.step t = some q

/-- Whether a name may come next, after these members of an object. -/
def AwaitsName (p : Progress) (members : List (JsonText × Json)) (stack : List Frame) : Prop :=
  ∀ s, p.step (.scalar (.string s)) = some (.colon members s stack)

theorem awaitsValue_value (stack : List Frame) : AwaitsValue (.value stack) stack := fun _ _ h => h

theorem awaitsValue_first (stack : List Frame) :
    AwaitsValue (.first stack) (.array [] :: stack) := by
  intro t q h
  cases t with
  | closeArray => contradiction
  | _ => exact h

/-- Whether the characters of a value are read as that value wherever it stands. -/
def ReadsBack (j : Json) : Prop :=
  ∀ p stack, AwaitsValue p stack → Advances (write j) p (.complete j stack)

theorem readsBack_scalar {j : Json}
    (read : ∀ rest, EndsScalar rest →
      tokens? (write j ++ rest) = (tokens? rest).map (.scalar j :: ·)) : ReadsBack j :=
  fun _ _ awaits => .scalar (awaits _ _ rfl) read

theorem advances_elements {elements : List Json} (given : elements ≠ [])
    (read : ∀ j ∈ elements, ReadsBack j) {done : List Json}
    (awaits : AwaitsValue p (.array done :: stack)) :
    Advances (writeElements elements ++ [']']) p
      (.complete (.array (done.reverse ++ elements)) stack) := by
  induction elements generalizing p done with
  | nil => contradiction
  | cons j js ih =>
    rw [List.forall_mem_cons] at read
    have first : Advances (write j) p (.next (.array (j :: done)) stack) := read.1 p _ awaits
    cases js with
    | nil =>
      refine first.append (t := .closeArray) rfl (.cons rfl rfl ?_)
      rw [List.reverse_cons]
      exact .nil
    | cons k ks =>
      have awaitsNext := awaitsValue_value (.array (j :: done) :: stack)
      have rest := ih (List.cons_ne_nil k ks) read.2 awaitsNext
      rw [List.reverse_cons, List.append_assoc] at rest
      change Advances (write j ++ ',' :: writeElements (k :: ks) ++ [']']) p _
      rw [List.append_assoc]
      exact first.append (t := .comma) rfl (.cons rfl rfl rest)

theorem readsBack_array {elements : List Json} (read : ∀ j ∈ elements, ReadsBack j) :
    ReadsBack (.array elements) := by
  intro p stack awaits
  apply Advances.cons (t := .openArray) rfl (awaits _ _ rfl)
  cases elements with
  | nil => exact .cons (t := .closeArray) rfl rfl .nil
  | cons j js => exact advances_elements (List.cons_ne_nil j js) read (awaitsValue_first stack)

variable {members : List (JsonText × Json)}

theorem advances_member {s : String} {j : Json} (read : ReadsBack j)
    (awaits : AwaitsName p members stack) :
    Advances (stringLiteral s ++ ':' :: write j) p
      (.next (.object ((some s, j) :: members)) stack) := by
  have name : Advances (stringLiteral s) p (.colon members (some s) stack) :=
    .scalar (awaits _) fun rest _ => tokens?_stringLiteral s rest
  exact name.append (t := .colon) rfl (.cons rfl rfl (read _ _ (awaitsValue_value _)))

theorem advances_members (given : members ≠ []) (named : ∀ m ∈ members, m.1.isSome = true)
    (read : ∀ m ∈ members, ReadsBack m.2) {done : List (JsonText × Json)}
    (awaits : AwaitsName p done stack) :
    Advances (writeMembers members ++ ['\x7d']) p
      (.complete (.object (done.reverse ++ members)) stack) := by
  induction members generalizing p done with
  | nil => contradiction
  | cons m ms ih =>
    rw [List.forall_mem_cons] at named read
    obtain ⟨_ | s, j⟩ := m
    · simp at named
    have first := advances_member (s := s) read.1 awaits
    cases ms with
    | nil =>
      refine first.append (t := .closeObject) rfl (.cons rfl rfl ?_)
      rw [List.reverse_cons]
      exact .nil
    | cons n ns =>
      have awaitsNext :
          AwaitsName (.name ((some s, j) :: done) stack) ((some s, j) :: done) stack :=
        fun _ => rfl
      have rest := ih (List.cons_ne_nil n ns) named.2 read.2 awaitsNext
      rw [List.reverse_cons, List.append_assoc] at rest
      change Advances
        (stringLiteral s ++ ':' :: write j ++ ',' :: writeMembers (n :: ns) ++ ['\x7d']) p _
      rw [List.append_assoc]
      exact first.append (t := .comma) rfl (.cons rfl rfl rest)

theorem readsBack_object (named : ∀ m ∈ members, m.1.isSome = true)
    (read : ∀ m ∈ members, ReadsBack m.2) : ReadsBack (.object members) := by
  intro p stack awaits
  apply Advances.cons (t := .openObject) rfl (awaits _ _ rfl)
  cases members with
  | nil => exact .cons (t := .closeObject) rfl rfl .nil
  | cons m ms =>
    have awaitsFirst : AwaitsName (.firstName stack) [] stack := fun _ => rfl
    exact advances_members (List.cons_ne_nil m ms) named read awaitsFirst

theorem Plain.readsBack {j : Json} (h : Plain j) : ReadsBack j := by
  induction h with
  | null => exact readsBack_scalar fun rest => tokens?_word rfl
  | bool b =>
    apply readsBack_scalar
    intro rest
    cases b <;> exact tokens?_word rfl
  | integer n => exact readsBack_scalar fun rest => tokens?_integerLiteral n
  | text s => exact readsBack_scalar fun rest _ => tokens?_stringLiteral s rest
  | array _ ih => exact readsBack_array ih
  | object named _ ih => exact readsBack_object named ih

/-- A plain value is read back from its text. -/
theorem Plain.ofText?_toText {j : Json} (h : Plain j) : ofText? j.toText = some j := by
  obtain ⟨ts, steps, read⟩ := h.readsBack _ _ (awaitsValue_value [])
  have ends : EndsScalar [] := nofun
  have tokens : tokens? (write j) = some ts := by
    have whole := read [] ends
    rw [List.append_nil, tokens?] at whole
    simpa using whole
  rw [ofText?, toText, String.toList_ofList, tokens, Option.bind_some, ofTokens?, steps]
  rfl

end TunnelKeeper.Json
