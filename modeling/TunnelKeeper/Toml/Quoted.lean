import TunnelKeeper.Text.Digits

/-!
# TOML strings

Basic strings stand between double quotes and know escapes, literal strings stand between single
quotes and know none. Either kind may run over several lines when its quotes are tripled; a line
feed directly after the opening quotes does not count, and line ends are kept as line feeds.
-/
namespace TunnelKeeper.Toml
open TunnelKeeper

/-- Characters that may not stand in a text: control characters without the tab. -/
def isControl (c : Char) : Bool := (c.toNat < 0x20 && c != '\t') || c.toNat == 0x7f

def simpleEscape? (c : Char) : Option Char :=
  if c = '\x22' ∨ c = '\\' then some c
  else if c = 'b' then some '\x08'
  else if c = 't' then some '\t'
  else if c = 'n' then some '\n'
  else if c = 'f' then some '\x0c'
  else if c = 'r' then some '\r'
  else if c = 'e' then some '\x1b'
  else none

/-- How many hexadecimal digits an escape by code point has. -/
def escapeDigits? (c : Char) : Option Nat :=
  if c = 'x' then some 2 else if c = 'u' then some 4 else if c = 'U' then some 8 else none

/-- The character with a code point, unless it is half a surrogate pair or out of range. -/
def scalar? (n : Nat) : Option Char := if n.isValidChar then some (Char.ofNat n) else none

/-- The character of an escape, whose backslash is gone, and what follows it. -/
def escape? : List Char → Option (Char × List Char)
  | [] => none
  | c :: cs =>
    match simpleEscape? c, escapeDigits? c with
    | some e, _ => some (e, cs)
    | none, some count =>
      if count ≤ cs.length then
        ((Text.hexValue? (cs.take count)).bind scalar?).map fun e => (e, cs.drop count)
      else none
    | none, none => none

theorem length_escape? {cs rest : List Char} {e : Char} (h : escape? cs = some (e, rest)) :
    rest.length < cs.length := by
  unfold escape? at h
  split at h
  · contradiction
  · rename_i c cs
    split at h
    · cases h
      simp
    · split at h
      · obtain ⟨a, _, h⟩ := Option.map_eq_some_iff.1 h
        cases h
        simp only [List.length_drop, List.length_cons]
        omega
      · contradiction
    · contradiction

/-- The text up to the closing double quote, and what follows it. -/
def basic : List Char → Option (List Char × List Char)
  | [] => none
  | c :: cs =>
    if c = '\x22' then some ([], cs)
    else if c = '\\' then
      match _h : escape? cs with
      | some (e, rest) => (basic rest).map fun p => (e :: p.1, p.2)
      | none => none
    else if isControl c then none
    else (basic cs).map fun p => (c :: p.1, p.2)
termination_by cs => cs.length
decreasing_by
  · have := length_escape? _h
    simp only [List.length_cons]
    omega
  · simp

/-- The text up to the closing single quote, and what follows it. -/
def literal : List Char → Option (List Char × List Char)
  | [] => none
  | c :: cs =>
    if c = '\x27' then some ([], cs)
    else if isControl c then none
    else (literal cs).map fun p => (c :: p.1, p.2)

/-- What follows a line end at the front, if there is one. -/
def lineEnd? : List Char → Option (List Char)
  | '\n' :: cs => some cs
  | '\r' :: '\n' :: cs => some cs
  | _ => none

def isSpace (c : Char) : Bool := c == ' ' || c == '\t'

/-- What follows the rest of a line that holds only blanks, if it does. -/
def blankLineEnd? (cs : List Char) : Option (List Char) := lineEnd? (cs.dropWhile isSpace)

/-- What remains of the next lines when blanks and line ends in front are passed over. -/
def skipLines (cs : List Char) : List Char :=
  cs.dropWhile fun c => isSpace c || c == '\n' || c == '\r'

def quoteRun (q : Char) (cs : List Char) : Nat := (cs.takeWhile (· == q)).length

/-- The text up to three closing quotes, and what follows them. Up to two further quotes directly
before the closing ones belong to the text. `fuel` is the number of characters that may be read. -/
def multiLine (q : Char) : (fuel : Nat) → List Char → Option (List Char × List Char)
  | 0, _ => none
  | _ + 1, [] => none
  | fuel + 1, c :: cs =>
    let add (c : Char) (rest : List Char) := (multiLine q fuel rest).map fun p => (c :: p.1, p.2)
    if c = q then
      let run := quoteRun q (c :: cs)
      if run < 3 then add c cs
      else
        let inside := min (run - 3) 2
        some (List.replicate inside q, (c :: cs).drop (inside + 3))
    else if c = '\\' ∧ q = '\x22' then
      match blankLineEnd? cs with
      | some rest => multiLine q fuel (skipLines rest)
      | none => (escape? cs).bind fun p => add p.1 p.2
    else
      match lineEnd? (c :: cs) with
      | some rest => add '\n' rest
      | none => if isControl c then none else add c cs

/-- The text of a string over several lines, whose opening quotes are gone. -/
def multiLineString (q : Char) (cs : List Char) : Option (List Char × List Char) :=
  let body := (lineEnd? cs).getD cs
  multiLine q (body.length + 1) body

/-- A string of any kind at the front, and what follows it. -/
def string? : List Char → Option (List Char × List Char)
  | '\x22' :: '\x22' :: '\x22' :: cs => multiLineString '\x22' cs
  | '\x27' :: '\x27' :: '\x27' :: cs => multiLineString '\x27' cs
  | '\x22' :: cs => basic cs
  | '\x27' :: cs => literal cs
  | _ => none

end TunnelKeeper.Toml
