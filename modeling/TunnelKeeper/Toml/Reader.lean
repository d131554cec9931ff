import TunnelKeeper.Toml.Quoted
import TunnelKeeper.Toml.Scalar

/-!
# Keys and values of TOML

Readers for keys and values at the front of a text. A key is a row of names with dots between them.
Arrays and tables between braces may run over several lines, hold comments and end with a comma, and
may not be nested deeper than a fixed limit.
-/
namespace TunnelKeeper.Toml
open TunnelKeeper

def isBareChar (c : Char) : Bool := c.isAlphanum || c == '_' || c == '-'

/-- One name of a key, and what follows it. -/
def name? (cs : List Char) : Option (String × List Char) :=
  match cs with
  | '\x22' :: rest => (basic rest).map fun p => (String.ofList p.1, p.2)
  | '\x27' :: rest => (literal rest).map fun p => (String.ofList p.1, p.2)
  | cs =>
    let bare := cs.takeWhile isBareChar
    if bare.isEmpty then none else some (String.ofList bare, cs.drop bare.length)

/-- The names of a key, and what follows it. `fuel` is the number of names that may be read. -/
def key : (fuel : Nat) → List Char → Option (List String × List Char)
  | 0, _ => none
  | fuel + 1, cs =>
    match name? cs with
    | none => none
    | some (n, rest) =>
      match rest.dropWhile isSpace with
      | '.' :: more => (key fuel (more.dropWhile isSpace)).map fun p => (n :: p.1, p.2)
      | rest => some ([n], rest)

def key? (cs : List Char) : Option (List String × List Char) := key (cs.length + 1) cs

/-- What follows a comment, without the line end; a comment holds no control characters. -/
def comment? (cs : List Char) : Option (List Char) :=
  let text := cs.takeWhile fun c => c != '\n' && c != '\r'
  let rest := cs.drop text.length
  if text.any isControl then none
  else if rest.isEmpty || (lineEnd? rest).isSome then some rest else none

/-- What follows blanks, line ends and comments. `fuel` is the number of steps that may be made. -/
def skip : (fuel : Nat) → List Char → Option (List Char)
  | 0, _ => none
  | fuel + 1, cs =>
    match cs.dropWhile isSpace with
    | '#' :: rest => (comment? rest).bind (skip fuel)
    | rest =>
      match lineEnd? rest with
      | some rest => skip fuel rest
      | none => some rest

def skip? (cs : List Char) : Option (List Char) := skip (cs.length + 1) cs

/-- Adds a value under a row of names. Tables on the way may only be ones that dotted keys made, or
that are implied by a header, and nothing may be there under the last name. -/
def insertKey : List String → Toml → List (String × Toml) → Option (List (String × Toml))
  | [], _, _ => none
  | [n], v, entries =>
    if (entries.lookup n).isSome then none else some (entries ++ [(n, v)])
  | n :: ns, v, entries =>
    match entries.lookup n with
    | none => (insertKey ns v []).map fun inner => entries ++ [(n, .table .dotted inner)]
    | some (.table origin inner) =>
      if origin = .dotted ∨ origin = .implied then
        (insertKey ns v inner).map fun inner =>
          entries.map fun e => if e.1 = n then (n, .table origin inner) else e
      else none
    | some _ => none

def endsWord (c : Char) : Bool :=
  isSpace c || c == '\n' || c == '\r' || c == ',' || c == ']' || c == '\x7d' || c == '#'

/-- A word at the front, and what follows it. A date takes in a time after a single space. -/
def wordAt (cs : List Char) : List Char × List Char :=
  let first := cs.takeWhile (! endsWord ·)
  let rest := cs.drop first.length
  match rest with
  | ' ' :: d :: more =>
    if isDate first && d.isDigit then
      let second := (d :: more).takeWhile (! endsWord ·)
      (first ++ ' ' :: second, (d :: more).drop second.length)
    else (first, rest)
  | _ => (first, rest)

def maxDepth : Nat := 80

mutual

/-- A value at the front inside `depth` others, and what follows it. -/
def value : (fuel depth : Nat) → List Char → Option (Toml × List Char)
  | 0, _, _ => none
  | fuel + 1, depth, cs =>
    match cs with
    | '[' :: rest => if maxDepth ≤ depth then none else elements fuel (depth + 1) [] rest
    | '\x7b' :: rest => if maxDepth ≤ depth then none else entries fuel (depth + 1) [] rest
    | '\x22' :: _ => (string? cs).map fun p => (.string (String.ofList p.1), p.2)
    | '\x27' :: _ => (string? cs).map fun p => (.string (String.ofList p.1), p.2)
    | cs =>
      let p := wordAt cs
      (word? p.1).map (·, p.2)

/-- The elements of an array after the ones that were read, in reverse. -/
def elements : (fuel depth : Nat) → List Toml → List Char → Option (Toml × List Char)
  | 0, _, _, _ => none
  | fuel + 1, depth, before, cs =>
    match skip? cs with
    | none => none
    | some (']' :: rest) => some (.array before.reverse, rest)
    | some cs =>
      match value fuel depth cs with
      | none => none
      | some (v, rest) =>
        match skip? rest with
        | some (',' :: rest) => elements fuel depth (v :: before) rest
        | some (']' :: rest) => some (.array (v :: before).reverse, rest)
        | _ => none

/-- The entries of a table between braces after the ones that were read. -/
def entries : (fuel depth : Nat) → List (String × Toml) → List Char → Option (Toml × List Char)
  | 0, _, _, _ => none
  | fuel + 1, depth, before, cs =>
    match skip? cs with
    | none => none
    | some ('\x7d' :: rest) => some (.table .braces before, rest)
    | some cs =>
      match key? cs with
      | some (names, '=' :: rest) =>
        match value fuel depth (rest.dropWhile isSpace) with
        | none => none
        | some (v, rest) =>
          match insertKey names v before, skip? rest with
          | some now, some (',' :: rest) => entries fuel depth now rest
          | some now, some ('\x7d' :: rest) => some (.table .braces now, rest)
          | _, _ => none
      | _ => none

end

/-- A value at the front, and what follows it. -/
def value? (cs : List Char) : Option (Toml × List Char) := value (2 * cs.length + 2) 0 cs

end TunnelKeeper.Toml
