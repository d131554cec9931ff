import TunnelKeeper.Toml.Reader

/-!
# TOML documents

A document is a row of lines: entries, table headers, comments and blank lines. Entries belong to
the table of the last header. A table has one header at most, tables under doubled headers form an
array, and no value is given twice.
-/
namespace TunnelKeeper.Toml
open TunnelKeeper

abbrev Entries := List (String × Toml)

def replace (n : String) (v : Toml) (es : Entries) : Entries :=
  es.map fun e => if e.1 = n then (n, v) else e

/-- Changes the entries of a table, or of the last of several tables. -/
def changeInner (f : Entries → Option Entries) : Toml → Option Toml
  | .table origin es => if origin = .braces then none else (f es).map (.table origin)
  | .tables ts =>
    match ts.getLast? with
    | some (.table origin es) => (f es).map fun es => .tables (ts.dropLast ++ [.table origin es])
    | _ => none
  | _ => none

/-- Changes the entries of the table under a row of names, which is made if it is not there. -/
def changeAt (f : Entries → Option Entries) : List String → Entries → Option Entries
  | [], es => f es
  | n :: ns, es =>
    match es.lookup n with
    | none => (changeAt f ns []).map fun inner => es ++ [(n, .table .implied inner)]
    | some v => (changeInner (changeAt f ns) v).map fun v => replace n v es

/-- Gives a table its header: it must be new or only implied so far. -/
def openTable (n : String) (es : Entries) : Option Entries :=
  match es.lookup n with
  | none => some (es ++ [(n, .table .header [])])
  | some (.table .implied inner) => some (replace n (.table .header inner) es)
  | some _ => none

/-- Adds a table under a doubled header. -/
def addTable (n : String) (es : Entries) : Option Entries :=
  match es.lookup n with
  | none => some (es ++ [(n, .tables [.table .header []])])
  | some (.tables ts) => some (replace n (.tables (ts ++ [.table .header []])) es)
  | some _ => none

def header (f : String → Entries → Option Entries) (names : List String) (es : Entries) :
    Option Entries :=
  match names.reverse with
  | [] => none
  | last :: before => changeAt (f last) before.reverse es

/-- What follows the end of a line that holds nothing more than a comment. -/
def finishLine (cs : List Char) : Option (List Char) :=
  let after :=
    match cs.dropWhile isSpace with
    | '#' :: rest => comment? rest
    | rest => some rest
  match after with
  | some [] => some []
  | some rest => lineEnd? rest
  | none => none

/-- The document so far: all entries, and the names of the last header. -/
structure Draft where
  entries : Entries := []
  current : List String := []

/-- One line that is not blank, and what follows it. -/
def line (d : Draft) (cs : List Char) : Option (Draft × List Char) :=
  match cs with
  | '[' :: '[' :: rest =>
    match key? (rest.dropWhile isSpace) with
    | some (names, ']' :: ']' :: rest) => do
      let es ← header addTable names d.entries
      return (⟨es, names⟩, ← finishLine rest)
    | _ => none
  | '[' :: rest =>
    match key? (rest.dropWhile isSpace) with
    | some (names, ']' :: rest) => do
      let es ← header openTable names d.entries
      return (⟨es, names⟩, ← finishLine rest)
    | _ => none
  | cs =>
    match key? cs with
    | some (names, '=' :: rest) => do
      let (v, rest) ← value? (rest.dropWhile isSpace)
      let es ← changeAt (insertKey names v) d.current d.entries
      return (⟨es, d.current⟩, ← finishLine rest)
    | _ => none

/-- All lines. `fuel` is the number of lines that may be read. -/
def lines : (fuel : Nat) → Draft → List Char → Option Entries
  | 0, _, _ => none
  | fuel + 1, d, cs =>
    match skip? cs with
    | none => none
    | some [] => some d.entries
    | some cs =>
      match line d cs with
      | some (d, rest) => lines fuel d rest
      | none => none

/-- The entries of a document, which may begin with a byte order mark. -/
def document? (s : String) : Option Entries :=
  let cs :=
    match s.toList with
    | '\ufeff' :: cs => cs
    | cs => cs
  lines (cs.length + 1) {} cs

end TunnelKeeper.Toml
