import TunnelKeeper.Text.CaseTable

/-!
# Lower case of a text

Each character goes to its lower case on its own, with two exceptions. The dotted capital I becomes
two characters. The capital sigma becomes the final sigma at the end of a word, so its lower case
depends on what stands around it: a cased letter before it and none after it, where characters
ignored for case are passed over.
-/
namespace TunnelKeeper.Text

/-- Whether the first character that is not passed over is a cased letter. -/
def startsCased (cs : List Char) : Bool :=
  match cs.dropWhile isCaseIgnorable with
  | [] => false
  | c :: _ => isCased c

def isWordEnd (before after : List Char) : Bool := startsCased before && !startsCased after

/-- The characters of `after` in lower case; `before` holds what precedes them, the nearest first.
-/
def lowerAfter (before : List Char) : List Char → List Char
  | [] => []
  | c :: after =>
    let lower :=
      if c = 'Σ' then [if isWordEnd before after then 'ς' else 'σ']
      else if c = 'İ' then ['i', '\u0307']
      else [lowerChar c]
    lower ++ lowerAfter (c :: before) after

def lowercaseList (cs : List Char) : List Char := lowerAfter [] cs

/-- Whether the characters of `part` occur in `whole`, one directly after the other. -/
def occursIn (part : List Char) : List Char → Bool
  | [] => part.isEmpty
  | c :: cs => part.isPrefixOf (c :: cs) || occursIn part cs

end TunnelKeeper.Text
