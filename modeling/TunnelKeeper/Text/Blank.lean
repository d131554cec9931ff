/-!
# Blank characters

The twenty-five characters with the Unicode property White_Space, and what remains of a text when
they are taken from both of its ends. A text is blank when nothing remains.
-/
namespace TunnelKeeper.Text

/-- The characters with the Unicode property White_Space. -/
def isBlank (c : Char) : Bool :=
  let n := c.toNat
  (9 ≤ n && n ≤ 13) || n == 0x20 || n == 0x85 || n == 0xa0 || n == 0x1680 ||
    (0x2000 ≤ n && n ≤ 0x200a) || n == 0x2028 || n == 0x2029 || n == 0x202f || n == 0x205f ||
    n == 0x3000

def trimStart (cs : List Char) : List Char := cs.dropWhile isBlank

def trimEnd (cs : List Char) : List Char := (cs.reverse.dropWhile isBlank).reverse

def trimList (cs : List Char) : List Char := trimEnd (trimStart cs)

def trim (s : String) : String := String.ofList (trimList s.toList)

def isBlankText (s : String) : Bool := s.toList.all isBlank

/-- The trimmed text, unless nothing is left of it. -/
def nonBlank? (s : String) : Option String :=
  let t := trim s
  if t.isEmpty then none else some t

/-- The elements of a comma separated list: trimmed, the blank ones left out. -/
def listElements (s : String) : List String :=
  ((s.toList.splitOn ',').map trimList |>.filter (! ·.isEmpty)).map String.ofList

theorem isBlank_space : isBlank ' ' = true := by decide

@[simp] theorem trimList_nil : trimList [] = [] := rfl

end TunnelKeeper.Text
