import TunnelKeeper.Url.Form
import TunnelKeeper.Net.AddressText

/-!
# Database addresses

A database is named by a URL: a scheme, an authority with credentials, a host with a socket number,
the name of the database, and options as query fields. Spaces and control characters around it do
not count, nor do tabs and line ends inside. The schemes of the web are more demanding than others:
they need a host, and a backslash counts as a slash.
-/
namespace TunnelKeeper.Store
open TunnelKeeper Net Url

/-- The parts of a URL, of which the texts are still percent encoded. -/
structure DatabaseUrl where
  user : List Char := []
  password : List Char := []
  host : List Char := []
  socket : Option Nat := none
  path : List Char := []
  options : Form.Fields := []
deriving DecidableEq, Repr

namespace DatabaseUrl

def isControlOrSpace (c : Char) : Bool := c.toNat ≤ 32

/-- The characters that count. -/
def clean (cs : List Char) : List Char :=
  let trimmed := ((cs.dropWhile isControlOrSpace).reverse.dropWhile isControlOrSpace).reverse
  trimmed.filter fun c => c ≠ '\t' && c ≠ '\n' && c ≠ '\r'

def isSchemeChar (c : Char) : Bool := c.isAlphanum || c = '+' || c = '-' || c = '.'

/-- The scheme in lower case, and what follows its colon. -/
def splitScheme? (cs : List Char) : Option (List Char × List Char) :=
  let scheme := cs.takeWhile isSchemeChar
  match scheme, cs.dropWhile isSchemeChar with
  | c :: _, ':' :: rest => if c.isAlpha then some (scheme.map Char.toLower, rest) else none
  | _, _ => none

def isWebScheme (scheme : List Char) : Bool :=
  ["http", "https", "ws", "wss", "ftp"].contains (String.ofList scheme)

/-- Whether a character may stand in a host. -/
def isHostChar (web : Bool) (c : Char) : Bool :=
  !("\x00\t\n\r #/:<>?@[\\]^|".toList.contains c) &&
    !(web && (c.toNat < 32 || c = '%' || c.toNat = 127))

/-- The host that a text names, if it names one. An IPv6 address stands in square brackets. -/
def host? (web : Bool) (cs : List Char) : Option (List Char) :=
  match cs with
  | '[' :: inner =>
    if inner.getLast? = some ']' ∧ (Address.v6Value? inner.dropLast).isSome then some cs else none
  | _ =>
    let name := if web then Percent.decode cs else cs
    if name.all (isHostChar web) && !(web && name.isEmpty) then some cs else none

/-- The length of what stands before the first colon outside square brackets. -/
def hostLength : (inBrackets : Bool) → List Char → Nat
  | _, [] => 0
  | inBrackets, c :: cs =>
    if c = ':' ∧ !inBrackets then 0
    else hostLength (if c = '[' then true else if c = ']' then false else inBrackets) cs + 1

/-- A socket number, which may be empty. -/
def socket? (cs : List Char) : Option (Option Nat) :=
  let digits := cs.takeWhile Char.isDigit
  match cs.dropWhile Char.isDigit with
  | [] | '\\' :: _ =>
    if digits.isEmpty then some none else (Text.naturalUpTo? 65535 digits).map some
  | _ => none

/-- Host and socket number of an authority. Credentials need a host, and so does even the colon
before a number. -/
def withHost? (web : Bool) (u : DatabaseUrl) (cs : List Char) : Option DatabaseUrl := do
  let n := hostLength false cs
  let host ← host? web (cs.take n)
  let rest := cs.drop n
  guard (!host.isEmpty || (rest.isEmpty && u.user.isEmpty && u.password.isEmpty))
  return { u with host := host, socket := ← socket? (rest.drop 1) }

/-- The position of the last at sign. -/
def credentialLength? (cs : List Char) : Option Nat :=
  if cs.contains '@' then some (cs.length - 1 - (cs.reverse.takeWhile (· ≠ '@')).length) else none

/-- An authority: credentials, if there is an at sign, then host and socket number. A lone at sign
counts only where nothing at all follows the authority. -/
def authority? (web isLast : Bool) (cs : List Char) : Option DatabaseUrl :=
  match credentialLength? cs with
  | none => withHost? web {} cs
  | some n =>
    let credentials := cs.take n
    let rest := cs.drop (n + 1)
    if n = 0 ∧ rest.isEmpty ∧ !isLast then none
    else
      withHost? web
        { user := credentials.takeWhile (· ≠ ':')
          password := (credentials.dropWhile (· ≠ ':')).drop 1 }
        rest

/-- Path and options, which follow the authority. -/
def withPath (u : DatabaseUrl) (cs : List Char) : DatabaseUrl :=
  let cs := cs.takeWhile (· ≠ '#')
  { u with
    path := cs.takeWhile (· ≠ '?')
    options := Form.fields ((cs.dropWhile (· ≠ '?')).drop 1) }

/-- Whether a character ends an authority. -/
def endsAuthority (web : Bool) (c : Char) : Bool :=
  c = '/' || c = '?' || c = '#' || (web && c = '\\')

def ofAuthority? (web : Bool) (cs : List Char) : Option DatabaseUrl :=
  let rest := cs.dropWhile (!endsAuthority web ·)
  (authority? web rest.isEmpty (cs.takeWhile (!endsAuthority web ·))).map (·.withPath rest)

def ofText? (s : String) : Option DatabaseUrl :=
  match splitScheme? (clean s.toList) with
  | none => none
  | some (scheme, rest) =>
    if isWebScheme scheme then ofAuthority? true (rest.dropWhile fun c => c = '/' || c = '\\')
    else
      match rest with
      | '/' :: '/' :: rest => ofAuthority? false rest
      | _ => some (withPath {} rest)

/-- The ways to secure a connection. -/
def securityModes : List String :=
  ["disable", "allow", "prefer", "require", "verify-ca", "verify-full"]

/-- Whether an option has a value that it can have. -/
def isValidOption (name value : String) : Bool :=
  if name = "sslmode" ∨ name = "ssl-mode" then
    securityModes.contains (String.ofList (value.toList.map Char.toLower))
  else if name = "statement-cache-capacity" then (Form.size? value).isSome
  else if name = "hostaddr" then (Address.ofText? value.toList).isSome
  else if name = "port" then (Text.signedUpTo? 65535 value.toList).isSome
  else true

/-- Whether all parts can be read: credentials and path as texts, and the host as one if it is a
path of the file system. -/
def isReadable (u : DatabaseUrl) : Bool :=
  let isText (cs : List Char) := (Percent.decodeStrict? cs).isSome
  isText u.user && isText u.password && isText (u.path.dropWhile (· = '/')) &&
    ((Percent.decode u.host).head? != some '/' || isText u.host) &&
    u.options.all fun o => isValidOption o.1 o.2

end DatabaseUrl

end TunnelKeeper.Store
