import TunnelKeeper.Key.Base64
import TunnelKeeper.Key.Curve25519
import TunnelKeeper.Text.Blank

/-!
# Keys

A key is thirty-two bytes, whether private, public or shared beforehand. Its text is base64; it is
read with blank characters around it.
-/
namespace TunnelKeeper

structure Key where
  bytes : List UInt8
  length_eq : bytes.length = 32
deriving DecidableEq, Repr

inductive KeyError where
  | encoding (cause : Key.Base64.DecodeError)
  | length (actual : Nat)
deriving DecidableEq, Repr

def KeyError.message : KeyError → String
  | .encoding cause => s!"failed to decode base64 key: {cause.message}"
  | .length actual => s!"invalid key length: expected 32 bytes, got {actual}"

namespace Key

def asciiText (bs : List UInt8) : String := String.ofList (bs.map fun b => Char.ofNat b.toNat)

def text (k : Key) : String := asciiText (Base64.encode k.bytes)

/-- How a key appears in diagnostics: only its beginning is shown. -/
def redacted (k : Key) : String := s!"Key({k.text.take 8}...)"

def ofBytes? (bytes : List UInt8) : Option Key :=
  if h : bytes.length = 32 then some ⟨bytes, h⟩ else none

def parse (s : String) : Except KeyError Key :=
  match Base64.decode ((Text.trimList s.toList).flatMap String.utf8EncodeChar) with
  | .error e => .error (.encoding e)
  | .ok bytes =>
    match ofBytes? bytes with
    | some k => .ok k
    | none => .error (.length bytes.length)

def isZero (k : Key) : Bool := k.bytes.all (· == 0)

theorem length_publicBytes (bs : List UInt8) : (Curve25519.publicBytes bs).length = 32 := by
  simp [Curve25519.publicBytes, Curve25519.toLittleEndian]

def publicKey (k : Key) : Key := ⟨Curve25519.publicBytes k.bytes, length_publicBytes k.bytes⟩

end Key

end TunnelKeeper
