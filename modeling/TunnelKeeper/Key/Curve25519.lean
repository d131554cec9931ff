/-!
# Curve25519

Multiplication of a point of the Montgomery curve y² = x³ + 486662 x² + x over the integers modulo
2²⁵⁵ − 19, in terms of x alone. A private key is a number in little-endian bytes, of which the three
lowest bits and the highest are cleared and the second highest is set; its public key is that
multiple of the base point 9.
-/
namespace TunnelKeeper.Key.Curve25519

def modulus : Nat := Nat.pow 2 255 - 19

def add (a b : Nat) : Nat := (a + b) % modulus
def sub (a b : Nat) : Nat := (a + (modulus - b % modulus)) % modulus
def mul (a b : Nat) : Nat := a * b % modulus

/-- `a` to the power whose binary digits are given, the lowest first. -/
def powBits (a : Nat) : List Bool → Nat
  | [] => 1
  | bit :: bits =>
    let square := powBits (mul a a) bits
    if bit then mul a square else square

def bits (count n : Nat) : List Bool := (List.range count).map n.testBit

/-- The inverse by the little theorem of Fermat; zero goes to zero. -/
def inverse (a : Nat) : Nat := powBits a (bits 255 (modulus - 2))

/-- A point as the quotient x / z. -/
structure Point where
  x : Nat
  z : Nat

def double (p : Point) : Point :=
  let s := mul (add p.x p.z) (add p.x p.z)
  let d := mul (sub p.x p.z) (sub p.x p.z)
  let e := sub s d
  ⟨mul s d, mul e (add s (mul 121665 e))⟩

/-- The sum of two points whose difference has the coordinate `base`. -/
def addDiff (base : Nat) (p q : Point) : Point :=
  let u := mul (add p.x p.z) (sub q.x q.z)
  let v := mul (sub p.x p.z) (add q.x q.z)
  let s := add u v
  let d := sub u v
  ⟨mul s s, mul base (mul d d)⟩

/-- One step of the ladder: from n·P and (n+1)·P to 2n·P and (2n+1)·P, or one higher if the bit is
set. -/
def ladderStep (base : Nat) (pair : Point × Point) (bit : Bool) : Point × Point :=
  let middle := addDiff base pair.1 pair.2
  if bit then (middle, double pair.2) else (double pair.1, middle)

/-- The coordinate of the multiple of the point `base` by a number of 255 bits. -/
def multiply (scalar base : Nat) : Nat :=
  let pair := ((bits 255 scalar).reverse).foldl (ladderStep base) (⟨1, 0⟩, ⟨base, 1⟩)
  mul pair.1.x (inverse pair.1.z)

def ofLittleEndian (bs : List UInt8) : Nat := bs.foldr (fun b n => b.toNat + 256 * n) 0

def toLittleEndian (count n : Nat) : List UInt8 :=
  (List.range count).map fun i => (n / Nat.pow 256 i % 256).toUInt8

/-- The number that a private key stands for: a multiple of eight with its highest bit at 2²⁵⁴. -/
def clamp (n : Nat) : Nat := Nat.pow 2 254 + n % Nat.pow 2 254 / 8 * 8

def publicBytes (secret : List UInt8) : List UInt8 :=
  toLittleEndian 32 (multiply (clamp (ofLittleEndian secret)) 9)

end TunnelKeeper.Key.Curve25519
