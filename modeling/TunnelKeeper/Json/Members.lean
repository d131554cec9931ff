import TunnelKeeper.Json.Basic

/-!
# Records in JSON

A record is an object with a fixed list of names, or an array of its values in the order of that
list. Unknown names are passed over; a known name may stand only once, and every name must be a
text. A short array gives the first values only, which a record without defaults refuses.
-/
namespace TunnelKeeper.Json
open TunnelKeeper

abbrev Members := List (String × Json)

/-- The members of an object that have one of the names. -/
def namedMembers? (names : List String) (members : List (JsonText × Json)) : Option Members := do
  let named ← members.mapM fun m => m.1.map fun s => (s, m.2)
  let known := named.filter fun m => names.contains m.1
  guard (known.map (·.1)).Nodup
  return known

/-- The values of a record whose missing values have defaults. -/
def members? (names : List String) : Json → Option Members
  | .object members => namedMembers? names members
  | .array elements => if elements.length ≤ names.length then some (names.zip elements) else none
  | _ => none

/-- The values of a record without defaults. -/
def fullMembers? (names : List String) : Json → Option Members
  | .object members => namedMembers? names members
  | .array elements => if elements.length = names.length then some (names.zip elements) else none
  | _ => none

namespace Members

def read {α : Type} (m : Members) (name : String) (decode : Json → Option α) (default : α) :
    Option α :=
  match m.lookup name with
  | some j => decode j
  | none => some default

def require {α : Type} (m : Members) (name : String) (decode : Json → Option α) : Option α :=
  (m.lookup name).bind decode

end Members

def optional? {α : Type} (decode : Json → Option α) : Json → Option (Option α)
  | .null => some none
  | j => (decode j).map some

def string? : Json → Option String
  | .string s => s
  | _ => none

def bool? : Json → Option Bool
  | .bool b => some b
  | _ => none

def integer? : Json → Option Int
  | .integer n => some n
  | _ => none

def natural? (max : Nat) : Json → Option Nat
  | .integer n => if 0 ≤ n ∧ n ≤ max then some n.toNat else none
  | _ => none

def uint16? (j : Json) : Option UInt16 := (natural? 65535 j).map Nat.toUInt16

def uint32? (j : Json) : Option UInt32 := (natural? 4294967295 j).map Nat.toUInt32

def uint64? (j : Json) : Option UInt64 := (natural? 18446744073709551615 j).map Nat.toUInt64

def list? {α : Type} (decode : Json → Option α) : Json → Option (List α)
  | .array elements => elements.mapM decode
  | _ => none

/-- The name of one of several alternatives: a text, or an object that maps the name to null. -/
def alternative? : Json → Option String
  | .string s => s
  | .object [(name, .null)] => name
  | _ => none

end TunnelKeeper.Json
