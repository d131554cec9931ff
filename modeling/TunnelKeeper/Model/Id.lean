import TunnelKeeper.Text.Blank

/-!
# Identifiers

Interfaces, peers and users are named by texts, and the three kinds of names are never mixed. Their
order is the order of their texts.
-/
namespace TunnelKeeper

inductive IdKind where
  | interface
  | peer
  | user
deriving DecidableEq, Repr

structure Id (kind : IdKind) where
  text : String
deriving DecidableEq, Repr

/-- The device name of an interface. -/
abbrev InterfaceId := Id .interface

/-- By convention the public key of the peer. -/
abbrev PeerId := Id .peer

abbrev UserId := Id .user

namespace Id

variable {kind : IdKind}

instance : Inhabited (Id kind) := ⟨⟨""⟩⟩

instance : LT (Id kind) := ⟨fun a b => a.text < b.text⟩

instance (a b : Id kind) : Decidable (a < b) := inferInstanceAs (Decidable (a.text < b.text))

instance : ToString (Id kind) := ⟨text⟩

def isBlank (i : Id kind) : Bool := Text.isBlankText i.text

@[ext] theorem ext' {a b : Id kind} (h : a.text = b.text) : a = b := by
  cases a
  cases b
  cases h
  rfl

theorem lt_trans {a b c : Id kind} (hab : a < b) (hbc : b < c) : a < c :=
  String.lt_trans (a := a.text) hab hbc

theorem lt_irrefl (a : Id kind) : ¬a < a := String.lt_irrefl a.text

theorem eq_of_not_lt {a b : Id kind} (hab : ¬a < b) (hba : ¬b < a) : a = b :=
  ext' (String.le_antisymm (a := a.text) hba hab)

theorem lt_of_not_lt_of_ne {a b : Id kind} (hab : ¬a < b) (h : a ≠ b) : b < a :=
  Decidable.by_contra fun hba => h (eq_of_not_lt hab hba)

end Id

end TunnelKeeper
