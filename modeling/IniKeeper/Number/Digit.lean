import IniKeeper.Text

/-!
# Digits of any base

Digits above nine are the Latin letters, in capitals or not. A text denotes a number in a base if
each of its characters is a digit of that base.
-/

namespace IniKeeper

namespace Digit

/-- The value of a digit of a base. -/
def value? (base : Nat) (c : Char) : Option Nat :=
  let value :=
    if c.isDigit then some (c.toNat - '0'.toNat)
    else if c.isAlpha then some (c.toLower.toNat - 'a'.toNat + 10)
    else none
  value.filter (· < base)

/-- Whether a character is a digit of a base. -/
def isDigit (base : Nat) (c : Char) : Bool := (value? base c).isSome

/-- The number that digits of a base denote; no digits denote zero. -/
def number? (base : Nat) (digits : Text) : Option Nat :=
  digits.foldlM (fun number c => (value? base c).map (number * base + ·)) 0

end Digit

end IniKeeper
