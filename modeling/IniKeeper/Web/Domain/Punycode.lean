import IniKeeper.Text

/-!
# Punycode

A label with characters beyond ASCII can be written in ASCII: its ASCII characters, a hyphen, and
digits that tell which other characters are inserted where. Characters come in the order of their
code points, and each is told by one number: how many possible insertions are passed over since the
last one. The digits of a number are the letters and then the figures; the last one is small, and
how small depends on the numbers before.
-/

namespace IniKeeper

namespace Web

namespace Domain

namespace Punycode

/-- How many digits there are. -/
def base : Nat := 36

/-- The value of a digit. -/
def digit? (c : Char) : Option Nat :=
  if c.isDigit then some (c.toNat - '0'.toNat + 26)
  else if c.isAlpha then some (c.toLower.toNat - 'a'.toNat)
  else none

/-- The least digit at a place that does not end its number. -/
def threshold (place bias : Nat) : Nat := min 26 (max 1 (place - bias))

/-- A number, if it is small enough to be counted with. -/
def countable? (n : Nat) : Option Nat := if n < Nat.pow 2 32 then some n else none

/-- The number at the start of a text, added to `sum`, and what follows it; the digit at `place`
counts `weight` times. -/
def delta? (bias place weight sum : Nat) : Text → Option (Nat × Text)
  | [] => none
  | c :: rest => do
    let digit ← digit? c
    let sum ← countable? (sum + digit * weight)
    let least := threshold place bias
    if digit < least then some (sum, rest)
    else delta? bias (place + base) (← countable? (weight * (base - least))) sum rest

/-- Reading a number uses characters up. -/
theorem delta?_length (text : Text) (bias place weight sum : Nat) (result : Nat × Text)
    (found : delta? bias place weight sum text = some result) :
    result.2.length < text.length := by
  induction text generalizing place weight sum with
  | nil => simp [delta?] at found
  | cons c rest ih =>
    simp only [delta?, Option.bind_eq_bind, Option.bind_eq_some_iff] at found
    obtain ⟨digit, _, next, _, found⟩ := found
    split at found
    · cases found
      simp
    · obtain ⟨_, _, found⟩ := Option.bind_eq_some_iff.mp found
      exact Nat.lt_succ_of_lt (ih _ _ _ found)

/-- How many places are skipped to bring a number down to the range of short ones, and the number
that remains. -/
def shrink (n : Nat) : Nat × Nat :=
  if 455 < n then
    let (places, left) := shrink (n / 35)
    (places + base, left)
  else (0, n)
termination_by n
decreasing_by exact Nat.div_lt_self (by omega) (by omega)

/-- The bias after a number, where so many characters are there. -/
def adapt (n count : Nat) (isFirst : Bool) : Nat :=
  let damped := if isFirst then n / 700 else n / 2
  let (places, left) := shrink (damped + damped / count)
  places + 36 * left / (left + 38)

/-- Insert the characters that digits tell into a text. -/
def insertAll? (bias point sum : Nat) (label : Text) : Text → Option Text
  | [] => some label
  | c :: rest =>
    match found : delta? bias base 1 sum (c :: rest) with
    | none => none
    | some (next, more) =>
      let count := label.length + 1
      let place := next % count
      let point := point + next / count
      if point.isValidChar then
        insertAll? (adapt (next - sum) count (sum == 0)) point (place + 1)
          (label.insertIdx place (Char.ofNat point)) more
      else none
termination_by digits => digits.length
decreasing_by simpa using delta?_length _ _ _ _ _ _ found

/-- The label that is written in ASCII; a hyphen needs characters in front of it. -/
def decode? (code : Text) : Option Text :=
  let isDigit (c : Char) : Bool := c != '-'
  let digits := (code.reverse.takeWhile isDigit).reverse
  match code.reverse.dropWhile isDigit with
  | [] => insertAll? 72 0x80 0 [] digits
  | [_] => none
  | _ :: before => insertAll? 72 0x80 0 before.reverse digits

end Punycode

end Domain

end Web

end IniKeeper
