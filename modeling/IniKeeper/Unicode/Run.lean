import IniKeeper.Number.Digit

/-!
# Runs of characters

A property of characters is kept as runs: the code points from zero on, cut into stretches on which
the property has one value. A table writes a run as its length in hexadecimal digits, a capital
letter, and what else belongs to the value; the words of a row have spaces between them. All tables
follow version 17 of the Unicode standard.
-/

namespace IniKeeper

namespace Unicode

/-- So many code points in a row, and their value. -/
structure Run (α : Type) where
  /-- How many code points there are. -/
  size : Nat
  /-- What they have in common. -/
  value : α
  deriving Repr, DecidableEq

namespace Run

/-- The value of the run that holds a code point, and the place of the code point in it. -/
def find? {α : Type} (point : Nat) : List (Run α) → Option (α × Nat)
  | [] => none
  | run :: rest =>
    if point < run.size then some (run.value, point) else find? (point - run.size) rest

/-- The value that runs give a character. -/
def value? {α : Type} (runs : List (Run α)) (c : Char) : Option α :=
  (find? c.toNat runs).map Prod.fst

/-- Whether a character is a digit of the tables. -/
def isDigit (c : Char) : Bool := c.isDigit || ('a' ≤ c && c ≤ 'f')

/-- The number that digits of the tables denote. -/
def number (digits : Text) : Nat := (Digit.number? 16 digits).getD 0

/-- The run that a word of a table stands for. -/
def ofWord? {α : Type} (value : Char → Text → α) (word : Text) : Option (Run α) :=
  match word.dropWhile isDigit with
  | mark :: rest => some ⟨number (word.takeWhile isDigit), value mark rest⟩
  | [] => none

/-- The runs in the rows of a table. -/
def ofRows {α : Type} (value : Char → Text → α) (rows : List String) : List (Run α) :=
  rows.flatMap fun row => (row.toList.splitOn ' ').filterMap (ofWord? value)

end Run

end Unicode

end IniKeeper
