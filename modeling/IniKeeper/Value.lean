import IniKeeper.Number.Decimal
import IniKeeper.Text.Blank

/-!
# Typed values

Values are stored as text. A type whose values can be stored has a text for each of its values and
reads them back from text, with white space around it or not; a text that is none of its values is
refused, never bent into one.
-/

namespace IniKeeper

/-- The types of stored values, as messages name them. -/
inductive Kind where
  /-- Integers of 32 bits. -/
  | int
  /-- Integers of 64 bits. -/
  | long
  /-- Floating-point numbers of 64 bits. -/
  | double
  /-- Floating-point numbers of 32 bits. -/
  | float
  /-- Truth values. -/
  | boolean
  deriving Repr, DecidableEq

/-- The name of a kind. -/
def Kind.name : Kind → Text
  | int => "int".toList
  | long => "long".toList
  | double => "double".toList
  | float => "float".toList
  | boolean => "boolean".toList

/-- Types whose values can be stored. -/
class Storable (α : Type) where
  /-- How messages name the type. -/
  kind : Kind
  /-- The text of a value. -/
  write : α → Text
  /-- The value that a trimmed text denotes. -/
  readTrimmed? : Text → Option α

namespace Storable

/-- The value that a text denotes, white space at its ends aside. -/
def read? {α : Type} [Storable α] (text : Text) : Option α := readTrimmed? (Text.trim text)

/-- An integer within the range of 32 bits. -/
def toInt32? (n : Int) : Option Int32 :=
  if Int32.minValue.toInt ≤ n ∧ n ≤ Int32.maxValue.toInt then some (Int32.ofInt n) else none

/-- An integer within the range of 64 bits. -/
def toInt64? (n : Int) : Option Int64 :=
  if Int64.minValue.toInt ≤ n ∧ n ≤ Int64.maxValue.toInt then some (Int64.ofInt n) else none

/-- The truth value that a word denotes, in capitals or not. -/
def truth? (word : Text) : Option Bool :=
  let lower := Text.lowerAscii word
  if lower = ['t', 'r', 'u', 'e'] then some true
  else if lower = ['f', 'a', 'l', 's', 'e'] then some false
  else none

/-- The word for a truth value. -/
def truthWord : Bool → Text
  | true => ['t', 'r', 'u', 'e']
  | false => ['f', 'a', 'l', 's', 'e']

instance : Storable Int32 where
  kind := .int
  write n := Integer.write n.toInt
  readTrimmed? text := (Integer.read? text).bind toInt32?

instance : Storable Int64 where
  kind := .long
  write n := Integer.write n.toInt
  readTrimmed? text := (Integer.read? text).bind toInt64?

instance : Storable (Binary.Number .double) where
  kind := .double
  write := Decimal.write .double
  readTrimmed? := Decimal.read? .double

instance : Storable (Binary.Number .single) where
  kind := .float
  write := Decimal.write .single
  readTrimmed? := Decimal.read? .single

instance : Storable Bool where
  kind := .boolean
  write := truthWord
  readTrimmed? := truth?

end Storable

end IniKeeper
