import IniKeeper.Number.Binary
import IniKeeper.Number.Integer

/-!
# Decimal text of binary numbers

A number is written positionally, with as few digits as read back as the same number and, of those
texts, the one nearest to it; there is never an exponent, and never a point without digits behind
it. It is read from a sign, digits with an optional point, and an optional exponent, or from one of
the words for infinity and for no number, and is rounded once, to the nearest number of the format
and to the even one of two.
-/

namespace IniKeeper

namespace Decimal

open Binary (Format Number)

/-- The decimal number `digits · 10 ^ exponent`. -/
structure Scaled where
  /-- The digits, read as a whole number. -/
  digits : Nat
  /-- The power of ten they are multiplied by. -/
  exponent : Int
  deriving Repr, DecidableEq

/-- A decimal number as a fraction. -/
def Scaled.fraction (number : Scaled) : Nat × Nat :=
  if 0 ≤ number.exponent then (number.digits * Nat.pow 10 number.exponent.toNat, 1)
  else (number.digits, Nat.pow 10 (-number.exponent).toNat)

/-- How many digits a whole number has. -/
def digitCount (n : Nat) : Nat := (Nat.toDigits 10 n).length

/-- The rank of the magnitude nearest to a decimal number. Where the point lies further from the
digits than any magnitude of the format reaches, the answer is infinity or zero at once. -/
def rankOf (format : Format) (number : Scaled) : Nat :=
  let reach : Int := format.bias + format.fractionBits + 2
  let point := digitCount number.digits + number.exponent
  if number.digits = 0 || point < -reach then 0
  else if reach < point then format.infinityRank
  else
    let (numerator, denominator) := number.fraction
    Binary.rankNearest format numerator denominator

/-! ### Reading -/

/-- The exponent part of a decimal number: absent, or a letter with a signed whole number. -/
def readExponent? : Text → Option Int
  | [] => some 0
  | mark :: exponent => if mark == 'e' || mark == 'E' then Integer.read? exponent else none

/-- The fraction digits that follow a point, and what stands after them. -/
def splitFraction : Text → Text × Text
  | '.' :: rest => (rest.takeWhile Char.isDigit, rest.dropWhile Char.isDigit)
  | rest => ([], rest)

/-- A decimal number without a sign. -/
def readScaled? (text : Text) : Option Scaled :=
  let whole := text.takeWhile Char.isDigit
  let (fraction, rest) := splitFraction (text.dropWhile Char.isDigit)
  if whole.isEmpty && fraction.isEmpty then none
  else
    (readExponent? rest).map fun exponent =>
      ⟨Nat.ofDigitChars 10 (whole ++ fraction) 0, exponent - fraction.length⟩

/-- A number without a sign, where `negative` tells the sign that stood before it. -/
def readMagnitude? (format : Format) (negative : Bool) (text : Text) : Option (Number format) :=
  let word := String.ofList (Text.lowerAscii text)
  if word = "inf" || word = "infinity" then some (.signed negative format.infinityRank)
  else if word = "nan" then some .nan
  else (readScaled? text).map fun number => .signed negative (rankOf format number)

/-- The number of a format that a text denotes. -/
def read? (format : Format) : Text → Option (Number format)
  | '-' :: rest => readMagnitude? format true rest
  | '+' :: rest => readMagnitude? format false rest
  | rest => readMagnitude? format false rest

/-! ### Writing -/

/-- The place of the decimal point of a positive fraction: the least power of ten above it. -/
def pointOf (numerator denominator : Nat) : Int :=
  if denominator ≤ numerator then digitCount (numerator / denominator)
  else
    let inverse := digitCount (denominator / numerator)
    if numerator * Nat.pow 10 (inverse - 1) = denominator then 2 - inverse else 1 - inverse

/-- Of two neighbouring decimals that read back, the nearer to the fraction, the upper on a tie. -/
def nearer (lower upper : Scaled) (twice denominator : Nat) (lowerFits upperFits : Bool) :
    Option Scaled :=
  if upperFits && (!lowerFits || denominator ≤ twice) then some upper
  else if lowerFits then some lower
  else none

/-- The decimal with a given number of digits that is nearest to a magnitude among those that read
back as it. -/
def withDigits? (format : Format) (rank numerator denominator : Nat) (count : Nat) :
    Option Scaled :=
  let exponent := pointOf numerator denominator - count
  let (top, bottom) : Nat × Nat :=
    if 0 ≤ exponent then (numerator, denominator * Nat.pow 10 exponent.toNat)
    else (numerator * Nat.pow 10 (-exponent).toNat, denominator)
  let lower : Scaled := ⟨top / bottom, exponent⟩
  let upper : Scaled := ⟨top / bottom + 1, exponent⟩
  nearer lower upper (2 * (top % bottom)) bottom
    (rankOf format lower = rank) (rankOf format upper = rank)

/-- Seventeen digits tell any two numbers of the formats apart. -/
def maxDigits : Nat := 17

/-- The shortest decimal that reads back as a magnitude; zero has the digit zero. -/
def shortest (format : Format) (rank : Nat) : Scaled :=
  let (significand, exponent) := Binary.decode format rank
  let (numerator, denominator) := Binary.scale exponent significand 1
  if significand = 0 then ⟨0, 0⟩
  else
    ((List.range maxDigits).findSome? fun count =>
      withDigits? format rank numerator denominator (count + 1)).getD ⟨0, 0⟩

/-- A decimal number with its point in place, without zeros at the end of its fraction. -/
def positional (number : Scaled) : Text :=
  let digits := Nat.toDigits 10 number.digits
  if 0 ≤ number.exponent then
    if number.digits = 0 then digits else digits ++ List.replicate number.exponent.toNat '0'
  else
    let places := (-number.exponent).toNat
    let padded := List.replicate (places + 1 - digits.length) '0' ++ digits
    let whole := padded.take (padded.length - places)
    let fraction := padded.drop (padded.length - places)
    let kept := (fraction.reverse.dropWhile (· == '0')).reverse
    if kept.isEmpty then whole else whole ++ '.' :: kept

/-- The text of a magnitude. -/
def writeMagnitude (format : Format) (rank : Nat) : Text :=
  if rank = format.infinityRank then ['i', 'n', 'f'] else positional (shortest format rank)

/-- The text of a number; one that is no number has no sign. -/
def write (format : Format) : Number format → Text
  | .nan => ['N', 'a', 'N']
  | .signed true rank => '-' :: writeMagnitude format rank
  | .signed false rank => writeMagnitude format rank

end Decimal

end IniKeeper
