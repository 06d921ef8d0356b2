import IniKeeper.Number.Decimal
import IniKeeper.Number.Digit
import IniKeeper.Time.Calendar
import IniKeeper.Toml.Value

/-!
# TOML numbers, dates and words

A value that is neither quoted nor bracketed is one run of characters. It is a truth value, a whole
number in one of four bases, another number, or a date and time, by its shape alone; underscores
may stand between the digits of a number, and a whole number has to fit into 64 bits.
-/

namespace IniKeeper

namespace Toml

namespace Scalar

/-- Whether underscores in a run of digits stand only between digits. -/
def underscoresBetween (digits : Text) : Bool :=
  (digits.splitOn '_').all fun part => !part.isEmpty

/-- Whether a text is digits of a kind, possibly with underscores between them. -/
def isDigits (isDigit : Char → Bool) (text : Text) : Bool :=
  underscoresBetween text && text.all fun c => c == '_' || isDigit c

/-- A run of digits without its underscores. -/
def plainDigits (text : Text) : Text := text.filter (· != '_')

/-- Whether a text is digits without a zero in front of others. -/
def isWhole (text : Text) : Bool :=
  isDigits Char.isDigit text && (text.length == 1 || text.head? != some '0')

/-- A text without a sign in front, and whether that sign is a minus. -/
def dropSign : Text → Bool × Text
  | '-' :: rest => (true, rest)
  | '+' :: rest => (false, rest)
  | rest => (false, rest)

/-- A whole number that fits into 64 bits. -/
def fitting? (n : Int) : Option Value :=
  if -Int.pow 2 63 ≤ n ∧ n < Int.pow 2 63 then some (.integer n) else none

/-- A whole number in a base other than ten. -/
def based? (base : Nat) (digits : Text) : Option Value :=
  if underscoresBetween digits then
    (Digit.number? base (plainDigits digits)).bind fun n => fitting? n
  else none

/-- A whole number. -/
def integer? : Text → Option Value
  | '0' :: 'x' :: digits => based? 16 digits
  | '0' :: 'o' :: digits => based? 8 digits
  | '0' :: 'b' :: digits => based? 2 digits
  | text =>
    let (negative, digits) := dropSign text
    if isWhole digits then
      let n : Int := Nat.ofDigitChars 10 (plainDigits digits) 0
      fitting? (if negative then -n else n)
    else none

/-- Whether a text is the exponent of a number, without its letter. -/
def isExponent (text : Text) : Bool := isDigits Char.isDigit (dropSign text).2

/-- Whether a text is a fraction and an exponent, of which one may be missing. -/
def isTail : Text → Bool
  | '.' :: rest =>
    let isMark (c : Char) : Bool := c == 'e' || c == 'E'
    let fraction := rest.takeWhile (!isMark ·)
    let exponent := rest.dropWhile (!isMark ·)
    isDigits Char.isDigit fraction && (exponent.isEmpty || isExponent exponent.tail)
  | mark :: exponent => (mark == 'e' || mark == 'E') && isExponent exponent
  | [] => false

/-- A number that is not whole; one beyond the largest has no value. -/
def float? (text : Text) : Option Value :=
  let (negative, rest) := dropSign text
  if rest = ['i', 'n', 'f'] || rest = ['n', 'a', 'n'] then some .float
  else
    let isDigitLike (c : Char) : Bool := c.isDigit || c == '_'
    if isWhole (rest.takeWhile isDigitLike) && isTail (rest.dropWhile isDigitLike) then
      let number := Decimal.readMagnitude? .double negative (plainDigits rest)
      if number = some (.signed false Binary.Format.double.infinityRank) then none else some .float
    else none

/-- The number that a fixed count of digits denotes. -/
def fixed? (count : Nat) (text : Text) : Option Nat :=
  if text.length == count then Integer.readDigits? text else none

/-- Whether a text is a date. -/
def isDate (text : Text) : Bool :=
  match text.splitOn '-' with
  | [year, month, day] =>
    match fixed? 4 year, fixed? 2 month, fixed? 2 day with
    | some y, some m, some d => Calendar.hasDate y m d
    | _, _, _ => false
  | _ => false

/-- Whether a text is a count of seconds, possibly with a fraction. -/
def isSeconds (text : Text) : Bool :=
  let inRange (digits : Text) : Bool := (fixed? 2 digits).any (· ≤ 60)
  match text.splitOn '.' with
  | [whole] => inRange whole
  | [whole, fraction] => inRange whole && !fraction.isEmpty && fraction.all Char.isDigit
  | _ => false

/-- Whether a text is a time of day. -/
def isTime (text : Text) : Bool :=
  match text.splitOn ':' with
  | [hour, minute, second] =>
    (fixed? 2 hour).any (· ≤ 23) && (fixed? 2 minute).any (· ≤ 59) && isSeconds second
  | _ => false

/-- Whether a text is the distance of a clock from universal time. -/
def isOffset (text : Text) : Bool :=
  match text.splitOn ':' with
  | [hour, minute] => (fixed? 2 hour).any (· ≤ 23) && (fixed? 2 minute).any (· ≤ 59)
  | _ => false

/-- Whether a text is a time of day, possibly with the distance of its clock. -/
def isZonedTime (text : Text) : Bool :=
  let isZone (c : Char) : Bool := c == 'Z' || c == 'z' || c == '+' || c == '-'
  let time := text.takeWhile (!isZone ·)
  match text.dropWhile (!isZone ·) with
  | [] => isTime time
  | mark :: offset =>
    isTime time && (if mark == 'Z' || mark == 'z' then offset.isEmpty else isOffset offset)

/-- A date, a time, or a date with a time. -/
def moment? (text : Text) : Option Value :=
  let timed :=
    match text.drop 10 with
    | [] => true
    | mark :: time => (mark == 'T' || mark == 't' || mark == ' ') && isZonedTime time
  if (isDate (text.take 10) && timed) || isTime text then some .moment else none

/-- The value of a run of characters. -/
def read? (text : Text) : Option Value :=
  if text = ['t', 'r', 'u', 'e'] then some (.boolean true)
  else if text = ['f', 'a', 'l', 's', 'e'] then some (.boolean false)
  else ((moment? text).or (float? text)).or (integer? text)

/-- Whether a character may stand in a run. -/
def isRunChar (c : Char) : Bool :=
  c.isAlphanum || c == '_' || c == '+' || c == '-' || c == '.' || c == ':'

/-- The run at the start of a text and what follows it; a space inside a run stands only between a
date and a time. -/
def splitRun (text : Text) : Text × Text :=
  let run := text.takeWhile isRunChar
  match text.dropWhile isRunChar with
  | ' ' :: c :: rest =>
    if isDate run && c.isDigit then
      (run ++ ' ' :: (c :: rest).takeWhile isRunChar, (c :: rest).dropWhile isRunChar)
    else (run, ' ' :: c :: rest)
  | rest => (run, rest)

end Scalar

end Toml

end IniKeeper
