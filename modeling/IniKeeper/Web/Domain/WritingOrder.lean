import IniKeeper.Text
import IniKeeper.Unicode.Direction

/-!
# The order of writing in a domain

Where a domain has letters or numbers that are written from right to left, each label must show its
direction: it begins with a letter, holds no letters of the other direction, and ends in a letter or
a number, marks on it aside. A label from right to left does not mix the two kinds of numbers.
-/

namespace IniKeeper

namespace Web

namespace Domain

namespace WritingOrder

open Unicode (Direction)

/-- Whether a direction makes the order of writing matter. -/
def isBackward (direction : Direction) : Bool :=
  direction == .rightToLeft || direction == .arabicNumber

/-- Directions without the marks at their end. -/
def dropAttached (directions : List Direction) : List Direction :=
  (directions.reverse.dropWhile (· == .attached)).reverse

/-- Whether what follows a letter from left to right keeps to its direction. -/
def goesOn (rest : List Direction) : Bool :=
  rest.all (!isBackward ·) &&
    rest.getLast?.all fun last => last == .leftToRight || last == .europeanNumber

/-- Whether what follows a letter from right to left keeps to its direction. -/
def goesBack (rest : List Direction) : Bool :=
  !rest.contains .leftToRight && !(rest.contains .europeanNumber && rest.contains .arabicNumber) &&
    rest.getLast?.all fun last => isBackward last || last == .europeanNumber

/-- Whether a label shows its direction; an empty one has none. -/
def showsDirection (label : Text) : Bool :=
  match label.map Direction.of with
  | [] => true
  | .leftToRight :: rest => goesOn (dropAttached rest)
  | .rightToLeft :: rest => goesBack (dropAttached rest)
  | _ => false

/-- Whether the labels of a domain can be told apart in writing. -/
def isClear (labels : List Text) : Bool :=
  !(labels.any fun label => label.any fun c => isBackward (Direction.of c)) ||
    labels.all showsDirection

end WritingOrder

end Domain

end Web

end IniKeeper
