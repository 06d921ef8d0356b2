import IniKeeper.Unicode.Combining
import IniKeeper.Unicode.Composite

/-!
# Composed text

Texts that mean the same have one composed form: every composite is taken apart, marks on one
character are put in the order of their classes, and then each character takes in what follows it
wherever a composite stands for the two. Marks of one class never change places.
-/

namespace IniKeeper

namespace Unicode

/-- How many composites can be the first part of each other. -/
def maxNesting : Nat := 3

/-- The characters that one stands for, none of them a composite. -/
def takeApart (depth : Nat) (c : Char) : Text :=
  match depth with
  | 0 => [c]
  | depth + 1 =>
    match parts? c with
    | some (first, second) => takeApart depth first ++ [second]
    | none => [c]

/-- Put a character in front of a text; a mark moves behind the marks of lower classes there. -/
def settle (c : Char) : Text → Text
  | [] => [c]
  | d :: rest =>
    if combiningClass d != 0 && combiningClass d < combiningClass c then d :: settle c rest
    else c :: d :: rest

/-- Whether no mark that a character was followed by stands between it and the next one. -/
def isReachable (held : Text) (next : Char) : Bool :=
  held.getLast?.all fun mark => combiningClass mark < combiningClass next

/-- A character, the marks held back behind it, and a text, put together where that is possible. -/
def putTogether (base : Char) (held : Text) : Text → Text
  | [] => base :: held
  | c :: rest =>
    match if isReachable held c then whole? base c else none with
    | some whole => putTogether whole held rest
    | none =>
      if combiningClass c = 0 then base :: held ++ putTogether c [] rest
      else putTogether base (held ++ [c]) rest

/-- The composed form of a text; ASCII text has it. -/
def composed (text : Text) : Text :=
  if text.all (·.toNat < 0x80) then text
  else
    match (text.flatMap (takeApart maxNesting)).foldr settle [] with
    | [] => []
    | base :: rest => putTogether base [] rest

end Unicode

end IniKeeper
