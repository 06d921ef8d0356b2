import IniKeeper.Unicode.Run
import IniKeeper.Web.Domain.MappingTable

/-!
# Mapping the characters of a domain

Names of domains are compared without regard to capitals, widths and styles of letters, so each
character is kept, dropped, refused, or taken to the text that stands for it. Full stops of other
scripts become plain ones.
-/

namespace IniKeeper

namespace Web

namespace Domain

namespace Mapping

/-- What becomes of the characters of a run. -/
inductive Rule where
  /-- They stay as they are. -/
  | keep
  /-- No domain has them. -/
  | refuse
  /-- They count for nothing. -/
  | drop
  /-- They become the characters so far above them. -/
  | up (distance : Nat)
  /-- They become the characters so far below them. -/
  | down (distance : Nat)
  /-- The first becomes the second, the third the fourth and so on; the others stay. -/
  | pairs
  /-- Each becomes a text of its own. -/
  | each (texts : List Text)
  deriving Repr, DecidableEq

/-- The rule that a letter of the table and what follows it stand for. -/
def Rule.ofMark (mark : Char) (rest : Text) : Rule :=
  match mark with
  | 'V' => keep
  | 'I' => drop
  | 'U' => up (Unicode.Run.number rest)
  | 'D' => down (Unicode.Run.number rest)
  | 'P' => pairs
  | 'T' =>
    each ((rest.splitOn ',').map fun text =>
      (text.splitOn '.').map fun point => Char.ofNat (Unicode.Run.number point))
  | _ => refuse

/-- What a rule makes of the character at a place in its run. -/
def Rule.apply? (c : Char) (place : Nat) : Rule → Option Text
  | keep => some [c]
  | refuse => none
  | drop => some []
  | up distance => some [Char.ofNat (c.toNat + distance)]
  | down distance => some [Char.ofNat (c.toNat - distance)]
  | pairs => some [if place % 2 == 0 then Char.ofNat (c.toNat + 1) else c]
  | each texts => texts[place]?

/-- The runs of characters under one rule. -/
def runs : List (Unicode.Run Rule) := Unicode.Run.ofRows Rule.ofMark rows

/-- What becomes of a character, unless it is refused. -/
def char? (c : Char) : Option Text :=
  (Unicode.Run.find? c.toNat runs).bind fun (rule, place) => rule.apply? c place

/-- What becomes of a text, unless a character of it is refused. -/
def text? (text : Text) : Option Text := (text.mapM char?).map List.flatten

/-- Whether a character stays as it is. -/
def isKept (c : Char) : Bool := char? c == some [c]

end Mapping

end Domain

end Web

end IniKeeper
