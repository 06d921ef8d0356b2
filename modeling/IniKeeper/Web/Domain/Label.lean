import IniKeeper.Unicode.Combining
import IniKeeper.Unicode.Composed
import IniKeeper.Unicode.Joining
import IniKeeper.Unicode.Mark
import IniKeeper.Web.Domain.Mapping
import IniKeeper.Web.Domain.Punycode

/-!
# Labels of a domain

A label in ASCII may be anything. One with other characters must not begin with a mark, may hold the
invisible joiners only where they change how letters join, and must not be too long. A label that
announces Punycode stands for the label it decodes to, which must be in the form that mapping and
composing give.
-/

namespace IniKeeper

namespace Web

namespace Domain

namespace Label

/-- The most characters of a label beyond ASCII. -/
def maxLength : Nat := 1000

/-- The most characters of Punycode in a label. -/
def maxCodeLength : Nat := 2000

/-- Whether a text is in ASCII. -/
def isAscii (text : Text) : Bool := text.all (·.toNat < 0x80)

/-- The character that keeps letters from joining. -/
def nonJoiner : Char := '\u200c'

/-- The character that makes letters join. -/
def joiner : Char := '\u200d'

/-- Whether the first character of a text that is not joined across joins in a certain way. -/
def reaches (joins : Unicode.Joining → Bool) (text : Text) : Bool :=
  match text.map Unicode.Joining.of |>.dropWhile (· == .across) with
  | [] => false
  | joining :: _ => joins joining

/-- Whether a joiner may stand between two texts, of which the first is spelled backwards: after a
sign that mutes a vowel, and to keep apart letters that would join. -/
def mayStand (c : Char) (before after : Text) : Bool :=
  before.head?.any (Unicode.combiningClass · == Unicode.viramaClass) ||
    (c == nonJoiner && reaches Unicode.Joining.joinsOnward before &&
      reaches Unicode.Joining.joinsBack after)

/-- Whether every joiner in a text may stand where it does; what comes before the text is spelled
backwards. -/
def joinersFit (before : Text) : Text → Bool
  | [] => true
  | c :: after =>
    ((c != joiner && c != nonJoiner) || mayStand c before after) &&
      joinersFit (c :: before) after

/-- Whether a label may be part of a domain. -/
def isValid (label : Text) : Bool :=
  isAscii label ||
    (!label.head?.any Unicode.isMark && joinersFit [] label && label.length ≤ maxLength)

/-- The label that Punycode stands for. -/
def ofCode? (code : Text) : Option Text :=
  if isAscii code && !code.isEmpty && code.getLast? != some '-' && code.length ≤ maxCodeLength then
    (Punycode.decode? code).filter fun label =>
      label.all Mapping.isKept && Unicode.composed label == label
  else none

/-- The label that a mapped and composed text stands for, unless no domain may have it. -/
def read? (text : Text) : Option Text :=
  let label :=
    match text with
    | 'x' :: 'n' :: '-' :: '-' :: code => ofCode? code
    | _ => some text
  label.filter isValid

end Label

end Domain

end Web

end IniKeeper
