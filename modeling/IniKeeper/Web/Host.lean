import IniKeeper.Number.Digit
import IniKeeper.Number.Integer
import IniKeeper.Web.Domain

/-!
# Hosts of web addresses

The host of a web address is an address of version six in brackets, an address of version four, or
a domain. A host whose last label is a number must be an address of version four, written with up
to four parts that may be octal or hexadecimal and of which the last fills the bytes left over.
-/

namespace IniKeeper

namespace Web

/-- Why a web address is not valid. -/
inductive Defect where
  /-- No scheme stands before a colon. -/
  | relative
  /-- A host is needed and missing. -/
  | emptyHost
  /-- What follows the host and a colon is no number, or too large a one. -/
  | badNumber
  /-- The host ends in a number and is no address of version four. -/
  | badVersionFour
  /-- The brackets hold no address of version six. -/
  | badVersionSix
  /-- The domain cannot be brought into its plain form. -/
  | badDomain
  /-- The host has a character that hosts must not have. -/
  | badHostCharacter
  deriving Repr, DecidableEq

/-- The wording of a defect. -/
def Defect.message : Defect → Text
  | relative => "relative URL without a base".toList
  | emptyHost => "empty host".toList
  | badNumber => "invalid port number".toList
  | badVersionFour => "invalid IPv4 address".toList
  | badVersionSix => "invalid IPv6 address".toList
  | badDomain => "invalid international domain name".toList
  | badHostCharacter => "invalid domain character".toList

namespace Host

/-- One part of an address of version four: decimal, octal after a zero, hexadecimal after `0x`. -/
def part? : Text → Option Nat
  | [] => none
  | '0' :: 'x' :: digits | '0' :: 'X' :: digits => Digit.number? 16 digits
  | '0' :: c :: digits => Digit.number? 8 (c :: digits)
  | digits => Digit.number? 10 digits

/-- The labels of a domain, without the empty one after a final dot. -/
def labels (domain : Text) : List Text :=
  let parts := domain.splitOn '.'
  if parts.getLast? == some [] then parts.dropLast else parts

/-- Whether the last label of a domain is a number. -/
def endsInNumber (domain : Text) : Bool :=
  match (labels domain).getLast? with
  | none => false
  | some last => (!last.isEmpty && last.all Char.isDigit) || (part? last).isSome

/-- Whether a domain is an address of version four. -/
def isVersionFour (domain : Text) : Bool :=
  match ((labels domain).mapM part?).map List.reverse with
  | some (last :: before) =>
    before.length < 4 && before.all (· ≤ 255) && last < Nat.pow 256 (4 - before.length)
  | _ => false

/-- Whether a text is one part of the dotted end of an address of version six. -/
def isDottedPart (part : Text) : Bool :=
  match Integer.readDigits? part with
  | some n => n ≤ 255 && (part.length == 1 || part.head? != some '0')
  | none => false

/-- Whether a text is one group of sixteen bits. -/
def isGroup (piece : Text) : Bool :=
  !piece.isEmpty && piece.length ≤ 4 && piece.all (Digit.isDigit 16)

/-- How many groups of sixteen bits colon-separated pieces stand for; only the last piece of an
address may be four dotted numbers. -/
def groups? : List Text → Option Nat
  | [] => some 0
  | [last] =>
    if last.contains '.' then
      let parts := last.splitOn '.'
      if parts.length == 4 && parts.all isDottedPart then some 2 else none
    else if isGroup last then some 1
    else none
  | piece :: rest => if isGroup piece then (groups? rest).map (· + 1) else none

/-- The pieces of one side of an address of version six. -/
def pieces (side : Text) : List Text := if side.isEmpty then [] else side.splitOn ':'

/-- The text before and after the first pair of colons. -/
def splitGap? : Text → Option (Text × Text)
  | ':' :: ':' :: rest => some ([], rest)
  | [] => none
  | c :: rest => (splitGap? rest).map fun (left, right) => (c :: left, right)

/-- Whether a text is an address of version six: eight groups, or fewer with one gap. -/
def isVersionSix (text : Text) : Bool :=
  match splitGap? text with
  | none => groups? (pieces text) == some 8
  | some (left, right) =>
    let wholeLeft := (pieces left).all fun piece => !piece.contains '.'
    match groups? (pieces left), groups? (pieces right) with
    | some before, some after => wholeLeft && before + after ≤ 7
    | _, _ => false

/-- The characters that no host outside the web's own schemes may have. -/
def isForbiddenInHost (c : Char) : Bool :=
  c == '\x00' || "\t\n\r #/:<>?@[\\]^|".toList.contains c

/-- The bytes of a text in which a percent sign with two hexadecimal digits stands for a byte. -/
def percentDecode : List UInt8 → List UInt8
  | 0x25 :: high :: low :: rest =>
    match Digit.value? 16 (Char.ofNat high.toNat), Digit.value? 16 (Char.ofNat low.toNat) with
    | some a, some b => UInt8.ofNat (16 * a + b) :: percentDecode rest
    | _, _ => 0x25 :: percentDecode (high :: low :: rest)
  | byte :: rest => byte :: percentDecode rest
  | [] => []

/-- The domain that a host text stands for once escapes are resolved. -/
def domain? (text : Text) : Option Text :=
  let bytes := percentDecode (Text.string text).toUTF8.toList
  (String.fromUTF8? ⟨bytes.toArray⟩).bind fun name => Domain.read? name.toList

/-- The defect of a host of one of the web's own schemes, if it has one. -/
def defect? (text : Text) : Option Defect :=
  match text with
  | '[' :: inner =>
    if inner.getLast? == some ']' && isVersionSix inner.dropLast then none else some .badVersionSix
  | _ =>
    match domain? text with
    | none => some .badDomain
    | some domain =>
      if domain.isEmpty then some .emptyHost
      else if endsInNumber domain && !isVersionFour domain then some .badVersionFour
      else none

/-- The defect of a host of any other scheme, if it has one. -/
def opaqueDefect? (text : Text) : Option Defect :=
  match text with
  | '[' :: _ => defect? text
  | _ => if text.any isForbiddenInHost then some .badHostCharacter else none

end Host

end Web

end IniKeeper
