import IniKeeper.Text.Blank

/-!
# Lines of INI text

A line is blank, a header, a comment, a setting, or not recognized. The kinds overlap in shape, so
they are tried in that order and the first that fits the whole line wins. A header may contain an
equals sign, a bracketed name followed by anything but white space is no header, and a line feed
inside the line rules out comments and setting values but not names.
-/

namespace IniKeeper

/-- What one line of INI text says. -/
inductive Line where
  /-- Nothing but white space. -/
  | blank
  /-- A bracketed section name, trimmed and possibly empty. -/
  | header (name : Text)
  /-- A comment line, its marker included. -/
  | comment (text : Text)
  /-- A key and a value around the first equals sign, neither of them trimmed. -/
  | setting (key value : Text)
  /-- A line that the grammar does not know. -/
  | unrecognized (text : Text)
  deriving Repr, DecidableEq

namespace Line

/-- The two characters that begin a comment. -/
def isMarker (c : Char) : Bool := c == '#' || c == ';'

/-- The characters that may stand in the key of a line: all but markers and the equals sign. -/
def isKeyChar (c : Char) : Bool := !(isMarker c || c == '=')

/-- The text after a header's opening bracket: a name without a closing bracket, that bracket, and
then only white space. -/
def closeHeader? (text : Text) : Option Text :=
  match text.dropWhile (· != ']') with
  | [] => none
  | _ :: rest => if rest.all Text.isBlank then some (text.takeWhile (· != ']')) else none

/-- The untrimmed name of a line of header shape. -/
def headerName? (text : Text) : Option Text :=
  match Text.trimStart text with
  | '[' :: rest => closeHeader? rest
  | _ => none

/-- Whether a text is one comment line: a marker, a space or tab, and no line feed after them. -/
def isComment : Text → Bool
  | marker :: gap :: rest => isMarker marker && (gap == ' ' || gap == '\t') && !rest.contains '\n'
  | _ => false

/-- The parts of a line of setting shape: a key that is not empty, an equals sign, and a value
without a line feed. -/
def settingParts? (text : Text) : Option (Text × Text) :=
  match text.takeWhile isKeyChar, text.dropWhile isKeyChar with
  | c :: key, '=' :: value => if value.contains '\n' then none else some (c :: key, value)
  | _, _ => none

/-- The kind of a line that is not blank and not a header. -/
def classifyBody (text : Text) : Line :=
  if isComment text then comment text
  else
    match settingParts? text with
    | some (key, value) => setting key value
    | none => unrecognized text

/-- The kind of a line, with the parts that the kind names. -/
def classify (text : Text) : Line :=
  if text.all Text.isBlank then blank
  else
    match headerName? text with
    | some name => header (Text.trim name)
    | none => classifyBody text

end Line

end IniKeeper
