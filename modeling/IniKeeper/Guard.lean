import IniKeeper.Comment
import IniKeeper.Refusal

/-!
# Guards on what may be stored

Every write passes these checks, so that rendering a document and reading the text again gives the
same names, values and comments. Keys, values and section names are stored trimmed, the way the
reader gives them back. A key and its value are checked together as well, because a key such as
`[a` and a value such as `b]` are harmless apart but form a header when written as one line.
-/

namespace IniKeeper

namespace Guard

/-- Whether a character ends a line. -/
def isBreak (c : Char) : Bool := c == '\n' || c == '\r'

/-- Whether a text has neither line feeds nor carriage returns. -/
def isUnbroken (text : Text) : Bool := !text.any isBreak

/-- Accept a comment that is absent or a comment block. -/
def comment (text : Option Text) : Except Refusal Unit :=
  if Comment.isValid text then .ok () else .error (.badComment (text.getD []))

/-- Accept a key and give it trimmed. -/
def key (text : Text) : Except Refusal Text :=
  let trimmed := Text.trim text
  if trimmed.isEmpty then .error .emptyKey
  else if trimmed.all Line.isKeyChar && isUnbroken trimmed then .ok trimmed
  else .error (.badKey text)

/-- Accept a section name and give it trimmed. -/
def sectionName (text : Text) : Except Refusal Text :=
  let trimmed := Text.trim text
  if trimmed.isEmpty then .error .emptySectionName
  else if !trimmed.contains ']' && isUnbroken trimmed then .ok trimmed
  else .error (.badSectionName text)

/-- Accept a value and give it trimmed; a line break counts even where trimming would remove it. -/
def value (text : Text) : Except Refusal Text :=
  if isUnbroken text then .ok (Text.trim text) else .error (.badValue text)

/-- Whether a key and a value, written as one line, are read as a setting. -/
def readsBack (key value : Text) : Bool :=
  match Line.classify (key ++ '=' :: value) with
  | .setting _ _ => true
  | _ => false

/-- Accept a key with a value and give both trimmed. -/
def entry (keyText valueText : Text) : Except Refusal (Text × Text) := do
  let key ← key keyText
  let value ← value valueText
  if readsBack key value then .ok (key, value) else .error (.misread key value)

end Guard

end IniKeeper
