import IniKeeper.Text.Quoted

/-!
# Refused writes

A write is refused when the text it would produce could not be read back as what was written. Each
refusal names its cause and the offending text.
-/

namespace IniKeeper

/-- Why a write was refused. -/
inductive Refusal where
  /-- A comment with a line that is no comment line. -/
  | badComment (comment : Text)
  /-- A key of nothing but white space. -/
  | emptyKey
  /-- A key with a marker, an equals sign or a line break. -/
  | badKey (key : Text)
  /-- A section name of nothing but white space. -/
  | emptySectionName
  /-- A section name with a closing bracket or a line break. -/
  | badSectionName (name : Text)
  /-- A value with a line break. -/
  | badValue (value : Text)
  /-- A key and value that together would be read as something else. -/
  | misread (key value : Text)
  deriving Repr, DecidableEq

namespace Refusal

/-- The wording of a refusal. -/
def message : Refusal → Text
  | badComment comment =>
    "comment ".toList ++ Text.quoted comment ++
      " must start with '#' or ';' followed by whitespace".toList
  | emptyKey => "key must not be empty".toList
  | badKey key =>
    "key ".toList ++ Text.quoted key ++
      " must not contain '#', ';', '=' or line breaks".toList
  | emptySectionName => "section name must not be empty".toList
  | badSectionName name =>
    "section name ".toList ++ Text.quoted name ++ " must not contain ']' or line breaks".toList
  | badValue value =>
    "value ".toList ++ Text.quoted value ++ " must not contain line breaks".toList
  | misread key value =>
    "key ".toList ++ Text.quoted key ++ " with value ".toList ++ Text.quoted value ++
      " would not be read back as a key".toList

end Refusal

end IniKeeper
