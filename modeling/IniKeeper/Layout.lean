import IniKeeper.Document

/-!
# Writing a document

A document is written section by section. Comments stand on their own lines above what they belong
to, a blank line follows every header and every comment block that belongs to no key, and a key and
its value share one line with no white space at its end. Reading the text again gives the same
sections, keys, values and comments.
-/

namespace IniKeeper

namespace Layout

/-- What stands between a key and its value. -/
def separator (padded : Bool) : Text := if padded then [' ', '=', ' '] else ['=']

/-- A comment block with the line feed that ends it; nothing for no comment. -/
def commentText : Option Text → Text
  | none => []
  | some block => block ++ ['\n']

/-- The line of a key and its value. -/
def settingLine (padded : Bool) (key value : Text) : Text :=
  Text.trimEnd (key ++ separator padded ++ value)

/-- An entry with everything that belongs to it. -/
def entryText (padded : Bool) (entry : Entry) : Text :=
  if entry.isStandalone then
    match entry.comment with
    | none => []
    | some block => block ++ ['\n', '\n']
  else commentText entry.comment ++ settingLine padded entry.key entry.valueText ++ ['\n']

/-- What stands above the entries of a section. -/
def headText (sect : Section) : Text :=
  match sect.name with
  | some name => commentText sect.comment ++ ['['] ++ name ++ [']', '\n', '\n']
  | none =>
    match sect.comment with
    | none => []
    | some block => block ++ ['\n', '\n']

/-- A section with its entries. -/
def sectionText (padded : Bool) (sect : Section) : Text :=
  headText sect ++ sect.entries.flatMap (entryText padded)

end Layout

/-- The text of a document. -/
def Document.render (document : Document) (padded : Bool) : Text :=
  document.sections.flatMap (Layout.sectionText padded)

end IniKeeper
