import IniKeeper.Line
import IniKeeper.Text.Lines

/-!
# Comment blocks

A comment block is one or more neighbouring comment lines, kept as one text with line feeds
between them. A comment is either absent or a block in which every line is a comment line.
-/

namespace IniKeeper

namespace Comment

/-- Whether a text is a comment block: it is not empty and each of its lines is a comment line. -/
def isBlock (text : Text) : Bool := !text.isEmpty && (text.splitOn '\n').all Line.isComment

/-- Whether a comment may be stored: no comment at all, or a comment block. -/
def isValid : Option Text → Bool
  | none => true
  | some text => isBlock text

/-- The character that a block's standalone entry is named after: its first, or `#` for none. -/
def marker (block : Text) : Char := block.headD '#'

end Comment

end IniKeeper
