import IniKeeper.Text

/-!
# Lines of a text

A text is cut at its line feeds. A piece that a line feed ends loses one carriage return before
that line feed; a last piece that nothing ends is a line as it stands, and is no line when empty.
-/

namespace IniKeeper

namespace Text

/-- A line without the one carriage return that stood before its line feed. -/
def dropReturn (piece : Text) : Text :=
  if piece.getLast? = some '\r' then piece.dropLast else piece

/-- The piece after the last line feed is a line unless it is empty. -/
def lastLine : Text → List Text
  | [] => []
  | piece => [piece]

/-- The lines of a text, in order. -/
def lines (text : Text) : List Text :=
  let pieces := text.splitOn '\n'
  pieces.dropLast.map dropReturn ++ lastLine (pieces.getLast?.getD [])

/-- Lines written one under the other, with a line feed between neighbours. -/
def joinLines (rows : List Text) : Text := ['\n'].intercalate rows

end Text

end IniKeeper
