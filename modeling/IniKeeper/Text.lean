/-!
# Text

Text is its sequence of characters, so that every rule about lines, names and values is a rule
about lists. This module owns the type, substring search and padding; white space, line splitting
and quoting have modules of their own.
-/

namespace IniKeeper

/-- Text is the sequence of its characters. -/
abbrev Text := List Char

namespace Text

/-- Text as a string, for printing. -/
def string (text : Text) : String := String.ofList text

/-- Encoded size of a text in bytes. -/
def byteSize (text : Text) : Nat := (string text).utf8ByteSize

/-- Whether `part` occurs in a text as a block of neighbouring characters. -/
def hasPart (part : Text) : Text → Bool
  | [] => part.isEmpty
  | c :: rest => part.isPrefixOf (c :: rest) || hasPart part rest

/-- A text followed by spaces up to `width` characters; a longer text is left as it is. -/
def padRight (width : Nat) (text : Text) : Text :=
  text ++ List.replicate (width - text.length) ' '

/-- Text without any leading repetition of one character. -/
def dropLeading (c : Char) (text : Text) : Text := text.dropWhile (· == c)

/-- Lower-case form of the Latin capital letters A to Z; every other character is kept. -/
def lowerAscii (text : Text) : Text := text.map Char.toLower

end Text

end IniKeeper
