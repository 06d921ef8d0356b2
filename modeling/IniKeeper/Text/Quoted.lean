import IniKeeper.Text
import IniKeeper.Unicode.Hidden

/-!
# Quoted text

Messages show foreign text between double quotes, so that no character of it can be overlooked or
disturb the message. Quotes, backslashes and the common controls have short escapes; characters
that print as nothing, as a gap or on top of their neighbour are written by their code in
hexadecimal; every other character stands for itself.
-/

namespace IniKeeper

namespace Text

/-- One character between quotes. -/
def quoteChar (c : Char) : Text :=
  match c with
  | '\x00' => ['\\', '0']
  | '\t' => ['\\', 't']
  | '\n' => ['\\', 'n']
  | '\r' => ['\\', 'r']
  | '"' => ['\\', '"']
  | '\\' => ['\\', '\\']
  | c =>
    if Unicode.isHidden c then ['\\', 'u', '\x7b'] ++ Nat.toDigits 16 c.toNat ++ ['\x7d'] else [c]

/-- A text between double quotes. -/
def quoted (text : Text) : Text := ['"'] ++ text.flatMap quoteChar ++ ['"']

end Text

end IniKeeper
