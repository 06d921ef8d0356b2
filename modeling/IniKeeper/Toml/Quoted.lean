import IniKeeper.Number.Digit
import IniKeeper.Toml.Value

/-!
# TOML strings

A string is quoted with double quotes, between which backslashes escape, or with single quotes,
between which nothing does; three quotes instead of one let it run over several lines. Each reader
below takes what follows the opening quotes and gives the string and what follows the closing ones.
The writer picks the plainest form that holds a text.
-/

namespace IniKeeper

namespace Toml

namespace Quoted

/-- Whether a character may stand in a string or comment as it is. -/
def isPlain (c : Char) : Bool := c == '\t' || (0x20 ≤ c.toNat && c.toNat != 0x7f)

/-- The character that a backslash with a letter stands for. -/
def escaped? : Char → Option Char
  | 'b' => some '\x08'
  | 't' => some '\t'
  | 'n' => some '\n'
  | 'f' => some '\x0c'
  | 'r' => some '\r'
  | '"' => some '"'
  | '\\' => some '\\'
  | _ => none

/-- The character of a code in hexadecimal digits. -/
def coded? (digits : List Char) : Option Char := do
  let code ← Digit.number? 16 digits
  if code.isValidChar then some (Char.ofNat code) else none

/-- A string with one more character in front. -/
def prepend (c : Char) : Option (Text × Text) → Option (Text × Text) :=
  Option.map fun (text, rest) => (c :: text, rest)

/-- A string between double quotes. -/
def basic : Text → Option (Text × Text)
  | '"' :: rest => some ([], rest)
  | '\\' :: 'u' :: a :: b :: c :: d :: rest => do prepend (← coded? [a, b, c, d]) (basic rest)
  | '\\' :: 'U' :: a :: b :: c :: d :: e :: f :: g :: h :: rest => do
    prepend (← coded? [a, b, c, d, e, f, g, h]) (basic rest)
  | '\\' :: mark :: rest => do prepend (← escaped? mark) (basic rest)
  | c :: rest => if isPlain c then prepend c (basic rest) else none
  | [] => none

/-- A string between single quotes. -/
def literal : Text → Option (Text × Text)
  | '\'' :: rest => some ([], rest)
  | c :: rest => if isPlain c then prepend c (literal rest) else none
  | [] => none

/-- Whether a backslash before this text ends its line: only white space stands before the line
feed. -/
def endsLine (text : Text) : Bool :=
  match text.dropWhile fun c => c == ' ' || c == '\t' with
  | '\n' :: _ => true
  | '\r' :: '\n' :: _ => true
  | _ => false

/-- A string between three double quotes. While `skipping`, white space and line feeds are left
out, as they are after a backslash at the end of a line. -/
def multiBasic (skipping : Bool) : Text → Option (Text × Text)
  | '"' :: '"' :: '"' :: '"' :: '"' :: rest => some (['"', '"'], rest)
  | '"' :: '"' :: '"' :: '"' :: rest => some (['"'], rest)
  | '"' :: '"' :: '"' :: rest => some ([], rest)
  | '\\' :: 'u' :: a :: b :: c :: d :: rest => do
    prepend (← coded? [a, b, c, d]) (multiBasic false rest)
  | '\\' :: 'U' :: a :: b :: c :: d :: e :: f :: g :: h :: rest => do
    prepend (← coded? [a, b, c, d, e, f, g, h]) (multiBasic false rest)
  | '\\' :: mark :: rest =>
    if endsLine (mark :: rest) then multiBasic true (mark :: rest)
    else do prepend (← escaped? mark) (multiBasic false rest)
  | '\r' :: '\n' :: rest =>
    if skipping then multiBasic true rest else prepend '\n' (multiBasic false rest)
  | c :: rest =>
    if skipping && (c == ' ' || c == '\t' || c == '\n') then multiBasic true rest
    else if isPlain c || c == '\n' then prepend c (multiBasic false rest)
    else none
  | [] => none

/-- A string between three single quotes. -/
def multiLiteral : Text → Option (Text × Text)
  | '\'' :: '\'' :: '\'' :: '\'' :: '\'' :: rest => some (['\'', '\''], rest)
  | '\'' :: '\'' :: '\'' :: '\'' :: rest => some (['\''], rest)
  | '\'' :: '\'' :: '\'' :: rest => some ([], rest)
  | '\r' :: '\n' :: rest => prepend '\n' (multiLiteral rest)
  | c :: rest => if isPlain c || c == '\n' then prepend c (multiLiteral rest) else none
  | [] => none

/-- A text without a line break at its start, which a string of several lines does not count. -/
def dropBreak : Text → Text
  | '\n' :: rest => rest
  | '\r' :: '\n' :: rest => rest
  | rest => rest

/-- A string in any of its forms, with its opening quotes. -/
def read : Text → Option (Text × Text)
  | '"' :: '"' :: '"' :: rest => multiBasic false (dropBreak rest)
  | '\'' :: '\'' :: '\'' :: rest => multiLiteral (dropBreak rest)
  | '"' :: rest => basic rest
  | '\'' :: rest => literal rest
  | _ => none

/-! ### Writing -/

/-- The length of the longest run of a character. -/
def longestRun (c : Char) (text : Text) : Nat :=
  (text.splitBy fun a b => a == c && b == c).foldl
    (fun best run => if run.head? == some c then max best run.length else best) 0

/-- Whether a character can be written only with an escape. -/
def needsEscape (c : Char) : Bool := !isPlain c && c != '\n'

/-- The escape of a character, in four hexadecimal digits where it has no letter. -/
def escape (c : Char) : Text :=
  match c with
  | '\x08' => ['\\', 'b']
  | '\t' => ['\\', 't']
  | '\n' => ['\\', 'n']
  | '\x0c' => ['\\', 'f']
  | '\r' => ['\\', 'r']
  | '\\' => ['\\', '\\']
  | '"' => ['\\', '"']
  | c =>
    let digits := (Nat.toDigits 16 c.toNat).map Char.toUpper
    ['\\', 'u'] ++ List.replicate (4 - digits.length) '0' ++ digits

/-- The characters of a string between double quotes; `quotes` counts those right before, of which
`allowed` may stand without an escape. -/
def escapeAll (lines : Bool) (allowed quotes : Nat) : Text → Text
  | [] => []
  | c :: rest =>
    if c == '"' then
      if quotes < allowed then c :: escapeAll lines allowed (quotes + 1) rest
      else escape c ++ escapeAll lines allowed 0 rest
    else if c == '\n' && lines then c :: escapeAll lines allowed 0 rest
    else if c == '\\' || c == '\t' || c == '\n' || needsEscape c then
      escape c ++ escapeAll lines allowed 0 rest
    else c :: escapeAll lines allowed 0 rest

/-- A text as a string: between double quotes if nothing in it needs care, else between single
quotes, else between three of either, and with escapes only where there is no other way. -/
def write (text : Text) : Text :=
  let broken := text.contains '\n'
  let controls := text.any needsEscape
  let backslash := text.contains '\\'
  let doubles := longestRun '"' text
  let singles := longestRun '\'' text
  let opening : Text := if broken then ['\n'] else []
  let three (c : Char) : Text := [c, c, c]
  if !controls && !backslash && doubles == 0 && !broken then
    ['"'] ++ escapeAll false 0 0 text ++ ['"']
  else if !controls && singles == 0 && !broken then ['\''] ++ text ++ ['\'']
  else if !controls && !backslash && doubles ≤ 2 then
    three '"' ++ opening ++ escapeAll true 2 0 text ++ three '"'
  else if !controls && singles ≤ 2 then three '\'' ++ opening ++ text ++ three '\''
  else if broken then three '"' ++ opening ++ escapeAll true 2 0 text ++ three '"'
  else ['"'] ++ escapeAll false 0 0 text ++ ['"']

end Quoted

end Toml

end IniKeeper
