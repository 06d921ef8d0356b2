import IniKeeper.Toml.Quoted
import IniKeeper.Toml.Scalar

/-!
# TOML documents

A document is a sequence of lines that are empty, open a table with a header, or give a key its
value in the table opened last. A document is read completely or not at all.
-/

namespace IniKeeper

namespace Toml

namespace Document

/-- Text after spaces and tabs. -/
def skipBlanks (text : Text) : Text := text.dropWhile fun c => c == ' ' || c == '\t'

/-- Text after white space, line breaks and comments. A character that no comment may hold stops
the skipping, and nothing that may follow begins with one. -/
def skipFiller (inComment : Bool) : Text → Text
  | '\n' :: rest => skipFiller false rest
  | '\r' :: '\n' :: rest => skipFiller false rest
  | c :: rest =>
    if inComment then if Quoted.isPlain c then skipFiller true rest else c :: rest
    else if c == ' ' || c == '\t' then skipFiller false rest
    else if c == '#' then skipFiller true rest
    else c :: rest
  | [] => []

/-- Text after the rest of a line that holds nothing more than a comment. -/
def endLine? (text : Text) : Option Text :=
  let rest :=
    match skipBlanks text with
    | '#' :: comment => comment.dropWhile Quoted.isPlain
    | other => other
  match rest with
  | [] => some []
  | '\n' :: next => some next
  | '\r' :: '\n' :: next => some next
  | _ => none

/-- Whether a character may stand in a key without quotes. -/
def isBare (c : Char) : Bool := c.isAlphanum || c == '_' || c == '-'

/-- One key and what follows it. -/
def simpleKey? : Text → Option (Text × Text)
  | '"' :: rest => Quoted.basic rest
  | '\'' :: rest => Quoted.literal rest
  | text =>
    let key := text.takeWhile isBare
    if key.isEmpty then none else some (key, text.dropWhile isBare)

/-- At most so many keys with dots between them, and what follows them. -/
def path? (most : Nat) (text : Text) : Option (List Text × Text) :=
  match most with
  | 0 => none
  | most + 1 => do
    let (key, rest) ← simpleKey? (skipBlanks text)
    match skipBlanks rest with
    | '.' :: more => (path? most more).map fun (keys, rest) => (key :: keys, rest)
    | rest => some ([key], rest)

/-- The most keys with dots between them, and the most arrays and inline tables within each other.
-/
def maxDepth : Nat := 79

/-- Keys with dots between them, and what follows them. -/
def keys? (text : Text) : Option (List Text × Text) :=
  path? maxDepth text

mutual

/-- A value and what follows it; `fuel` bounds the characters looked at, and `room` the arrays and
inline tables within each other. -/
def value? (fuel room : Nat) (text : Text) : Option (Value × Text) :=
  match fuel with
  | 0 => none
  | fuel + 1 =>
    match text, room with
    | '[' :: _, 0 | '\x7b' :: _, 0 => none
    | '[' :: rest, room + 1 =>
      (array? fuel room (skipFiller false rest)).map fun (items, rest) => (.array items, rest)
    | '\x7b' :: rest, room + 1 =>
      match skipBlanks rest with
      | '\x7d' :: rest => some (.inline [], rest)
      | rest => (inline? fuel room [] rest).map fun (items, rest) => (.inline items, rest)
    | '"' :: _, _ | '\'' :: _, _ =>
      (Quoted.read text).map fun (string, rest) => (.string string, rest)
    | _, _ =>
      let (run, rest) := Scalar.splitRun text
      (Scalar.read? run).map (·, rest)

/-- The values of an array up to its closing bracket, the last with or without a comma. -/
def array? (fuel room : Nat) (text : Text) : Option (List Value × Text) :=
  match fuel with
  | 0 => none
  | fuel + 1 =>
    match text with
    | ']' :: rest => some ([], rest)
    | _ => do
      let (item, rest) ← value? fuel room text
      match skipFiller false rest with
      | ',' :: more =>
        (array? fuel room (skipFiller false more)).map fun (items, rest) => (item :: items, rest)
      | ']' :: rest => some ([item], rest)
      | _ => none

/-- The keys of an inline table up to its closing brace, added to those before. -/
def inline? (fuel room : Nat) (before : Items) (text : Text) : Option (Items × Text) :=
  match fuel with
  | 0 => none
  | fuel + 1 => do
    let (keys, rest) ← keys? text
    match rest with
    | '=' :: rest => do
      let (item, rest) ← value? fuel room (skipBlanks rest)
      let items ← Items.assign .defined before keys.dropLast (keys.getLast?.getD []) item
      match skipBlanks rest with
      | ',' :: more => inline? fuel room items more
      | '\x7d' :: rest => some (items, rest)
      | _ => none
    | _ => none

end

/-- A document as read so far, and the path of the table opened last. -/
structure State where
  /-- The document. -/
  items : Items
  /-- The path of the open table. -/
  current : List Text

/-- Open a table with a header. -/
def State.open? (state : State) (doubled : Bool) (keys : List Text) : Option State := do
  let key ← keys.getLast?
  let items ← Items.descend false .defined state.items keys.dropLast fun _ items =>
    if doubled then items.defineMore key else items.define key
  some ⟨items, keys⟩

/-- Give a key its value in the open table. -/
def State.set? (state : State) (keys : List Text) (value : Value) : Option State := do
  let key ← keys.getLast?
  let items ← Items.descend false .defined state.items state.current fun form items =>
    Items.assign form items keys.dropLast key value
  some { state with items }

/-- A header or a key with its value, and what follows it on its line. -/
def expression? (state : State) : Text → Option (State × Text)
  | '[' :: '[' :: rest => do
    let (keys, rest) ← keys? rest
    match rest with
    | ']' :: ']' :: rest => (state.open? true keys).map (·, rest)
    | _ => none
  | '[' :: rest => do
    let (keys, rest) ← keys? rest
    match rest with
    | ']' :: rest => (state.open? false keys).map (·, rest)
    | _ => none
  | text => do
    let (keys, rest) ← keys? text
    match rest with
    | '=' :: rest => do
      let (value, rest) ← value? (rest.length + 1) maxDepth (skipBlanks rest)
      (state.set? keys value).map (·, rest)
    | _ => none

/-- The lines of a document; `fuel` bounds their number. -/
def lines? (fuel : Nat) (state : State) (text : Text) : Option State :=
  match fuel with
  | 0 => none
  | fuel + 1 =>
    match skipFiller false text with
    | [] => some state
    | rest => do
      let (state, rest) ← expression? state rest
      lines? fuel state (← endLine? rest)

/-- A text without a byte order mark in front. -/
def dropMark : Text → Text
  | '\ufeff' :: rest => rest
  | text => text

/-- The table that a document denotes. -/
def read? (text : Text) : Option Items :=
  (lines? (text.length + 1) ⟨[], []⟩ (dropMark text)).map State.items

end Document

end Toml

end IniKeeper
