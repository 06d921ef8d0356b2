import IniKeeper.Backup
import IniKeeper.Document
import IniKeeper.Number.Binary

/-!
# Listings

How sections, merged entries, backups and sizes are laid out for reading. Columns have fixed widths
for a terminal of eighty characters; a text too long for its column is cut and ends in three dots.
-/

namespace IniKeeper

namespace Listing

/-- Width of the terminal. -/
def terminalWidth : Nat := 80

/-- Characters of a row that are frame or gap. -/
def frameWidth : Nat := 5

/-- Width of the column for keys: a good third of the row, within bounds. -/
def keyWidth : Nat := min 30 (max 8 ((terminalWidth - frameWidth) * 35 / 100))

/-- Width of the column for values: the rest of the row. -/
def valueWidth : Nat := max 10 (terminalWidth - frameWidth - (keyWidth + 1))

/-- Line feeds written as a backslash and a letter. -/
def flattenLines (text : Text) : Text :=
  text.flatMap fun c => if c == '\n' then ['\\', 'n'] else [c]

/-- A text on one line, cut to a width; room for three dots is taken from the text if there is
any. -/
def truncate (width : Nat) (text : Text) : Text :=
  let flat := flattenLines text
  if flat.length ≤ width then flat
  else if width ≤ 3 then flat.take width
  else flat.take (width - 3) ++ ['.', '.', '.']

/-- A horizontal line. -/
def rule (width : Nat) : Text := List.replicate width '─'

/-- The left edge of a row. -/
def edge : Text := ['│', ' ']

/-- How a listing counts keys. -/
def keyCountText (sect : Section) : Text :=
  '(' :: Event.count sect.keyCount ++ " keys)".toList

/-- The heading of a section. -/
def heading (sect : Section) : Text := Section.label sect.name ++ ' ' :: keyCountText sect

/-- A row with a comment. -/
def commentRow (block : Text) : Text := edge ++ truncate (keyWidth + valueWidth + 1) block

/-- A row with an entry; an asterisk tells that it has a comment. -/
def entryRow (entry : Entry) : Text :=
  if entry.isStandalone then commentRow (entry.comment.getD [])
  else
    edge ++ Text.padRight keyWidth (truncate keyWidth entry.key) ++
      ' ' :: truncate (valueWidth - 1) entry.valueText ++
      [if entry.comment.isSome then '*' else ' ']

/-- The rows of a section. -/
def sectionRows (sect : Section) : List Text :=
  [['┌', '─', ' '] ++ heading sect] ++ sect.comment.toList.map commentRow ++
    sect.entries.map entryRow ++ ['└' :: rule (keyWidth + valueWidth + 3)]

/-- The line under a listing. -/
def totals (document : Document) : Text :=
  "Total: ".toList ++ Event.count document.keyCount ++ " keys in ".toList ++
    Event.count document.namedCount ++ " sections (* marks a commented key)".toList

/-- A warning with its line. -/
def warningText (warning : Warning) : Text :=
  "Line ".toList ++ Event.count warning.line ++ ": ".toList ++ warning.message

/-- A row of the preview of a merge, which tells whether the key is there already. -/
def previewRow (present : Bool) (sect : Option Text) (entry : Entry) : Text :=
  [' ', ' ', if present then '~' else '+', ' '] ++ Text.padRight 12 (Section.label sect) ++
    ' ' :: entry.key ++ " = ".toList ++ entry.valueText

/-- Bytes of a kilobyte. -/
def kilobyte : Nat := 1024

/-- Bytes of a megabyte. -/
def megabyte : Nat := kilobyte * kilobyte

/-- A number of bytes in a unit, with one place after the point and a half going to the even
neighbour. -/
def inUnit (bytes unit : Nat) : Text :=
  let tenths := Binary.roundEven (bytes * 10) unit
  Event.count (tenths / 10) ++ '.' :: Event.count (tenths % 10)

/-- A number of bytes in the largest unit that it fills. -/
def sizeText (bytes : Nat) : Text :=
  if megabyte ≤ bytes then inUnit bytes megabyte ++ " MB".toList
  else if kilobyte ≤ bytes then inUnit bytes kilobyte ++ " KB".toList
  else Event.count bytes ++ " B".toList

/-- A row of the table of backups. -/
def backupColumns (id timestamp size : Text) : Text :=
  Text.padRight 36 id ++ ' ' :: Text.padRight 20 timestamp ++ ' ' :: size

/-- The row of a backup. -/
def backupRow (backup : Backup) : Text :=
  backupColumns backup.id backup.timestamp (sizeText backup.size)

end Listing

end IniKeeper
