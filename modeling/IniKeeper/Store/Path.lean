import IniKeeper.Text

/-!
# Paths

A path is written as names with slashes between them and is shown the way it was written. Empty
pieces and single dots in it lead nowhere, so they count neither as the last name nor as a step;
two dots lead to the folder above.
-/

namespace IniKeeper

namespace Store

namespace Path

/-- The piece that stays in the same folder. -/
def here : Text := ['.']

/-- The piece that leads to the folder above. -/
def above : Text := ['.', '.']

/-- Whether a path starts at the root. -/
def isAbsolute (path : Text) : Bool := path.head? == some '/'

/-- Whether a piece of a path leads somewhere. -/
def isStep (piece : Text) : Bool := !piece.isEmpty && piece != here

/-- The steps of a path: its names and the pieces that lead up. -/
def steps (path : Text) : List Text := (path.splitOn '/').filter isStep

/-- Whether a path ends in a slash, or in a slash and a dot, and so can only name a folder. -/
def namesFolder (path : Text) : Bool :=
  match (path.splitOn '/').reverse with
  | last :: _ :: _ => !isStep last
  | _ => false

/-- Whether a path ends in a slash. -/
def endsInSlash (path : Text) : Bool := path.getLast? == some '/'

/-- Whether the last piece of a path, slashes at its end aside, is the one that stays in the same
folder. -/
def endsHere (path : Text) : Bool :=
  (path.splitOn '/').reverse.find? (fun piece => !piece.isEmpty) == some here

/-- The last name of a path; a path that ends by leading up has none. -/
def fileName? (path : Text) : Option Text := (steps path).getLast?.filter (· != above)

/-- Pieces without the ones at the end that lead nowhere. -/
def dropIdle (pieces : List Text) : List Text := (pieces.reverse.dropWhile (!isStep ·)).reverse

/-- Pieces with slashes between them. -/
def join (pieces : List Text) : Text := ['/'].intercalate pieces

/-- The path of the folder that holds what a path names; the root and the empty path have none. -/
def parent? (path : Text) : Option Text :=
  match path.splitOn '/' with
  | [] => none
  | first :: rest =>
    let inner := dropIdle rest
    if first.isEmpty then
      if inner.isEmpty then none else some ('/' :: join (dropIdle inner.dropLast))
    else if inner.isEmpty then some []
    else some (join (first :: dropIdle inner.dropLast))

/-- A path read from the folder of another; an absolute path stands for itself. -/
def under (folder path : Text) : Text :=
  if isAbsolute path || folder.isEmpty then path
  else if folder.getLast? == some '/' then folder ++ path
  else folder ++ '/' :: path

/-- The part of a file name after its last dot; a dot at the front begins no extension. -/
def extension? (name : Text) : Option Text :=
  match (name.splitOn '.').reverse with
  | last :: first :: more => if more.isEmpty && first.isEmpty then none else some last
  | _ => none

/-- A path in which a leading tilde stands for the home folder. -/
def expandHome (home path : Text) : Text :=
  match path with
  | '~' :: rest => under home (Text.dropLeading '/' rest)
  | _ => path

end Path

end Store

end IniKeeper
