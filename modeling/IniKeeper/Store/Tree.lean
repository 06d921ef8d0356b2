import IniKeeper.Roster
import IniKeeper.Store.Cause
import IniKeeper.Store.Path

/-!
# Trees of files and folders

A tree maps places to files and folders. A place is the list of names that lead to it from the root,
which is always a folder; a path is resolved to a place by walking it, and every step needs a folder
to start from. An operation on one path gives a new tree or the cause why there is none, so it
leaves nothing behind where it fails; of several operations in a row, those before a failed one stay
done.
-/

namespace IniKeeper

namespace Store

/-- The names that lead from the root to a file or folder. -/
abbrev Place := List Text

/-- What a place holds. -/
inductive Node where
  /-- A file with its content. -/
  | file (content : ByteArray)
  /-- A folder. -/
  | folder

/-- Nodes are compared by their kind and, for files, byte by byte. -/
instance : DecidableEq Node
  | .folder, .folder => isTrue rfl
  | .folder, .file _ => isFalse fun same => Node.noConfusion same
  | .file _, .folder => isFalse fun same => Node.noConfusion same
  | .file content, .file other =>
    decidable_of_decidable_of_iff (p := content.data = other.data)
      ⟨fun same => congrArg Node.file (ByteArray.ext same),
        fun same => congrArg ByteArray.data (Node.file.inj same)⟩

/-- A tree, and the folder in it from which relative paths are read. -/
structure Tree where
  /-- Where relative paths start. -/
  start : Place
  /-- The places other than the root, each with what it holds. -/
  nodes : List (Place × Node)

namespace Tree

/-- The tree of empty folders down to the place where relative paths start. -/
def empty (start : Place) : Tree :=
  ⟨start, (List.range start.length).map fun above => (start.take (above + 1), Node.folder)⟩

/-- What a place holds, if anything. -/
def node? (tree : Tree) (place : Place) : Option Node :=
  if place = [] then some .folder else (Roster.get? Prod.fst place tree.nodes).map Prod.snd

/-- The tree with something at a place. -/
def set (tree : Tree) (place : Place) (node : Node) : Tree :=
  { tree with nodes := Roster.upsert Prod.fst place (place, node) (fun _ => (place, node))
                         tree.nodes }

/-- The tree with nothing at a place. -/
def unset (tree : Tree) (place : Place) : Tree :=
  { tree with nodes := Roster.erase Prod.fst place tree.nodes }

/-- The longest name of a file or folder, in bytes. -/
def maxNameBytes : Nat := 255

/-- The longest path, in bytes. -/
def maxPathBytes : Nat := 4095

/-- What a place holds, if anything; a name that is too long cannot be looked up. -/
def look (tree : Tree) (place : Place) : Except Cause (Option Node) :=
  if place.getLast?.any (maxNameBytes < Text.byteSize ·) then .error .nameTooLong
  else .ok (tree.node? place)

/-- The place one step away from a folder. -/
def step (place : Place) (name : Text) : Place :=
  if name = Path.above then place.dropLast else place ++ [name]

/-- The place that steps lead to; what is there is not looked at. -/
def walk (tree : Tree) (place : Place) : List Text → Except Cause Place
  | [] => .ok place
  | name :: rest => do
    match ← tree.look place with
    | none => .error .missing
    | some (.file _) => .error .notFolder
    | some .folder => tree.walk (step place name) rest

/-- The place that a path leads to. -/
def resolve (tree : Tree) (path : Text) : Except Cause Place :=
  if path.isEmpty then .error .missing
  else if path.contains '\x00' then .error .badName
  else if maxPathBytes < Text.byteSize path then .error .nameTooLong
  else tree.walk (if Path.isAbsolute path then [] else tree.start) (Path.steps path)

/-- What a path leads to. -/
def find (tree : Tree) (path : Text) : Except Cause Node := do
  match ← tree.look (← tree.resolve path) with
  | none => .error .missing
  | some (.file content) =>
    if Path.namesFolder path then .error .notFolder else .ok (.file content)
  | some .folder => .ok .folder

/-- Whether a path leads to anything. -/
def has (tree : Tree) (path : Text) : Bool :=
  match tree.find path with
  | .ok _ => true
  | .error _ => false

/-- Whether a path leads to a folder. -/
def hasFolder (tree : Tree) (path : Text) : Bool :=
  match tree.find path with
  | .ok .folder => true
  | _ => false

/-- The content of a file. -/
def read (tree : Tree) (path : Text) : Except Cause ByteArray := do
  match ← tree.find path with
  | .file content => .ok content
  | .folder => .error .isFolder

/-- The content of a file, as text. -/
def readText (tree : Tree) (path : Text) : Except Cause Text := do
  match String.fromUTF8? (← tree.read path) with
  | some text => .ok text.toList
  | none => .error .notText

/-- The tree with new content in a file, which is made if its folder is there. A path with a slash
at its end names no file to write to, whatever it leads to. -/
def write (tree : Tree) (path : Text) (content : ByteArray) : Except Cause Tree := do
  let place ← tree.resolve path
  if Path.endsInSlash path && !Path.endsHere path then .error .isFolder
  else
    match ← tree.look place with
    | some .folder => .error .isFolder
    | some (.file _) =>
      if Path.endsHere path then .error .notFolder else .ok (tree.set place (.file content))
    | none =>
      if Path.endsHere path then .error .missing else .ok (tree.set place (.file content))

/-- The tree with text in a file. -/
def writeText (tree : Tree) (path : Text) (text : Text) : Except Cause Tree :=
  tree.write path (Text.string text).toUTF8

/-- The tree with a new folder, whose own folder must be there. -/
def makeFolder (tree : Tree) (path : Text) : Except Cause Tree := do
  let place ← tree.resolve path
  match ← tree.look place with
  | some (.file _) => .error (if Path.endsHere path then .notFolder else .occupied)
  | some .folder => .error .occupied
  | none => if Path.endsHere path then .error .missing else .ok (tree.set place .folder)

/-- The tree with the content of one file in another. The target is emptied before the source is
read, so a file copied onto itself ends up empty. -/
def copy (tree : Tree) (source target : Text) : Except Cause Tree := do
  match ← tree.find source with
  | .folder => .error .notRegular
  | .file _ =>
    let emptied ← tree.write target ByteArray.empty
    emptied.write target (← emptied.read source)

/-- The tree without a file. -/
def remove (tree : Tree) (path : Text) : Except Cause Tree := do
  match ← tree.find path with
  | .folder => .error .isFolder
  | .file _ => .ok (tree.unset (← tree.resolve path))

/-- The name of what lies directly in a folder. -/
def nameIn? (folder place : Place) : Option Text :=
  if place.dropLast = folder then place.getLast? else none

/-- What a folder directly holds, each with its name. -/
def list (tree : Tree) (path : Text) : Except Cause (List (Text × Node)) := do
  match ← tree.find path with
  | .file _ => .error .notFolder
  | .folder =>
    let folder ← tree.resolve path
    .ok (tree.nodes.filterMap fun (place, node) => (nameIn? folder place).map (·, node))

/-- Every file below the place where relative paths start, as path and content, in path order. -/
def files (tree : Tree) : List (Text × ByteArray) :=
  let below := tree.nodes.filterMap fun (place, node) =>
    match node with
    | .file content =>
      if tree.start.isPrefixOf place then
        some (Path.join (place.drop tree.start.length), content)
      else none
    | .folder => none
  below.mergeSort fun left right => !decide (right.1 < left.1)

end Tree

/-- Operations on a tree in a row, which may fail: what was done before a failure stays done. -/
abbrev Steps (ε : Type) := ExceptT ε (StateM Tree)

namespace Steps

/-- One operation that gives a new tree or fails. -/
def once (operation : Tree → Except Cause Tree) : Steps Cause Unit := do
  match operation (← get) with
  | .ok changed => set changed
  | .error cause => throw cause

/-- Make a folder, or be content with the one that is there. -/
def ensureFolder (path : Text) : Steps Cause Unit := do
  let tree ← get
  match tree.makeFolder path with
  | .ok made => set made
  | .error cause => if tree.hasFolder path then return () else throw cause

/-- Make a folder and the folders above it that are missing, looking at most `depth` levels up. -/
def makeFoldersWithin (depth : Nat) (path : Text) : Steps Cause Unit := do
  match depth with
  | 0 => throw .missing
  | depth + 1 =>
    if path.isEmpty then return ()
    match (← get).makeFolder path, Path.parent? path with
    | .error .missing, none => throw .missing
    | .error .missing, some folder =>
      makeFoldersWithin depth folder
      ensureFolder path
    | _, _ => ensureFolder path

/-- Make a folder and all folders above it. A path has fewer levels than pieces. -/
def makeFolders (path : Text) : Steps Cause Unit :=
  makeFoldersWithin ((path.splitOn '/').length + 1) path

/-- Write text to a file, whose folder must be there. -/
def writeText (path text : Text) : Steps Cause Unit := once (·.writeText path text)

end Steps

end Store

end IniKeeper
