import IniKeeper.Layout
import IniKeeper.Reading
import IniKeeper.Store.Tree

/-!
# Sessions

A session is a document together with the source it was loaded from. It can be loaded once; further
texts are merged into it, each completely or not at all.
-/

namespace IniKeeper

namespace Store

/-- The text of a file, or the fault that keeps it from being read. -/
def Tree.textAt (tree : Tree) (path : Text) : Except Fault Text :=
  (tree.readText path).mapError (Fault.inaccessible path)

/-- Write text to a file, whose folders are made where they are missing. -/
def Steps.putText (path text : Text) : Steps Fault Unit := do
  match (Path.parent? path).filter (!·.isEmpty) with
  | none => pure ()
  | some folder => (makeFolders folder).adapt (Fault.inaccessible folder)
  (writeText path text).adapt (Fault.inaccessible path)

end Store

/-- A document and where it came from. -/
structure Session where
  /-- The document. -/
  document : Document
  /-- The source that was loaded; none until one is. -/
  origin : Option Text
  deriving Repr, DecidableEq

namespace Session

/-- The session in which nothing was loaded. -/
def new : Session := ⟨.empty, none⟩

/-- Whether a source was loaded. -/
def isLoaded (session : Session) : Bool := session.origin.isSome

/-- What came of an operation on a session, what the session is afterwards, and what was logged. -/
structure Answer where
  /-- The report or the fault. -/
  result : Except Fault Report
  /-- The session afterwards. -/
  session : Session
  /-- What was logged. -/
  events : List Event

/-- Load a text into a session that was not loaded before. -/
def load (session : Session) (origin content : Text) : Answer :=
  match session.origin with
  | some loaded => ⟨.error (.alreadyLoaded loaded), session, []⟩
  | none =>
    let outcome := Document.empty.parse origin content
    match outcome.result with
    | .error fault => ⟨.error fault, session, outcome.events⟩
    | .ok report =>
      let event := .loaded origin outcome.document.namedCount outcome.document.keyCount
      ⟨.ok report, ⟨outcome.document, some origin⟩, outcome.events ++ [event]⟩

/-- Read a text on top of the document of a session, completely or not at all. -/
def merge (session : Session) (origin content : Text) : Answer :=
  let outcome := session.document.parse origin content
  match outcome.result with
  | .error fault => ⟨.error fault, session, outcome.events⟩
  | .ok report =>
    ⟨.ok report, { session with document := outcome.document },
      outcome.events ++ [.merged origin report.keys]⟩

/-- Read a text on top of the document of a session, as far as it goes. -/
def parse (session : Session) (origin content : Text) : Answer :=
  let outcome := session.document.parse origin content
  ⟨outcome.result, { session with document := outcome.document }, outcome.events⟩

/-- Load a file. -/
def loadPath (session : Session) (tree : Store.Tree) (path : Text) : Answer :=
  match tree.textAt path with
  | .error fault => ⟨.error fault, session, []⟩
  | .ok content => session.load path content

/-- Merge a file. -/
def mergePath (session : Session) (tree : Store.Tree) (path : Text) : Answer :=
  match tree.textAt path with
  | .error fault => ⟨.error fault, session, []⟩
  | .ok content => session.merge path content

/-- The text of the document. -/
def render (session : Session) (padded : Bool) : Text := session.document.render padded

/-- Write the document to a file; give what was logged. -/
def save (session : Session) (path : Text) (padded : Bool) : Store.Steps Fault (List Event) := do
  let content := session.render padded
  Store.Steps.putText path content
  return [.wrote (Text.byteSize content) path]

end Session

end IniKeeper
