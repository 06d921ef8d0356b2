import IniKeeper.Document
import IniKeeper.Event

/-!
# Reading a text

A text is read line by line on top of a document. Comment lines gather into a block; a header or a
setting right below takes the block as its comment, while a blank line or the end of the text makes
it stand on its own. A block on its own at the top of an untouched global section becomes that
section's comment. Reading stops at the first line that is not recognized or cannot be stored, and
what was stored before it stays.
-/

namespace IniKeeper

/-- How far the reading of a text has come. -/
structure Reading where
  /-- The document as changed so far. -/
  document : Document
  /-- The section that the last header opened. -/
  current : Option Text
  /-- The comment lines right above the next line. -/
  pending : List Text
  /-- The names in the headers so far. -/
  headers : List Text
  /-- The keys set so far, each with its section. -/
  settings : List (Option Text × Text)
  /-- What was counted and found so far. -/
  report : Report
  /-- What was logged so far. -/
  events : List Event

namespace Reading

/-- The state before the first line. -/
def start (document : Document) : Reading := ⟨document, none, [], [], [], .empty, []⟩

/-- The comment block that waits for the next line, if there is one. -/
def block? (reading : Reading) : Option Text :=
  if reading.pending.isEmpty then none else some (Text.joinLines reading.pending)

/-- Note a repeated definition at the current line. -/
def warn (reading : Reading) (finding : Finding) (raw : Text) (event : Event) : Reading :=
  let warning : Warning := ⟨reading.report.lines, finding, raw⟩
  { reading with
    report := { reading.report with warnings := reading.report.warnings ++ [warning] }
    events := reading.events ++ [event] }

/-- Whether a block that stands on its own becomes the comment of the global section. -/
def atTop (reading : Reading) : Bool :=
  reading.current.isNone && (reading.document.sectionComment? none).isNone &&
    (reading.document.section? none).any fun sect => sect.entries.isEmpty

/-- Let the waiting block stand on its own, as ended at a line. -/
def settle (reading : Reading) (line : Nat) : Except Refusal Reading :=
  match reading.block? with
  | none => .ok reading
  | some block => do
    let stored ←
      if reading.atTop then reading.document.ensureSection none (some block)
      else reading.document.addStandalone reading.current block line
    .ok { reading with document := stored, pending := [] }

/-- Gather a comment line. -/
def gather (reading : Reading) (text : Text) : Reading :=
  { reading with pending := reading.pending ++ [text] }

/-- Count a header and note whether its name came before. -/
def countHeader (reading : Reading) (origin name raw : Text) : Reading :=
  let counted :=
    { reading with report := { reading.report with sections := reading.report.sections + 1 } }
  if reading.headers.contains name then
    counted.warn (.sectionAgain name) raw (.sectionAgain origin reading.report.lines name)
  else { counted with headers := name :: reading.headers }

/-- Open a section; a section that is there already keeps its comment unless a block waits. -/
def openSection (reading : Reading) (name : Text) : Except Refusal Reading := do
  let opened ←
    if reading.block?.isSome || !reading.document.hasSection (some name) then
      reading.document.ensureSection (some name) reading.block?
    else .ok reading.document
  .ok { reading with document := opened, current := some name, pending := [] }

/-- Count a setting and note whether its key came before in its section. -/
def countSetting (reading : Reading) (origin key raw : Text) : Reading :=
  let counted :=
    { reading with report := { reading.report with keys := reading.report.keys + 1 } }
  if reading.settings.contains (reading.current, key) then
    counted.warn (.keyAgain reading.current key) raw (.keyAgain origin reading.report.lines key)
  else { counted with settings := (reading.current, key) :: reading.settings }

/-- Store a setting in the open section; its comment changes only if a block waits. -/
def store (reading : Reading) (key value : Text) : Except Refusal Reading := do
  let (stored, _) ←
    match reading.block? with
    | some block =>
      reading.document.setStringWithComment reading.current key value (some block)
    | none => reading.document.setString reading.current key value
  .ok { reading with document := stored, pending := [] }

/-- A reading after an attempt to store, or as it stood when the attempt was refused. -/
def orStop (reading : Reading) : Except Refusal Reading → Except Reading Reading
  | .ok next => .ok next
  | .error _ => .error reading

/-- Read one line that was counted already; an error holds the reading as it stopped. -/
def readLine (reading : Reading) (origin raw : Text) : Except Reading Reading :=
  match Line.classify raw with
  | .blank => reading.orStop (reading.settle reading.report.lines)
  | .comment text => .ok (reading.gather text)
  | .header name =>
    if name.isEmpty then .error reading
    else
      let counted := reading.countHeader origin name raw
      counted.orStop (counted.openSection name)
  | .setting keyText valueText =>
    let key := Text.trim keyText
    if key.isEmpty then .error reading
    else
      let counted := reading.countSetting origin key raw
      counted.orStop (counted.store key (Text.trim valueText))
  | .unrecognized _ => .error reading

/-- Count a line and read it. -/
def step (reading : Reading) (origin raw : Text) : Except Reading Reading :=
  readLine { reading with report := { reading.report with lines := reading.report.lines + 1 } }
    origin raw

/-- Read lines to their end; an error holds the reading as it stopped and the line it stopped at. -/
def run (origin : Text) (reading : Reading) : List Text → Except (Reading × Text) Reading
  | [] =>
    match reading.settle (reading.report.lines + 1) with
    | .ok settled => .ok settled
    | .error _ =>
      .error ({ reading with report := { reading.report with lines := reading.report.lines + 1 } },
        [])
  | raw :: rest =>
    match reading.step origin raw with
    | .ok next => run origin next rest
    | .error stopped => .error (stopped, raw)

end Reading

/-- What came of reading a text: a report or a fault, and in either case what was stored and
logged. -/
structure Outcome where
  /-- The report, or the line at fault. -/
  result : Except Fault Report
  /-- The document with all that was stored. -/
  document : Document
  /-- What was logged. -/
  events : List Event

/-- Read a text on top of a document. -/
def Document.parse (document : Document) (origin content : Text) : Outcome :=
  match Reading.run origin (.start document) (Text.lines content) with
  | .ok reading =>
    ⟨.ok reading.report, reading.document, reading.events ++ [.parsed origin reading.report]⟩
  | .error (reading, raw) =>
    ⟨.error (.badLine origin reading.report.lines raw), reading.document, reading.events⟩

end IniKeeper
