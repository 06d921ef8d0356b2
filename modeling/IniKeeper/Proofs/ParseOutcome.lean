import IniKeeper.Proofs.Storing

/-!
# Passes over a text

A pass reads lines one after the other. After any number of well-formed lines it holds the document
with everything stated so far, the open section, the comment lines right above and a report that
depends on the lines alone; the next line is stored exactly when it is well formed. So a pass over
a text ends with all that the text states, or stops at its first line that is not well formed.
-/

namespace IniKeeper

/-! ### What a report says -/

namespace Rows

/-- The sections and keys that some lines set, in order. -/
def settings (rows : List Text) : List (Option Text × Text) :=
  (statements rows).filterMap Statement.address?

/-- What is found at a line that defines again what a line above it defines. -/
def warning? (above : List Text) (raw : Text) : Option Warning :=
  match Line.classify raw with
  | .header name =>
    if name ∈ headers above then some ⟨above.length + 1, .sectionAgain name, raw⟩ else none
  | .setting key _ =>
    if (openSection above, Text.trim key) ∈ settings above then
      some ⟨above.length + 1, .keyAgain (openSection above) (Text.trim key), raw⟩
    else none
  | _ => none

/-- The report on some lines. -/
def report (rows : List Text) : Report :=
  ⟨rows.length, (headers rows).length, (settings rows).length, along warning? [] rows⟩

/-- A line adds the section and key that it sets. -/
theorem settings_concat (rows : List Text) (raw : Text) :
    settings (rows ++ [raw]) =
      settings rows ++ (statement? rows raw).toList.filterMap Statement.address? := by
  rw [settings, statements_concat, List.filterMap_append, settings]

/-- A line adds what is found at it. -/
theorem warnings_concat (rows : List Text) (raw : Text) :
    along warning? [] (rows ++ [raw]) =
      along warning? [] rows ++ (warning? rows raw).toList := by
  rw [along_concat, List.nil_append]

end Rows

/-- The section that is open below one more line is there when the line is accepted. -/
theorem Document.mem_sectionNames_statement? {document : Document} {current : Option Text}
    (rows : List Text) (raw : Text) (isOpen : current ∈ document.sectionNames) :
    (Line.header? raw).or current ∈
      (document.acceptAll (Rows.statement? rows raw).toList).sectionNames := by
  cases opened : Line.header? raw with
  | some name =>
    have states : Rows.statement? rows raw = some (.header name (Rows.block? rows)) := by
      simp only [Rows.statement?, Line.header?_eq_some_iff.mp opened]
    rw [states, Option.some_or]
    have names := sectionNames_accept document (.header name (Rows.block? rows))
    exact names ▸ Roster.mem_enroll.mpr (.inr rfl)
  | none =>
    rw [Option.none_or]
    cases states : Rows.statement? rows raw with
    | none => exact isOpen
    | some said =>
      have names := sectionNames_accept document said
      exact names ▸ Roster.mem_enroll.mpr (.inl isOpen)

/-! ### What a reading holds -/

/-- What a reading that started from a document holds after some lines. -/
structure Reads (start : Document) (rows : List Text) (reading : Reading) : Prop where
  /-- The document with all that the lines state. -/
  document : reading.document = start.acceptAll (Rows.statements rows)
  /-- The section that the lines leave open. -/
  current : reading.current = Rows.openSection rows
  /-- The comment lines right above. -/
  pending : reading.pending = Rows.run rows
  /-- The names in the headers. -/
  headers : ∀ name, name ∈ reading.headers ↔ name ∈ Rows.headers rows
  /-- The sections and keys set. -/
  settings : ∀ address, address ∈ reading.settings ↔ address ∈ Rows.settings rows
  /-- The report on the lines. -/
  report : reading.report = Rows.report rows
  /-- The document is sound. -/
  sound : reading.document.Sound
  /-- The open section is there. -/
  isOpen : reading.current ∈ reading.document.sectionNames

namespace Reads

variable {start : Document} {rows : List Text} {reading : Reading} {raw : Text}

/-- Before the first line a reading holds the document that it started from. -/
theorem ofStart (sound : start.Sound) : Reads start [] (.start start) where
  document := rfl
  current := rfl
  pending := rfl
  headers _ := Iff.rfl
  settings _ := Iff.rfl
  report := rfl
  sound := sound
  isOpen := sound.global_mem

/-- A reading can always go on. -/
theorem ready (reads : Reads start rows reading) : reading.Ready where
  sound := reads.sound
  isOpen := reads.isOpen
  comments _row member := Rows.isComment_of_mem_run (reads.pending ▸ member)

/-- The waiting block is the one right above. -/
theorem block?_eq (reads : Reads start rows reading) : reading.block? = Rows.block? rows := by
  rw [Reading.block?, reads.pending, Rows.block?]

/-- What a well-formed line states may follow in the document. -/
theorem fits (reads : Reads start rows reading) (clean : '\n' ∉ raw)
    (wellFormed : Line.WellFormed raw) {said : Statement}
    (states : Rows.statement? rows raw = some said) : reading.document.Fits said := by
  have allowed := (Line.wellFormed_iff clean).mp wellFormed
  have isOpen := reads.isOpen
  have valid := Rows.isValid_block? rows
  rw [reads.current] at isOpen
  rcases Rows.statement?_cases states with
    ⟨block, -, waiting, rfl⟩ | ⟨name, kind, rfl⟩ | ⟨key, value, kind, rfl⟩
  · rw [waiting] at valid
    exact ⟨isOpen, valid⟩
  · rw [kind] at allowed
    exact ⟨Guard.storedName_of_header clean kind allowed.1 allowed.2, valid⟩
  · rw [kind] at allowed
    obtain ⟨storedKey, storedValue, plain⟩ :=
      Guard.stored_of_setting clean kind allowed.1 allowed.2.1 allowed.2.2
    exact ⟨isOpen, storedKey, storedValue, plain, valid⟩

/-- A reading that adds to its parts what one more line gives holds that line, too. -/
theorem concat (reads : Reads start rows reading) {next : Reading}
    (document : next.document = reading.document.acceptAll (Rows.statement? rows raw).toList)
    (current : next.current = (Line.header? raw).or reading.current)
    (pending : next.pending = if Line.isComment raw then reading.pending ++ [raw] else [])
    (headers : ∀ name, name ∈ next.headers ↔
      name ∈ reading.headers ∨ name ∈ (Line.header? raw).toList)
    (settings : ∀ address, address ∈ next.settings ↔ address ∈ reading.settings ∨
      address ∈ (Rows.statement? rows raw).toList.filterMap Statement.address?)
    (report : next.report = ⟨reading.report.lines + 1,
      reading.report.sections + (Line.header? raw).toList.length,
      reading.report.keys +
        ((Rows.statement? rows raw).toList.filterMap Statement.address?).length,
      reading.report.warnings ++ (Rows.warning? rows raw).toList⟩)
    (fits : ∀ said, Rows.statement? rows raw = some said → reading.document.Fits said) :
    Reads start (rows ++ [raw]) next := by
  refine ⟨?_, ?_, ?_, ?_, ?_, ?_, ?_, ?_⟩
  · rw [document, reads.document, Rows.statements_concat, Document.acceptAll_append]
  · rw [current, reads.current, Rows.openSection_concat]
  · rw [pending, reads.pending, Rows.run_concat]
  · intro name
    rw [headers, reads.headers, Rows.headers_concat, List.mem_append]
  · intro address
    rw [settings, reads.settings, Rows.settings_concat, List.mem_append]
  · rw [report, reads.report, Rows.report, Rows.report, Rows.headers_concat, Rows.settings_concat,
      Rows.warnings_concat, List.length_append, List.length_append, List.length_append,
      List.length_singleton]
  · rw [document]
    cases states : Rows.statement? rows raw with
    | none => exact reads.sound
    | some said => exact reads.sound.accept (fits said states)
  · rw [current, document]
    exact Document.mem_sectionNames_statement? rows raw reads.isOpen

/-- As many lines were counted as were read. -/
theorem lines_eq (reads : Reads start rows reading) : reading.report.lines = rows.length := by
  rw [reads.report, Rows.report]

/-- A blank line settles the block that waits. -/
theorem step_blank (reads : Reads start rows reading) (origin : Text) (clean : '\n' ∉ raw)
    (wellFormed : Line.WellFormed raw) (kind : Line.classify raw = .blank) :
    ∃ next, reading.step origin raw = .ok next ∧ Reads start (rows ++ [raw]) next := by
  have states : Rows.statement? rows raw =
      reading.block?.map fun block => .note reading.current block (reading.report.lines + 1) := by
    simp only [Rows.statement?, kind, reads.block?_eq, reads.current, reads.lines_eq]
  have named : Line.header? raw = none := by simp only [Line.header?, kind]
  have other : Line.isComment raw = false := Line.isComment_eq_false (by simp [kind])
  have found : Rows.warning? rows raw = none := by simp only [Rows.warning?, kind]
  have unset : (Rows.statement? rows raw).toList.filterMap Statement.address? = [] := by
    rw [states]
    cases reading.block? <;> rfl
  have settled := Reading.settle_eq reads.ready.advance (reading.report.lines + 1)
  have done := reading.step_of_blank origin kind
  rw [settled] at done
  refine ⟨_, done, reads.concat ?_ ?_ ?_ ?_ ?_ ?_ fun said => reads.fits clean wellFormed⟩
  · rw [states]
    rfl
  · rw [named, Option.none_or]
    rfl
  · rw [other]
    rfl
  · simp [named, Reading.advance]
  · simp [unset, Reading.advance]
  · rw [named, unset, found]
    simp [Reading.advance]

/-- A comment line is gathered. -/
theorem step_comment (reads : Reads start rows reading) (origin : Text) (clean : '\n' ∉ raw)
    (wellFormed : Line.WellFormed raw) {whole : Text} (kind : Line.classify raw = .comment whole) :
    ∃ next, reading.step origin raw = .ok next ∧ Reads start (rows ++ [raw]) next := by
  have shape := Line.classify_shape raw
  rw [kind] at shape
  obtain ⟨comment, rfl⟩ := shape
  have states : Rows.statement? rows whole = none := by simp only [Rows.statement?, kind]
  have named : Line.header? whole = none := by simp only [Line.header?, kind]
  have found : Rows.warning? rows whole = none := by simp only [Rows.warning?, kind]
  have done := reading.step_of_comment origin kind
  refine ⟨_, done, reads.concat ?_ ?_ ?_ ?_ ?_ ?_ fun said => reads.fits clean wellFormed⟩
  · rw [states]
    rfl
  · rw [named, Option.none_or]
    rfl
  · rw [if_pos comment]
    rfl
  · simp [named, Reading.advance, Reading.gather]
  · simp [states, Reading.advance, Reading.gather]
  · rw [named, states, found]
    simp [Reading.advance, Reading.gather]

/-- A header opens its section and takes the block that waits. -/
theorem step_header (reads : Reads start rows reading) (origin : Text) (clean : '\n' ∉ raw)
    (wellFormed : Line.WellFormed raw) {name : Text} (kind : Line.classify raw = .header name) :
    ∃ next, reading.step origin raw = .ok next ∧ Reads start (rows ++ [raw]) next := by
  have allowed := (Line.wellFormed_iff clean).mp wellFormed
  simp only [kind] at allowed
  have stored := Guard.storedName_of_header clean kind allowed.1 allowed.2
  have states : Rows.statement? rows raw = some (.header name reading.block?) := by
    simp only [Rows.statement?, kind, reads.block?_eq]
  have named : Line.header? raw = some name := by simp only [Line.header?, kind]
  have other : Line.isComment raw = false := Line.isComment_eq_false (by simp [kind])
  have unset : (Rows.statement? rows raw).toList.filterMap Statement.address? = [] := by
    rw [states]
    rfl
  obtain ⟨document, -, pending, settings⟩ :=
    Reading.countHeader_frame reading.advance origin name raw
  have block : (reading.advance.countHeader origin name raw).block? = reading.block? := by
    rw [Reading.block?, pending]
    rfl
  have opened := Reading.openSection_eq (reads.ready.advance.countHeader origin name raw) stored
  have done := reading.step_of_header origin kind allowed.1
  rw [opened] at done
  refine ⟨_, done, reads.concat ?_ ?_ ?_ ?_ ?_ ?_ fun said => reads.fits clean wellFormed⟩
  · rw [states, ← block, document]
    rfl
  · rw [named, Option.some_or]
  · rw [other]
    rfl
  · intro found
    rw [named, Option.toList_some, List.mem_singleton]
    exact Reading.mem_countHeader reading.advance origin name raw found
  · intro address
    change address ∈ (reading.advance.countHeader origin name raw).settings ↔ _
    rw [unset, settings]
    simp [Reading.advance]
  · rw [Reading.report_countHeader, named, unset]
    have warned : (Rows.warning? rows raw).toList =
        if name ∈ reading.headers then [⟨rows.length + 1, .sectionAgain name, raw⟩] else [] := by
      simp only [Rows.warning?, kind, reads.headers]
      split <;> rfl
    rw [warned]
    simp [Reading.advance, reads.lines_eq]

/-- A setting defines its key in the open section and takes the block that waits. -/
theorem step_setting (reads : Reads start rows reading) (origin : Text) (clean : '\n' ∉ raw)
    (wellFormed : Line.WellFormed raw) {key value : Text}
    (kind : Line.classify raw = .setting key value) :
    ∃ next, reading.step origin raw = .ok next ∧ Reads start (rows ++ [raw]) next := by
  have allowed := (Line.wellFormed_iff clean).mp wellFormed
  simp only [kind] at allowed
  obtain ⟨storedKey, storedValue, plain⟩ :=
    Guard.stored_of_setting clean kind allowed.1 allowed.2.1 allowed.2.2
  have states : Rows.statement? rows raw = some
      (.setting reading.current (Text.trim key) (Text.trim value) reading.block?) := by
    simp only [Rows.statement?, kind, reads.block?_eq, reads.current]
  have named : Line.header? raw = none := by simp only [Line.header?, kind]
  have other : Line.isComment raw = false := Line.isComment_eq_false (by simp [kind])
  have set : (Rows.statement? rows raw).toList.filterMap Statement.address? =
      [(reading.current, Text.trim key)] := by
    rw [states]
    rfl
  obtain ⟨document, current, pending, headers⟩ :=
    Reading.countSetting_frame reading.advance origin (Text.trim key) raw
  have block : (reading.advance.countSetting origin (Text.trim key) raw).block? =
      reading.block? := by
    rw [Reading.block?, pending]
    rfl
  have stored := Reading.store_eq (reads.ready.advance.countSetting origin (Text.trim key) raw)
    storedKey storedValue plain
  have done := reading.step_of_setting origin kind allowed.1
  rw [stored] at done
  refine ⟨_, done, reads.concat ?_ ?_ ?_ ?_ ?_ ?_ fun said => reads.fits clean wellFormed⟩
  · rw [states, ← block, document, current]
    rfl
  · rw [named, Option.none_or]
    exact current
  · rw [other]
    rfl
  · intro found
    change found ∈ (reading.advance.countSetting origin (Text.trim key) raw).headers ↔ _
    rw [named, headers]
    simp [Reading.advance]
  · intro address
    rw [set, List.mem_singleton]
    exact Reading.mem_countSetting reading.advance origin (Text.trim key) raw address
  · rw [Reading.report_countSetting, named, set]
    have warned : (Rows.warning? rows raw).toList =
        if (reading.current, Text.trim key) ∈ reading.settings then
          [⟨rows.length + 1, .keyAgain reading.current (Text.trim key), raw⟩]
        else [] := by
      simp only [Rows.warning?, kind, reads.settings, reads.current]
      split <;> rfl
    rw [warned]
    simp [Reading.advance, reads.lines_eq]

/-- A well-formed line is always read. -/
theorem step (reads : Reads start rows reading) (origin : Text) (clean : '\n' ∉ raw)
    (wellFormed : Line.WellFormed raw) :
    ∃ next, reading.step origin raw = .ok next ∧ Reads start (rows ++ [raw]) next := by
  cases kind : Line.classify raw with
  | blank => exact reads.step_blank origin clean wellFormed kind
  | header name => exact reads.step_header origin clean wellFormed kind
  | comment whole => exact reads.step_comment origin clean wellFormed kind
  | setting key value => exact reads.step_setting origin clean wellFormed kind
  | unrecognized whole =>
    have allowed := (Line.wellFormed_iff clean).mp wellFormed
    rw [kind] at allowed
    exact allowed.elim

/-- A header without a name, or with a carriage return inside, stops the reading. -/
theorem header_refused (reads : Reads start rows reading) (origin : Text) {name : Text}
    (kind : Line.classify raw = .header name) (offends : ¬ (name ≠ [] ∧ '\r' ∉ name)) :
    ∃ stopped, reading.step origin raw = .error stopped ∧
      stopped.document = reading.document ∧ stopped.report.lines = rows.length + 1 := by
  have counted : reading.advance.report.lines = rows.length + 1 :=
    congrArg (· + 1) reads.lines_eq
  have shape := Line.classify_shape raw
  simp only [kind] at shape
  obtain ⟨inner, -, trimmed⟩ := shape
  by_cases empty : name = []
  · subst empty
    exact ⟨reading.advance, reading.step_of_nameless_header origin kind, rfl, counted⟩
  · have broken : '\r' ∈ name := by
      by_contra unbroken
      exact offends ⟨empty, unbroken⟩
    have ready := reads.ready.advance.countHeader origin name raw
    obtain ⟨reason, refused⟩ :=
      Reading.openSection_refused ready (trimmed ▸ Text.trimmed_trim inner) broken
    refine ⟨reading.advance.countHeader origin name raw, ?_, ?_, ?_⟩
    · rw [reading.step_of_header origin kind empty, refused]
      rfl
    · exact (Reading.countHeader_frame reading.advance origin name raw).1
    · rw [Reading.report_countHeader]
      exact counted

/-- A setting without a key, or with a carriage return inside key or value, stops the reading. -/
theorem setting_refused (reads : Reads start rows reading) (origin : Text) {key value : Text}
    (kind : Line.classify raw = .setting key value)
    (offends : ¬ (Text.trim key ≠ [] ∧ '\r' ∉ Text.trim key ∧ '\r' ∉ Text.trim value)) :
    ∃ stopped, reading.step origin raw = .error stopped ∧
      stopped.document = reading.document ∧ stopped.report.lines = rows.length + 1 := by
  have counted : reading.advance.report.lines = rows.length + 1 :=
    congrArg (· + 1) reads.lines_eq
  by_cases keyless : Text.trim key = []
  · exact ⟨reading.advance, reading.step_of_keyless_setting origin kind keyless, rfl, counted⟩
  · have broken : '\r' ∈ Text.trim key ∨ '\r' ∈ Text.trim value := by
      by_contra unbroken
      rw [not_or] at unbroken
      exact offends ⟨keyless, unbroken⟩
    have ready := reads.ready.advance.countSetting origin (Text.trim key) raw
    obtain ⟨reason, refused⟩ := Reading.store_refused ready (Text.trimmed_trim key) broken
    refine ⟨reading.advance.countSetting origin (Text.trim key) raw, ?_, ?_, ?_⟩
    · rw [reading.step_of_setting origin kind keyless, refused]
      rfl
    · exact (Reading.countSetting_frame reading.advance origin (Text.trim key) raw).1
    · rw [Reading.report_countSetting]
      exact counted

/-- Any line that is not well formed stops the reading: it is counted and nothing is stored. -/
theorem step_refused (reads : Reads start rows reading) (origin : Text) (clean : '\n' ∉ raw)
    (offends : ¬ Line.WellFormed raw) :
    ∃ stopped, reading.step origin raw = .error stopped ∧
      stopped.document = reading.document ∧ stopped.report.lines = rows.length + 1 := by
  rw [Line.wellFormed_iff clean] at offends
  cases kind : Line.classify raw with
  | blank => simp [kind] at offends
  | comment whole => simp [kind] at offends
  | unrecognized whole =>
    exact ⟨reading.advance, reading.step_of_unrecognized origin kind, rfl,
      congrArg (· + 1) reads.lines_eq⟩
  | header name =>
    rw [kind] at offends
    exact reads.header_refused origin kind offends
  | setting key value =>
    rw [kind] at offends
    exact reads.setting_refused origin kind offends

/-- The end of a text settles the block that waits, as a blank line would. -/
theorem finish (reads : Reads start rows reading) :
    reading.settle (reading.report.lines + 1) = .ok
      { reading with
        document := start.acceptAll (Rows.wholeStatements rows)
        pending := [] } := by
  have blank : Line.classify [] = .blank := rfl
  have states : (Rows.statement? rows []).toList =
      (reading.block?.map fun block =>
        .note reading.current block (reading.report.lines + 1)).toList := by
    simp only [Rows.statement?, blank, reads.block?_eq, reads.current, reads.lines_eq]
  rw [Reading.settle_eq reads.ready, Rows.wholeStatements, Rows.statements_concat,
    Document.acceptAll_append, ← reads.document, states]

/-- The document with all that the lines of a text state is sound. -/
theorem sound_finish (reads : Reads start rows reading) :
    (start.acceptAll (Rows.wholeStatements rows)).Sound := by
  obtain ⟨next, -, further⟩ := reads.step [] List.not_mem_nil (.blank Text.allBlank_nil)
  rw [Rows.wholeStatements, ← further.document]
  exact further.sound

end Reads

namespace Reading

/-- A reading of well-formed lines comes to their end. -/
theorem run_of_wellFormed {start : Document} {rows rest : List Text} {reading : Reading}
    (reads : Reads start rows reading) (origin : Text) (clean : ∀ raw ∈ rest, '\n' ∉ raw)
    (wellFormed : ∀ raw ∈ rest, Line.WellFormed raw) :
    ∃ done, run origin reading rest = .ok done ∧
      done.document = start.acceptAll (Rows.wholeStatements (rows ++ rest)) ∧
      done.report = Rows.report (rows ++ rest) ∧ done.document.Sound := by
  induction rest generalizing rows reading with
  | nil =>
    rw [List.append_nil, run, reads.finish]
    exact ⟨_, rfl, rfl, reads.report, reads.sound_finish⟩
  | cons raw rest ih =>
    obtain ⟨next, stepped, further⟩ :=
      reads.step origin (clean raw List.mem_cons_self) (wellFormed raw List.mem_cons_self)
    have ended := ih further (fun other member => clean other (List.mem_cons_of_mem raw member))
      fun other member => wellFormed other (List.mem_cons_of_mem raw member)
    rw [List.append_assoc, List.singleton_append] at ended
    rw [run, stepped]
    exact ended

/-- A reading stops at the first line that is not well formed and holds what it had before. -/
theorem run_of_offence {start : Document} {rows before after : List Text} {reading : Reading}
    {raw : Text} (reads : Reads start rows reading) (origin : Text)
    (clean : ∀ row ∈ before ++ raw :: after, '\n' ∉ row)
    (wellFormed : ∀ row ∈ before, Line.WellFormed row) (offends : ¬ Line.WellFormed raw) :
    ∃ stopped, run origin reading (before ++ raw :: after) = .error (stopped, raw) ∧
      stopped.document = start.acceptAll (Rows.statements (rows ++ before)) ∧
      stopped.report.lines = rows.length + before.length + 1 ∧ stopped.document.Sound := by
  induction before generalizing rows reading with
  | nil =>
    obtain ⟨stopped, refused, kept, counted⟩ :=
      reads.step_refused origin (clean raw (by simp)) offends
    rw [List.nil_append, run, refused, List.append_nil]
    exact ⟨stopped, rfl, kept.trans reads.document, counted, kept.symm ▸ reads.sound⟩
  | cons row before ih =>
    obtain ⟨next, stepped, further⟩ :=
      reads.step origin (clean row (by simp)) (wellFormed row List.mem_cons_self)
    obtain ⟨stopped, refused, kept, counted, sound⟩ := ih further
      (fun other member => clean other (List.mem_cons_of_mem row member))
      fun other member => wellFormed other (List.mem_cons_of_mem row member)
    rw [List.cons_append, run, stepped]
    refine ⟨stopped, refused, ?_, ?_, sound⟩
    · rw [kept, List.append_assoc, List.singleton_append]
    · rw [counted, List.length_append, List.length_singleton, List.length_cons]
      omega

end Reading

/-! ### What comes of a text -/

namespace Document

/-- A text of well-formed lines is read to its end: the document has all that it states. -/
theorem parse_of_wellFormed {document : Document} (sound : document.Sound) (origin : Text)
    {content : Text} (wellFormed : ∀ raw ∈ Text.lines content, Line.WellFormed raw) :
    (document.parse origin content).result = .ok (Rows.report (Text.lines content)) ∧
      (document.parse origin content).document =
        document.acceptAll (Rows.wholeStatements (Text.lines content)) ∧
      (document.parse origin content).document.Sound := by
  obtain ⟨done, ended, stored, counted, after⟩ := Reading.run_of_wellFormed (Reads.ofStart sound)
    origin (fun raw member => Text.not_mem_of_mem_lines member) wellFormed
  rw [List.nil_append] at stored counted
  rw [parse, ended]
  exact ⟨congrArg Except.ok counted, stored, after⟩

/-- A text with a line that is not well formed is at fault at the first such line, and what stands
above that line is stored. -/
theorem parse_of_offence {document : Document} (sound : document.Sound) (origin : Text)
    {content raw : Text} {before after : List Text}
    (rows : Text.lines content = before ++ raw :: after)
    (wellFormed : ∀ row ∈ before, Line.WellFormed row) (offends : ¬ Line.WellFormed raw) :
    (document.parse origin content).result =
        .error (.badLine origin (before.length + 1) raw) ∧
      (document.parse origin content).document =
        document.acceptAll (Rows.statements before) ∧
      (document.parse origin content).document.Sound := by
  obtain ⟨stopped, refused, kept, counted, stays⟩ := Reading.run_of_offence (Reads.ofStart sound)
    origin (fun row member => Text.not_mem_of_mem_lines (rows ▸ member)) wellFormed offends
  rw [List.nil_append] at kept
  rw [List.length_nil, Nat.zero_add] at counted
  rw [parse, rows, refused, ← counted]
  exact ⟨rfl, kept, stays⟩

/-- A text has only well-formed lines, or a first line that is not. -/
theorem wellFormed_or_exists_offence (rows : List Text) :
    (∀ raw ∈ rows, Line.WellFormed raw) ∨
      ∃ before raw after, rows = before ++ raw :: after ∧
        (∀ row ∈ before, Line.WellFormed row) ∧ ¬ Line.WellFormed raw := by
  induction rows with
  | nil => exact .inl fun raw member => absurd member List.not_mem_nil
  | cons first rows ih =>
    by_cases here : Line.WellFormed first
    · rcases ih with all | ⟨before, raw, after, rfl, above, offends⟩
      · exact .inl (List.forall_mem_cons.mpr ⟨here, all⟩)
      · exact .inr ⟨first :: before, raw, after, rfl, List.forall_mem_cons.mpr ⟨here, above⟩,
          offends⟩
    · exact .inr ⟨[], first, rows, rfl, fun row member => absurd member List.not_mem_nil, here⟩

/-- Reading a text keeps a document sound, whatever comes of it. -/
theorem Sound.parse {document : Document} (sound : document.Sound) (origin content : Text) :
    (document.parse origin content).document.Sound := by
  rcases wellFormed_or_exists_offence (Text.lines content) with
    wellFormed | ⟨before, raw, after, rows, above, offends⟩
  · exact (parse_of_wellFormed sound origin wellFormed).2.2
  · exact (parse_of_offence sound origin rows above offends).2.2

end Document

end IniKeeper
