import IniKeeper.Proofs.Statements

/-!
# Storing what a line says

A reading whose document is sound never fails to store what a well-formed line says: a block that
waits can be kept, a header's name can be opened, and a setting's key and value can be defined.
Only a carriage return inside a name, a key or a value is refused, and then nothing is changed.
Counting a line has no part in what is stored. What reading one line does is one of these, by the
kind of the line.
-/

namespace IniKeeper

open Guard (StoredKey StoredName StoredValue)

/-! ### What storing does -/

namespace Reading

/-- Whether a reading can go on: its document is sound, its section open in it, and what it has
gathered are comment lines. -/
structure Ready (reading : Reading) : Prop where
  /-- The document is sound. -/
  sound : reading.document.Sound
  /-- The open section is there. -/
  isOpen : reading.current ∈ reading.document.sectionNames
  /-- Only comment lines wait. -/
  comments : ∀ row ∈ reading.pending, Line.isComment row = true

/-- The block that waits is a comment block. -/
theorem Ready.isValid_block? {reading : Reading} (ready : reading.Ready) :
    Comment.isValid reading.block? = true := by
  unfold block?
  split
  · rfl
  · rename_i some
    exact Comment.isBlock_joinLines ready.comments (by simpa using some)

/-- A waiting block never fails to settle; it is then kept as a note. -/
theorem settle_eq {reading : Reading} (ready : reading.Ready) (line : Nat) :
    reading.settle line = .ok
      { reading with
        document := reading.document.acceptAll
          (reading.block?.map fun block => .note reading.current block line).toList
        pending := [] } := by
  unfold settle
  cases waiting : reading.block? with
  | none =>
    have none : reading.pending = [] := by
      unfold block? at waiting
      split at waiting
      · rename_i empty
        exact List.isEmpty_iff.mp empty
      · contradiction
    simp only [Option.map_none, Option.toList_none, Document.acceptAll, List.foldl_nil]
    rw [← none]
  | some block =>
    have valid : Comment.isBlock block = true := by
      have whole := ready.isValid_block?
      rw [waiting] at whole
      exact whole
    have sound := ready.sound
    have same : reading.atTop = reading.document.atTop reading.current := rfl
    simp only [Option.map_some, Option.toList_some, Document.acceptAll, List.foldl_cons,
      List.foldl_nil, Document.accept, same]
    by_cases top : reading.document.atTop reading.current = true
    · have stored : reading.document.ensureSection none (some block) = .ok
          (reading.document.amend none fun found => { found with comment := some block }) :=
        (Document.ensureSection_eq_ok_iff sound).mpr ⟨valid, .inl sound.global_mem, rfl⟩
      rw [if_pos top, if_pos top, stored]
      rfl
    · have home := sound.address_eq ready.isOpen
      have stored : reading.document.addStandalone reading.current block line = .ok
          (reading.document.amend reading.current fun found =>
            found.put (Entry.standalone block line)) := by
        rw [Document.addStandalone_eq_ok_iff sound, home]
        exact ⟨.inl ready.isOpen, rfl⟩
      rw [if_neg top, if_neg top, stored]
      rfl

/-- A header is stored when its name may be. -/
theorem openSection_eq {reading : Reading} (ready : reading.Ready) {name : Text}
    (stored : StoredName name) :
    reading.openSection name = .ok
      { reading with
        document := reading.document.accept (.header name reading.block?)
        current := some name
        pending := [] } := by
  have home : Document.address (some name) = some name := congrArg some stored.trimmed
  have ensured : reading.document.ensureSection (some name) reading.block? = .ok
      (reading.document.amend (some name) fun found =>
        { found with comment := reading.block? }) := by
    rw [Document.ensureSection_eq_ok_iff ready.sound, home]
    exact ⟨ready.isValid_block?, .inr ⟨name, rfl, stored⟩, rfl⟩
  unfold openSection
  rw [ensured, Document.accept]
  cases waiting : reading.block? with
  | some block => rfl
  | none =>
    by_cases present : reading.document.hasSection (some name) = true
    · have member := Document.hasSection_iff.mp present
      rw [home] at member
      have kept : reading.document.amend (some name)
          (fun found => { found with comment := none.or found.comment }) = reading.document :=
        congrArg Document.mk (Roster.upsert_of_forall_eq _ _ _ _ _ member fun _ => rfl)
      rw [kept, present]
      rfl
    · have absent := fun member => present (Document.hasSection_iff.mpr (home.symm ▸ member))
      have others : ∀ found ∈ reading.document.sections, found.name ≠ some name :=
        fun found inside same => absent (List.mem_map.mpr ⟨found, inside, same⟩)
      have added : ∀ edit : Section → Section, reading.document.amend (some name) edit =
          ⟨reading.document.sections ++ [edit (Section.new (some name) none)]⟩ :=
        fun edit => congrArg Document.mk (Roster.upsert_of_forall_ne _ _ _ _ _ others)
      rw [added, added, Bool.not_eq_true _ |>.mp present]
      rfl

/-- A header is refused when a carriage return breaks its name. -/
theorem openSection_refused {reading : Reading} (ready : reading.Ready) {name : Text}
    (trimmed : Text.Trimmed name) (broken : '\r' ∈ name) :
    ∃ reason, reading.openSection name = .error reason := by
  have home : Document.address (some name) = some name := congrArg some trimmed
  have unstored : ¬ StoredName name := fun stored => stored.noReturn broken
  have absent : some name ∉ reading.document.sectionNames := fun member =>
    unstored (ready.sound.named name member)
  have missing : reading.document.hasSection (some name) = false := by
    cases found : reading.document.hasSection (some name) with
    | false => rfl
    | true => exact absurd (home ▸ Document.hasSection_iff.mp found) absent
  cases attempt : reading.document.ensureSection (some name) reading.block? with
  | ok changed =>
    obtain ⟨-, admits, -⟩ := (Document.ensureSection_eq_ok_iff ready.sound).mp attempt
    rw [home] at admits
    rcases admits with present | ⟨plain, same, stored⟩
    · exact absurd present absent
    · exact absurd (Option.some.inj same ▸ stored) unstored
  | error reason =>
    refine ⟨reason, ?_⟩
    rw [openSection, missing, Bool.not_false, Bool.or_true, if_pos rfl, attempt]
    rfl

/-- A setting is stored when its parts may be stored together. -/
theorem store_eq {reading : Reading} (ready : reading.Ready) {key value : Text}
    (storedKey : StoredKey key) (storedValue : StoredValue value)
    (plain : ¬ Line.Bracketed key value) :
    reading.store key value = .ok
      { reading with
        document := reading.document.accept (.setting reading.current key value reading.block?)
        pending := [] } := by
  have home := ready.sound.address_eq ready.isOpen
  have passed : Guard.entry key value = .ok (key, value) :=
    Guard.entry_eq_ok_iff.mpr ⟨storedKey.trimmed.symm, storedValue.trimmed.symm, storedKey,
      storedValue.noFeed, storedValue.noReturn, plain⟩
  unfold store
  cases waiting : reading.block? with
  | none =>
    have stored : reading.document.setString reading.current key value = .ok
        (reading.document.accept (.setting reading.current key value none),
          reading.document.value? reading.current key) := by
      rw [Document.setString_eq_ok_iff ready.sound, home]
      exact ⟨key, value, passed, .inl ready.isOpen, rfl, rfl⟩
    simp only [stored]
    rfl
  | some block =>
    have valid := ready.isValid_block?
    rw [waiting] at valid
    have stored : reading.document.setStringWithComment reading.current key value (some block) =
        .ok (reading.document.accept (.setting reading.current key value (some block)),
          reading.document.value? reading.current key) := by
      rw [Document.setStringWithComment_eq_ok_iff ready.sound, home]
      exact ⟨valid, key, value, passed, .inl ready.isOpen, rfl, rfl⟩
    simp only [stored]
    rfl

/-- A setting is refused when a carriage return breaks its key or its value. -/
theorem store_refused {reading : Reading} (ready : reading.Ready) {key value : Text}
    (trimmed : Text.Trimmed key) (broken : '\r' ∈ key ∨ '\r' ∈ value) :
    ∃ reason, reading.store key value = .error reason := by
  have unpassed : ∀ parts, Guard.entry key value ≠ .ok parts := by
    rintro ⟨plainKey, plainValue⟩ passed
    obtain ⟨rfl, -, storedKey, -, noReturn, -⟩ := Guard.entry_eq_ok_iff.mp passed
    rcases broken with inKey | inValue
    · exact storedKey.noReturn (trimmed.symm ▸ inKey)
    · exact noReturn inValue
  unfold store
  cases reading.block? with
  | none =>
    cases attempt : reading.document.setString reading.current key value with
    | error reason => exact ⟨reason, rfl⟩
    | ok result =>
      obtain ⟨plainKey, plainValue, passed, -⟩ :=
        (Document.setString_eq_ok_iff ready.sound).mp attempt
      exact absurd passed (unpassed _)
  | some block =>
    cases attempt :
      reading.document.setStringWithComment reading.current key value (some block) with
    | error reason =>
      refine ⟨reason, ?_⟩
      simp only [attempt]
      rfl
    | ok result =>
      obtain ⟨-, plainKey, plainValue, passed, -⟩ :=
        (Document.setStringWithComment_eq_ok_iff ready.sound).mp attempt
      exact absurd passed (unpassed _)

/-! ### What counting does -/

/-- A reading that counts one more line. -/
def advance (reading : Reading) : Reading :=
  { reading with report := { reading.report with lines := reading.report.lines + 1 } }

/-- A reading that counts one more line can go on like before. -/
theorem Ready.advance {reading : Reading} (ready : reading.Ready) : reading.advance.Ready :=
  ⟨ready.sound, ready.isOpen, ready.comments⟩

/-- Counting a header leaves all but headers, report and log as it is. -/
theorem countHeader_frame (reading : Reading) (origin name raw : Text) :
    (reading.countHeader origin name raw).document = reading.document ∧
      (reading.countHeader origin name raw).current = reading.current ∧
      (reading.countHeader origin name raw).pending = reading.pending ∧
      (reading.countHeader origin name raw).settings = reading.settings := by
  unfold countHeader warn
  split <;> exact ⟨rfl, rfl, rfl, rfl⟩

/-- A counted header is among the headers. -/
theorem mem_countHeader (reading : Reading) (origin name raw other : Text) :
    other ∈ (reading.countHeader origin name raw).headers ↔
      other ∈ reading.headers ∨ other = name := by
  unfold countHeader warn
  split
  · rename_i again
    have present : name ∈ reading.headers := by simpa using again
    constructor
    · exact .inl
    · rintro (old | rfl)
      · exact old
      · exact present
  · simp only [List.mem_cons]
    exact or_comm

/-- A counted header counts once, with a warning where it came before. -/
theorem report_countHeader (reading : Reading) (origin name raw : Text) :
    (reading.countHeader origin name raw).report =
      { reading.report with
        sections := reading.report.sections + 1
        warnings := reading.report.warnings ++
          if name ∈ reading.headers then [⟨reading.report.lines, .sectionAgain name, raw⟩]
          else [] } := by
  unfold countHeader warn
  by_cases again : name ∈ reading.headers
  · simp [again]
  · simp [again]

/-- A reading can go on after it counted a header. -/
theorem Ready.countHeader {reading : Reading} (ready : reading.Ready) (origin name raw : Text) :
    (reading.countHeader origin name raw).Ready := by
  obtain ⟨document, current, pending, -⟩ := countHeader_frame reading origin name raw
  constructor
  · exact document ▸ ready.sound
  · exact document ▸ current ▸ ready.isOpen
  · exact pending ▸ ready.comments

/-- Counting a setting leaves all but settings, report and log as it is. -/
theorem countSetting_frame (reading : Reading) (origin key raw : Text) :
    (reading.countSetting origin key raw).document = reading.document ∧
      (reading.countSetting origin key raw).current = reading.current ∧
      (reading.countSetting origin key raw).pending = reading.pending ∧
      (reading.countSetting origin key raw).headers = reading.headers := by
  unfold countSetting warn
  split <;> exact ⟨rfl, rfl, rfl, rfl⟩

/-- A counted setting is among the settings. -/
theorem mem_countSetting (reading : Reading) (origin key raw : Text)
    (other : Option Text × Text) :
    other ∈ (reading.countSetting origin key raw).settings ↔
      other ∈ reading.settings ∨ other = (reading.current, key) := by
  unfold countSetting warn
  split
  · rename_i again
    have present : (reading.current, key) ∈ reading.settings := by simpa using again
    constructor
    · exact .inl
    · rintro (old | rfl)
      · exact old
      · exact present
  · simp only [List.mem_cons]
    exact or_comm

/-- A counted setting counts once, with a warning where it came before. -/
theorem report_countSetting (reading : Reading) (origin key raw : Text) :
    (reading.countSetting origin key raw).report =
      { reading.report with
        keys := reading.report.keys + 1
        warnings := reading.report.warnings ++
          if (reading.current, key) ∈ reading.settings then
            [⟨reading.report.lines, .keyAgain reading.current key, raw⟩]
          else [] } := by
  unfold countSetting warn
  by_cases again : (reading.current, key) ∈ reading.settings
  · simp [again]
  · simp [again]

/-- A reading can go on after it counted a setting. -/
theorem Ready.countSetting {reading : Reading} (ready : reading.Ready) (origin key raw : Text) :
    (reading.countSetting origin key raw).Ready := by
  obtain ⟨document, current, pending, -⟩ := countSetting_frame reading origin key raw
  constructor
  · exact document ▸ ready.sound
  · exact document ▸ current ▸ ready.isOpen
  · exact pending ▸ ready.comments

/-! ### What a line does -/

variable {raw : Text}

/-- A blank line settles the block that waits. -/
theorem step_of_blank (reading : Reading) (origin : Text) (kind : Line.classify raw = .blank) :
    reading.step origin raw =
      reading.advance.orStop (reading.advance.settle (reading.report.lines + 1)) := by
  simp only [step, readLine, kind]
  rfl

/-- A comment line is gathered. -/
theorem step_of_comment (reading : Reading) (origin : Text) {whole : Text}
    (kind : Line.classify raw = .comment whole) :
    reading.step origin raw = .ok (reading.advance.gather whole) := by
  simp only [step, readLine, kind]
  rfl

/-- A header is counted and then opened. -/
theorem step_of_header (reading : Reading) (origin : Text) {name : Text}
    (kind : Line.classify raw = .header name) (named : name ≠ []) :
    reading.step origin raw = (reading.advance.countHeader origin name raw).orStop
      ((reading.advance.countHeader origin name raw).openSection name) := by
  simp only [step, readLine, kind]
  rw [if_neg (by simpa using named)]
  rfl

/-- A header without a name stops a reading. -/
theorem step_of_nameless_header (reading : Reading) (origin : Text)
    (kind : Line.classify raw = .header []) :
    reading.step origin raw = .error reading.advance := by
  simp only [step, readLine, kind]
  rfl

/-- A setting is counted and then stored. -/
theorem step_of_setting (reading : Reading) (origin : Text) {key value : Text}
    (kind : Line.classify raw = .setting key value) (keyed : Text.trim key ≠ []) :
    reading.step origin raw = (reading.advance.countSetting origin (Text.trim key) raw).orStop
      ((reading.advance.countSetting origin (Text.trim key) raw).store
        (Text.trim key) (Text.trim value)) := by
  simp only [step, readLine, kind]
  rw [if_neg (by simpa using keyed)]
  rfl

/-- A setting without a key stops a reading. -/
theorem step_of_keyless_setting (reading : Reading) (origin : Text) {key value : Text}
    (kind : Line.classify raw = .setting key value) (keyless : Text.trim key = []) :
    reading.step origin raw = .error reading.advance := by
  simp only [step, readLine, kind]
  rw [if_pos (by simpa using keyless)]
  rfl

/-- A line that is not recognized stops a reading. -/
theorem step_of_unrecognized (reading : Reading) (origin : Text) {whole : Text}
    (kind : Line.classify raw = .unrecognized whole) :
    reading.step origin raw = .error reading.advance := by
  simp only [step, readLine, kind]
  rfl

end Reading

end IniKeeper
