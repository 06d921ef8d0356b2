import IniKeeper.Proofs.Merging
import IniKeeper.Proofs.Warnings

/-!
# What a report counts

The report on an accepted text is a function of its lines. It counts them, the headers and the
settings, and it warns, in line order, of every header and every setting that a line above defines
already. A setting is defined by its key and the section that is open at it, so a key can come up
again below a header that opens its section once more. Read into the empty document, every header
and every setting of the text makes a section or a setting of the document or has a warning.
-/

namespace IniKeeper

open Occurrences (firsts)

namespace Document

/-- Statements add the keys that they set to those of each section. -/
theorem mem_keysAt_acceptAll {document : Document} {all : List Statement}
    (apart : ∀ said ∈ all, said.Apart) {home : Option Text} {key : Text} :
    key ∈ (document.acceptAll all).keysAt home ↔
      key ∈ document.keysAt home ∨ ∃ said ∈ all, said.address? = some (home, key) := by
  have sets : ∀ said : Statement, said.key? home = some key ↔
      said.address? = some (home, key) := by
    intro said
    cases said with
    | header name comment => simp [Statement.key?, Statement.address?]
    | setting sect found value comment => simp [Statement.key?, Statement.address?]
    | note sect block line => simp [Statement.key?, Statement.address?]
  induction all using List.reverseRecOn with
  | nil => simp [acceptAll]
  | append_singleton all said ih =>
    have before := ih fun other member => apart other (List.mem_append_left _ member)
    have last : (document.acceptAll (all ++ [said])).keysAt home =
        (said.key? home).elim ((document.acceptAll all).keysAt home)
          (Roster.enroll · ((document.acceptAll all).keysAt home)) := by
      rw [acceptAll_append]
      exact keysAt_accept (apart said (by simp)) home
    simp only [last, List.mem_append, List.mem_singleton, or_and_right, exists_or,
      exists_eq_left, ← sets said, ← or_assoc, ← before]
    cases said.key? home with
    | none => simp
    | some found => simp [Roster.mem_enroll, eq_comm]

/-- What statements make of the empty document has a setting for each address that they set. -/
theorem keyCount_acceptAll {all : List Statement} (apart : ∀ said ∈ all, said.Apart)
    (sound : (empty.acceptAll all).Sound) :
    (empty.acceptAll all).keyCount = (firsts Statement.address? all).length := by
  -- Neither list has repetitions and both have the same members, so they are as long.
  rw [keyCount_eq]
  refine List.Perm.length_eq ?_
  rw [List.perm_ext_iff_of_nodup sound.nodup_places (Occurrences.nodup_firsts _ _)]
  rintro ⟨home, key⟩
  have bare : empty.keysAt home = [] := by cases home <;> rfl
  rw [sound.mem_places, mem_keysAt_acceptAll apart, bare, Occurrences.mem_firsts]
  simp

/-- The document that statements describe has a named section for each header name. -/
theorem countP_sectionNames_meaning (said : List Statement) :
    (Meaning.document said).sectionNames.countP Option.isSome =
      (firsts Statement.header? said).length := by
  have names : (Meaning.document said).sectionNames = Meaning.names said := by
    rw [sectionNames, Meaning.document, List.map_map]
    exact List.map_id _
  rw [names, Meaning.names, List.countP_cons, List.countP_map]
  simp [Function.comp_def]

/-- Read into the empty document, the header names and the addresses that a text of well-formed
lines has are its named sections and its settings. -/
theorem counts_parse_empty (origin : Text) {content : Text}
    (wellFormed : ∀ raw ∈ Text.lines content, Line.WellFormed raw) :
    (empty.parse origin content).document.sectionNames.countP Option.isSome =
        (firsts Line.header? (Text.lines content)).length ∧
      (empty.parse origin content).document.keyCount =
        (firsts Statement.address? (Rows.statements (Text.lines content))).length := by
  have clean := Rows.clean_whole content
  have whole := Rows.wellFormed_whole wellFormed
  obtain ⟨-, stored, sound⟩ := parse_of_wellFormed sound_empty origin wellFormed
  have headers : (Rows.wholeStatements (Text.lines content)).filterMap Statement.header? =
      Rows.headers (Text.lines content) := by
    rw [Rows.wholeStatements, Rows.headers_statements, Rows.headers_concat]
    exact List.append_nil _
  have settings : (Rows.wholeStatements (Text.lines content)).filterMap Statement.address? =
      Rows.settings (Text.lines content) :=
    (Rows.settings_concat_address? (Text.lines content) []).trans (List.append_nil _)
  constructor
  · rw [stored, Rows.wholeStatements, Rows.acceptAll_statements clean whole,
      countP_sectionNames_meaning, firsts, ← Rows.wholeStatements, headers]
    rfl
  · rw [stored] at sound ⊢
    have apart : ∀ said ∈ Rows.wholeStatements (Text.lines content), said.Apart :=
      fun said => Rows.apart_of_mem_statements clean whole
    rw [keyCount_acceptAll apart sound, firsts, settings]
    rfl

/-- The report on a text that is accepted is exact: it counts the lines, the header lines and the
setting lines; its warnings stand in line order, and there is one with the number and the text of
each line that repeats a header, or a setting of the same section, and none besides. If the text was
read into the empty document, the settings there are all setting lines but those with a warning, and
the named sections all header lines but those with a warning. -/
theorem parse_report_exact {document : Document} (reachable : document.Reachable)
    {origin content : Text} {report : Report}
    (accepted : (document.parse origin content).result = .ok report) :
    let rows := Text.lines content
    let after := (document.parse origin content).document
    report.lines = rows.length ∧
      report.sections = rows.countP (fun raw => (Line.header? raw).isSome) ∧
      report.keys = rows.countP (fun raw => (Line.key? raw).isSome) ∧
      (report.warnings.Pairwise fun one other => one.line < other.line) ∧
      (∀ warning, warning ∈ report.warnings ↔ ∃ above raw below, rows = above ++ raw :: below ∧
        Rows.Repeats above raw warning.finding ∧ warning.line = above.length + 1 ∧
        warning.raw = raw) ∧
      (document = empty →
        after.keyCount + report.warnings.countP (fun warning => warning.finding.isSetting) =
            report.keys ∧
          after.sectionNames.countP Option.isSome +
              report.warnings.countP (fun warning => warning.finding.isHeader) =
            report.sections) := by
  intro rows after
  have sound := reachable.sound
  have wellFormed := (isOk_parse_iff sound origin content).mp ⟨report, accepted⟩
  have counted := (parse_of_wellFormed sound origin wellFormed).1
  obtain rfl : Rows.report rows = report := Except.ok.inj (counted.symm.trans accepted)
  refine ⟨rfl, Rows.length_headers rows, Rows.length_settings rows,
    (Rows.pairwise_warnings rows).1, fun warning => ?_, ?_⟩
  · rw [Rows.report, Rows.mem_along]
    simp only [List.nil_append, Rows.warning?_eq_some_iff]
  · rintro rfl
    obtain ⟨names, keys⟩ := counts_parse_empty origin wellFormed
    exact ⟨keys ▸ Rows.settings_add_warnings rows, names ▸ Rows.headers_add_warnings rows⟩

/-- A key comes up again when its section was opened a second time, but not in another section: of
three settings two are stored, and of three headers two make sections. -/
theorem parse_report_exact_reopened :
    let content := "[s]\nk=1\n[t]\nk=2\n[ s ]\n k = 3".toList
    let after := (parse empty [] content).document
    (∃ above raw below, Text.lines content = above ++ raw :: below ∧
        Rows.Repeats above raw (.keyAgain (some "s".toList) "k".toList) ∧
        6 = above.length + 1 ∧ " k = 3".toList = raw) ∧
      after.keyCount + 1 = 3 ∧ after.sectionNames.countP Option.isSome + 1 = 3 := by
  intro content after
  have accepted : (parse empty [] content).result =
      .ok ⟨6, 3, 3, [⟨5, .sectionAgain "s".toList, "[ s ]".toList⟩,
        ⟨6, .keyAgain (some "s".toList) "k".toList, " k = 3".toList⟩]⟩ := rfl
  obtain ⟨-, -, -, -, warned, new⟩ := parse_report_exact .empty accepted
  exact ⟨(warned _).mp (List.mem_cons_of_mem _ (List.mem_singleton_self _)), new rfl⟩

end Document

end IniKeeper
