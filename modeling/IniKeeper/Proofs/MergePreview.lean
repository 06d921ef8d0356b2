import IniKeeper.Proofs.BackupLog
import IniKeeper.Proofs.Merging

/-!
# The preview of a merge is exact

Before it asks whether to go on, a merge shows a row for each setting of the text that it merges: a
mark that tells whether the file has the key already, the section, the key and the value. What the
merge then does is just what these rows say: the document grows by the rows that are marked as new,
and each key reads as the value in its row.
-/

namespace IniKeeper

open Context (Opens)

/-- A run that looks first and saves last only adds to what was shown. -/
theorem Course.exists_shown {context : Context} {workspace : Workspace}
    {outcome : Except Failure Unit × Workspace}
    (course : Course context.Saves workspace outcome) :
    ∃ more, outcome.2.shown = workspace.shown ++ more := by
  have tells : Workspace.TellsOf (context.shelfIn workspace) context.file workspace outcome.2 := by
    refine course.tells ?_
    rintro edit ⟨session, rfl⟩ emissions
    exact context.tells_save session (workspace.showing emissions)
  obtain ⟨more, shown, -⟩ := tells
  exact ⟨more, shown⟩

/-- A merge of a text with keys shows its preview, whatever the user then wants. -/
theorem Command.exists_shown_runMerge {context : Context} {workspace : Workspace}
    {document : Document} (opens : Opens workspace.tree context.file document)
    {source content : Text} {report : Report}
    (fetched : ((sourceText source).run workspace).1 = .ok content)
    (loaded : (Session.new.load source content).result = .ok report)
    (filled : (Session.new.load source content).session.document.keyCount ≠ 0) (yes : Bool) :
    let incoming := (Session.new.load source content).session.document
    ∃ earlier later, ((runMerge context source yes).run workspace).2.shown =
      workspace.shown ++ earlier ++ (previewHead incoming ++ (previewRows document incoming ++
        previewFoot document incoming report)) ++ later := by
  intro incoming
  obtain ⟨emissions, -, left⟩ := looks_sourceText source workspace
  have read : (sourceText source).run workspace = (.ok content, workspace.showing emissions) :=
    Prod.ext fetched left
  let events := (Session.new.load source content).events
  have further : Opens ((workspace.showing emissions).logged events).tree context.file document :=
    opens
  obtain ⟨session, more, opened, same⟩ := Context.run_loadOrNew further
  let start := ((workspace.showing emissions).logged events).logged more
  let preview := previewHead incoming ++ (previewRows document incoming ++
    previewFoot document incoming report)
  -- Whatever is done below the preview only adds to it.
  have added : ∀ {rest : Job Unit}, Job.Courses context.Saves rest →
      ∃ earlier later, (rest.run (start.showing preview)).2.shown =
        workspace.shown ++ earlier ++ preview ++ later := by
    intro rest courses
    obtain ⟨later, shown⟩ := (courses (start.showing preview)).exists_shown
    refine ⟨emissions ++ events.map .log ++ more.map .log, later, shown.trans ?_⟩
    simp [start, Workspace.showing, Workspace.logged]
  rw [runMerge, Job.run_bind_of_ok read, Job.run_bind, Context.run_take, loaded]
  dsimp only
  rw [if_neg filled, Job.run_bind_of_ok opened, same,
    Job.run_bind_of_ok (shows_preview document incoming report start)]
  refine added (Job.Courses.ifGranted ?_ yes _)
  exact .after_looking (Context.looks_take (session.quiet_merge source content)) fun merged =>
    Job.courses_edit ⟨_, rfl⟩ _

namespace Document

/-- A text that can be loaded on its own can be merged into any document with a history, with the
same report, and what was loaded then overrides the document. The preview has a row for each setting
that was loaded, marked with a tilde if the document has the key and with a plus sign if it does
not, and this is shown by every merge of the text into a file that opens as the document. The
document grows by the rows that are marked as new, and every row is read as shown. -/
theorem merge_overrides {document : Document} (reachable : document.Reachable)
    (before : Option Text) {source origin content : Text} {report : Report}
    (loaded : (Session.new.load source content).result = .ok report) :
    let incoming := (Session.new.load source content).session.document
    let merge := Session.merge ⟨document, before⟩ origin content
    let merged := merge.session.document
    let settings := incoming.sections.flatMap fun sect =>
      (sect.entries.filter fun entry => !entry.isStandalone).map fun entry => (sect.name, entry)
    let label (sect : Option Text) : Text :=
      sect.elim "(global)".toList fun name => ['['] ++ name ++ [']']
    let row (place : Option Text × Entry) : Text :=
      [' ', ' ', if document.hasKey place.1 place.2.key then '~' else '+', ' '] ++
        (label place.1 ++ List.replicate (12 - (label place.1).length) ' ') ++
        ' ' :: place.2.key ++ " = ".toList ++ place.2.value.getD [] ++ ['\n']
    let preview : List Emission := Command.previewHead incoming ++
      (settings.map (fun place => .output (row place)) ++
        Command.previewFoot document incoming report)
    merge.result = .ok report ∧ document.Overrides incoming merged ∧
      Job.Shows (Command.preview document incoming report) preview ∧
      (∀ (context : Context) (workspace : Workspace) (yes : Bool),
        Opens workspace.tree context.file document →
        ((Command.sourceText source).run workspace).1 = .ok content → incoming.keyCount ≠ 0 →
        ∃ earlier later, ((Command.runMerge context source yes).run workspace).2.shown =
          workspace.shown ++ earlier ++ preview ++ later) ∧
      merged.keyCount = document.keyCount +
        (settings.countP fun place => !document.hasKey place.1 place.2.key) ∧
      ∀ place ∈ settings, ∀ default,
        merged.getString place.1 place.2.key default = place.2.value.getD [] := by
  intro incoming merge merged settings label row preview
  have sound := reachable.sound
  have wellFormed := Session.wellFormed_of_load loaded
  have loading := Session.load_of_wellFormed wellFormed source
  have merging := @Session.merge_of_wellFormed content wellFormed ⟨document, before⟩ sound origin
  have incoming_eq : incoming = (empty.parse source content).document := loading.2
  have merged_eq : merged = (document.parse origin content).document := merging.2
  have layers : Layers document incoming merged := by
    rw [incoming_eq, merged_eq]
    exact sound.layers_parse source origin wellFormed
  have incomingSound : incoming.Sound := by
    rw [incoming_eq]
    exact sound_empty.parse source content
  have mergedSound : merged.Sound := by
    rw [merged_eq]
    exact sound.parse origin content
  have overrides := layers.overrides
  have labels : label = Section.label := by
    funext sect
    cases sect <;> rfl
  have rows : settings.map (fun place => .output (row place)) =
      Command.previewRows document incoming := by
    simp only [row, labels]
    rfl
  have shown : preview = Command.previewHead incoming ++ (Command.previewRows document incoming ++
      Command.previewFoot document incoming report) := by
    rw [← rows]
  refine ⟨merging.1.trans (loading.1.symm.trans loaded), overrides,
    shown ▸ Command.shows_preview document incoming report, ?_,
    layers.keyCount_eq sound incomingSound mergedSound, fun place member default => ?_⟩
  · intro context workspace yes opens fetched filled
    rw [shown]
    exact Command.exists_shown_runMerge opens fetched loaded filled yes
  have setting := (incomingSound.of_mem_settingsOf member).2
  have unreserved : Entry.isReserved (Text.trim place.2.key) = false := by
    rw [setting.key.trimmed]
    exact (incomingSound.mem_settingsOf.mp member).2
  have present : incoming.hasKey place.1 place.2.key = true := by
    rw [hasKey, incomingSound.entry?_of_mem member]
    rfl
  rw [getString, overrides.value place.1 place.2.key unreserved, if_pos present,
    incomingSound.value?_of_mem member]
  rfl

/-- A file, and beside it a text to merge into it; nobody answers questions. -/
def mergeable : Workspace where
  tree := ⟨[], [(["app.ini".toList], .file "k = 1\n[s]\n# c\na = 1\n".toUTF8),
    (["more.ini".toList], .file "[s]\na = 2\nb = 3\n[t]".toUTF8)]⟩
  clock := .startingAt (.after1970 1600000000000000000)
  home := []
  configHome := "config".toList
  outside := fun _ => .error []
  schedule := .fresh
  shown := []

/-- A value is overridden under the comment that it had, a new key is counted, and the preview marks
both. -/
theorem merge_overrides_commented :
    let old := (Session.new.load "app.ini".toList
      "k = 1\n[s]\n# c\na = 1\n".toList).session.document
    let merged := (Session.merge ⟨old, none⟩ [] "[s]\na = 2\nb = 3\n[t]".toList).session.document
    let context : Context := ⟨.default, "app.ini".toList, false⟩
    (Session.new.load "more.ini".toList "[s]\na = 2\nb = 3\n[t]".toList).result =
        .ok ⟨4, 2, 2, []⟩ ∧
      merged.value? (some "s".toList) "a".toList = some "2".toList ∧
      merged.comment? (some "s".toList) "a".toList = some "# c".toList ∧
      merged.sectionNames = [none, some "s".toList, some "t".toList] ∧
      merged.keyCount = 3 ∧
      ∃ earlier later,
        ((Command.runMerge context "more.ini".toList false).run mergeable).2.shown =
          earlier ++ ["\n", "Found 2 keys:\n", "\n", "  ~ [s]          a = 2\n",
            "  + [s]          b = 3\n", "\n", "⚠ 1 existing keys will be overwritten\n"].map
              (fun line => .output line.toList) ++ later := by
  intro old merged context
  have reachable : old.Reachable := .step .empty (.parse "app.ini".toList _ rfl)
  have loaded : (Session.new.load "more.ini".toList "[s]\na = 2\nb = 3\n[t]".toList).result =
      .ok ⟨4, 2, 2, []⟩ := rfl
  have opens : Opens mergeable.tree "app.ini".toList old := .holds (by decide +kernel) rfl
  obtain ⟨-, overrides, -, shows, grown, -⟩ := @merge_overrides old reachable none _ [] _ _ loaded
  obtain ⟨earlier, later, shown⟩ := shows context mergeable false opens (by decide +kernel)
    (by decide +kernel)
  refine ⟨loaded, ?_, ?_, ?_, ?_, earlier, later, shown.trans ?_⟩
  · exact overrides.value (some "s".toList) "a".toList rfl
  · exact overrides.comment (some "s".toList) "a".toList rfl
  · exact overrides.sectionNames
  · exact grown
  · refine congrArg (earlier ++ · ++ later) ?_
    decide +kernel

end Document

end IniKeeper
