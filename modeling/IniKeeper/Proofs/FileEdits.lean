import IniKeeper.Proofs.Agreement
import IniKeeper.Proofs.ReadBeforeWrite

/-!
# Commands that edit the file

Some commands change the file: they open it, change the document in memory and save it. This module
says for all of them at once what one such run comes to, in terms of what the operation in memory
makes of the document that the file opens as.
-/

namespace IniKeeper

open Context (Opens)

/-- A command that edits the file, with its arguments; where it asks, it is told yes. -/
inductive FileEdit where
  /-- Set a value, and a comment if one is given. -/
  | set (key value : Text) (sect note : Option Text)
  /-- Replace a comment; an empty text takes it away. -/
  | comment (key text : Text) (sect : Option Text)
  /-- Remove a key. -/
  | remove (key : Text) (sect : Option Text)
  /-- Remove a section. -/
  | removeSection (name : Text)
  /-- Merge a source. -/
  | merge (source : Text)
  /-- Write the file in its plain form. -/
  | format

namespace FileEdit

/-- The command. -/
def command : FileEdit → Command
  | set key value sect note => .set key value sect note
  | comment key text sect => .comment key (some text) sect
  | remove key sect => .remove key sect
  | removeSection name => .removeSection name true
  | merge source => .merge source true
  | format => .format false

/-- Whether the command only works on a file that is there. -/
def needsFile : FileEdit → Bool
  | remove _ _ | removeSection _ | format => true
  | set _ _ _ _ | comment _ _ _ | merge _ => false

/-- What the operation in memory makes of a document, where a merge reads a content. -/
def apply (content : Text) (document : Document) : FileEdit → Except Fault Document
  | set key value sect none =>
    (Document.refuse (document.setString sect key value)).map Prod.fst
  | set key value sect (some block) =>
    (Document.refuse (document.setStringWithComment sect key value (some block))).map Prod.fst
  | comment key text sect =>
    (Document.refuse
      (document.setComment sect key (if text.isEmpty then none else some text))).map Prod.fst
  | remove key sect => .ok (document.removingKey sect key)
  | removeSection name => .ok (document.removingSection (some name))
  | merge source => document.merging source content
  | format => .ok document

/-- Whether the content that a merge reads has at least one key, where it can be loaded. -/
def BringsKeys (content : Text) : FileEdit → Prop
  | merge source => ∀ report, (Session.new.load source content).result = .ok report →
    (Session.new.load source content).session.document.keyCount ≠ 0
  | _ => True

/-- Whether a merge brings keys can be decided by loading the content. -/
instance decidableBringsKeys (content : Text) :
    (edit : FileEdit) → Decidable (edit.BringsKeys content)
  | merge _ => Attempt.decidableForallOk _
  | set _ _ _ _ | comment _ _ _ | remove _ _ | removeSection _ | format => isTrue trivial

/-- The operation in memory has the same outcome for sound documents that agree. -/
theorem alike_apply {document other : Document} (agrees : document.Agrees other)
    (sound : document.Sound) (otherSound : other.Sound) (content : Text) (edit : FileEdit) :
    Document.Alike (edit.apply content document) (edit.apply content other) := by
  cases edit with
  | set key value sect note =>
    cases note with
    | none => exact agrees.setString sect key value
    | some block => exact agrees.setStringWithComment sect key value (some block)
  | comment key text sect => exact agrees.setComment sect key _
  | remove key sect => exact .ok (agrees.removingKey sound otherSound sect key)
  | removeSection name => exact .ok (agrees.removingSection sound otherSound name)
  | merge source => exact agrees.merging sound otherSound source content
  | format => exact .ok agrees

/-- A write whose document alone is looked at was successful. -/
theorem exists_of_map_fst {α : Type} {attempt : Except Refusal (Document × α)}
    {changed : Document} (done : (Document.refuse attempt).map Prod.fst = .ok changed) :
    ∃ before, attempt = .ok (changed, before) := by
  cases attempt with
  | error reason => contradiction
  | ok result =>
    obtain ⟨made, before⟩ := result
    obtain rfl : made = changed := Except.ok.inj done
    exact ⟨before, rfl⟩

/-- The operation in memory keeps a document sound. -/
theorem sound_apply {document changed : Document} (sound : document.Sound) {content : Text}
    {edit : FileEdit} (done : edit.apply content document = .ok changed) : changed.Sound := by
  cases edit with
  | set key value sect note =>
    cases note with
    | none =>
      obtain ⟨before, made⟩ := exists_of_map_fst done
      exact (Document.Setter.setString made).sound sound
    | some block =>
      obtain ⟨before, made⟩ := exists_of_map_fst done
      exact (Document.Setter.setStringWithComment made).sound sound
  | comment key text sect =>
    obtain ⟨before, made⟩ := exists_of_map_fst done
    exact (Document.Setter.setComment made).sound sound
  | remove key sect => exact Except.ok.inj done ▸ sound.removingKey sect key
  | removeSection name => exact Except.ok.inj done ▸ sound.removingSection (some name)
  | merge source => exact sound.of_merging done
  | format => exact Except.ok.inj done ▸ sound

end FileEdit

/-! ### Sources -/

/-- A text that is at fault at a line cannot be loaded because of that line. -/
theorem Session.load_of_offence (origin : Text) {content raw : Text} {front rest : List Text}
    (rows : Text.lines content = front ++ raw :: rest)
    (above : ∀ row ∈ front, Line.WellFormed row) (offends : ¬ Line.WellFormed raw) :
    (new.load origin content).result = .error (.badLine origin (front.length + 1) raw) := by
  have fault := (Document.parse_of_offence Document.sound_empty origin rows above offends).1
  simp only [load, new, fault]

namespace Command

/-- Reading a source fails only where it cannot be accessed. -/
theorem failsOnAccess_sourceText (source : Text) : (sourceText source).FailsOnAccess := by
  unfold sourceText
  split
  · have shown : (Job.putLine ("Fetching from URL: ".toList ++ source)).FailsOnAccess :=
      Job.failsAs_modify _
    exact shown.bind fun _ => Job.failsAs_workspace.bind fun workspace =>
      Job.failsAs_ofExcept fun _ _ => by rfl
  · refine Job.failsAs_workspace.bind fun workspace => Job.failsAs_tree.bind fun tree => ?_
    have read : (Job.ofExcept Failure.fault
        (tree.textAt (Store.Path.expandHome workspace.home source))).FailsOnAccess := by
      refine Job.failsAs_ofExcept fun fault failed => ?_
      obtain ⟨cause, rfl⟩ := Store.Tree.exists_of_textAt_error failed
      rfl
    dsimp only
    split
    · intro _ failure failed
      obtain rfl := Except.error.inj failed
      rfl
    · exact read

end Command

/-! ### What a run comes to -/

/-- What a run of a command that edits its file comes to, where the operation in memory makes
`applied` of the document that the file opened as. -/
inductive Edited (file : Text) (padded needsFile : Bool) (before : Store.Tree)
    (document : Document) (applied : Except Fault Document) :
    Except Failure Unit × Workspace → Prop where
  /-- The operation fails; so does the run, which changes no file. -/
  | refused {fault : Fault} {after : Workspace} (failed : applied = .error fault)
      (still : after.tree = before) :
      Edited file padded needsFile before document applied (.error (.fault fault), after)
  /-- The operation changes nothing, and neither does the run. -/
  | kept {after : Workspace} (same : applied = .ok document) (still : after.tree = before) :
      Edited file padded needsFile before document applied (.ok (), after)
  /-- The file holds the text of what the operation makes. -/
  | saved {changed : Document} {after : Workspace} (done : applied = .ok changed)
      (stored : after.tree.textAt file = .ok (changed.render padded)) :
      Edited file padded needsFile before document applied (.ok (), after)
  /-- The file that the command needs is missing, and so it stays. -/
  | absent {failure : Failure} {after : Workspace} (missing : before.has file = false)
      (needs : needsFile = true) (same : applied = .ok document) (still : after.tree = before) :
      Edited file padded needsFile before document applied (.error failure, after)
  /-- Something could not be accessed. -/
  | broken {failure : Failure} {after : Workspace} (access : failure.isAccess = true)
      (present : needsFile = true → before.has file = true) :
      Edited file padded needsFile before document applied (.error failure, after)

namespace Edited

variable {context : Context} {needsFile : Bool} {before : Store.Tree} {document : Document}
  {applied : Except Fault Document} {workspace : Workspace}

/-- A run that saves what the operation made comes to what the operation makes. -/
theorem save {session : Session} {changed : Document} (made : session.document = changed)
    (done : applied = .ok changed) (present : needsFile = true → before.has context.file = true)
    (message : Text) :
    Edited context.file context.padded needsFile before document applied
      ((context.save session >>= fun _ => Context.succeed message).run workspace) := by
  have fails := Context.failsOnAccess_save context session workspace
  rcases ran : (context.save session).run workspace with ⟨failure | ⟨⟨⟩⟩, after⟩
  · rw [Attempt.run_bind_of_error ran]
    exact .broken (fails failure (congrArg Prod.fst ran)) present
  · rw [Attempt.run_bind_of_ok ran]
    have stored := Context.textAt_of_save ran
    rw [Session.render, made] at stored
    exact .saved done stored

/-- A write is accepted and saved, or it is refused. -/
theorem write {α : Type} {attempt : Except Refusal (Document × α)} {next : Document × α → Job Unit}
    {session : Session} {message : α → Text} (still : workspace.tree = before)
    (saves : ∀ changed result, next (changed, result) =
      (context.save (Context.withDocument session changed) >>= fun _ =>
        Context.succeed (message result))) :
    Edited context.file context.padded false before document
      ((Document.refuse attempt).map Prod.fst)
      ((Context.accept attempt >>= next).run workspace) := by
  cases attempt with
  | error reason => exact .refused rfl still
  | ok found =>
    obtain ⟨changed, result⟩ := found
    rw [Context.accept, Job.run_bind_of_ok (Job.run_ofExcept _ _ _), saves]
    exact save (by rfl) (by rfl) (fun wrong => by contradiction) (message result)

/-- A command that loads the file goes on from what it opens as, or there is no file. -/
theorem ofLoad (opens : Opens workspace.tree context.file document)
    {next : Session × Report → Job Unit} (absent : document = .empty → applied = .ok document)
    (goesOn : workspace.tree.has context.file = true → ∀ session report events,
      session.document = document →
        Edited context.file context.padded true workspace.tree document applied
          ((next (session, report)).run (workspace.logged events))) :
    Edited context.file context.padded true workspace.tree document applied
      ((context.load >>= next).run workspace) := by
  rcases Context.run_load opens with
    ⟨present, session, report, events, loaded, same⟩ | ⟨missing, bare, failure, failed⟩
  · rw [Job.run_bind_of_ok loaded]
    exact goesOn present session report events same
  · rw [Attempt.run_bind_of_error failed]
    exact .absent missing rfl (absent bare) rfl

/-! ### The commands -/

/-- A run that sets a value, with a comment or without, comes to what setting it in memory makes. -/
theorem runSet (opens : Opens workspace.tree context.file document) (content key value : Text)
    (sect note : Option Text) :
    Edited context.file context.padded false workspace.tree document
      ((FileEdit.set key value sect note).apply content document)
      ((Command.runSet context key value sect note).run workspace) := by
  obtain ⟨session, events, opened, rfl⟩ := Context.run_loadOrNew opens
  rw [Command.runSet, Job.run_bind_of_ok opened]
  cases note with
  | none => exact write rfl fun _ _ => rfl
  | some block => exact write rfl fun _ _ => rfl

/-- A run that replaces a comment comes to what replacing it in memory makes. -/
theorem runSetComment (opens : Opens workspace.tree context.file document) (key text : Text)
    (sect : Option Text) :
    Edited context.file context.padded false workspace.tree document
      ((Document.refuse (document.setComment sect key
        (if text.isEmpty then none else some text))).map Prod.fst)
      ((Command.runSetComment context key text sect).run workspace) := by
  obtain ⟨session, events, opened, rfl⟩ := Context.run_loadOrNew opens
  rw [Command.runSetComment, Job.run_bind_of_ok opened]
  exact write rfl fun _ _ => rfl

/-- A run that removes a key comes to what removing it in memory makes. -/
theorem runRemove (opens : Opens workspace.tree context.file document) (key : Text)
    (sect : Option Text) :
    Edited context.file context.padded true workspace.tree document
      (.ok (document.removingKey sect key))
      ((Command.runRemove context key sect).run workspace) := by
  refine ofLoad opens ?_ ?_
  · rintro rfl
    cases sect <;> rfl
  · rintro present session report events rfl
    rw [Document.removingKey]
    dsimp only
    cases session.document.removeKey sect key with
    | none => exact .kept rfl rfl
    | some removed => exact save (by rfl) (by rfl) (fun _ => present) _

/-- A run that removes a section comes to what removing it in memory makes. -/
theorem runRemoveSection (opens : Opens workspace.tree context.file document) (name : Text) :
    Edited context.file context.padded true workspace.tree document
      (.ok (document.removingSection (some name)))
      ((Command.runRemoveSection context name true).run workspace) := by
  refine ofLoad opens ?_ ?_
  · rintro rfl
    rfl
  · rintro present session report events rfl
    rw [Document.removingSection]
    dsimp only
    cases session.document.removeSection (some name) with
    | none => exact .kept rfl rfl
    | some removed =>
      dsimp only
      rw [Job.run_bind_of_ok (Job.shows_putLine _ _), Job.run_bind_of_ok (Context.run_mayGoOn _ _),
        if_pos rfl]
      exact save (by rfl) (by rfl) (fun _ => present) _

/-- A run that writes the plain form comes to the document as it is. -/
theorem runFormat (opens : Opens workspace.tree context.file document) :
    Edited context.file context.padded true workspace.tree document (.ok document)
      ((Command.runFormat context false).run workspace) := by
  refine ofLoad opens (fun _ => rfl) ?_
  rintro present session report events rfl
  dsimp only
  rw [Job.run_bind_of_ok (Job.run_tree _)]
  -- The file is read a second time, to be compared with what would be written.
  cases read : (workspace.logged events).tree.textAt context.file with
  | error fault =>
    obtain ⟨cause, rfl⟩ := Store.Tree.exists_of_textAt_error read
    exact .broken rfl fun _ => present
  | ok current =>
    rw [Job.run_bind_of_ok (Job.run_ofExcept _ _ _)]
    by_cases same : session.render context.padded = current
    · rw [if_pos same]
      exact .kept rfl rfl
    · rw [if_neg same]
      exact save (by rfl) (by rfl) (fun _ => present) _

/-- A run that merges a source comes to what merging its text in memory makes, where the text, if it
can be loaded, has a key. -/
theorem runMerge (opens : Opens workspace.tree context.file document) (sound : document.Sound)
    {source content : Text}
    (fetched : ∀ found, ((Command.sourceText source).run workspace).1 = .ok found →
      found = content)
    (brings : (FileEdit.merge source).BringsKeys content) :
    Edited context.file context.padded false workspace.tree document
      (document.merging source content) ((Command.runMerge context source true).run workspace) := by
  have fails := Command.failsOnAccess_sourceText source workspace
  have still : ((Command.sourceText source).run workspace).2.tree = workspace.tree := by
    obtain ⟨emissions, -, left⟩ := Command.looks_sourceText source workspace
    rw [left]
    rfl
  rw [Command.runMerge]
  rcases ran : (Command.sourceText source).run workspace with ⟨failure | found, between⟩
  · rw [Job.run_bind, ran]
    exact .broken (fails failure (congrArg Prod.fst ran)) fun wrong => by contradiction
  · obtain rfl := fetched found (congrArg Prod.fst ran)
    rw [ran] at still
    rw [Job.run_bind_of_ok ran]
    rcases Document.wellFormed_or_exists_offence (Text.lines found) with
      wellFormed | ⟨front, raw, rest, rows, above, offends⟩
    · -- Loaded on its own, the source gives the preview; the merge then reads it once more.
      obtain ⟨accepted, -⟩ := Session.load_of_wellFormed wellFormed source
      have many := brings _ accepted
      rw [Job.run_bind, Context.run_take, accepted]
      dsimp only
      rw [if_neg many]
      have further : Opens (between.logged (Session.new.load source found).events).tree
          context.file document := by
        rw [← still] at opens
        exact opens
      obtain ⟨session, events, opened, rfl⟩ := Context.run_loadOrNew further
      obtain ⟨merged, made⟩ := Session.merge_of_wellFormed wellFormed sound source
      rw [Job.run_bind_of_ok opened, Job.run_bind_of_ok (Command.shows_preview _ _ _ _),
        Job.run_bind_of_ok (Context.run_mayGoOn _ _), if_pos rfl, Job.run_bind, Context.run_take,
        merged]
      exact save made (sound.merging_of_wellFormed source wellFormed)
        (fun wrong => by contradiction) _
    · rw [Job.run_bind, Context.run_take, Session.load_of_offence source rows above offends]
      exact .refused (sound.merging_of_offence source rows above offends) still

/-- A run of a command does what its operation makes of the document that the file opens as. -/
theorem run (opens : Opens workspace.tree context.file document) (sound : document.Sound)
    {content : Text} {edit : FileEdit}
    (fetched : ∀ source found, edit = .merge source →
      ((Command.sourceText source).run workspace).1 = .ok found → found = content)
    (brings : edit.BringsKeys content) :
    Edited context.file context.padded edit.needsFile workspace.tree document
      (edit.apply content document) ((edit.command.run context).run workspace) := by
  cases edit with
  | set key value sect note => exact runSet opens content key value sect note
  | comment key text sect => exact runSetComment opens key text sect
  | remove key sect => exact runRemove opens key sect
  | removeSection name => exact runRemoveSection opens name
  | merge source => exact runMerge opens sound (fun found => fetched source found rfl) brings
  | format => exact runFormat opens

end Edited

end IniKeeper
