import IniKeeper.Proofs.Saving

/-!
# Looking first, editing last

A command reads files, works on a document in memory, shows what it finds and asks whether to go on;
as long as it does only that, it changes nothing. A command that edits the file does so once, when
nothing is left that could be refused: it saves, or it restores a backup, and after that it only
tells what it did. So a run of such a command did nothing but look, or it looked, edited and told,
or its edit failed.
-/

namespace IniKeeper

/-! ### What is shown -/

/-- Whether an event tells that a file was written or backed up. -/
def Event.tellsChange : Event → Bool
  | wrote _ _ | backedUp _ _ => true
  | _ => false

/-- Whether something that is shown tells that a file was written or backed up. -/
def Emission.tellsChange : Emission → Bool
  | log event => event.tellsChange
  | _ => false

namespace Reading

/-- Whether what a reading logged so far tells of no change. -/
def Quiet (reading : Reading) : Prop := ∀ event ∈ reading.events, event.tellsChange = false

variable {reading next : Reading}

/-- Noting a repeated definition tells of no change. -/
theorem Quiet.warn (quiet : reading.Quiet) {event : Event} (tells : event.tellsChange = false)
    (finding : Finding) (raw : Text) : (reading.warn finding raw event).Quiet := by
  intro logged member
  rcases List.mem_append.mp member with before | now
  · exact quiet logged before
  · rw [List.mem_singleton.mp now]
    exact tells

/-- Settling a block logs nothing. -/
theorem events_settle {line : Nat} (settled : reading.settle line = .ok next) :
    next.events = reading.events := by
  unfold settle at settled
  split at settled
  · rw [← Except.ok.inj settled]
  · dsimp only at settled
    split at settled
    all_goals
      obtain ⟨stored, -, done⟩ := Attempt.bind_eq_ok_iff.mp settled
      rw [← Except.ok.inj done]

/-- Opening a section logs nothing. -/
theorem events_openSection {name : Text} (opened : reading.openSection name = .ok next) :
    next.events = reading.events := by
  unfold openSection at opened
  dsimp only at opened
  split at opened
  all_goals
    obtain ⟨stored, -, done⟩ := Attempt.bind_eq_ok_iff.mp opened
    rw [← Except.ok.inj done]

/-- Storing a setting logs nothing. -/
theorem events_store {key value : Text} (stored : reading.store key value = .ok next) :
    next.events = reading.events := by
  unfold store at stored
  dsimp only at stored
  split at stored
  all_goals
    obtain ⟨found, -, done⟩ := Attempt.bind_eq_ok_iff.mp stored
    rw [← Except.ok.inj done]

/-- Counting a header tells of no change. -/
theorem Quiet.countHeader (quiet : reading.Quiet) (origin name raw : Text) :
    (reading.countHeader origin name raw).Quiet := by
  unfold Reading.countHeader
  dsimp only
  split
  · exact Quiet.warn quiet rfl (.sectionAgain name) raw
  · exact quiet

/-- Counting a setting tells of no change. -/
theorem Quiet.countSetting (quiet : reading.Quiet) (origin key raw : Text) :
    (reading.countSetting origin key raw).Quiet := by
  unfold Reading.countSetting
  dsimp only
  split
  · exact Quiet.warn quiet rfl (.keyAgain reading.current key) raw
  · exact quiet

/-- Whether a reading that may have stopped tells of no change either way. -/
def QuietEither : Except Reading Reading → Prop
  | .ok next => next.Quiet
  | .error stopped => stopped.Quiet

/-- An attempt to store that logs nothing leaves a reading quiet. -/
theorem Quiet.orStop (quiet : reading.Quiet) {attempt : Except Refusal Reading}
    (same : ∀ next, attempt = .ok next → next.events = reading.events) :
    QuietEither (reading.orStop attempt) := by
  cases attempt with
  | error reason => exact quiet
  | ok next =>
    have events := same next rfl
    intro event member
    exact quiet event (events ▸ member)

/-- Reading a line tells of no change. -/
theorem Quiet.step (quiet : reading.Quiet) (origin raw : Text) :
    QuietEither (reading.step origin raw) := by
  have counted : Quiet
      { reading with report := { reading.report with lines := reading.report.lines + 1 } } := quiet
  unfold Reading.step readLine
  split
  · exact counted.orStop fun _ => events_settle
  · exact counted
  · split
    · exact counted
    · exact (counted.countHeader origin _ raw).orStop fun _ => events_openSection
  · dsimp only
    split
    · exact counted
    · exact (counted.countSetting origin _ raw).orStop fun _ => events_store
  · exact counted

/-- Reading lines to their end tells of no change, wherever it stops. -/
theorem Quiet.run (quiet : reading.Quiet) (origin : Text) (rows : List Text) :
    (∀ done, reading.run origin rows = .ok done → done.Quiet) ∧
      ∀ stopped raw, reading.run origin rows = .error (stopped, raw) → stopped.Quiet := by
  induction rows generalizing reading with
  | nil =>
    unfold Reading.run
    cases settled : reading.settle (reading.report.lines + 1) with
    | ok next =>
      refine ⟨fun done same => ?_, fun _ _ wrong => by contradiction⟩
      obtain rfl := Except.ok.inj same
      intro event member
      exact quiet event (events_settle settled ▸ member)
    | error reason =>
      refine ⟨fun _ wrong => by contradiction, fun stopped raw same => ?_⟩
      obtain ⟨rfl, -⟩ := Prod.mk.inj (Except.error.inj same)
      exact quiet
  | cons raw rest ih =>
    have one := quiet.step origin raw
    unfold Reading.run
    cases stepped : reading.step origin raw with
    | ok next =>
      rw [stepped] at one
      exact ih one
    | error stopped =>
      rw [stepped] at one
      refine ⟨fun _ wrong => by contradiction, fun left _ same => ?_⟩
      obtain ⟨rfl, -⟩ := Prod.mk.inj (Except.error.inj same)
      exact one

end Reading

/-- Reading a text tells of no change. -/
theorem Document.quiet_parse (document : Document) (origin content : Text) :
    ∀ event ∈ (document.parse origin content).events, event.tellsChange = false := by
  have start : (Reading.start document).Quiet := fun event none => absurd none List.not_mem_nil
  obtain ⟨done, stopped⟩ := start.run origin (Text.lines content)
  unfold Document.parse
  split
  · rename_i reading ran
    intro event member
    rcases List.mem_append.mp member with before | now
    · exact done reading ran event before
    · rw [List.mem_singleton.mp now]
      rfl
  · rename_i reading raw ran
    exact stopped reading raw ran

namespace Session

/-- Loading a text tells of no change. -/
theorem quiet_load (session : Session) (origin content : Text) :
    ∀ event ∈ (session.load origin content).events, event.tellsChange = false := by
  have parsed := Document.quiet_parse .empty origin content
  unfold load
  dsimp only
  split
  · exact fun event none => absurd none List.not_mem_nil
  · split
    · exact parsed
    · intro event member
      rcases List.mem_append.mp member with before | now
      · exact parsed event before
      · rw [List.mem_singleton.mp now]
        rfl

/-- Loading a file tells of no change. -/
theorem quiet_loadPath (session : Session) (tree : Store.Tree) (path : Text) :
    ∀ event ∈ (session.loadPath tree path).events, event.tellsChange = false := by
  unfold loadPath
  split
  · exact fun event none => absurd none List.not_mem_nil
  · exact session.quiet_load path _

/-- Merging a text tells of no change. -/
theorem quiet_merge (session : Session) (origin content : Text) :
    ∀ event ∈ (session.merge origin content).events, event.tellsChange = false := by
  have parsed := session.document.quiet_parse origin content
  unfold merge
  dsimp only
  split
  · exact parsed
  · intro event member
    rcases List.mem_append.mp member with before | now
    · exact parsed event before
    · rw [List.mem_singleton.mp now]
      rfl

end Session

/-! ### Looking -/

namespace Workspace

/-- The workspace after more was shown. -/
def showing (workspace : Workspace) (emissions : List Emission) : Workspace :=
  { workspace with shown := workspace.shown ++ emissions }

/-- Showing nothing changes nothing. -/
@[simp] theorem showing_nil (workspace : Workspace) : workspace.showing [] = workspace := by
  unfold showing
  rw [List.append_nil]

/-- What is shown in two parts is shown in a row. -/
@[simp] theorem showing_showing (workspace : Workspace) (first second : List Emission) :
    (workspace.showing first).showing second = workspace.showing (first ++ second) := by
  simp only [showing, List.append_assoc]

end Workspace

namespace Job

variable {α β ε : Type}

/-- Whether a job only looks: it changes nothing, and what it shows tells of no change. -/
def Looks (job : Job α) : Prop :=
  ∀ workspace, ∃ emissions, (∀ emission ∈ emissions, emission.tellsChange = false) ∧
    (job.run workspace).2 = workspace.showing emissions

/-- A job that shows nothing and changes nothing only looks. -/
theorem looks_of_still {job : Job α} (still : ∀ workspace, (job.run workspace).2 = workspace) :
    Looks job :=
  fun workspace => ⟨[], fun _ none => absurd none List.not_mem_nil, by simp [still workspace]⟩

/-- Two jobs in a row only look if both do. -/
theorem Looks.bind {job : Job α} {next : α → Job β} (looks : Looks job)
    (further : ∀ found, Looks (next found)) : Looks (job >>= next) := by
  intro workspace
  obtain ⟨emissions, quiet, left⟩ := looks workspace
  rcases ran : job.run workspace with ⟨failure | found, between⟩
  · rw [Attempt.run_bind_of_error ran]
    rw [ran] at left
    exact ⟨emissions, quiet, left⟩
  · rw [Attempt.run_bind_of_ok ran]
    rw [ran] at left
    obtain rfl : between = workspace.showing emissions := left
    obtain ⟨more, still, after⟩ := further found (workspace.showing emissions)
    refine ⟨emissions ++ more, fun emission member => ?_, ?_⟩
    · rcases List.mem_append.mp member with first | second
      · exact quiet emission first
      · exact still emission second
    · rw [after, Workspace.showing_showing]

/-- A job that gives a result only looks. -/
theorem looks_pure (result : α) : Looks (pure result : Job α) := looks_of_still fun _ => rfl

/-- A job that fails only looks. -/
theorem looks_throw (failure : Failure) : Looks (throw failure : Job α) :=
  looks_of_still fun _ => rfl

/-- The workspace can be looked at. -/
theorem looks_workspace : Looks Job.workspace := looks_of_still fun _ => rfl

/-- The tree can be looked at. -/
theorem looks_tree : Looks Job.tree := looks_of_still fun _ => rfl

/-- Taking the result of an attempt only looks. -/
theorem looks_ofExcept (meaning : ε → Failure) (attempt : Except ε α) :
    Looks (ofExcept meaning attempt) :=
  looks_of_still fun workspace => by rw [run_ofExcept]

/-- Showing what tells of no change only looks. -/
theorem looks_emit {emission : Emission} (quiet : emission.tellsChange = false) :
    Looks (emit emission) := by
  refine fun workspace => ⟨[emission], fun shown member => ?_, rfl⟩
  rw [List.mem_singleton.mp member]
  exact quiet

/-- Putting a text only looks. -/
theorem looks_put (text : Text) : Looks (put text) := looks_emit rfl

/-- Putting a line only looks. -/
theorem looks_putLine (text : Text) : Looks (putLine text) := looks_emit rfl

/-- Logging events that tell of no change only looks. -/
theorem looks_log {events : List Event} (quiet : ∀ event ∈ events, event.tellsChange = false) :
    Looks (log events) := by
  refine fun workspace => ⟨events.map .log, fun shown member => ?_, rfl⟩
  obtain ⟨event, logged, rfl⟩ := List.mem_map.mp member
  exact quiet event logged

/-- Jobs for the elements of a list only look if each of them does. -/
theorem looks_forM {job : α → Job Unit} (looks : ∀ a, Looks (job a)) (items : List α) :
    Looks (items.forM job) := by
  induction items with
  | nil => exact looks_pure ()
  | cons a rest ih => exact (looks a).bind fun _ => ih

end Job

namespace Context

open Job

/-- Taking the answer of a session only looks if its events tell of no change. -/
theorem looks_take {meaning : Fault → Failure} {answer : Session.Answer}
    (quiet : ∀ event ∈ answer.events, event.tellsChange = false) : Looks (take meaning answer) :=
  (looks_log quiet).bind fun _ => (looks_ofExcept _ _).bind fun _ => looks_pure _

/-- Loading the file only looks. -/
theorem looks_load (context : Context) : Looks context.load :=
  looks_tree.bind fun tree => looks_take (Session.new.quiet_loadPath tree context.file)

/-- Loading the file, or starting without anything where there is none, only looks. -/
theorem looks_loadOrNew (context : Context) : Looks context.loadOrNew := by
  refine looks_tree.bind fun tree => ?_
  split
  · exact context.looks_load.bind fun _ => looks_pure _
  · exact looks_pure _

/-- Finding the shelf only looks. -/
theorem looks_shelf (context : Context) : Looks context.shelf :=
  looks_workspace.bind fun _ => looks_pure _

/-- Telling what was done only looks. -/
theorem looks_succeed (message : Text) : Looks (succeed message) := looks_putLine _

/-- Telling what to look at only looks. -/
theorem looks_warn (message : Text) : Looks (warn message) := looks_putLine _

/-- Telling what could not be done only looks. -/
theorem looks_complain (message : Text) : Looks (complain message) := looks_emit rfl

/-- Asking whether to go on only looks. -/
theorem looks_ask (question : Text) : Looks (ask question) := by
  refine looks_workspace.bind fun workspace => ?_
  split
  · exact looks_pure _
  · exact looks_throw _

/-- Finding out whether to go on only looks, whether it has to ask or not. -/
theorem looks_mayGoOn (yes : Bool) (question : Text) : Looks (mayGoOn yes question) := by
  cases yes with
  | true => exact looks_pure true
  | false => exact looks_ask question

/-- A user who said yes in advance is not asked. -/
theorem run_mayGoOn (question : Text) (workspace : Workspace) :
    (mayGoOn true question).run workspace = (.ok true, workspace) := rfl

/-- Telling that the user did not want to go on only looks. -/
theorem looks_cancel : Looks cancel := looks_putLine _

end Context

/-- Listing the backups only looks. -/
theorem Shelf.looks_list (shelf : Shelf) : Job.Looks shelf.list :=
  Job.looks_tree.bind fun _ => Job.looks_ofExcept _ _

/-- Finding a backup only looks. -/
theorem Shelf.looks_find (shelf : Shelf) (id : Text) : Job.Looks (shelf.find id) :=
  shelf.looks_list.bind fun _ => Job.looks_pure _

namespace Command

open Context Job

/-- Reading a source only looks. -/
theorem looks_sourceText (source : Text) : Looks (sourceText source) := by
  unfold sourceText
  split
  · exact (looks_putLine _).bind fun _ => looks_workspace.bind fun _ => looks_ofExcept _ _
  · refine looks_workspace.bind fun workspace => looks_tree.bind fun tree => ?_
    dsimp only
    split
    · exact (looks_throw _).bind fun _ => looks_ofExcept _ _
    · exact looks_ofExcept _ _

/-- A preview only looks. -/
theorem looks_preview (current incoming : Document) (report : Report) :
    Looks (preview current incoming report) := by
  unfold preview
  refine (looks_putLine _).bind fun _ => (looks_putLine _).bind fun _ =>
    (looks_putLine _).bind fun _ => (looks_forM (fun _ => looks_putLine _) _).bind fun _ =>
      (looks_putLine _).bind fun _ => (looks_forM (fun _ => looks_warn _) _).bind fun _ => ?_
  dsimp only
  split
  · exact looks_warn _
  · exact looks_pure ()

/-- Showing the value of a key only looks. -/
theorem looks_get (context : Context) (key : Text) (sect default : Option Text) :
    Looks (runGet context key sect default) := by
  refine context.looks_load.bind fun loaded => ?_
  dsimp only
  split
  · exact looks_putLine _
  · split
    · exact looks_putLine _
    · exact looks_throw _

/-- Showing a comment only looks. -/
theorem looks_showComment (context : Context) (key : Text) (sect : Option Text) :
    Looks (runShowComment context key sect) :=
  context.looks_load.bind fun _ => looks_putLine _

/-- Listing entries only looks. -/
theorem looks_list (context : Context) (sect : Option Text) : Looks (runList context sect) := by
  have rows (chosen : List Section) (document : Document) : Looks (do
      if chosen.isEmpty then Job.putLine "No entries found.".toList
      else
        (chosen.flatMap Listing.sectionRows).forM Job.putLine
        Job.putLine []
        Job.putLine (Listing.totals document)) := by
    split
    · exact looks_putLine _
    · exact (looks_forM (fun _ => looks_putLine _) _).bind fun _ =>
        (looks_putLine _).bind fun _ => looks_putLine _
  refine context.looks_load.bind fun loaded =>
    (looks_forM (fun _ => looks_warn _) _).bind fun _ => ?_
  dsimp only
  split
  · exact (looks_pure _).bind fun chosen => rows chosen _
  · split
    · exact (looks_throw _).bind fun chosen => rows chosen _
    · exact (looks_pure _).bind fun chosen => rows chosen _

/-- Listing sections only looks. -/
theorem looks_sections (context : Context) : Looks (runSections context) :=
  context.looks_load.bind fun _ => looks_forM (fun _ => looks_putLine _) _

/-- Showing the plain form of the file only looks. -/
theorem looks_showFormatted (current formatted : Text) : Looks (showFormatted current formatted) :=
  (looks_putLine _).bind fun _ => (looks_putLine _).bind fun _ => (looks_putLine _).bind fun _ =>
    (looks_put _).bind fun _ => (looks_putLine _).bind fun _ => (looks_putLine _).bind fun _ =>
      looks_putLine _

/-- Writing the file in its plain form on trial only looks. -/
theorem looks_format (context : Context) : Looks (runFormat context true) := by
  refine context.looks_load.bind fun loaded => looks_tree.bind fun tree =>
    (looks_ofExcept _ _).bind fun current => ?_
  split
  · exact looks_succeed _
  · exact looks_showFormatted _ _

/-- Telling the warnings only looks. -/
theorem looks_showWarnings (warnings : List Warning) : Looks (showWarnings warnings) := by
  unfold showWarnings
  split
  · exact looks_succeed _
  · exact (looks_putLine _).bind fun _ => (looks_forM (fun _ => looks_putLine _) _).bind fun _ =>
      (looks_putLine _).bind fun _ => looks_putLine _

/-- Telling what is wrong with the file only looks. -/
theorem looks_check (context : Context) : Looks (runCheck context) := by
  refine looks_tree.bind fun tree => (looks_ofExcept _ _).bind fun content =>
    (looks_log (Session.new.quiet_load context.file content)).bind fun _ => ?_
  split
  · exact (looks_putLine _).bind fun _ => (looks_putLine _).bind fun _ => looks_throw _
  · exact looks_throw _
  · exact (looks_showWarnings _).bind fun _ => looks_putLine _

/-- Showing the list of the backups only looks. -/
theorem looks_backupList (shelf : Shelf) : Looks (runBackupList shelf) := by
  refine (Shelf.looks_list shelf).bind fun backups => ?_
  split
  · exact looks_putLine _
  · exact (looks_putLine _).bind fun _ => (looks_putLine _).bind fun _ =>
      (looks_putLine _).bind fun _ => (looks_putLine _).bind fun _ =>
        (looks_forM (fun _ => looks_putLine _) _).bind fun _ => (looks_putLine _).bind fun _ =>
          looks_putLine _

/-- Showing the settings only looks. -/
theorem looks_config (context : Context) : Looks (runConfig context false) :=
  looks_workspace.bind fun _ => (looks_putLine _).bind fun _ => looks_put _

end Command

/-! ### Courses -/

/-- All that a run can come to that looks first and edits last, where `edits` are the steps that may
be the edit: it ended while it looked, or it looked, edited and went on looking, or it looked and
failed at its edit. -/
inductive Course (edits : Job Unit → Prop) (workspace : Workspace) :
    Except Failure Unit × Workspace → Prop where
  /-- Nothing was done but looking. -/
  | looked {result : Except Failure Unit} {emissions : List Emission}
      (quiet : ∀ emission ∈ emissions, emission.tellsChange = false) :
      Course edits workspace (result, workspace.showing emissions)
  /-- The edit was made. -/
  | edited {edit : Job Unit} {before after : List Emission} {between : Workspace}
      (is : edits edit) (quiet : ∀ emission ∈ before, emission.tellsChange = false)
      (silent : ∀ emission ∈ after, emission.tellsChange = false)
      (ran : edit.run (workspace.showing before) = (.ok (), between)) :
      Course edits workspace (.ok (), between.showing after)
  /-- The edit failed. -/
  | failed {edit : Job Unit} {before : List Emission} {failure : Failure} {left : Workspace}
      (is : edits edit) (quiet : ∀ emission ∈ before, emission.tellsChange = false)
      (ran : edit.run (workspace.showing before) = (.error failure, left)) :
      Course edits workspace (.error failure, left)

/-- What holds of the tree before a run and after each edit that it may make holds after the run. -/
theorem Course.tree {edits : Job Unit → Prop} {workspace : Workspace}
    {outcome : Except Failure Unit × Workspace} (course : Course edits workspace outcome)
    (holds : Except Failure Unit → Store.Tree → Prop)
    (before : ∀ result, holds result workspace.tree)
    (kept : ∀ edit, edits edit → ∀ emissions,
      let left := edit.run (workspace.showing emissions)
      holds left.1 left.2.tree) : holds outcome.1 outcome.2.tree := by
  cases course with
  | looked => exact before _
  | @edited edit emissions after between is quiet silent ran =>
    have held := kept edit is emissions
    rw [ran] at held
    exact held
  | @failed edit emissions failure left is quiet ran =>
    have held := kept edit is emissions
    rw [ran] at held
    exact held

namespace Job

/-- Whether every run of a job looks first and edits last. -/
def Courses (edits : Job Unit → Prop) (job : Job Unit) : Prop :=
  ∀ workspace, Course edits workspace (job.run workspace)

variable {edits : Job Unit → Prop} {α : Type}

/-- A job that only looks has no edit to make last. -/
theorem Looks.courses {job : Job Unit} (looks : Looks job) : Courses edits job := by
  intro workspace
  obtain ⟨emissions, quiet, left⟩ := looks workspace
  have whole : job.run workspace = ((job.run workspace).1, workspace.showing emissions) :=
    Prod.ext rfl left
  rw [whole]
  exact .looked quiet

/-- A job looks first and edits last if it looks before it comes to a job that does so. -/
theorem Courses.after_looking {job : Job α} {next : α → Job Unit} (looks : Looks job)
    (further : ∀ found, Courses edits (next found)) : Courses edits (job >>= next) := by
  intro workspace
  obtain ⟨emissions, quiet, left⟩ := looks workspace
  have all : ∀ {more : List Emission}, (∀ emission ∈ more, emission.tellsChange = false) →
      ∀ emission ∈ emissions ++ more, emission.tellsChange = false := by
    intro more silent emission member
    rcases List.mem_append.mp member with first | second
    · exact quiet emission first
    · exact silent emission second
  rcases ran : job.run workspace with ⟨failure | found, between⟩
  · rw [ran] at left
    obtain rfl : between = workspace.showing emissions := left
    rw [Attempt.run_bind_of_error ran]
    exact .looked quiet
  · rw [ran] at left
    obtain rfl : between = workspace.showing emissions := left
    rw [Attempt.run_bind_of_ok ran]
    have later := further found (workspace.showing emissions)
    generalize (next found).run (workspace.showing emissions) = outcome at later ⊢
    cases later with
    | looked silent =>
      rw [Workspace.showing_showing]
      exact .looked (all silent)
    | edited is before after done =>
      rw [Workspace.showing_showing] at done
      exact .edited is (all before) after done
    | failed is before ran =>
      rw [Workspace.showing_showing] at ran
      exact .failed is (all before) ran

/-- An edit, and then telling that it was made, is a job that edits last. -/
theorem courses_edit {edit : Job Unit} (is : edits edit) (message : Text) :
    Courses edits (edit >>= fun _ => Context.succeed message) := by
  intro workspace
  have here : workspace.showing [] = workspace := workspace.showing_nil
  rcases ran : edit.run workspace with ⟨failure | ⟨⟨⟩⟩, left⟩
  · rw [Attempt.run_bind_of_error ran]
    exact @Course.failed edits workspace edit [] _ _ is (by simp) (here.symm ▸ ran)
  · rw [Attempt.run_bind_of_ok ran]
    have told : (Context.succeed message).run left =
        (.ok (), left.showing [.output ("✓ ".toList ++ message ++ ['\n'])]) := rfl
    rw [told]
    exact @Course.edited edits workspace edit [] _ _ is (by simp)
      (by simp [Emission.tellsChange]) (here.symm ▸ ran)

/-- A job that may have to ask whether to go on looks first and edits last if what it goes on with
does so. -/
theorem Courses.ifGranted {job : Job Unit} (courses : Courses edits job) (yes : Bool)
    (question : Text) :
    Courses edits (do if ← Context.mayGoOn yes question then job else Context.cancel) := by
  refine .after_looking (Context.looks_mayGoOn yes question) fun granted => ?_
  split
  · exact courses
  · exact Context.looks_cancel.courses

end Job

/-- Whether steps save a session to the file that a command works on. -/
def Context.Saves (context : Context) (edit : Job Unit) : Prop :=
  ∃ session, edit = context.save session

/-- Whether steps restore a backup on a shelf to a file. -/
def Shelf.Restores (shelf : Shelf) (file : Text) (edit : Job Unit) : Prop :=
  ∃ id, edit = shelf.restore id file

namespace Command

open Context Job

variable (context : Context)

/-- Setting a value looks first and saves last. -/
theorem courses_set (key value : Text) (sect comment : Option Text) :
    Courses context.Saves (runSet context key value sect comment) := by
  refine .after_looking context.looks_loadOrNew fun session => ?_
  dsimp only
  exact .after_looking (looks_ofExcept _ _) fun stored => courses_edit ⟨_, rfl⟩ _

/-- Replacing a comment looks first and saves last. -/
theorem courses_setComment (key text : Text) (sect : Option Text) :
    Courses context.Saves (runSetComment context key text sect) :=
  .after_looking context.looks_loadOrNew fun _ =>
    .after_looking (looks_ofExcept _ _) fun _ => courses_edit ⟨_, rfl⟩ _

/-- Removing a key looks first and saves last. -/
theorem courses_remove (key : Text) (sect : Option Text) :
    Courses context.Saves (runRemove context key sect) := by
  refine .after_looking context.looks_load fun loaded => ?_
  dsimp only
  split
  · exact (looks_complain _).courses
  · exact courses_edit ⟨_, rfl⟩ _

/-- Removing a section looks first and saves last. -/
theorem courses_removeSection (name : Text) (yes : Bool) :
    Courses context.Saves (runRemoveSection context name yes) := by
  refine .after_looking context.looks_load fun loaded => ?_
  dsimp only
  split
  · exact (looks_complain _).courses
  · exact .after_looking (looks_putLine _) fun _ => (courses_edit ⟨_, rfl⟩ _).ifGranted yes _

/-- Merging looks first and saves last. -/
theorem courses_merge (source : Text) (yes : Bool) :
    Courses context.Saves (runMerge context source yes) := by
  refine .after_looking (looks_sourceText source) fun content =>
    .after_looking (looks_take (Session.new.quiet_load source content)) fun incoming => ?_
  dsimp only
  split
  · exact (looks_putLine _).courses
  · refine .after_looking context.looks_loadOrNew fun session =>
      .after_looking (looks_preview _ _ _) fun _ => Courses.ifGranted ?_ yes _
    exact .after_looking (looks_take (session.quiet_merge source content)) fun merged =>
      courses_edit ⟨_, rfl⟩ _

/-- Writing the plain form looks first and saves last. -/
theorem courses_format (dryRun : Bool) : Courses context.Saves (runFormat context dryRun) := by
  refine .after_looking context.looks_load fun loaded => .after_looking looks_tree fun tree =>
    .after_looking (looks_ofExcept _ _) fun current => ?_
  split
  · exact (looks_succeed _).courses
  · split
    · exact (looks_showFormatted _ _).courses
    · exact courses_edit ⟨_, rfl⟩ _

/-- Restoring a backup finds it and asks first, and copies it back last. -/
theorem courses_restore (shelf : Shelf) (id : Text) :
    Courses (shelf.Restores context.file) (runRestore context shelf id) := by
  refine .after_looking (shelf.looks_find id) fun found => ?_
  split
  · exact (looks_throw _).courses
  · exact .after_looking (looks_putLine _) fun _ =>
      (courses_edit ⟨_, rfl⟩ _).ifGranted false _

/-- Whether a command is a question about the file, its backups or the settings. -/
def isQuery : Command → Bool
  | get _ _ _ | list _ | sections | check | comment _ none _ => true
  | format dryRun => dryRun
  | backup .list => true
  | config init => !init
  | _ => false

/-- A command that only asks changes nothing. -/
theorem looks_of_isQuery (context : Context) {command : Command} (query : command.isQuery = true) :
    Looks (command.run context) := by
  cases command with
  | get key sect default => exact looks_get context key sect default
  | comment key text sect =>
    cases text with
    | none => exact looks_showComment context key sect
    | some text => contradiction
  | list sect => exact looks_list context sect
  | sections => exact looks_sections context
  | check => exact looks_check context
  | format dryRun =>
    obtain rfl : dryRun = true := query
    exact looks_format context
  | backup command =>
    cases command with
    | list => exact context.looks_shelf.bind fun shelf => looks_backupList shelf
    | restore id => contradiction
    | clean keep => contradiction
  | config init =>
    obtain rfl : init = false := by simpa [isQuery] using query
    exact looks_config context
  | set key value sect note => contradiction
  | remove key sect => contradiction
  | removeSection name yes => contradiction
  | merge source yes => contradiction

/-- Whether a command works on the backups or the settings file, and not on what the file holds. -/
def isUpkeep : Command → Bool
  | backup (.restore _) | backup (.clean _) => true
  | config init => init
  | _ => false

/-- A command that works neither on the backups nor on the settings file looks first and saves last,
if it saves at all. -/
theorem courses_of_not_isUpkeep {command : Command} (other : command.isUpkeep = false) :
    Courses context.Saves (command.run context) := by
  cases command with
  | set key value sect note => exact courses_set context key value sect note
  | comment key text sect =>
    cases text with
    | none => exact (looks_showComment context key sect).courses
    | some text => exact courses_setComment context key text sect
  | remove key sect => exact courses_remove context key sect
  | removeSection name yes => exact courses_removeSection context name yes
  | merge source yes => exact courses_merge context source yes
  | format dryRun => exact courses_format context dryRun
  | backup command =>
    cases command with
    | list => exact (@looks_of_isQuery context (.backup .list) rfl).courses
    | restore id => contradiction
    | clean keep => contradiction
  | config init =>
    obtain rfl : init = false := other
    exact (looks_config context).courses
  | get key sect default => exact (looks_get context key sect default).courses
  | list sect => exact (looks_list context sect).courses
  | sections => exact (looks_sections context).courses
  | check => exact (looks_check context).courses

/-- A command looks first and saves last, if it saves at all, or it restores a backup, cleans up the
backups or writes the settings file. -/
theorem courses_or_upkeep (context : Context) (command : Command) :
    Courses context.Saves (command.run context) ∨ (∃ id, command = backup (.restore id)) ∨
      (∃ keep, command = backup (.clean keep)) ∨ command = config true := by
  cases upkeep : command.isUpkeep with
  | false => exact .inl (courses_of_not_isUpkeep context upkeep)
  | true =>
    cases command with
    | backup command =>
      cases command with
      | restore id => exact .inr (.inl ⟨id, rfl⟩)
      | clean keep => exact .inr (.inr (.inl ⟨keep, rfl⟩))
      | list => contradiction
    | config init =>
      obtain rfl : init = true := upkeep
      exact .inr (.inr (.inr rfl))
    | get | set | comment | list | sections | remove | removeSection | merge | format | check =>
      contradiction

end Command

end IniKeeper
