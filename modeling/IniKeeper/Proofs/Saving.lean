import IniKeeper.Command.Run
import IniKeeper.Proofs.Files
import IniKeeper.Proofs.Jobs
import IniKeeper.Proofs.Soundness

/-!
# Opening and saving the file

A command opens the file by reading it, or starts without anything where there is no file, and saves
it by backing it up and writing it. Opening changes nothing but what is shown. Saving fails only
where a file or folder cannot be read or written, and where it does not fail, the file holds the
text of the document afterwards, whatever making and rotating the backups did to the tree before.
-/

namespace IniKeeper

/-! ### Failures from outside -/

/-- Whether a failure comes from a file, a folder or a web address that could not be accessed. -/
def Failure.isAccess : Failure → Bool
  | .cause _ | .notSaved _ _ | .noShelf _ _ | .notBackedUp _ _ | .notRestored _ _ => true
  | .noSource _ => true
  | .notLoaded _ (.inaccessible _ _) => true
  | .fault (.inaccessible _ _) | .fault (.unfetched _ _) => true
  | _ => false

/-- Whether a job fails only where something could not be accessed. -/
abbrev Job.FailsOnAccess {α : Type} (job : Job α) : Prop :=
  Job.FailsAs (fun failure => failure.isAccess = true) job

/-- Whether a failure comes from listing, making, writing or removing files and folders. -/
def Failure.isStorage : Failure → Bool
  | .cause _ | .notSaved _ _ | .noShelf _ _ | .notBackedUp _ _ | .notRestored _ _ => true
  | _ => false

/-- Where something could not be stored, it could not be accessed. -/
theorem Failure.isAccess_of_isStorage {failure : Failure} (storage : failure.isStorage = true) :
    failure.isAccess = true := by
  cases failure <;> first | rfl | contradiction

/-- Whether a job fails only where something could not be stored. -/
abbrev Job.FailsOnStorage {α : Type} (job : Job α) : Prop :=
  Job.FailsAs (fun failure => failure.isStorage = true) job

namespace Shelf

open Job

/-- Removing backups fails only where one cannot be taken. -/
theorem failsOnStorage_removeAll (backups : List Backup) : FailsOnStorage (removeAll backups) := by
  induction backups with
  | nil => exact failsAs_pure ()
  | cons backup rest ih =>
    have removed : FailsOnStorage (onTree .cause (.once (·.remove backup.path))) :=
      failsAs_onTree (fun _ => by rfl) _
    exact removed.bind fun _ => ih

/-- Cleaning up fails only where something cannot be stored. -/
theorem failsOnStorage_cleanUp (shelf : Shelf) : FailsOnStorage shelf.cleanUp := by
  have listed : FailsOnStorage shelf.list :=
    failsAs_tree.bind fun tree => failsAs_ofExcept fun _ _ => by rfl
  exact listed.bind fun backups => (failsOnStorage_removeAll _).bind fun _ => failsAs_pure _

/-- Whether a cleanup is due can always be told. -/
theorem failsOnStorage_isCleanupDue : FailsOnStorage isCleanupDue := by
  refine failsAs_workspace.bind fun workspace => ?_
  by_cases full : cleanupInterval ≤ workspace.schedule.made
  · simp only [if_pos full]
    exact failsAs_pure true
  · simp only [if_neg full]
    cases workspace.schedule.last with
    | none => exact failsAs_pure true
    | some last => exact failsAs_now.bind fun instant => failsAs_pure _

/-- Cleaning up if it is time for it fails only where something cannot be stored. -/
theorem failsOnStorage_cleanUpIfDue (shelf : Shelf) : FailsOnStorage shelf.cleanUpIfDue := by
  refine failsOnStorage_isCleanupDue.bind fun due => ?_
  split
  · exact (failsOnStorage_cleanUp shelf).bind fun _ => failsAs_now.bind fun _ => failsAs_modify _
  · exact failsAs_modify _

/-- Making a backup fails only where something cannot be stored. -/
theorem failsOnStorage_create (shelf : Shelf) (source : Text) :
    FailsOnStorage (shelf.create source) := by
  have folders : FailsOnStorage (onTree (.noShelf shelf.folder) (.makeFolders shelf.folder)) :=
    failsAs_onTree (fun _ => by rfl) _
  have copied (path : Text) :
      FailsOnStorage (onTree (.notBackedUp source) (.once (·.copy source path))) :=
    failsAs_onTree (fun _ => by rfl) _
  exact folders.bind fun _ => failsAs_now.bind fun _ => (copied _).bind fun _ =>
    (failsAs_modify _).bind fun _ => (failsOnStorage_cleanUpIfDue shelf).bind fun _ =>
      failsAs_pure _

/-- Making a backup if there is a file fails only where something cannot be stored. -/
theorem failsOnStorage_createIfPresent (shelf : Shelf) (source : Text) :
    FailsOnStorage (shelf.createIfPresent source) := by
  refine failsAs_tree.bind fun tree => ?_
  split
  · exact (failsOnStorage_create shelf source).bind fun _ => failsAs_pure _
  · exact failsAs_pure none

end Shelf

/-! ### Texts in files -/

namespace Store

namespace Tree

variable {tree : Tree} {path text : Text}

/-- A text that is written as bytes is read back from them. -/
theorem readText_of_leadsTo {place : Place}
    (leads : tree.LeadsTo path place (Text.string text).toUTF8) :
    tree.readText path = .ok text := by
  have read : tree.read path = .ok (Text.string text).toUTF8 := read_eq_ok_iff.mpr ⟨place, leads⟩
  have decoded : String.fromUTF8? (Text.string text).toUTF8 = some (Text.string text) :=
    dif_pos (Text.string text).isValidUTF8
  refine Attempt.bind_eq_ok_iff.mpr ⟨_, read, ?_⟩
  rw [decoded]
  exact congrArg Except.ok String.toList_ofList

/-- A file that was written holds the text. -/
theorem textAt_of_writeText {changed : Tree} (written : tree.writeText path text = .ok changed) :
    changed.textAt path = .ok text := by
  obtain ⟨place, takes, rfl⟩ := write_eq_ok_iff.mp written
  rw [textAt, readText_of_leadsTo (takes.leadsTo_set _)]
  rfl

/-- Where a file cannot be read, it cannot be accessed. -/
theorem exists_of_textAt_error {fault : Fault} (failed : tree.textAt path = .error fault) :
    ∃ cause, fault = .inaccessible path cause := by
  unfold textAt at failed
  cases readable : tree.readText path with
  | error cause =>
    rw [readable] at failed
    exact ⟨cause, (Except.error.inj failed).symm⟩
  | ok text =>
    rw [readable] at failed
    contradiction

/-- A file that can be read is there. -/
theorem has_of_textAt (read : tree.textAt path = .ok text) : tree.has path = true := by
  unfold textAt at read
  cases readable : tree.readText path with
  | error cause =>
    rw [readable] at read
    contradiction
  | ok found =>
    obtain ⟨content, loaded, -⟩ := Attempt.bind_eq_ok_iff.mp readable
    obtain ⟨node, found, -⟩ := Attempt.bind_eq_ok_iff.mp loaded
    rw [has, found]

end Tree

namespace Steps

/-- A meaning given to errors changes nothing else. -/
theorem run_adapt {ε δ α : Type} (steps : Steps ε α) (meaning : ε → δ) (tree : Tree) :
    (steps.adapt meaning : Steps δ α).run tree =
      ((steps.run tree).1.mapError meaning, (steps.run tree).2) :=
  rfl

/-- Where text was written to a file, the file holds it. -/
theorem textAt_of_writeText {path text : Text} {meaning : Cause → Fault} {tree changed : Tree}
    (written : ((writeText path text).adapt meaning : Steps Fault Unit).run tree =
      (.ok (), changed)) : changed.textAt path = .ok text := by
  rw [run_adapt, writeText, run_once] at written
  cases done : tree.writeText path text with
  | error cause =>
    rw [done] at written
    have wrong := (Prod.mk.inj written).1
    contradiction
  | ok stored =>
    rw [done] at written
    obtain rfl : stored = changed := (Prod.mk.inj written).2
    exact Tree.textAt_of_writeText done

/-- Where text was put into a file, and the folders of the file were made before, it holds it. -/
theorem textAt_of_putText {path text : Text} {tree changed : Tree}
    (put : (putText path text).run tree = (.ok (), changed)) : changed.textAt path = .ok text := by
  unfold putText at put
  cases folder : (Path.parent? path).filter (!·.isEmpty) with
  | none =>
    simp only [folder] at put
    exact textAt_of_writeText put
  | some folder =>
    simp only [folder] at put
    obtain ⟨-, between, -, written⟩ := Attempt.exists_of_run_bind_ok put
    exact textAt_of_writeText written

end Steps

end Store

/-- The workspace after some events were logged. -/
def Workspace.logged (workspace : Workspace) (events : List Event) : Workspace :=
  { workspace with shown := workspace.shown ++ events.map .log }

/-- Where no event is logged, the workspace stays as it is. -/
theorem Workspace.logged_nil (workspace : Workspace) : workspace.logged [] = workspace := by
  unfold logged
  rw [List.map_nil, List.append_nil]

/-- Where a session was saved to a file, the file holds its text. -/
theorem Session.textAt_of_save {session : Session} {path : Text} {padded : Bool}
    {tree changed : Store.Tree} {events : List Event}
    (saved : (session.save path padded).run tree = (.ok events, changed)) :
    changed.textAt path = .ok (session.render padded) := by
  obtain ⟨⟨⟩, between, put, rest⟩ := Attempt.exists_of_run_bind_ok saved
  obtain rfl : between = changed := (Prod.mk.inj rest).2
  exact Store.Steps.textAt_of_putText put

namespace Context

/-! ### Saving -/

/-- Saving fails only where something cannot be stored. -/
theorem failsOnStorage_save (context : Context) (session : Session) :
    (context.save session).FailsOnStorage := by
  have written : (Job.onTree (.notSaved context.file)
      (session.save context.file context.padded)).FailsOnStorage :=
    Job.failsAs_onTree (fun _ => by rfl) _
  exact Job.failsAs_workspace.bind fun workspace =>
    (Shelf.failsOnStorage_createIfPresent _ context.file).bind fun _ =>
      written.bind fun _ => Job.failsAs_modify _

/-- Saving fails only where something cannot be accessed. -/
theorem failsOnAccess_save (context : Context) (session : Session) :
    (context.save session).FailsOnAccess :=
  fun workspace failure failed =>
    Failure.isAccess_of_isStorage (failsOnStorage_save context session workspace failure failed)

/-- Where a session was saved, the file holds its text. -/
theorem textAt_of_save {context : Context} {session : Session} {workspace after : Workspace}
    (saved : (context.save session).run workspace = (.ok (), after)) :
    after.tree.textAt context.file = .ok (session.render context.padded) := by
  obtain ⟨shelf, looked, -, rest⟩ := Attempt.exists_of_run_bind_ok saved
  obtain ⟨backup, backed, -, rest⟩ := Attempt.exists_of_run_bind_ok rest
  obtain ⟨events, stored, written, logged⟩ := Attempt.exists_of_run_bind_ok rest
  obtain rfl : stored.logged events = after := (Prod.mk.inj logged).2
  rw [Job.run_onTree] at written
  rcases ran : (session.save context.file context.padded).run backed.tree with
    ⟨fault | given, changed⟩
  · rw [ran] at written
    have wrong := (Prod.mk.inj written).1
    contradiction
  · rw [ran] at written
    obtain rfl := (Prod.mk.inj written).2
    exact Session.textAt_of_save ran

/-! ### Opening -/

/-- What opening a file gives: nothing where it is missing, and else the document in it. -/
inductive Opens (tree : Store.Tree) (file : Text) : Document → Prop where
  /-- The file is missing. -/
  | missing (absent : tree.has file = false) : Opens tree file .empty
  /-- The file holds a text that can be loaded. -/
  | holds {text : Text} {report : Report} (read : tree.textAt file = .ok text)
      (loaded : (Session.new.load file text).result = .ok report) :
      Opens tree file (Session.new.load file text).session.document

/-- The answer of a session is taken, or its fault ends the run; either way its events are
logged. -/
theorem run_take (meaning : Fault → Failure) (answer : Session.Answer) (workspace : Workspace) :
    (take meaning answer).run workspace =
      match answer.result with
      | .ok report => (.ok (answer.session, report), workspace.logged answer.events)
      | .error fault => (.error (meaning fault), workspace.logged answer.events) := by
  have logged : (Job.log answer.events).run workspace = (.ok (), workspace.logged answer.events) :=
    rfl
  rw [take, Job.run_bind_of_ok logged]
  cases answer.result <;> rfl

/-- A file that opens is loaded, and only events are logged, or it is missing. -/
theorem run_load {context : Context} {workspace : Workspace} {document : Document}
    (opens : Opens workspace.tree context.file document) :
    (workspace.tree.has context.file = true ∧ ∃ session report events,
        context.load.run workspace = (.ok (session, report), workspace.logged events) ∧
          session.document = document) ∨
      workspace.tree.has context.file = false ∧ document = .empty ∧
        ∃ failure, context.load.run workspace = (.error failure, workspace) := by
  rw [load, Job.run_bind_of_ok (Job.run_tree workspace), run_take, Session.loadPath]
  cases opens with
  | missing absent =>
    refine .inr ⟨absent, rfl, ?_⟩
    cases read : workspace.tree.textAt context.file with
    | ok text =>
      rw [Store.Tree.has_of_textAt read] at absent
      contradiction
    | error fault => exact ⟨_, congrArg (Prod.mk _) workspace.logged_nil⟩
  | holds read loaded =>
    rw [read]
    simp only [loaded]
    exact .inl ⟨Store.Tree.has_of_textAt read, _, _, _, rfl, rfl⟩

/-- A file that opens is loaded, and only events are logged; where it is missing, the command starts
without anything. -/
theorem run_loadOrNew {context : Context} {workspace : Workspace} {document : Document}
    (opens : Opens workspace.tree context.file document) :
    ∃ session events, context.loadOrNew.run workspace = (.ok session, workspace.logged events) ∧
      session.document = document := by
  rw [loadOrNew, Job.run_bind_of_ok (Job.run_tree workspace)]
  cases there : workspace.tree.has context.file with
  | false =>
    rw [if_neg Bool.false_ne_true]
    refine ⟨.new, [], by rw [Workspace.logged_nil]; rfl, ?_⟩
    cases opens with
    | missing absent => rfl
    | holds read loaded =>
      rw [Store.Tree.has_of_textAt read] at there
      contradiction
  | true =>
    rw [if_pos rfl]
    rcases run_load opens with ⟨-, session, report, events, loaded, same⟩ | ⟨absent, -⟩
    · exact ⟨session, events, Job.run_bind_of_ok loaded _, same⟩
    · rw [absent] at there
      contradiction

end Context

end IniKeeper
