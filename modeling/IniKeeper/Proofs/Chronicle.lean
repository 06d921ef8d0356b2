import IniKeeper.Proofs.Mirroring
import IniKeeper.Proofs.Recovery
import IniKeeper.Proofs.Stamps
import IniKeeper.Proofs.ShelfVersions

/-!
# The backups of a file are its last versions

Every run of a command that edits the file is made by a manager of its own, which backs up what the
file held before it is written and cleans up at once. So after any runs, made one after the other,
the shelf of the file holds the last contents that were overwritten, as many as the limit has room
for, the newest first: the ids sort as the instants do. A run that does not save changes nothing.
-/

namespace IniKeeper

open Context (Opens)
open Store (Tree)

/-- Whether something that is shown tells that a file was written. -/
def Emission.isWrite : Emission → Bool
  | log (.wrote _ _) => true
  | _ => false

/-- What tells of no change tells of no write. -/
theorem Emission.not_isWrite {emission : Emission} (quiet : emission.tellsChange = false) :
    emission.isWrite = false := by
  cases emission with
  | log event => cases event <;> first | rfl | contradiction
  | output text => rfl
  | complaint text => rfl

/-- The version of a file that a read gives at an instant, if it gives one. -/
def Version.read (instant : Instant) : Except Store.Cause ByteArray → List Version
  | .ok content => [⟨instant, content⟩]
  | .error _ => []

/-! ### Saving -/

/-- The steps of saving that succeeds: the file was backed up if it was there, the session was
written to it, and this was logged. -/
theorem Context.exists_of_save {context : Context} {session : Session} {workspace after : Workspace}
    (saved : (context.save session).run workspace = (.ok (), after)) :
    ∃ (made : Option Text) (between : Workspace) (changed : Tree) (event : Event),
      ((context.shelfIn workspace).createIfPresent context.file).run workspace =
          (.ok made, between) ∧
        (session.save context.file context.padded).run between.tree = (.ok [event], changed) ∧
        (Emission.log event).isWrite = true ∧
        after = { between with tree := changed, shown := between.shown ++ [.log event] } := by
  have looked : context.shelf.run workspace = (.ok (context.shelfIn workspace), workspace) := rfl
  rw [save, Attempt.run_bind_of_ok looked] at saved
  obtain ⟨made, between, backed, rest⟩ := Attempt.exists_of_run_bind_ok saved
  obtain ⟨events, stored, written, logged⟩ := Attempt.exists_of_run_bind_ok rest
  obtain ⟨changed, ran, rfl⟩ := Job.exists_of_run_onTree_ok written
  obtain ⟨⟨⟩, filled, -, told⟩ := Attempt.exists_of_run_bind_ok ran
  obtain rfl := Except.ok.inj (Prod.mk.inj told).1
  exact ⟨made, between, changed, _, backed, ran, rfl, (Prod.mk.inj logged).2.symm⟩

/-- What is shown up to a save that succeeds tells that a file was written. -/
theorem Context.any_isWrite_of_save {context : Context} {session : Session}
    {workspace after : Workspace}
    (saved : (context.save session).run workspace = (.ok (), after)) (more : List Emission) :
    (after.shown ++ more).any Emission.isWrite = true := by
  obtain ⟨made, between, changed, event, -, -, writes, rfl⟩ := exists_of_save saved
  rw [List.any_eq_true]
  exact ⟨.log event, List.mem_append_left _ (List.mem_append_right _ (List.mem_singleton.mpr rfl)),
    writes⟩

/-- Text is put into a file that can be written, where the folder that its path names is there. -/
theorem Store.Steps.run_putText {path text : Text} {tree : Tree} {place : Store.Place}
    (takes : tree.Takes path place)
    (folder : ∀ above, (Path.parent? path).filter (!·.isEmpty) = some above →
      tree.find above = .ok .folder) :
    (putText path text).run tree = (.ok (), tree.set place (.file (Text.string text).toUTF8)) := by
  have stored : tree.writeText path text = .ok (tree.set place (.file (Text.string text).toUTF8)) :=
    Tree.write_eq_ok_iff.mpr ⟨place, takes, rfl⟩
  have written :
      ((writeText path text).adapt (Fault.inaccessible path) : Steps Fault Unit).run tree =
        (.ok (), tree.set place (.file (Text.string text).toUTF8)) := by
    rw [run_adapt, writeText, run_once, stored]
    rfl
  unfold putText
  cases above : (Path.parent? path).filter (!·.isEmpty) with
  | none => exact written
  | some found =>
    have made : ((makeFolders found).adapt (Fault.inaccessible found) : Steps Fault Unit).run tree =
        (.ok (), tree) := by
      rw [run_adapt, run_makeFolders_of_found (folder found above)]
      rfl
    exact (Attempt.run_bind_of_ok made _).trans written

/-- Saving goes through over a file that is backed up first, where the folder that its path names is
there. -/
theorem Context.exists_save {context : Context} {workspace after : Workspace}
    {home place : Store.Place} {kept : List Backup} {old : ByteArray}
    (backedUp :
      (context.shelfIn workspace).BackedUp workspace after home place kept context.file old)
    (folder : ∀ above, (Store.Path.parent? context.file).filter (!·.isEmpty) = some above →
      workspace.tree.find above = .ok .folder) (session : Session) :
    ∃ left, (context.save session).run workspace = (.ok (), left) := by
  have looked : context.shelf.run workspace = (.ok (context.shelfIn workspace), workspace) := rfl
  have put := @Store.Steps.run_putText context.file (session.render context.padded) _ _
    backedUp.takes_after fun above named =>
      backedUp.sameFolders.find_folder (folder above named)
  have stored : (session.save context.file context.padded).run after.tree =
      (.ok [.wrote (Text.byteSize (session.render context.padded)) context.file], _) :=
    Attempt.run_bind_of_ok put _
  rw [save, Attempt.run_bind_of_ok looked, Attempt.run_bind_of_ok backedUp.made,
    Attempt.run_bind_of_ok (Job.run_onTree_of_ok stored)]
  exact ⟨_, rfl⟩

/-- What follows the loading of a file that opens may be replaced by what comes to the same for
every session that has the document of the file. -/
theorem Context.run_load_bind_congr {α : Type} {context : Context} {workspace : Workspace}
    {document : Document} (opens : Opens workspace.tree context.file document)
    {next other : Session × Report → Job α}
    (alike : ∀ session report events, session.document = document →
      (next (session, report)).run (workspace.logged events) =
        (other (session, report)).run (workspace.logged events)) :
    (context.load >>= next).run workspace = (context.load >>= other).run workspace := by
  rcases run_load opens with ⟨-, session, report, events, loaded, same⟩ | ⟨-, -, failure, failed⟩
  · rw [Job.run_bind_of_ok loaded, Job.run_bind_of_ok loaded]
    exact alike session report events same
  · rw [Attempt.run_bind_of_error failed, Attempt.run_bind_of_error failed]

namespace Shelf

variable {shelf : Shelf} {tree : Tree} {file : Text} {workspace after : Workspace}
  {versions : List Version}

/-- A bare shelf holds no version. -/
theorem Bare.holds (bare : shelf.Bare tree) (sound : tree.Sound) : shelf.Holds tree [] where
  toUsable := bare.usable sound
  told := by
    rw [bare.stock_eq_nil]
    rfl

/-- Backing a file up if it is there adds what it holds to the versions. -/
theorem Holds.of_createIfPresent (holds : shelf.Holds workspace.tree versions)
    (some : shelf.folder ≠ []) (limited : 1 ≤ shelf.limit) (few : versions.length ≤ shelf.limit)
    (fresh : workspace.schedule = .fresh) (clear : shelf.Clear workspace.tree.start file)
    (older : ∀ version ∈ versions, version.instant.stamp < (nextInstant workspace).stamp)
    {made : Option Text}
    (backed : (shelf.createIfPresent file).run workspace = (.ok made, after)) :
    shelf.Holds after.tree
      ((Version.read (nextInstant workspace) (workspace.tree.read file) ++ versions).take
        shelf.limit) := by
  rw [createIfPresent, Attempt.run_bind_of_ok (Job.run_tree workspace)] at backed
  cases found : workspace.tree.find file with
  | error cause =>
    have absent : workspace.tree.has file = false := by rw [Store.Tree.has, found]
    have unread : workspace.tree.read file = .error cause := by
      rw [Store.Tree.read, found]
      rfl
    rw [absent, if_neg Bool.false_ne_true] at backed
    obtain rfl : workspace = after := (Prod.mk.inj backed).2
    rw [unread, Version.read, List.nil_append, List.take_of_length_le few]
    exact holds
  | ok node =>
    have present : workspace.tree.has file = true := by rw [Store.Tree.has, found]
    rw [present, if_pos rfl] at backed
    obtain ⟨path, between, created, rest⟩ := Attempt.exists_of_run_bind_ok backed
    obtain rfl : between = after := (Prod.mk.inj rest).2
    cases node with
    | file content =>
      obtain ⟨place, leads⟩ := Store.Tree.find_file_iff.mp found
      rw [Store.Tree.read_eq_ok_iff.mpr ⟨place, leads⟩]
      exact holds.of_create some limited fresh clear.passing older leads created
    | folder =>
      -- A folder cannot be copied, so it would not have been backed up.
      obtain ⟨made, copied, folders, copies, -⟩ := exists_of_create created
      have confined := Store.Steps.confined_makeFolders shelf.folder workspace.tree
      rw [folders] at confined
      have still := confined.find_folder found
      simp [Store.Tree.copy, still, bind, Except.bind] at copies

/-- Saving a session adds what the file held before to the versions. -/
theorem Holds.of_save {context : Context} {session : Session}
    (holds : (context.shelfIn workspace).Holds workspace.tree versions)
    (limited : 1 ≤ (context.shelfIn workspace).limit)
    (few : versions.length ≤ (context.shelfIn workspace).limit)
    (fresh : workspace.schedule = .fresh)
    (clear : (context.shelfIn workspace).Clear workspace.tree.start context.file)
    (older : ∀ version ∈ versions, version.instant.stamp < (nextInstant workspace).stamp)
    (saved : (context.save session).run workspace = (.ok (), after)) :
    (context.shelfIn workspace).Holds after.tree
        ((Version.read (nextInstant workspace) (workspace.tree.read context.file) ++ versions).take
          (context.shelfIn workspace).limit) ∧
      after.tree.start = workspace.tree.start := by
  have some : (context.shelfIn workspace).folder ≠ [] := folder_ofTarget_ne_nil _ _ _
  obtain ⟨made, between, changed, event, backed, ran, -, rfl⟩ := Context.exists_of_save saved
  have confined := (context.shelfIn workspace).within_createIfPresent workspace.tree.start
    context.file workspace holds.sound rfl
  rw [backed] at confined
  have put := session.confined_save context.file context.padded between.tree
  rw [ran, confined.start] at put
  have holdsThen := holds.of_createIfPresent some limited few fresh clear older backed
  refine ⟨holdsThen.of_confined put ?_ ?_, put.start.trans confined.start⟩
  · rw [confined.start]
    rintro place (⟨-, rfl⟩ | passed)
    · exact clear.outside _ (Store.Path.aim_mem_way _ _)
    · exact clear.outside place passed
  · rw [confined.start]
    rintro ⟨-, same⟩
    exact clear.apart same.symm

end Shelf

/-! ### Turns -/

namespace Turn

variable {turn : Turn} {file : Text} {tree : Tree} {document : Document}

/-- The instant that the clock shows first. -/
def instant (turn : Turn) : Instant := turn.clock.reading turn.clock.taken

/-- The shelf for the backups of the file. -/
def shelf (turn : Turn) (file : Text) : Shelf := .ofTarget turn.configHome turn.settings file

/-- Whether the run writes the file. -/
def saves (turn : Turn) (file : Text) (tree : Tree) : Bool :=
  (turn.run file tree).2.shown.any Emission.isWrite

/-- The version of the file that the run overwrites, if it writes one that is there. -/
def overwritten (turn : Turn) (file : Text) (tree : Tree) : List Version :=
  if turn.saves file tree then Version.read turn.instant (tree.read file) else []

/-- Whether nothing keeps the run from storing what it has to store. -/
def Unhindered (turn : Turn) (file : Text) (tree : Tree) : Prop :=
  ∀ failure, (turn.run file tree).1 = .error failure → failure.isStorage = false

/-- Whether a turn is unhindered can be decided by taking it. -/
instance decidableUnhindered (turn : Turn) (file : Text) (tree : Tree) :
    Decidable (turn.Unhindered file tree) :=
  Attempt.decidableForallError (turn.run file tree).1

/-- Whether there is nothing to save: what is to be removed is not there, or the file is in its
plain form already. -/
def Idle (turn : Turn) (file : Text) (tree : Tree) (document : Document) : Prop :=
  match turn.edit with
  | .remove key sect => document.removeKey sect key = none
  | .removeSection name => document.removeSection (some name) = none
  | .format => tree.textAt file = .ok (document.render turn.padded)
  | _ => False

/-- A run of the command is a course. -/
theorem course (turn : Turn) (file : Text) (tree : Tree) :
    Course (turn.context file).Saves (turn.workspace tree) (turn.run file tree) := by
  have other : turn.edit.command.isUpkeep = false := by cases turn.edit <;> rfl
  exact Command.courses_of_not_isUpkeep (turn.context file) other (turn.workspace tree)

/-- All that an unhindered turn can come to: it does not save and leaves the tree, or it saves a
session. -/
inductive Outcome (turn : Turn) (file : Text) (tree : Tree) : Prop where
  /-- Nothing was saved. -/
  | looked (silent : turn.saves file tree = false) (still : (turn.run file tree).2.tree = tree)
  /-- A session was saved. -/
  | saved {session : Session} {before : List Emission} {between : Workspace}
      (told : turn.saves file tree = true) (done : (turn.run file tree).1 = .ok ())
      (ran : ((turn.context file).save session).run ((turn.workspace tree).showing before) =
        (.ok (), between))
      (left : (turn.run file tree).2.tree = between.tree)

/-- An unhindered turn leaves the tree and does not save, or it saves a session. -/
theorem Unhindered.outcome (unhindered : turn.Unhindered file tree) : turn.Outcome file tree := by
  have course := turn.course file tree
  unfold Unhindered at unhindered
  generalize ran : turn.run file tree = outcome at course unhindered
  cases course with
  | looked quiet =>
    refine .looked ?_ (by rw [ran]; rfl)
    rw [saves, ran, List.any_eq_false]
    intro emission member
    simp [Emission.not_isWrite (quiet emission member)]
  | edited is quiet silent done =>
    obtain ⟨session, rfl⟩ := is
    refine .saved ?_ (by rw [ran]) done (by rw [ran]; rfl)
    rw [saves, ran]
    exact Context.any_isWrite_of_save done _
  | @failed edit before failure left is quiet failed =>
    obtain ⟨session, rfl⟩ := is
    have storage : failure.isStorage = true :=
      Context.failsOnStorage_save _ _ _ failure (congrArg Prod.fst failed)
    rw [unhindered failure rfl] at storage
    contradiction

/-- Setting a value that can be stored comes to saving a session, and telling that it was set. -/
theorem exists_of_set {key value : Text} {sect : Option Text}
    (edits : turn.edit = .set key value sect none) (opens : Opens tree file document)
    (storable : (document.setString sect key value).isOk = true) :
    ∃ (session : Session) (events : List Event) (message : Text), turn.run file tree =
      ((turn.context file).save session >>= fun _ => Context.succeed message).run
        ((turn.workspace tree).logged events) := by
  obtain ⟨session, events, opened, rfl⟩ := @Context.run_loadOrNew (turn.context file)
    (turn.workspace tree) document opens
  obtain ⟨⟨changed, previous⟩, stored⟩ := Attempt.exists_of_isOk storable
  have accepted (workspace : Workspace) :
      (Context.accept (session.document.setString sect key value)).run workspace =
        (.ok (changed, previous), workspace) := by
    rw [stored]
    rfl
  refine ⟨Context.withDocument session changed, events,
    Command.setMessage sect key value previous, ?_⟩
  rw [run, edits]
  exact (Job.run_bind_of_ok opened _).trans (Job.run_bind_of_ok (accepted _) _)

/-- A turn that comes to saving is unhindered and saves where the saving goes through. -/
theorem unhindered_of_save {session : Session} {events : List Event} {message : Text}
    {left : Workspace}
    (ran : turn.run file tree =
      ((turn.context file).save session >>= fun _ => Context.succeed message).run
        ((turn.workspace tree).logged events))
    (saved : ((turn.context file).save session).run ((turn.workspace tree).logged events) =
      (.ok (), left)) : turn.Unhindered file tree ∧ turn.saves file tree = true := by
  rw [Attempt.run_bind_of_ok saved] at ran
  constructor
  · intro failure failed
    rw [ran] at failed
    contradiction
  · rw [saves, ran]
    exact Context.any_isWrite_of_save saved _

/-- A turn that does not save leaves the tree. -/
theorem Unhindered.still (unhindered : turn.Unhindered file tree)
    (silent : turn.saves file tree = false) : (turn.run file tree).2.tree = tree := by
  cases unhindered.outcome with
  | looked _ still => exact still
  | saved told =>
    rw [silent] at told
    contradiction

/-- A turn that fails does not save. -/
theorem Unhindered.silent_of_error (unhindered : turn.Unhindered file tree) {failure : Failure}
    (failed : (turn.run file tree).1 = .error failure) : turn.saves file tree = false := by
  cases unhindered.outcome with
  | looked silent => exact silent
  | saved told done =>
    rw [failed] at done
    contradiction

/-- A turn that comes to the same as only looking does not save. -/
theorem silent_of_looks {job : Job Unit} (looks : job.Looks)
    (same : turn.run file tree = job.run (turn.workspace tree)) : turn.saves file tree = false := by
  obtain ⟨emissions, quiet, left⟩ := looks (turn.workspace tree)
  have shown : (turn.run file tree).2.shown = emissions := by
    rw [same, left]
    rfl
  rw [saves, shown, List.any_eq_false]
  intro emission member
  simp [Emission.not_isWrite (quiet emission member)]

/-- A turn with nothing to save does not save. -/
theorem silent_of_idle (opens : Opens tree file document) (idle : turn.Idle file tree document) :
    turn.saves file tree = false := by
  have loads {next : Session × Report → Job Unit} {told : Job Unit} (looks : told.Looks)
      (alike : ∀ session report events, session.document = document →
        (next (session, report)).run ((turn.workspace tree).logged events) =
          told.run ((turn.workspace tree).logged events))
      (ran : turn.run file tree =
        ((turn.context file).load >>= next).run (turn.workspace tree)) :
      turn.saves file tree = false := by
    refine silent_of_looks ((turn.context file).looks_load.bind fun _ => looks) (ran.trans ?_)
    exact Context.run_load_bind_congr opens alike
  unfold Idle at idle
  cases edits : turn.edit with
  | remove key sect =>
    rw [edits] at idle
    refine loads (Context.looks_complain (Command.keyLabel sect key ++ " not found".toList)) ?_
      (by rw [run, edits]; rfl)
    rintro session report events rfl
    dsimp only
    rw [idle]
  | removeSection name =>
    rw [edits] at idle
    refine loads (Context.looks_complain
      ("Section ".toList ++ Section.label (some name) ++ " not found".toList)) ?_
      (by rw [run, edits]; rfl)
    rintro session report events rfl
    dsimp only
    rw [idle]
  | format =>
    rw [edits] at idle
    refine loads (Context.looks_succeed "File is already formatted".toList) ?_
      (by rw [run, edits]; rfl)
    rintro session report events rfl
    have read : ((turn.workspace tree).logged events).tree.textAt (turn.context file).file =
        .ok (session.render (turn.context file).padded) := idle
    dsimp only
    rw [Job.run_bind_of_ok (Job.run_tree _), read, Job.run_bind_of_ok (Job.run_ofExcept _ _ _),
      if_pos rfl]
  | set key value sect note =>
    rw [edits] at idle
    exact idle.elim
  | comment key text sect =>
    rw [edits] at idle
    exact idle.elim
  | merge source =>
    rw [edits] at idle
    exact idle.elim

/-- A turn adds the version that it overwrites to those on the shelf, and the limit takes the oldest
one where there is no room. -/
theorem Unhindered.holds (unhindered : turn.Unhindered file tree) {past : List Version}
    (limited : 1 ≤ (turn.shelf file).limit) (clear : (turn.shelf file).Clear tree.start file)
    (older : ∀ version ∈ past, version.instant.stamp < turn.instant.stamp)
    (holds : (turn.shelf file).Holds tree (past.take (turn.shelf file).limit)) :
    (turn.shelf file).Holds (turn.run file tree).2.tree
        ((turn.overwritten file tree ++ past).take (turn.shelf file).limit) ∧
      (turn.run file tree).2.tree.start = tree.start := by
  cases unhindered.outcome with
  | looked silent still =>
    rw [still, overwritten, silent, if_neg Bool.false_ne_true, List.nil_append]
    exact ⟨holds, rfl⟩
  | @saved session before between told done ran left =>
    have few : (past.take (turn.shelf file).limit).length ≤ (turn.shelf file).limit :=
      List.length_take_le _ _
    have added := @Shelf.Holds.of_save ((turn.workspace tree).showing before) between
      (past.take (turn.shelf file).limit) (turn.context file) session holds limited few rfl clear
      (fun version member => older version (List.mem_of_mem_take member)) ran
    -- What the limit left no room for before would be the first to go now.
    have trimmed (new : List Version) (limit : Nat) :
        (new ++ past.take limit).take limit = (new ++ past).take limit := by
      rw [List.take_append, List.take_take, Nat.min_eq_left (Nat.sub_le _ _), List.take_append]
    rw [left, overwritten, told, if_pos rfl, ← trimmed]
    exact added

end Turn

/-! ### Runs of turns -/

/-- A tree, and the versions of a file that were overwritten so far, the newest first. -/
structure Chronicle where
  /-- The files and folders. -/
  tree : Tree
  /-- The versions. -/
  past : List Version

namespace Chronicle

variable {file : Text} {chronicle : Chronicle} {turn : Turn} {turns : List Turn} {shelf : Shelf}

/-- The tree that a turn leaves, and the versions with the one that it overwrites. -/
def after (file : Text) (chronicle : Chronicle) (turn : Turn) : Chronicle where
  tree := (turn.run file chronicle.tree).2.tree
  past := turn.overwritten file chronicle.tree ++ chronicle.past

/-- The tree that some turns leave, and the versions with all that they overwrite. -/
def afterAll (file : Text) (chronicle : Chronicle) (turns : List Turn) : Chronicle :=
  turns.foldl (after file) chronicle

/-- Whether each of some turns is unhindered in the tree that the turns before it left. -/
def Unhindered (file : Text) (chronicle : Chronicle) : List Turn → Prop
  | [] => True
  | turn :: rest =>
    turn.Unhindered file chronicle.tree ∧ (chronicle.after file turn).Unhindered file rest

/-- Whether turns are unhindered can be decided by taking them. -/
instance decidableUnhindered (file : Text) :
    (chronicle : Chronicle) → (turns : List Turn) → Decidable (chronicle.Unhindered file turns)
  | _, [] => isTrue trivial
  | chronicle, turn :: rest =>
    have := decidableUnhindered file (chronicle.after file turn) rest
    inferInstanceAs (Decidable
      (turn.Unhindered file chronicle.tree ∧ (chronicle.after file turn).Unhindered file rest))

/-- Turns are unhindered if the first ones are, and the others in the tree that those leave. -/
theorem Unhindered.append {more : List Turn} (first : chronicle.Unhindered file turns)
    (further : (chronicle.afterAll file turns).Unhindered file more) :
    chronicle.Unhindered file (turns ++ more) := by
  induction turns generalizing chronicle with
  | nil => exact further
  | cons turn rest ih => exact ⟨first.1, ih first.2 further⟩

/-- Whether an instant is later than all versions so far. -/
def Before (chronicle : Chronicle) (instant : Instant) : Prop :=
  ∀ version ∈ chronicle.past, version.instant.InYears ∧ version.instant.nanos < instant.nanos

/-- An instant that is later than all versions has a later stamp than any of them. -/
theorem Before.stamp_lt {instant : Instant} (before : chronicle.Before instant)
    (within : instant.InYears) {version : Version} (member : version ∈ chronicle.past) :
    version.instant.stamp < instant.stamp := by
  obtain ⟨past, earlier⟩ := before version member
  exact Instant.stamp_lt past within earlier

/-- What comes later than a turn comes later than the version that it overwrites. -/
theorem Before.after {instant : Instant} (before : chronicle.Before instant)
    (within : turn.instant.InYears) (later : turn.instant.nanos < instant.nanos) :
    (chronicle.after file turn).Before instant := by
  intro version member
  rcases List.mem_append.mp member with now | past
  · have made : version.instant = turn.instant := by
      unfold Turn.overwritten Version.read at now
      split at now
      · split at now
        · rw [List.mem_singleton.mp now]
        · exact absurd now List.not_mem_nil
      · exact absurd now List.not_mem_nil
    rw [made]
    exact ⟨within, later⟩
  · exact before version past

/-- Whether the shelf of a file holds the newest of the versions that were overwritten. -/
structure Kept (shelf : Shelf) (file : Text) (chronicle : Chronicle) : Prop where
  /-- The versions are on the shelf. -/
  holds : shelf.Holds chronicle.tree (chronicle.past.take shelf.limit)
  /-- The file and the shelf stay clear of each other. -/
  clear : shelf.Clear chronicle.tree.start file

/-- A bare shelf that its file keeps clear of holds the newest of no versions. -/
theorem kept_of_bare {tree : Tree} (sound : tree.Sound) (bare : shelf.Bare tree)
    (clear : shelf.Clear tree.start file) : Kept shelf file ⟨tree, []⟩ where
  holds := by
    rw [List.take_nil]
    exact bare.holds sound
  clear := clear

/-- A turn that is later than all versions keeps what a chronicle says of the shelf. -/
theorem Kept.after (kept : Kept shelf file chronicle) (limited : 1 ≤ shelf.limit)
    (unhindered : turn.Unhindered file chronicle.tree) (same : turn.shelf file = shelf)
    (within : turn.instant.InYears) (before : chronicle.Before turn.instant) :
    Kept shelf file (chronicle.after file turn) := by
  subst same
  obtain ⟨holds, start⟩ := unhindered.holds limited kept.clear
    (fun _ member => before.stamp_lt within member) kept.holds
  have clear := kept.clear
  rw [← start] at clear
  exact ⟨holds, clear⟩

/-- Setting a value that can be stored is unhindered, and overwrites what the file held, where the
shelf holds a version already and nothing is in the way of the next backup and of the file. -/
theorem Kept.unhindered_of_set (kept : Kept shelf file chronicle) (limited : 1 ≤ shelf.limit)
    (same : turn.shelf file = shelf) (within : turn.instant.InYears)
    (before : chronicle.Before turn.instant) (filled : chronicle.past ≠ [])
    (room : ∃ place, chronicle.tree.Takes
      (Store.Path.under shelf.folder (Backup.nameAt turn.instant)) place)
    (writable : ∃ place, chronicle.tree.Takes file place) {old : ByteArray}
    (reads : chronicle.tree.read file = .ok old)
    (folder : ∀ above, (Store.Path.parent? file).filter (!·.isEmpty) = some above →
      chronicle.tree.find above = .ok .folder)
    {key value : Text} {sect : Option Text} {document : Document}
    (edits : turn.edit = .set key value sect none) (opens : Opens chronicle.tree file document)
    (storable : (document.setString sect key value).isOk = true) :
    turn.Unhindered file chronicle.tree ∧
      turn.overwritten file chronicle.tree = [⟨turn.instant, old⟩] := by
  subst same
  obtain ⟨session, events, message, ran⟩ := turn.exists_of_set edits opens storable
  obtain ⟨place, takes⟩ := writable
  obtain ⟨there, held⟩ := Tree.read_eq_ok_iff.mp reads
  obtain rfl : there = place := Except.ok.inj (held.resolve.symm.trans takes.resolve)
  -- The shelf stands, since it holds a version.
  have versions : (chronicle.past.take (turn.shelf file).limit) ≠ [] := by
    rw [Ne, List.take_eq_nil_iff]
    rintro (zero | none)
    · omega
    · exact filled none
  have ready := @Shelf.Holds.ready (turn.shelf file) ((turn.workspace chronicle.tree).logged events)
    _ kept.holds limited (kept.holds.standsAt versions)
    (fun _ member => before.stamp_lt within (List.mem_of_mem_take member)) room
  have elsewhere : there.dropLast ≠ (turn.shelf file).site chronicle.tree.start := by
    have here := Store.Path.aim_of_resolve held.resolve
    exact here ▸ kept.clear.outside _ (Store.Path.aim_mem_way _ _)
  obtain ⟨after, backedUp⟩ := ready.exists_backedUp rfl held takes elsewhere
  obtain ⟨saved, done⟩ := @Context.exists_save (turn.context file)
    ((turn.workspace chronicle.tree).logged events) _ _ _ _ _ backedUp folder session
  obtain ⟨unhindered, told⟩ := Turn.unhindered_of_save ran done
  refine ⟨unhindered, ?_⟩
  rw [Turn.overwritten, told, if_pos rfl, reads]
  rfl

/-- Turns, each later than the one before, keep what a chronicle says of the shelf. -/
theorem Kept.afterAll (kept : Kept shelf file chronicle) (limited : 1 ≤ shelf.limit)
    (unhindered : chronicle.Unhindered file turns)
    (same : ∀ turn ∈ turns, turn.shelf file = shelf)
    (within : ∀ turn ∈ turns, turn.instant.InYears)
    (later : turns.Pairwise fun first second => first.instant.nanos < second.instant.nanos)
    (before : ∀ turn ∈ turns, chronicle.Before turn.instant) :
    Kept shelf file (chronicle.afterAll file turns) := by
  induction turns generalizing chronicle with
  | nil => exact kept
  | cons turn rest ih =>
    obtain ⟨first, others⟩ := List.pairwise_cons.mp later
    have now := within turn List.mem_cons_self
    have next := kept.after limited unhindered.1 (same turn List.mem_cons_self) now
      (before turn List.mem_cons_self)
    exact ih next unhindered.2 (fun other member => same other (List.mem_cons_of_mem turn member))
      (fun other member => within other (List.mem_cons_of_mem turn member)) others
      fun other member =>
        (before other (List.mem_cons_of_mem turn member)).after now (first other member)

/-- However many turns are taken at later and later instants, none of them hindered, on a file whose
shelf was bare and keeps clear of it: the shelf lists the contents that were overwritten, each read
back byte by byte, the newest first, and as many as the limit has room for. The next turn adds none
where it does not save: it leaves the tree then; and it does not save where it fails, or where
there is nothing to save. -/
theorem shelf_keeps_last {tree : Tree} (sound : tree.Sound) (limited : 1 ≤ shelf.limit)
    (bare : shelf.Bare tree) (clear : shelf.Clear tree.start file)
    (same : ∀ turn ∈ turns, turn.shelf file = shelf)
    (within : ∀ turn ∈ turns, turn.instant.InYears)
    (later : turns.Pairwise fun first second => first.instant.nanos < second.instant.nanos)
    (unhindered : (Chronicle.mk tree []).Unhindered file turns) :
    let chronicle := (Chronicle.mk tree []).afterAll file turns
    (∃ kept, shelf.backups chronicle.tree = .ok kept ∧
      kept.length = min chronicle.past.length shelf.limit ∧
      Shelf.told chronicle.tree kept = (chronicle.past.take shelf.limit).map Version.told) ∧
    ∀ turn : Turn, turn.Unhindered file chronicle.tree →
      (turn.saves file chronicle.tree = false →
        (turn.run file chronicle.tree).2.tree = chronicle.tree ∧
          (chronicle.after file turn).past = chronicle.past) ∧
      (∀ failure, (turn.run file chronicle.tree).1 = .error failure →
        turn.saves file chronicle.tree = false) ∧
      ∀ document, Opens chronicle.tree file document →
        turn.Idle file chronicle.tree document → turn.saves file chronicle.tree = false := by
  intro chronicle
  have kept : Kept shelf file chronicle :=
    (kept_of_bare sound bare clear).afterAll limited unhindered same within later
      fun _ _ _ none => absurd none List.not_mem_nil
  refine ⟨⟨shelf.stock chronicle.tree, kept.holds.listed, ?_, kept.holds.told⟩, ?_⟩
  · have lengths := congrArg List.length kept.holds.told
    rw [Shelf.told, List.length_map, List.length_map, List.length_take] at lengths
    omega
  · intro turn next
    refine ⟨fun silent => ⟨next.still silent, ?_⟩, fun _ => next.silent_of_error,
      fun _ => Turn.silent_of_idle⟩
    rw [after, Turn.overwritten, silent, if_neg Bool.false_ne_true, List.nil_append]

end Chronicle

/-- A turn at some seconds after 1.6 billion, where one backup is kept. -/
def Turn.dated (edit : FileEdit) (second : Nat) : Turn :=
  { Turn.plain edit false with
    settings := { Settings.default with maxBackups := 1 }
    clock := .startingAt (.after1970 ((1600000000 + second) * 1000000000)) }

/-- Several turns: a value is set, another is refused, a source is merged, a key that is not there
is removed, and the file is in its plain form already. -/
def Turn.severalDated : List Turn :=
  [.dated (.set "k".toList "2".toList none none) 0,
    .dated (.set "k".toList "2\n3".toList none none) 1,
    .dated (.merge "more.ini".toList) 2,
    .dated (.remove "z".toList none) 3,
    .dated .format 4]

/-- A turn later than the several turns, in which another value is set. -/
def Turn.lastDated : Turn := .dated (.set "k".toList "3".toList none none) 5

namespace Chronicle

/-- The shelf of the several turns and of the one after them. -/
def datedShelf : Shelf := Turn.lastDated.shelf "new.ini".toList

/-- What the several turns come to on a file that is missing. -/
def severalDated : Chronicle :=
  (Chronicle.mk .twoFiles []).afterAll "new.ini".toList Turn.severalDated

/-- The tree in which the several turns start is in order. -/
theorem sound_twoFiles : Tree.Sound .twoFiles :=
  ⟨by decide +kernel, by decide +kernel, by decide +kernel⟩

/-- The shelf of the several turns is bare when they start. -/
theorem bare_datedShelf : datedShelf.Bare .twoFiles := by
  have nothing : Tree.twoFiles.node? (datedShelf.site Tree.twoFiles.start) = none := by
    decide +kernel
  exact ⟨fun content => by simp [nothing], by decide +kernel⟩

/-- The file of the several turns and its shelf keep clear of each other. -/
theorem clear_datedShelf : datedShelf.Clear Tree.twoFiles.start "new.ini".toList :=
  Shelf.clear_of_level (by decide +kernel) (by decide +kernel) (by decide +kernel)
    (by decide +kernel)

/-- None of the several turns is hindered. -/
theorem unhindered_severalDated :
    (Chronicle.mk .twoFiles []).Unhindered "new.ini".toList Turn.severalDated := by
  decide +kernel

/-- The turn after the several turns is not hindered and overwrites what the merge left. -/
theorem overwritten_lastDated :
    Turn.lastDated.Unhindered "new.ini".toList severalDated.tree ∧
      Turn.lastDated.overwritten "new.ini".toList severalDated.tree =
        [⟨Turn.lastDated.instant, "k=2\n[s]\n\na=2\n[t]\n\nb=3\n".toUTF8⟩] := by
  have kept : Chronicle.Kept datedShelf "new.ini".toList severalDated :=
    (kept_of_bare sound_twoFiles bare_datedShelf clear_datedShelf).afterAll (by decide)
      unhindered_severalDated (by decide +kernel) (by decide +kernel) (by decide +kernel)
      fun _ _ _ none => absurd none List.not_mem_nil
  have before : severalDated.Before Turn.lastDated.instant := by
    unfold Before
    decide +kernel
  have room : ∃ place, severalDated.tree.Takes
      (Store.Path.under datedShelf.folder (Backup.nameAt Turn.lastDated.instant)) place :=
    ⟨["config", "inidoc", "backups", "new.ini",
        "2020-09-13_122645_000000000.bak"].map String.toList,
      by decide +kernel, by unfold Tree.Short; decide +kernel, by decide +kernel,
      by decide +kernel, by decide +kernel⟩
  have writable : ∃ place, severalDated.tree.Takes "new.ini".toList place :=
    ⟨["new.ini".toList], by decide +kernel, by unfold Tree.Short; decide +kernel,
      by decide +kernel, by decide, by decide⟩
  have reads : severalDated.tree.read "new.ini".toList =
      .ok "k=2\n[s]\n\na=2\n[t]\n\nb=3\n".toUTF8 := by decide +kernel
  have opened : severalDated.tree.textAt "new.ini".toList =
      .ok "k=2\n[s]\n\na=2\n[t]\n\nb=3\n".toList := by decide +kernel
  have alone : (Store.Path.parent? "new.ini".toList).filter (!·.isEmpty) = none := by
    decide +kernel
  refine kept.unhindered_of_set (by decide) rfl (by decide +kernel) before (by decide +kernel) room
    writable reads ?_ rfl (.holds opened rfl) (by decide +kernel)
  intro above named
  rw [alone] at named
  cases named

/-- Taken on a file that is missing, the several turns make it and overwrite it once. The turn after
them overwrites it again, and of the two versions the shelf has room for the newer one. -/
theorem shelf_keeps_last_newest :
    let chronicle := (Chronicle.mk .twoFiles []).afterAll "new.ini".toList
      (Turn.severalDated ++ [.lastDated])
    chronicle.past.length = 2 ∧ ∃ kept, datedShelf.backups chronicle.tree = .ok kept ∧
      Shelf.told chronicle.tree kept = [("2020-09-13_122645_000000000".toList,
        .ok "k=2\n[s]\n\na=2\n[t]\n\nb=3\n".toUTF8)] := by
  intro chronicle
  obtain ⟨next, overwrites⟩ := overwritten_lastDated
  have past : chronicle.past =
      Turn.lastDated.overwritten "new.ini".toList severalDated.tree ++ severalDated.past := by
    simp only [chronicle, afterAll, List.foldl_append]
    rfl
  rw [overwrites] at past
  obtain ⟨⟨kept, listed, -, told⟩, -⟩ := shelf_keeps_last sound_twoFiles (by decide)
    bare_datedShelf clear_datedShelf
    (by decide +kernel : ∀ turn ∈ Turn.severalDated ++ [.lastDated],
      turn.shelf "new.ini".toList = datedShelf)
    (by decide +kernel) (by decide +kernel) (unhindered_severalDated.append ⟨next, trivial⟩)
  refine ⟨?_, kept, listed, told.trans ?_⟩
  · rw [past]
    decide +kernel
  · rw [past]
    decide +kernel

end Chronicle

end IniKeeper
