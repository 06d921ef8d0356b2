import IniKeeper.Proofs.Confinement
import IniKeeper.Proofs.ReadBeforeWrite
import IniKeeper.Proofs.Rotation

/-!
# What backing up and saving are confined to

Making, removing and restoring backups changes files directly in the folder of the shelf, and the
file that is restored; saving changes the file besides, and it changes it only where it succeeds.
The folders that are made lie on the ways of these paths. So a run of a command that edits the file
or only looks is confined to few places, and where it fails, to the folder of the shelf.
-/

namespace IniKeeper

open Store (Tree Place Path.aim Path.way)
open Store.Tree (Confined nowhere)

namespace Job

variable {α β ε : Type} {start : Place} {files folders moreFiles moreFolders : Place → Prop}

/-- Whether a job, in a sound tree where paths start at a place, is confined to some places. -/
def Within (start : Place) (files folders : Place → Prop) (job : Job α) : Prop :=
  ∀ workspace : Workspace, workspace.tree.Sound → workspace.tree.start = start →
    Confined files folders workspace.tree (job.run workspace).2.tree

/-- A job that leaves the tree is confined to any places. -/
theorem within_of_still {job : Job α}
    (still : ∀ workspace, (job.run workspace).2.tree = workspace.tree) :
    Within start files folders job := by
  intro workspace _ _
  rw [still workspace]
  exact .refl _

/-- A job that only looks is confined to any places. -/
theorem Looks.within {job : Job α} (looks : Looks job) : Within start files folders job := by
  refine within_of_still fun workspace => ?_
  obtain ⟨emissions, -, left⟩ := looks workspace
  rw [left]
  rfl

/-- Jobs in a row are confined to the places to which both are. -/
theorem Within.bind {job : Job α} {next : α → Job β} (first : Within start files folders job)
    (further : ∀ found, Within start files folders (next found)) :
    Within start files folders (job >>= next) := by
  intro workspace sound here
  have confined := first workspace sound here
  rcases ran : job.run workspace with ⟨failure | found, between⟩
  · rw [Attempt.run_bind_of_error ran]
    rw [ran] at confined
    exact confined
  · rw [Attempt.run_bind_of_ok ran]
    rw [ran] at confined
    exact confined.trans (further found between (confined.sound sound) (confined.start.trans here))

/-- A job that is confined to some places is confined to more. -/
theorem Within.mono {job : Job α} (within : Within start files folders job)
    (more : ∀ place, files place → moreFiles place)
    (further : ∀ place, folders place → moreFolders place) :
    Within start moreFiles moreFolders job :=
  fun workspace sound here => (within workspace sound here).mono more further

/-- Work on the tree is confined as its steps are. -/
theorem within_onTree {meaning : ε → Failure} {steps : Store.Steps ε α}
    (confined : ∀ tree : Tree, tree.Sound → tree.start = start →
      Confined files folders tree (steps.run tree).2) :
    Within start files folders (onTree meaning steps) := by
  intro workspace sound here
  rw [run_onTree]
  exact confined workspace.tree sound here

end Job

namespace Shelf

open Job

variable {shelf : Shelf} {tree : Tree} {start home : Place} {kept : List Backup} {backup : Backup}

/-- The place at which the folder of a shelf aims. -/
def site (shelf : Shelf) (start : Place) : Place := Path.aim start shelf.folder

/-- Whether a place lies directly in the folder of a shelf. -/
def Inside (shelf : Shelf) (start place : Place) : Prop := place.dropLast = shelf.site start

/-- The name of the folder for the backups of a file is a proper name. -/
theorem proper_folderName (target : Text) : Store.Path.Proper (folderName target) := by
  unfold folderName Store.Path.fileName?
  cases last : (Store.Path.steps target).getLast?.filter (· != Store.Path.above) with
  | none => decide
  | some name =>
    obtain ⟨ends, down⟩ := Option.filter_eq_some_iff.mp last
    have member := List.mem_of_getLast? ends
    have other : name ≠ Store.Path.above := by simpa using down
    exact (Store.Path.proper_of_mem_steps member).resolve_left other

/-- The folder for the backups of a file has a path. -/
theorem folder_ofTarget_ne_nil (configHome : Text) (settings : Settings) (target : Text) :
    (ofTarget configHome settings target).folder ≠ [] :=
  Store.Path.under_ne_nil _ (proper_folderName target)

/-- The folder lies in the folder for all backups, under the name of the file. -/
theorem site_ofTarget (start : Place) (configHome : Text) (settings : Settings) (target : Text) :
    (ofTarget configHome settings target).site start =
      Path.aim start (programFolder configHome) ++ ["backups".toList, folderName target] := by
  have backups : Store.Path.Proper "backups".toList := by decide
  rw [site, ofTarget, Store.Path.aim_under _ (proper_folderName target),
    Store.Path.aim_under _ backups]
  simp

/-- The way to the folder of settings and backups is part of the way to the shelf. -/
theorem way_ofTarget {start place : Place} {configHome : Text}
    (passed : place ∈ Path.way start (programFolder configHome)) (settings : Settings)
    (target : Text) : place ∈ Path.way start (ofTarget configHome settings target).folder := by
  have backups : Store.Path.Proper "backups".toList := by decide
  rw [ofTarget, Store.Path.mem_way_under _ (proper_folderName target),
    Store.Path.mem_way_under _ backups]
  exact .inl (.inl passed)

/-- A shelf stands where its folder aims. -/
theorem StandsAt.site_eq (stands : shelf.StandsAt tree home) : shelf.site tree.start = home :=
  Store.Path.aim_of_resolve stands.resolve

/-- A backup on the shelf of a sound tree has a proper name, and its path is made of it. -/
theorem of_mem_backups (sound : tree.Sound) (listed : shelf.backups tree = .ok kept)
    (member : backup ∈ kept) :
    Store.Path.Proper backup.filename ∧
      backup.path = Store.Path.under shelf.folder backup.filename := by
  obtain ⟨home, stands⟩ := exists_standsAt listed member
  obtain ⟨node, inside, made⟩ := stands.of_mem listed member
  obtain ⟨-, same⟩ := Backup.ofNode?_eq_some_iff.mp made
  have there := (sound.node?_eq_some_iff (by simp)).mp (sound.mem_children_iff.mp inside)
  refine ⟨sound.proper _ (List.mem_map_of_mem there) _ (by simp), ?_⟩
  rw [same]

/-- The path of a backup on the shelf of a sound tree aims directly into the folder. -/
theorem aim_of_mem_backups (sound : tree.Sound) (listed : shelf.backups tree = .ok kept)
    (member : backup ∈ kept) :
    Path.aim start backup.path = shelf.site start ++ [backup.filename] := by
  obtain ⟨proper, path⟩ := of_mem_backups sound listed member
  rw [path, Store.Path.aim_under shelf.folder proper, site]

/-- Removing backups that lie in the folder is confined to it. -/
theorem within_removeAll {old : List Backup}
    (inside : ∀ backup ∈ old, shelf.Inside start (Path.aim start backup.path)) :
    Within start (shelf.Inside start) nowhere (removeAll old) := by
  induction old with
  | nil => exact within_of_still fun _ => rfl
  | cons backup rest ih =>
    refine Within.bind (within_onTree fun tree sound here => ?_) fun _ =>
      ih fun other member => inside other (List.mem_cons_of_mem backup member)
    refine Store.Steps.confined_once fun changed removed => ?_
    refine (Store.Tree.confined_remove sound removed).mono ?_ fun _ => id
    rintro place rfl
    rw [here]
    exact inside backup List.mem_cons_self

/-- Keeping the newest backups is confined to the folder of the shelf. -/
theorem within_keepNewest (shelf : Shelf) (start : Place) (count : Nat) :
    Within start (shelf.Inside start) nowhere (shelf.keepNewest count) := by
  intro workspace sound here
  cases listed : shelf.backups workspace.tree with
  | error cause =>
    have failed : shelf.list.run workspace = (.error (.cause cause), workspace) := by
      rw [list, Job.run_bind_of_ok (Job.run_tree workspace), listed]
      rfl
    rw [keepNewest, Attempt.run_bind_of_error failed]
    exact .refl _
  | ok kept =>
    have inside : ∀ backup ∈ kept.drop count, shelf.Inside start (Path.aim start backup.path) := by
      intro backup dropped
      rw [Inside, aim_of_mem_backups sound listed (List.mem_of_mem_drop dropped),
        List.dropLast_concat]
    rw [keepNewest, Attempt.run_bind_of_ok (run_list listed)]
    exact ((within_removeAll inside).bind fun _ => within_of_still fun _ => rfl)
      workspace sound here

/-- Whether a cleanup is due is told without a change of the tree. -/
theorem tree_isCleanupDue (workspace : Workspace) :
    (isCleanupDue.run workspace).2.tree = workspace.tree := by
  rw [isCleanupDue, Job.run_bind_of_ok (Job.run_workspace workspace)]
  dsimp only
  split
  · rfl
  · cases workspace.schedule.last with
    | none => rfl
    | some last => rfl

/-- Cleaning up if it is time for it is confined to the folder. -/
theorem within_cleanUpIfDue (shelf : Shelf) (start : Place) :
    Within start (shelf.Inside start) nowhere shelf.cleanUpIfDue := by
  refine (within_of_still tree_isCleanupDue).bind fun due => ?_
  split
  · exact (shelf.within_keepNewest start shelf.limit).bind fun _ =>
      (within_of_still fun _ => rfl).bind fun _ => within_of_still fun _ => rfl
  · exact within_of_still fun _ => rfl

/-- Making a backup changes files in the folder of the shelf and makes folders on its way. -/
theorem within_create (shelf : Shelf) (start : Place) (source : Text) :
    Within start (shelf.Inside start) (· ∈ Path.way start shelf.folder) (shelf.create source) := by
  have folders : Within start (shelf.Inside start) (· ∈ Path.way start shelf.folder)
      (onTree (.noShelf shelf.folder) (.makeFolders shelf.folder)) := by
    refine within_onTree fun tree _ here => ?_
    rw [← here]
    exact (Store.Steps.confined_makeFolders shelf.folder tree).mono (fun _ none => none.elim)
      fun _ => id
  have copied (instant : Instant) :
      Within start (shelf.Inside start) (· ∈ Path.way start shelf.folder)
        (onTree (.notBackedUp source)
          (.once (·.copy source (Store.Path.under shelf.folder (Backup.nameAt instant))))) := by
    refine within_onTree fun tree _ here => Store.Steps.confined_once fun changed stored => ?_
    refine (Store.Tree.confined_copy stored).mono ?_ fun _ none => none.elim
    rintro place rfl
    rw [here, Inside, Store.Path.aim_under shelf.folder (Backup.proper_nameAt instant),
      List.dropLast_concat, site]
  have cleaned := (shelf.within_cleanUpIfDue start).mono (fun _ => id)
    fun place (none : nowhere place) => (none.elim : place ∈ Path.way start shelf.folder)
  exact folders.bind fun _ => (within_of_still fun _ => rfl).bind fun instant =>
    (copied instant).bind fun _ => (within_of_still fun _ => rfl).bind fun _ =>
      cleaned.bind fun _ => within_of_still fun _ => rfl

/-- Making a backup if there is a file changes files in the folder of the shelf and makes folders on
its way. -/
theorem within_createIfPresent (shelf : Shelf) (start : Place) (source : Text) :
    Within start (shelf.Inside start) (· ∈ Path.way start shelf.folder)
      (shelf.createIfPresent source) := by
  refine looks_tree.within.bind fun tree => ?_
  split
  · exact (shelf.within_create start source).bind fun _ => within_of_still fun _ => rfl
  · exact within_of_still fun _ => rfl

/-- Restoring a backup changes files in the folder of the shelf and, where it succeeds, the
target. -/
theorem confined_restore (shelf : Shelf) (id target : Text) (workspace : Workspace)
    (sound : workspace.tree.Sound) :
    let outcome := (shelf.restore id target).run workspace
    Confined (fun place => shelf.Inside workspace.tree.start place ∨
        outcome.1 = .ok () ∧ place = Path.aim workspace.tree.start target)
      (· ∈ Path.way workspace.tree.start shelf.folder) workspace.tree outcome.2.tree := by
  obtain ⟨emissions, -, left⟩ := shelf.looks_find id workspace
  rcases found : (shelf.find id).run workspace with ⟨failure | result, looked⟩
  all_goals
    rw [found] at left
    obtain rfl : looked = workspace.showing emissions := left
  · rw [restore, Attempt.run_bind_of_error found]
    exact .refl _
  rw [restore, Attempt.run_bind_of_ok found]
  cases result with
  | none => exact .refl _
  | some backup =>
    have backed := (shelf.within_createIfPresent workspace.tree.start target
      (workspace.showing emissions) sound rfl)
    dsimp only
    rcases made : (shelf.createIfPresent target).run (workspace.showing emissions) with
      ⟨failure | path, between⟩
    all_goals rw [made] at backed
    · rw [Attempt.run_bind_of_error made]
      exact backed.mono (fun _ => .inl) fun _ here => here
    · rw [Attempt.run_bind_of_ok made, Job.run_onTree, Store.Steps.run_once]
      -- The backup is copied all at once, so a copy that fails leaves the file.
      cases copied : between.tree.copy backup.path target with
      | error cause => exact backed.mono (fun _ => .inl) fun _ here => here
      | ok changed =>
        have stored := Store.Tree.confined_copy copied
        rw [backed.start] at stored
        exact (backed.mono (fun _ => .inl) fun _ here => here).trans
          (stored.mono (fun place here => .inr ⟨rfl, here⟩) fun _ none => none.elim)

end Shelf

/-! ### Saving -/

/-- Saving a session changes the file where it succeeds, and makes folders on its way. -/
theorem Session.confined_save (session : Session) (path : Text) (padded : Bool) (tree : Tree) :
    Confined (fun place => (∃ events, ((session.save path padded).run tree).1 = .ok events) ∧
        place = Path.aim tree.start path)
      (· ∈ Path.way tree.start path) tree ((session.save path padded).run tree).2 := by
  have put := Store.Steps.confined_putText path (session.render padded) tree
  rcases ran : (Store.Steps.putText path (session.render padded)).run tree with
    ⟨fault | ⟨⟨⟩⟩, changed⟩
  · have whole : (session.save path padded).run tree = (.error fault, changed) :=
      Attempt.run_bind_of_error ran _
    rw [ran] at put
    rw [whole]
    refine put.mono ?_ fun _ => id
    rintro place ⟨wrong, -⟩
    contradiction
  · have whole : (session.save path padded).run tree =
        (.ok [.wrote (Text.byteSize (session.render padded)) path], changed) :=
      Attempt.run_bind_of_ok ran _
    rw [ran] at put
    rw [whole]
    exact put.mono (fun place here => ⟨⟨_, rfl⟩, here.2⟩) fun _ => id

namespace Context

variable {context : Context} {workspace : Workspace}

/-- The shelf for the backups of the file, in a workspace. -/
def shelfIn (context : Context) (workspace : Workspace) : Shelf :=
  .ofTarget workspace.configHome context.settings context.file

/-- The places of the files that saving may change: those in the folder of the shelf, and the file
itself where saving succeeds. -/
def Touches (context : Context) (workspace : Workspace) (result : Except Failure Unit)
    (place : Place) : Prop :=
  (context.shelfIn workspace).Inside workspace.tree.start place ∨
    result = .ok () ∧ place = Path.aim workspace.tree.start context.file

/-- The places of the folders that saving may make: those on the way of the shelf or of the file. -/
def Passes (context : Context) (workspace : Workspace) (place : Place) : Prop :=
  place ∈ Path.way workspace.tree.start (context.shelfIn workspace).folder ∨
    place ∈ Path.way workspace.tree.start context.file

/-- Saving changes files in the folder of the shelf and, where it succeeds, the file itself, and
makes folders on the way of either. -/
theorem confined_save (context : Context) (session : Session) (sound : workspace.tree.Sound) :
    Confined (context.Touches workspace ((context.save session).run workspace).1)
      (context.Passes workspace) workspace.tree ((context.save session).run workspace).2.tree := by
  have looked : context.shelf.run workspace = (.ok (context.shelfIn workspace), workspace) := rfl
  have backed := (context.shelfIn workspace).within_createIfPresent workspace.tree.start
    context.file workspace sound rfl
  rw [save, Attempt.run_bind_of_ok looked]
  rcases made : ((context.shelfIn workspace).createIfPresent context.file).run workspace with
    ⟨failure | path, between⟩
  · rw [Attempt.run_bind_of_error made]
    rw [made] at backed
    exact backed.mono (fun _ => .inl) fun _ => .inl
  · rw [Attempt.run_bind_of_ok made]
    rw [made] at backed
    have stored := session.confined_save context.file context.padded between.tree
    rw [backed.start] at stored
    have before : ∀ result, Confined (context.Touches workspace result)
        (context.Passes workspace) workspace.tree between.tree :=
      fun result => backed.mono (fun _ => .inl) fun _ => .inl
    rcases ran : (session.save context.file context.padded).run between.tree with
      ⟨fault | events, changed⟩
    · rw [Attempt.run_bind_of_error (Job.run_onTree_of_error ran)]
      rw [ran] at stored
      refine (before _).trans (stored.mono ?_ fun _ => .inr)
      rintro place ⟨⟨events, wrong⟩, -⟩
      contradiction
    · rw [Attempt.run_bind_of_ok (Job.run_onTree_of_ok ran)]
      rw [ran] at stored
      exact (before _).trans (stored.mono (fun place here => .inr ⟨rfl, here.2⟩) fun _ => .inr)

end Context

/-- A course is confined to the places to which each edit is that it may make. -/
theorem Course.confined {edits : Job Unit → Prop} {workspace : Workspace}
    {outcome : Except Failure Unit × Workspace} (course : Course edits workspace outcome)
    {files : Except Failure Unit → Place → Prop} {folders : Place → Prop}
    (kept : ∀ edit, edits edit → ∀ emissions,
      let left := edit.run (workspace.showing emissions)
      Confined (files left.1) folders workspace.tree left.2.tree) :
    Confined (files outcome.1) folders workspace.tree outcome.2.tree :=
  course.tree (fun result => Confined (files result) folders workspace.tree) (fun _ => .refl _) kept

/-- Saving settings changes the settings file where it succeeds, and makes folders on its way. -/
theorem Settings.confined_save (settings : Settings) (workspace : Workspace) :
    Confined (fun place => (settings.save.run workspace).1 = .ok () ∧
        place = Path.aim workspace.tree.start (path workspace.configHome))
      (· ∈ Path.way workspace.tree.start (Shelf.programFolder workspace.configHome))
      workspace.tree (settings.save.run workspace).2.tree := by
  let folder := Shelf.programFolder workspace.configHome
  have made := Store.Steps.confined_makeFolders folder workspace.tree
  have looked : Job.workspace.run workspace = (.ok workspace, workspace) := rfl
  rw [save, Attempt.run_bind_of_ok looked]
  rcases ran : (Job.onTree .cause (.makeFolders folder)).run workspace with
    ⟨failure | ⟨⟨⟩⟩, between⟩
  all_goals
    have left := congrArg (fun outcome => outcome.2.tree) ran
    rw [Job.run_onTree] at left
    dsimp only at left
    rw [left] at made
  · rw [Attempt.run_bind_of_error ran]
    exact made.mono (fun _ none => none.elim) fun _ here => here
  · rw [Attempt.run_bind_of_ok ran, Job.run_onTree, Store.Steps.writeText, Store.Steps.run_once]
    cases written : between.tree.writeText (path workspace.configHome) settings.render with
    | error cause => exact made.mono (fun _ none => none.elim) fun _ here => here
    | ok changed =>
      have stored := Store.Tree.confined_write written
      rw [made.start] at stored
      exact (made.mono (fun _ none => none.elim) fun _ here => here).trans
        (stored.mono (fun place here => ⟨rfl, here⟩) fun _ none => none.elim)

namespace Command

variable {context : Context} {workspace : Workspace}

/-- The places of the files that a command may change: those that saving may change, and the
settings file where writing it succeeds. -/
def Touches (context : Context) (workspace : Workspace) (result : Except Failure Unit)
    (place : Place) : Prop :=
  context.Touches workspace result place ∨
    result = .ok () ∧ place = Path.aim workspace.tree.start (Settings.path workspace.configHome)

/-- Cleaning up the backups is confined to the folder of the shelf. -/
theorem confined_clean (context : Context) (keep : Nat) (sound : workspace.tree.Sound) :
    Confined ((context.shelfIn workspace).Inside workspace.tree.start) nowhere workspace.tree
      ((runBackup context (.clean keep)).run workspace).2.tree := by
  have looked : context.shelf.run workspace = (.ok (context.shelfIn workspace), workspace) := rfl
  rw [runBackup, Attempt.run_bind_of_ok looked]
  refine (((context.shelfIn workspace).within_keepNewest workspace.tree.start keep).bind
    fun removed => ?_) workspace sound rfl
  split
  · exact (Job.looks_putLine _).within
  · exact (Context.looks_succeed _).within

/-- Writing the settings file changes that file where it succeeds. -/
theorem confined_config (context : Context) (workspace : Workspace) :
    Confined (fun place => ((runConfig context true).run workspace).1 = .ok () ∧
        place = Path.aim workspace.tree.start (Settings.path workspace.configHome))
      (· ∈ Path.way workspace.tree.start (Shelf.programFolder workspace.configHome))
      workspace.tree ((runConfig context true).run workspace).2.tree := by
  have looked : Job.workspace.run workspace = (.ok workspace, workspace) := rfl
  rw [runConfig, Attempt.run_bind_of_ok looked]
  dsimp only
  rw [if_pos rfl]
  split
  · exact .refl _
  · have saved := Settings.default.confined_save workspace
    rcases ran : Settings.default.save.run workspace with ⟨failure | ⟨⟨⟩⟩, between⟩
    · rw [Attempt.run_bind_of_error ran]
      rw [ran] at saved
      refine saved.mono ?_ fun _ here => here
      rintro place ⟨wrong, -⟩
      contradiction
    · rw [Attempt.run_bind_of_ok ran]
      rw [ran] at saved
      exact saved.mono (fun place here => ⟨rfl, here.2⟩) fun _ here => here

/-- Restoring a backup is confined to the places to which saving is. -/
theorem confined_restore (context : Context) (id : Text) (sound : workspace.tree.Sound) :
    let outcome := (runBackup context (.restore id)).run workspace
    Confined (context.Touches workspace outcome.1) (context.Passes workspace) workspace.tree
      outcome.2.tree := by
  have looked : context.shelf.run workspace = (.ok (context.shelfIn workspace), workspace) := rfl
  rw [runBackup, Attempt.run_bind_of_ok looked]
  refine (courses_restore context (context.shelfIn workspace) id workspace).confined ?_
  rintro edit ⟨found, rfl⟩ emissions
  have confined := (context.shelfIn workspace).confined_restore found context.file
    (workspace.showing emissions) sound
  exact confined.mono (fun _ here => here) fun _ => .inl

/-- Every command is confined to the places that its context tells, and where it fails, to the
folder of the shelf. -/
theorem confined_run (context : Context) (command : Command) (sound : workspace.tree.Sound) :
    Confined (Touches context workspace ((command.run context).run workspace).1)
      (context.Passes workspace) workspace.tree ((command.run context).run workspace).2.tree := by
  rcases courses_or_upkeep context command with courses | ⟨id, rfl⟩ | ⟨keep, rfl⟩ | rfl
  · refine Confined.mono ((courses workspace).confined ?_) (fun _ => .inl) fun _ here => here
    rintro edit ⟨session, rfl⟩ emissions
    exact @Context.confined_save (workspace.showing emissions) context session sound
  · exact (confined_restore context id sound).mono (fun _ => .inl) fun _ here => here
  · exact (confined_clean context keep sound).mono (fun _ inside => .inl (.inl inside))
      fun _ none => none.elim
  · exact (confined_config context workspace).mono (fun _ => .inr)
      fun _ passed => .inl (Shelf.way_ofTarget passed _ _)

end Command

end IniKeeper
