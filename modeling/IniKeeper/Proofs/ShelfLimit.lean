import IniKeeper.Proofs.ShelfVersions

/-!
# Shelves stay within their limit

A shelf that holds files only can be cleaned up: each backup that a cleanup drops can be removed. A
manager cleans up with the first backup that it makes, so whatever then comes of the backup and of
what follows it, the shelf holds files only, and no more of them than its limit allows. What is done
elsewhere does not touch it.
-/

namespace IniKeeper

open Store (Tree Place Path.aim Path.way)
open Store.Tree (Confined nowhere)

namespace Shelf

variable {shelf : Shelf} {tree changed : Tree} {start : Place} {file source : Text}
  {files folders : Place → Prop} {workspace : Workspace}

/-- Whether a usable shelf holds nothing but files. -/
structure Filed (shelf : Shelf) (tree : Tree) : Prop extends shelf.Usable tree where
  /-- Each backup is a file. -/
  readable : AllReadable tree (shelf.site tree.start) (shelf.stock tree)

/-- Whether a usable shelf holds nothing but files, and no more of them than its limit allows. -/
structure Tended (shelf : Shelf) (tree : Tree) : Prop extends shelf.Filed tree where
  /-- There are few enough. -/
  few : (shelf.stock tree).length ≤ shelf.limit

/-- A bare shelf is tended. -/
theorem Bare.tended (bare : shelf.Bare tree) (sound : tree.Sound) : shelf.Tended tree where
  toUsable := bare.usable sound
  readable := by
    rw [bare.stock_eq_nil]
    exact fun backup none => absurd none List.not_mem_nil
  few := by
    rw [bare.stock_eq_nil]
    exact Nat.zero_le _

/-! ### Changes elsewhere -/

/-- A change that touches neither the folder of a shelf nor anything directly in it leaves the files
on the shelf. -/
theorem Filed.of_confined (filed : shelf.Filed tree)
    (confined : Confined files folders tree changed)
    (apart : ∀ place, files place ∨ folders place → ¬ shelf.Inside tree.start place)
    (elsewhere : ¬ files (shelf.site tree.start)) : shelf.Filed changed where
  toUsable := filed.toUsable.of_confined confined apart elsewhere
  readable := by
    rw [stock_of_confined confined apart, confined.start]
    intro backup member
    obtain ⟨content, leads⟩ := filed.readable backup member
    have inside : shelf.Inside tree.start (placeOf (shelf.site tree.start) backup) :=
      List.dropLast_concat
    exact ⟨content, confined.leadsTo leads fun touched => apart _ (.inl touched) inside⟩

/-- A change that touches neither the folder of a shelf nor anything directly in it leaves a tended
shelf tended. -/
theorem Tended.of_confined (tended : shelf.Tended tree)
    (confined : Confined files folders tree changed)
    (apart : ∀ place, files place ∨ folders place → ¬ shelf.Inside tree.start place)
    (elsewhere : ¬ files (shelf.site tree.start)) : shelf.Tended changed where
  toFiled := tended.toFiled.of_confined confined apart elsewhere
  few := by
    rw [stock_of_confined confined apart]
    exact tended.few

/-! ### Cleaning up -/

/-- Where there are only files, the newest backups can be kept, and they are what is left. -/
theorem Filed.run_keepNewest (filed : shelf.Filed workspace.tree) (count : Nat) :
    ∃ removed after, (shelf.keepNewest count).run workspace = (.ok removed, after) ∧
      shelf.Filed after.tree ∧
      shelf.stock after.tree = (shelf.stock workspace.tree).take count := by
  have listed := filed.listed
  by_cases none : shelf.stock workspace.tree = []
  · refine ⟨0, workspace, ?_, filed, ?_⟩
    · rw [keepNewest, Job.run_bind_of_ok (run_list listed), none, List.drop_nil]
      rfl
    · rw [none, List.take_nil]
  · have stands := filed.stands none
    have distinct := stands.nodup_filenames filed.sound listed
    have dropped : AllReadable workspace.tree (shelf.site workspace.tree.start)
        ((shelf.stock workspace.tree).drop count) :=
      fun backup member => filed.readable backup (List.mem_of_mem_drop member)
    have newest : AllReadable workspace.tree (shelf.site workspace.tree.start)
        ((shelf.stock workspace.tree).take count) :=
      fun backup member => filed.readable backup (List.mem_of_mem_take member)
    have ran := Shelf.run_keepNewest listed filed.sound dropped distinct
    obtain ⟨still, left⟩ := stock_of_keepNewest filed.sound stands ran
    refine ⟨_, _, ran, ⟨⟨filed.sound.without _, ?_, fun _ => still⟩, ?_⟩, left⟩
    · intro content held
      obtain ⟨place, leads, looked, -⟩ := Store.Tree.find_eq_ok_iff.mp still.found
      obtain rfl := Except.ok.inj (still.resolve.symm.trans leads)
      have folder := (Store.Tree.look_eq_ok_iff.mp looked).2
      exact absurd (folder.symm.trans held) (by simp)
    · rw [left]
      exact newest.without dropped fun backup member => not_mem_dropped distinct member

/-- Keeping the newest leaves a tended shelf tended. -/
theorem Tended.keepNewest (tended : shelf.Tended workspace.tree) (count : Nat) :
    shelf.Tended ((shelf.keepNewest count).run workspace).2.tree := by
  obtain ⟨removed, after, ran, filed, left⟩ := tended.toFiled.run_keepNewest count
  rw [ran]
  refine ⟨filed, ?_⟩
  rw [left, List.length_take]
  exact (Nat.min_le_right _ _).trans tended.few

/-! ### Making backups -/

/-- A file that is copied into the folder of a shelf under the name of an instant leaves only files
there. -/
theorem Filed.of_copy (filed : shelf.Filed tree) (found : tree.find shelf.folder = .ok .folder)
    {instant : Instant}
    (copied : tree.copy source (Store.Path.under shelf.folder (Backup.nameAt instant)) =
      .ok changed) : shelf.Filed changed := by
  obtain ⟨place, content, takes, rfl⟩ := Store.Tree.exists_of_copy copied
  have stands := standsAt_of_find found
  have here := Store.Tree.resolve_under (Backup.proper_nameAt instant) stands.resolve takes.resolve
  have same := Store.Tree.sameFolders_set takes.plain content
  have still := stands.of_sameFolders same
  have sound := filed.sound.set (filed.sound.proper_of_resolve takes.resolve) (.file content)
  refine ⟨⟨sound, fun bytes held => ?_, fun _ => still⟩, fun backup member => ?_⟩
  · have other : shelf.site tree.start ≠ place := by
      rw [here]
      simp
    have before : tree.node? (shelf.site tree.start) = some (.file bytes) := by
      rw [← Store.Tree.node?_set_other other]
      exact held
    exact filed.plain bytes before
  · obtain ⟨node, inside, made⟩ := still.of_mem still.backups_eq_stock member
    have held := sound.mem_children_iff.mp inside
    by_cases new : placeOf (shelf.site tree.start) backup = place
    · -- The backup is the file that was copied, so its path is that of the copy.
      have name : backup.filename = Backup.nameAt instant := by
        rw [here, placeOf] at new
        simpa using new
      have path : backup.path = Store.Path.under shelf.folder (Backup.nameAt instant) := by
        rw [(Backup.ofNode?_eq_some_iff.mp made).2, ← name]
      refine ⟨content, ?_⟩
      rw [path]
      exact new ▸ takes.leadsTo_set content
    · rw [placeOf] at new
      rw [Store.Tree.node?_set_other new] at held
      have among : backup ∈ shelf.stock tree :=
        List.mem_mergeSort.mpr (mem_held_iff.mpr ⟨_, filed.sound.mem_children_iff.mpr held, made⟩)
      obtain ⟨bytes, leads⟩ := filed.readable backup among
      refine ⟨bytes, leads.of_sameFolders same ?_⟩
      rw [placeOf, Store.Tree.node?_set_other new]
      exact leads.node

/-- The first cleanup of a manager leaves a shelf that holds only files tended. -/
theorem Filed.cleanUpIfDue (filed : shelf.Filed workspace.tree)
    (fresh : workspace.schedule = .fresh) :
    shelf.Tended (shelf.cleanUpIfDue.run workspace).2.tree := by
  obtain ⟨removed, after, ran, left, stock⟩ := filed.run_keepNewest shelf.limit
  rw [Shelf.cleanUpIfDue, Attempt.run_bind_of_ok (run_isCleanupDue_of_fresh fresh), if_pos rfl,
    cleanUp, Attempt.run_bind_of_ok ran, Attempt.run_bind_of_ok (Job.run_now after)]
  refine ⟨left, ?_⟩
  have few : (shelf.stock after.tree).length ≤ shelf.limit := by
    rw [stock, List.length_take]
    exact Nat.min_le_left _ _
  exact few

/-- What comes of making a backup: the folder cannot be made, or the file cannot be copied, or it is
copied and the shelf is cleaned up. -/
inductive Creation (shelf : Shelf) (source : Text) (workspace : Workspace) : Workspace → Prop where
  /-- The folder could not be made. -/
  | noFolder {cause : Store.Cause} {made : Tree}
      (folders : (Store.Steps.makeFolders shelf.folder).run workspace.tree = (.error cause, made)) :
      Creation shelf source workspace { workspace with tree := made }
  /-- The file could not be copied. -/
  | noCopy {cause : Store.Cause} {made : Tree}
      (folders : (Store.Steps.makeFolders shelf.folder).run workspace.tree = (.ok (), made))
      (copies : made.copy source (shelf.nextPath workspace) = .error cause) :
      Creation shelf source workspace { workspace.ticked with tree := made }
  /-- It was copied. -/
  | copied {made copied : Tree}
      (folders : (Store.Steps.makeFolders shelf.folder).run workspace.tree = (.ok (), made))
      (copies : made.copy source (shelf.nextPath workspace) = .ok copied) :
      Creation shelf source workspace (shelf.cleanUpIfDue.run { workspace.ticked with
        tree := copied
        shown := workspace.shown ++ [.log (.backedUp source (shelf.nextPath workspace))] }).2

/-- Making a backup fails to make the folder, fails to copy the file, or copies it and cleans up. -/
theorem creation (shelf : Shelf) (source : Text) (workspace : Workspace) :
    shelf.Creation source workspace ((shelf.create source).run workspace).2 := by
  have making := Job.run_onTree (.noShelf shelf.folder) (.makeFolders shelf.folder) workspace
  rcases folders : (Store.Steps.makeFolders shelf.folder).run workspace.tree with
    ⟨cause | ⟨⟨⟩⟩, made⟩
  · rw [folders] at making
    rw [create, Attempt.run_bind_of_error making]
    exact .noFolder folders
  · rw [folders] at making
    let path := shelf.nextPath workspace
    let ready : Workspace := { workspace.ticked with tree := made }
    have begun : (shelf.create source).run workspace =
        (do
          Job.onTree (.notBackedUp source) (.once (·.copy source path))
          Job.log [.backedUp source path]
          shelf.cleanUpIfDue
          return path : Job Text).run ready := by
      rw [create, Attempt.run_bind_of_ok making]
      exact Attempt.run_bind_of_ok (Job.run_now _) _
    rw [begun]
    cases copies : made.copy source path with
    | error cause =>
      have copying := @Job.run_once_of_error (.notBackedUp source) (·.copy source path) ready cause
        copies
      rw [Attempt.run_bind_of_error copying]
      exact .noCopy folders copies
    | ok copied =>
      have copying := @Job.run_once_of_ok (.notBackedUp source) (·.copy source path) ready copied
        copies
      have logged : (Job.log [.backedUp source path]).run { ready with tree := copied } =
          (.ok (), { ready with
            tree := copied, shown := workspace.shown ++ [.log (.backedUp source path)] }) := rfl
      rw [Attempt.run_bind_of_ok copying, Attempt.run_bind_of_ok logged, Job.snd_run_bind_pure]
      exact .copied folders copies

/-- Whatever comes of the first backup of a manager, a tended shelf stays tended. -/
theorem Tended.create (tended : shelf.Tended workspace.tree)
    (some : shelf.folder ≠ []) (fresh : workspace.schedule = .fresh)
    (clear : ∀ place ∈ Path.way workspace.tree.start shelf.folder,
      ¬ shelf.Inside workspace.tree.start place) (source : Text) :
    shelf.Tended ((shelf.create source).run workspace).2.tree := by
  have apart : ∀ place, nowhere place ∨ place ∈ Path.way workspace.tree.start shelf.folder →
      ¬ shelf.Inside workspace.tree.start place := by
    rintro place (none | passed)
    · exact none.elim
    · exact clear place passed
  have confined := Store.Steps.confined_makeFolders shelf.folder workspace.tree
  have creation := shelf.creation source workspace
  generalize ((shelf.create source).run workspace).2 = after at creation ⊢
  cases creation with
  | noFolder folders =>
    rw [folders] at confined
    exact tended.of_confined confined apart id
  | noCopy folders =>
    rw [folders] at confined
    exact tended.of_confined confined apart id
  | copied folders copies =>
    rw [folders] at confined
    have found := Store.Steps.find_of_makeFolders some folders
    have filed := (tended.toFiled.of_confined confined apart id).of_copy found copies
    exact Filed.cleanUpIfDue filed fresh

/-- Backing up a file if there is one leaves a tended shelf tended, whatever comes of it. -/
theorem Tended.createIfPresent (tended : shelf.Tended workspace.tree) (some : shelf.folder ≠ [])
    (fresh : workspace.schedule = .fresh)
    (clear : ∀ place ∈ Path.way workspace.tree.start shelf.folder,
      ¬ shelf.Inside workspace.tree.start place) (source : Text) :
    shelf.Tended ((shelf.createIfPresent source).run workspace).2.tree := by
  rw [Shelf.createIfPresent, Attempt.run_bind_of_ok (Job.run_tree workspace)]
  split
  · rw [Job.snd_run_bind_pure]
    exact tended.create some fresh clear source
  · exact tended

/-- A file that is put outside leaves a tended shelf tended. -/
theorem Tended.of_outside (tended : shelf.Tended tree) (clear : shelf.Clear tree.start file)
    (confined : Confined (· = Path.aim tree.start file) (· ∈ Path.way tree.start file) tree
      changed) :
    shelf.Tended changed := by
  refine tended.of_confined confined ?_ clear.apart.symm
  rintro place (rfl | passed)
  · exact clear.outside _ (Store.Path.aim_mem_way _ _)
  · exact clear.outside place passed

/-- Restoring a backup to a file that keeps clear of the shelf leaves the shelf tended. -/
theorem Tended.restore (tended : shelf.Tended workspace.tree) (some : shelf.folder ≠ [])
    (fresh : workspace.schedule = .fresh) (clear : shelf.Clear workspace.tree.start file)
    (id : Text) : shelf.Tended ((shelf.restore id file).run workspace).2.tree := by
  have found := run_find tended.listed id
  rw [Shelf.restore, Attempt.run_bind_of_ok found]
  cases (shelf.stock workspace.tree).find? (Backup.goesBy id) with
  | none => exact tended
  | some backup =>
    have backed := tended.createIfPresent some fresh clear.passing file
    have within := shelf.within_createIfPresent workspace.tree.start file workspace tended.sound rfl
    dsimp only
    rcases ran : (shelf.createIfPresent file).run workspace with ⟨failure | made, between⟩
    · rw [Attempt.run_bind_of_error ran]
      rw [ran] at backed
      exact backed
    · rw [Attempt.run_bind_of_ok ran, Job.run_onTree]
      rw [ran] at backed within
      rw [← within.start] at clear
      refine backed.of_outside clear (Store.Steps.confined_once fun changed copied => ?_)
      exact (Store.Tree.confined_copy copied).mono (fun _ here => here) fun _ none => none.elim

/-- The settings file aims into the folder of the program. -/
theorem aim_settings (start : Place) (configHome : Text) :
    Path.aim start (Settings.path configHome) =
      Path.aim start (programFolder configHome) ++ ["config.toml".toList] := by
  have proper : Store.Path.Proper "config.toml".toList := by decide
  rw [Settings.path, Store.Path.aim_under _ proper]

variable {configHome target : Text} {settings : Settings}

/-- The settings file is not in the folder for the backups of a file, which lies deeper. -/
theorem not_inside_settings :
    ¬ (ofTarget configHome settings target).Inside start
      (Path.aim start (Settings.path configHome)) := by
  rw [Inside, aim_settings, site_ofTarget, List.dropLast_concat]
  intro same
  have lengths := congrArg List.length same
  simp at lengths

/-- The settings file is not in the place of the folder for the backups of a file. -/
theorem site_ne_settings :
    (ofTarget configHome settings target).site start ≠
      Path.aim start (Settings.path configHome) := by
  rw [aim_settings, site_ofTarget]
  intro same
  have lengths := congrArg List.length same
  simp at lengths

end Shelf

/-! ### Runs of commands -/

variable {context : Context} {workspace : Workspace}

/-- Saving leaves the shelf of the file tended. -/
theorem Context.tended_save (session : Session)
    (tended : (context.shelfIn workspace).Tended workspace.tree)
    (fresh : workspace.schedule = .fresh)
    (clear : (context.shelfIn workspace).Clear workspace.tree.start context.file) :
    (context.shelfIn workspace).Tended ((context.save session).run workspace).2.tree := by
  have looked : context.shelf.run workspace = (.ok (context.shelfIn workspace), workspace) := rfl
  have some : (context.shelfIn workspace).folder ≠ [] := Shelf.folder_ofTarget_ne_nil _ _ _
  have backed := tended.createIfPresent some fresh clear.passing context.file
  have within := (context.shelfIn workspace).within_createIfPresent workspace.tree.start
    context.file workspace tended.sound rfl
  rw [save, Attempt.run_bind_of_ok looked]
  rcases ran : ((context.shelfIn workspace).createIfPresent context.file).run workspace with
    ⟨failure | made, between⟩
  · rw [Attempt.run_bind_of_error ran]
    rw [ran] at backed
    exact backed
  · rw [ran] at backed within
    rw [← within.start] at clear
    have stored := backed.of_outside clear
      ((session.confined_save context.file context.padded between.tree).mono
        (fun _ here => here.2) fun _ passed => passed)
    rw [Attempt.run_bind_of_ok ran, Job.tree_run_bind_of_still fun _ _ => rfl, Job.run_onTree]
    exact stored

/-- A course of a command leaves a shelf tended if each edit does that it may make. -/
theorem Course.tended {edits : Job Unit → Prop} {outcome : Except Failure Unit × Workspace}
    (course : Course edits workspace outcome) {shelf : Shelf} (tended : shelf.Tended workspace.tree)
    (kept : ∀ edit, edits edit → ∀ emissions,
      shelf.Tended (edit.run (workspace.showing emissions)).2.tree) :
    shelf.Tended outcome.2.tree :=
  course.tree (fun _ => shelf.Tended) (fun _ => tended) kept

namespace Command

/-- Restoring a backup leaves the shelf of the file tended. -/
theorem tended_restore (id : Text) (tended : (context.shelfIn workspace).Tended workspace.tree)
    (fresh : workspace.schedule = .fresh)
    (clear : (context.shelfIn workspace).Clear workspace.tree.start context.file) :
    (context.shelfIn workspace).Tended
      ((runBackup context (.restore id)).run workspace).2.tree := by
  have looked : context.shelf.run workspace = (.ok (context.shelfIn workspace), workspace) := rfl
  rw [runBackup, Attempt.run_bind_of_ok looked]
  refine (courses_restore context (context.shelfIn workspace) id workspace).tended tended ?_
  rintro edit ⟨found, rfl⟩ emissions
  have before : (context.shelfIn workspace).Tended (workspace.showing emissions).tree := tended
  exact before.restore (Shelf.folder_ofTarget_ne_nil _ _ _) fresh clear found

/-- Cleaning up the backups leaves the shelf of the file tended. -/
theorem tended_clean (keep : Nat) (tended : (context.shelfIn workspace).Tended workspace.tree) :
    (context.shelfIn workspace).Tended
      ((runBackup context (.clean keep)).run workspace).2.tree := by
  have looked : context.shelf.run workspace = (.ok (context.shelfIn workspace), workspace) := rfl
  have still (removed : Nat) (workspace : Workspace) :
      ((if removed = 0 then Job.putLine "No old backups to clean.".toList
        else Context.succeed ("Removed ".toList ++ Event.count removed ++
          " old backup(s), keeping ".toList ++ Event.count keep) : Job Unit).run
            workspace).2.tree = workspace.tree := by
    split <;> rfl
  have kept := tended.keepNewest keep
  rw [runBackup, Attempt.run_bind_of_ok looked]
  dsimp only
  rw [runClean, Job.tree_run_bind_of_still still]
  exact kept

/-- Every command leaves the shelf of its file tended. -/
theorem tended_run (command : Command)
    (tended : (context.shelfIn workspace).Tended workspace.tree)
    (fresh : workspace.schedule = .fresh)
    (clear : (context.shelfIn workspace).Clear workspace.tree.start context.file) :
    (context.shelfIn workspace).Tended ((command.run context).run workspace).2.tree := by
  rcases courses_or_upkeep context command with courses | ⟨id, rfl⟩ | ⟨keep, rfl⟩ | rfl
  · refine (courses workspace).tended tended ?_
    rintro edit ⟨session, rfl⟩ emissions
    exact @Context.tended_save context (workspace.showing emissions) session tended fresh clear
  · exact tended_restore id tended fresh clear
  · exact tended_clean keep tended
  · refine tended.of_confined (confined_config context workspace) ?_ ?_
    · rintro place (⟨-, rfl⟩ | passed)
      · exact Shelf.not_inside_settings
      · exact clear.passing place (Shelf.way_ofTarget passed _ _)
    · rintro ⟨-, same⟩
      exact Shelf.site_ne_settings same

end Command

end IniKeeper
