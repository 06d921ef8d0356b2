import IniKeeper.Proofs.ShelfLimit

/-!
# What is told of backups

A backup that was made is told of at once, with the file and the path of the backup. A command tells
of no backups but those of its file that it makes on the shelf of the file, however it ends, and so
does restoring one.
-/

namespace IniKeeper

/-! ### Jobs that tell nothing -/

namespace Job

variable {α β ε : Type}

/-- Whether a job shows nothing. -/
def Silent (job : Job α) : Prop := ∀ workspace, (job.run workspace).2.shown = workspace.shown

/-- Two jobs in a row show nothing if both do. -/
theorem Silent.bind {job : Job α} {next : α → Job β} (silent : Silent job)
    (further : ∀ found, Silent (next found)) : Silent (job >>= next) := by
  intro workspace
  have shown := silent workspace
  rcases ran : job.run workspace with ⟨failure | found, between⟩
  · rw [Attempt.run_bind_of_error ran]
    rw [ran] at shown
    exact shown
  · rw [Attempt.run_bind_of_ok ran, further found between]
    rw [ran] at shown
    exact shown

/-- Work on the tree shows nothing. -/
theorem silent_onTree (meaning : ε → Failure) (steps : Store.Steps ε α) :
    Silent (onTree meaning steps) := by
  intro workspace
  rw [run_onTree]

/-- Taking the result of an attempt shows nothing. -/
theorem silent_ofExcept (meaning : ε → Failure) (attempt : Except ε α) :
    Silent (ofExcept meaning attempt) := by
  intro workspace
  rw [run_ofExcept]

end Job

namespace Shelf

open Job

/-- Listing the backups shows nothing. -/
theorem silent_list (shelf : Shelf) : Silent shelf.list :=
  Silent.bind (fun _ => rfl) fun _ => silent_ofExcept _ _

/-- Removing backups shows nothing. -/
theorem silent_removeAll (old : List Backup) : Silent (removeAll old) := by
  induction old with
  | nil => exact fun _ => rfl
  | cons backup rest ih => exact (silent_onTree _ _).bind fun _ => ih

/-- Keeping the newest backups shows nothing. -/
theorem silent_keepNewest (shelf : Shelf) (count : Nat) : Silent (shelf.keepNewest count) :=
  shelf.silent_list.bind fun _ => (silent_removeAll _).bind fun _ _ => rfl

/-- A cleanup shows nothing, whether it is due or not. -/
theorem silent_cleanUpIfDue (shelf : Shelf) : Silent shelf.cleanUpIfDue := by
  have due : Silent isCleanupDue := by
    refine Silent.bind (fun _ => rfl) fun workspace => ?_
    dsimp only
    split
    · exact fun _ => rfl
    · cases workspace.schedule.last with
      | none => exact fun _ => rfl
      | some last => exact Silent.bind (fun _ => rfl) fun _ _ => rfl
  refine due.bind fun due => ?_
  split
  · exact (shelf.silent_keepNewest shelf.limit).bind fun _ =>
      Silent.bind (fun _ => rfl) fun _ _ => rfl
  · exact fun _ => rfl

end Shelf

/-! ### What is told of backups -/

/-- The backup of which something that is shown tells: the file, and the path of the backup. -/
def Emission.backup? : Emission → Option (Text × Text)
  | log (.backedUp source path) => some (source, path)
  | _ => none

/-- What tells of no change tells of no backup. -/
theorem Emission.backup?_eq_none {emission : Emission} (quiet : emission.tellsChange = false) :
    emission.backup? = none := by
  cases emission with
  | log event => cases event <;> first | rfl | contradiction
  | output text => rfl
  | complaint text => rfl

/-- Whether a path is that of a backup on a shelf, made at some instant. -/
def Shelf.Makes (shelf : Shelf) (path : Text) : Prop :=
  ∃ instant, path = Store.Path.under shelf.folder (Backup.nameAt instant)

/-- Whether what is shown from one workspace to another tells only of backups of a file that were
made on a shelf. -/
def Workspace.TellsOf (shelf : Shelf) (file : Text) (before after : Workspace) : Prop :=
  ∃ emissions, after.shown = before.shown ++ emissions ∧
    ∀ emission ∈ emissions, ∀ source path, emission.backup? = some (source, path) →
      source = file ∧ shelf.Makes path

namespace Workspace.TellsOf

variable {shelf : Shelf} {file : Text} {before between after : Workspace}

/-- Where nothing more is shown, no backup is told of. -/
theorem of_shown (same : after.shown = before.shown) : TellsOf shelf file before after :=
  ⟨[], by rw [same, List.append_nil], fun _ none => absurd none List.not_mem_nil⟩

/-- What tells of no change tells of no backup. -/
theorem of_quiet {emissions : List Emission} (shown : after.shown = before.shown ++ emissions)
    (quiet : ∀ emission ∈ emissions, emission.tellsChange = false) :
    TellsOf shelf file before after := by
  refine ⟨emissions, shown, fun emission member source path told => ?_⟩
  rw [Emission.backup?_eq_none (quiet emission member)] at told
  contradiction

/-- A job that only looks tells of no backup. -/
theorem of_looks {α : Type} {job : Job α} (looks : job.Looks) (workspace : Workspace) :
    TellsOf shelf file workspace (job.run workspace).2 := by
  obtain ⟨emissions, quiet, left⟩ := looks workspace
  rw [left]
  exact of_quiet rfl quiet

/-- What is shown first and what is shown then tell only of backups of the file if both do. -/
theorem trans (first : TellsOf shelf file before between)
    (second : TellsOf shelf file between after) : TellsOf shelf file before after := by
  obtain ⟨emissions, shown, tells⟩ := first
  obtain ⟨more, further, still⟩ := second
  refine ⟨emissions ++ more, by rw [further, shown, List.append_assoc], ?_⟩
  intro emission member
  rcases List.mem_append.mp member with earlier | later
  · exact tells emission earlier
  · exact still emission later

/-- A job and what follows it tell only of backups of the file if both do. -/
theorem bind {α β : Type} {job : Job α} {next : α → Job β} {workspace : Workspace}
    (first : TellsOf shelf file workspace (job.run workspace).2)
    (further : ∀ found left, job.run workspace = (.ok found, left) →
      TellsOf shelf file left ((next found).run left).2) :
    TellsOf shelf file workspace ((job >>= next).run workspace).2 := by
  rcases ran : job.run workspace with ⟨failure | found, left⟩
  · rw [Attempt.run_bind_of_error ran]
    rw [ran] at first
    exact first
  · rw [Attempt.run_bind_of_ok ran]
    rw [ran] at first
    exact first.trans (further found left ran)

end Workspace.TellsOf

namespace Shelf

open Workspace (TellsOf)

variable {shelf : Shelf} {file : Text} {workspace : Workspace}

/-- Making a backup of a file tells of this backup. -/
theorem tells_create (shelf : Shelf) (file : Text) (workspace : Workspace) :
    TellsOf shelf file workspace ((shelf.create file).run workspace).2 := by
  have creation := shelf.creation file workspace
  generalize ((shelf.create file).run workspace).2 = after at creation ⊢
  cases creation with
  | noFolder => exact .of_shown rfl
  | noCopy => exact .of_shown rfl
  | copied folders copies =>
    refine ⟨[.log (.backedUp file (shelf.nextPath workspace))],
      shelf.silent_cleanUpIfDue _, fun emission member source path told => ?_⟩
    rw [List.mem_singleton.mp member] at told
    obtain ⟨rfl, rfl⟩ := Prod.mk.inj (Option.some.inj told)
    exact ⟨rfl, _, rfl⟩

/-- Making a backup of a file, if there is one, tells of this backup. -/
theorem tells_createIfPresent (shelf : Shelf) (file : Text) (workspace : Workspace) :
    TellsOf shelf file workspace ((shelf.createIfPresent file).run workspace).2 := by
  rw [createIfPresent, Attempt.run_bind_of_ok (Job.run_tree workspace)]
  split
  · rw [Job.snd_run_bind_pure]
    exact shelf.tells_create file workspace
  · exact .of_shown rfl

/-- Restoring a backup to a file tells of the backup that is made of the file before. -/
theorem tells_restore (shelf : Shelf) (id file : Text) (workspace : Workspace) :
    TellsOf shelf file workspace ((shelf.restore id file).run workspace).2 := by
  refine TellsOf.bind (.of_looks (shelf.looks_find id) workspace) fun found left _ => ?_
  cases found with
  | none => exact .of_shown rfl
  | some backup =>
    refine TellsOf.bind (shelf.tells_createIfPresent file left) fun made between _ => ?_
    exact .of_shown (Job.silent_onTree _ _ between)

end Shelf

namespace Context

open Workspace (TellsOf)

/-- Saving tells of the backup that it makes. -/
theorem tells_save (context : Context) (session : Session) (workspace : Workspace) :
    TellsOf (context.shelfIn workspace) context.file workspace
      ((context.save session).run workspace).2 := by
  have looked : context.shelf.run workspace = (.ok (context.shelfIn workspace), workspace) := rfl
  rw [save, Attempt.run_bind_of_ok looked]
  refine TellsOf.bind (Shelf.tells_createIfPresent _ _ workspace) fun made between _ => ?_
  refine TellsOf.bind (.of_shown (Job.silent_onTree _ _ between)) fun events left stored => ?_
  obtain ⟨changed, ran, rfl⟩ := Job.exists_of_run_onTree_ok stored
  obtain ⟨⟨⟩, filled, -, told⟩ := Attempt.exists_of_run_bind_ok ran
  obtain rfl := Except.ok.inj (Prod.mk.inj told).1
  refine ⟨_, rfl, fun emission member source path wrong => ?_⟩
  rw [List.mem_singleton.mp member] at wrong
  contradiction

end Context

/-- A course tells of the backups that its edit makes. -/
theorem Course.tells {edits : Job Unit → Prop} {workspace : Workspace}
    {outcome : Except Failure Unit × Workspace} (course : Course edits workspace outcome)
    {shelf : Shelf} {file : Text}
    (told : ∀ edit, edits edit → ∀ emissions,
      Workspace.TellsOf shelf file (workspace.showing emissions)
        (edit.run (workspace.showing emissions)).2) :
    Workspace.TellsOf shelf file workspace outcome.2 := by
  have looking {emissions : List Emission}
      (quiet : ∀ emission ∈ emissions, emission.tellsChange = false) :
      Workspace.TellsOf shelf file workspace (workspace.showing emissions) := .of_quiet rfl quiet
  cases course with
  | looked quiet => exact looking quiet
  | @edited edit before after between is quiet silent ran =>
    have editing := told edit is before
    rw [ran] at editing
    exact ((looking quiet).trans editing).trans (.of_quiet rfl silent)
  | @failed edit before failure left is quiet ran =>
    have editing := told edit is before
    rw [ran] at editing
    exact (looking quiet).trans editing

namespace Command

open Workspace (TellsOf)

/-- Restoring a backup tells of the backup that it makes of the file before. -/
theorem tells_restore (context : Context) (id : Text) (workspace : Workspace) :
    TellsOf (context.shelfIn workspace) context.file workspace
      ((runBackup context (.restore id)).run workspace).2 := by
  have looked : context.shelf.run workspace = (.ok (context.shelfIn workspace), workspace) := rfl
  rw [runBackup, Attempt.run_bind_of_ok looked]
  refine (courses_restore context (context.shelfIn workspace) id workspace).tells ?_
  rintro edit ⟨found, rfl⟩ emissions
  exact Shelf.tells_restore _ found context.file (workspace.showing emissions)

/-- Cleaning up tells of no backup that was made. -/
theorem tells_clean (context : Context) (keep : Nat) (workspace : Workspace) :
    TellsOf (context.shelfIn workspace) context.file workspace
      ((runBackup context (.clean keep)).run workspace).2 := by
  have looked : context.shelf.run workspace = (.ok (context.shelfIn workspace), workspace) := rfl
  rw [runBackup, Attempt.run_bind_of_ok looked]
  refine TellsOf.bind (.of_shown (Shelf.silent_keepNewest _ _ workspace)) fun removed left _ => ?_
  split
  · exact .of_looks (Job.looks_putLine _) left
  · exact .of_looks (Context.looks_succeed _) left

/-- Writing the settings file tells of no backup that was made. -/
theorem tells_config (context : Context) (workspace : Workspace) :
    TellsOf (context.shelfIn workspace) context.file workspace
      ((runConfig context true).run workspace).2 := by
  have looked : Job.workspace.run workspace = (.ok workspace, workspace) := rfl
  have saved : Job.Silent Settings.default.save :=
    Job.Silent.bind (fun _ => rfl) fun _ => (Job.silent_onTree _ _).bind fun _ =>
      Job.silent_onTree _ _
  rw [runConfig, Attempt.run_bind_of_ok looked]
  dsimp only
  rw [if_pos rfl]
  split
  · exact .of_looks (Context.looks_warn _) workspace
  · exact TellsOf.bind (.of_shown (saved workspace)) fun _ left _ =>
      .of_looks (Context.looks_succeed _) left

/-- A command tells of no backups but those that it makes of its file. -/
theorem tells_run (context : Context) (command : Command) (workspace : Workspace) :
    TellsOf (context.shelfIn workspace) context.file workspace
      ((command.run context).run workspace).2 := by
  rcases courses_or_upkeep context command with courses | ⟨id, rfl⟩ | ⟨keep, rfl⟩ | rfl
  · refine (courses workspace).tells ?_
    rintro edit ⟨session, rfl⟩ emissions
    exact context.tells_save session (workspace.showing emissions)
  · exact tells_restore context id workspace
  · exact tells_clean context keep workspace
  · exact tells_config context workspace

end Command

end IniKeeper
