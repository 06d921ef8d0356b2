import IniKeeper.Proofs.ShelfVersions
import Mathlib.Logic.Relation

/-!
# One manager in the long run

A manager that is kept for long counts the backups that it makes and cleans up only when the count
or the time since the last cleanup is large enough. Making a backup either cleans up or counts one
more, and nothing else that it does adds a backup, so once it has made one the shelf holds no more
backups than the limit and the count together. The count never passes the interval between cleanups,
whatever the clock shows.
-/

namespace IniKeeper

open Store (Tree Place Path.aim Path.way)
open Store.Tree (Confined nowhere)
open Relation (ReflTransGen)

/-! ### Jobs that leave the schedule -/

namespace Job

variable {α β ε : Type}

/-- Whether a job leaves the schedule of the cleanups. -/
def LeavesSchedule (job : Job α) : Prop :=
  ∀ workspace, (job.run workspace).2.schedule = workspace.schedule

/-- Two jobs in a row leave the schedule if both do. -/
theorem LeavesSchedule.bind {job : Job α} {next : α → Job β} (first : LeavesSchedule job)
    (further : ∀ found, LeavesSchedule (next found)) : LeavesSchedule (job >>= next) := by
  intro workspace
  have same := first workspace
  rcases ran : job.run workspace with ⟨failure | found, between⟩
  · rw [Attempt.run_bind_of_error ran]
    rw [ran] at same
    exact same
  · rw [Attempt.run_bind_of_ok ran]
    rw [ran] at same
    exact (further found between).trans same

/-- A job that only looks leaves the schedule. -/
theorem Looks.leavesSchedule {job : Job α} (looks : Looks job) : LeavesSchedule job := by
  intro workspace
  obtain ⟨emissions, -, left⟩ := looks workspace
  rw [left]
  rfl

/-- Work on the tree leaves the schedule. -/
theorem leavesSchedule_onTree (meaning : ε → Failure) (steps : Store.Steps ε α) :
    LeavesSchedule (onTree meaning steps) := by
  intro workspace
  rw [run_onTree]

end Job

namespace Shelf

variable {shelf : Shelf} {tree changed : Tree} {workspace before after : Workspace} {count : Nat}
  {source id target : Text}

/-- Removing backups leaves the schedule. -/
theorem leavesSchedule_removeAll (old : List Backup) : Job.LeavesSchedule (removeAll old) := by
  induction old with
  | nil => exact fun _ => rfl
  | cons backup rest ih => exact (Job.leavesSchedule_onTree _ _).bind fun _ => ih

/-- Keeping the newest backups leaves the schedule. -/
theorem leavesSchedule_keepNewest (shelf : Shelf) (count : Nat) :
    Job.LeavesSchedule (shelf.keepNewest count) :=
  shelf.looks_list.leavesSchedule.bind fun kept =>
    (leavesSchedule_removeAll (kept.drop count)).bind fun _ _ => rfl

/-! ### What a call that succeeded came to -/

/-- A cleanup that is not due was made before, and few enough backups were made since. -/
theorem of_isCleanupDue {due : Bool} (told : isCleanupDue.run workspace = (.ok due, after)) :
    after.tree = workspace.tree ∧ after.schedule = workspace.schedule ∧
      (due = false →
        workspace.schedule.made < cleanupInterval ∧ workspace.schedule.last ≠ none) := by
  have tree := tree_isCleanupDue workspace
  rw [told] at tree
  rw [isCleanupDue, Job.run_bind_of_ok (Job.run_workspace workspace)] at told
  dsimp only at told
  split at told
  · obtain ⟨answer, rfl⟩ := Prod.mk.inj told
    obtain rfl : true = due := Except.ok.inj answer
    exact ⟨tree, rfl, fun wrong => by contradiction⟩
  · rename_i few
    cases made : workspace.schedule.last with
    | none =>
      rw [made] at told
      obtain ⟨answer, rfl⟩ := Prod.mk.inj told
      obtain rfl : true = due := Except.ok.inj answer
      exact ⟨tree, rfl, fun wrong => by contradiction⟩
    | some last =>
      rw [made] at told
      obtain rfl : workspace.ticked = after := (Prod.mk.inj told).2
      exact ⟨tree, rfl, fun _ => ⟨Nat.lt_of_not_le few, by simp⟩⟩

/-- What cleaning up, if it is time for it, comes to where it succeeds. -/
inductive Upkept (shelf : Shelf) (before after : Workspace) : Prop where
  /-- The shelf was cleaned up, and the count starts anew. -/
  | cleaned {begun between : Workspace} {removed : Nat} (same : begun.tree = before.tree)
      (kept : (shelf.keepNewest shelf.limit).run begun = (.ok removed, between))
      (tree : after.tree = between.tree) (counted : after.schedule.made = 0)
      (stamped : after.schedule.last ≠ none)
  /-- A cleanup was not due, and one more backup is counted. -/
  | counted (few : before.schedule.made < cleanupInterval)
      (cleaned : before.schedule.last ≠ none) (tree : after.tree = before.tree)
      (schedule : after.schedule = ⟨before.schedule.made + 1, before.schedule.last⟩)

/-- A cleanup that succeeds was made or was not due. -/
theorem upkept_of_cleanUpIfDue (done : shelf.cleanUpIfDue.run before = (.ok (), after)) :
    shelf.Upkept before after := by
  obtain ⟨due, told, asked, rest⟩ := Attempt.exists_of_run_bind_ok done
  obtain ⟨tree, schedule, undue⟩ := of_isCleanupDue asked
  cases due with
  | true =>
    obtain ⟨removed, between, kept, rest⟩ := Attempt.exists_of_run_bind_ok rest
    rw [Attempt.run_bind_of_ok (Job.run_now between)] at rest
    have left := (Prod.mk.inj rest).2
    subst left
    exact .cleaned tree kept rfl rfl (Option.some_ne_none _)
  | false =>
    obtain ⟨few, cleaned⟩ := undue rfl
    have left := (Prod.mk.inj rest).2
    subst left
    refine .counted few cleaned tree ?_
    rw [← schedule]

/-- Backing up a file if there is one makes a backup or does nothing. -/
theorem create_or_eq_of_createIfPresent {made : Option Text}
    (done : (shelf.createIfPresent source).run before = (.ok made, after)) :
    (∃ path, made = some path ∧ (shelf.create source).run before = (.ok path, after)) ∨
      made = none ∧ before.tree.has source = false ∧ after = before := by
  rw [createIfPresent, Job.run_bind_of_ok (Job.run_tree before)] at done
  cases present : before.tree.has source with
  | true =>
    rw [present, if_pos rfl] at done
    obtain ⟨path, between, created, rest⟩ := Attempt.exists_of_run_bind_ok done
    obtain ⟨answer, rfl⟩ := Prod.mk.inj rest
    exact .inl ⟨path, (Except.ok.inj answer).symm, created⟩
  | false =>
    rw [present] at done
    obtain ⟨answer, rfl⟩ := Prod.mk.inj done
    exact .inr ⟨(Except.ok.inj answer).symm, rfl, rfl⟩

/-- The steps of restoring a backup that succeeds: the file was backed up if it was there, and then
a backup was copied over it. -/
theorem exists_of_restore (done : (shelf.restore id target).run before = (.ok (), after)) :
    ∃ (path : Text) (made : Option Text) (between : Workspace) (copied : Tree),
      (shelf.createIfPresent target).run before = (.ok made, between) ∧
        between.tree.copy path target = .ok copied ∧ after = { between with tree := copied } := by
  cases listed : shelf.backups before.tree with
  | error cause =>
    have failed : (shelf.find id).run before = (.error (.cause cause), before) := by
      have looked : shelf.list.run before = (.error (.cause cause), before) := by
        rw [list, Job.run_bind_of_ok (Job.run_tree before), listed]
        rfl
      exact Attempt.run_bind_of_error looked _
    rw [restore, Attempt.run_bind_of_error failed] at done
    have wrong := (Prod.mk.inj done).1
    contradiction
  | ok kept =>
    rw [restore, Attempt.run_bind_of_ok (run_find listed id)] at done
    cases found : kept.find? (Backup.goesBy id) with
    | none =>
      rw [found] at done
      have wrong := (Prod.mk.inj done).1
      contradiction
    | some backup =>
      rw [found] at done
      obtain ⟨made, between, saved, rest⟩ := Attempt.exists_of_run_bind_ok done
      obtain ⟨copied, copies, left⟩ := Job.exists_of_run_once_ok rest
      exact ⟨backup.path, made, between, copied, saved, copies, left⟩

/-! ### The bound -/

/-- A file that is put somewhere adds at most one backup to the stock. -/
theorem length_stock_set_le (shelf : Shelf) (tree : Tree) (place : Place) (node : Store.Node) :
    (shelf.stock (tree.set place node)).length ≤ (shelf.stock tree).length + 1 := by
  have picked (tree : Tree) : (shelf.stock tree).length =
      (tree.nodes.filterMap fun entry =>
        ((Store.Tree.nameIn? (shelf.site tree.start) entry.1).map (·, entry.2)).bind fun listed =>
          Backup.ofNode? shelf.folder listed.1 listed.2).length := by
    rw [stock, List.length_mergeSort, held, Store.Tree.children, List.filterMap_filterMap]
  rw [picked, picked]
  exact Roster.length_filterMap_upsert_le _ _ _ _ _ _

/-- Whether the folder of a shelf is there and holds at most so many backups more than the limit. -/
structure Holding (shelf : Shelf) (tree : Tree) (more : Nat) : Prop where
  /-- The folder is found. -/
  found : tree.find shelf.folder = .ok .folder
  /-- There are few enough. -/
  few : (shelf.stock tree).length ≤ shelf.limit + more

namespace Holding

/-- A folder that holds at most so many backups lists at most so many. -/
theorem exists_listed {more : Nat} (holding : shelf.Holding tree more) :
    ∃ kept, shelf.backups tree = .ok kept ∧ kept.length ≤ shelf.limit + more :=
  ⟨_, (standsAt_of_find holding.found).backups_eq_stock, holding.few⟩

/-- A folder that lists what it listed in another tree holds as many there. -/
theorem of_list {more : Nat} (holding : shelf.Holding tree more)
    (same : ∀ entries, tree.list shelf.folder = .ok entries →
      changed.list shelf.folder = .ok entries) : shelf.Holding changed more := by
  have stands := standsAt_of_find holding.found
  have listed := same _ (Store.Tree.list_eq stands.resolve holding.found)
  have found : changed.find shelf.folder = .ok .folder := by
    obtain ⟨node, found, entries⟩ := Attempt.bind_eq_ok_iff.mp listed
    cases node with
    | folder => exact found
    | file content => contradiction
  have still := standsAt_of_find found
  have children : changed.children (shelf.site changed.start) =
      tree.children (shelf.site tree.start) :=
    Except.ok.inj ((Store.Tree.list_eq still.resolve found).symm.trans listed)
  refine ⟨found, ?_⟩
  rw [stock, children]
  exact holding.few

/-- A cleanup never leaves more backups than there were. -/
theorem of_keepNewest {more removed : Nat} (holding : shelf.Holding before.tree more)
    (sound : before.tree.Sound)
    (done : (shelf.keepNewest count).run before = (.ok removed, after)) :
    shelf.Holding after.tree more := by
  have confined := shelf.within_keepNewest before.tree.start count before sound rfl
  rw [done] at confined
  exact ⟨confined.find_folder holding.found,
    (length_stock_of_keepNewest sound done).trans holding.few⟩

/-- Copying a file to somewhere else leaves as many. -/
theorem of_copy {more : Nat} {path : Text} (holding : shelf.Holding tree more)
    (copied : tree.copy path target = .ok changed)
    (outside : ¬ shelf.Inside tree.start (Path.aim tree.start target)) :
    shelf.Holding changed more := by
  have confined := Store.Tree.confined_copy copied
  have apart : ∀ place, place = Path.aim tree.start target ∨ nowhere place →
      ¬ shelf.Inside tree.start place := by
    rintro place (rfl | none)
    · exact outside
    · exact none.elim
  refine ⟨confined.find_folder holding.found, ?_⟩
  rw [stock_of_confined confined apart]
  exact holding.few

end Holding

/-- A cleanup leaves no more than the limit. -/
theorem holding_of_keepNewest {removed : Nat} (sound : before.tree.Sound)
    (found : before.tree.find shelf.folder = .ok .folder)
    (done : (shelf.keepNewest shelf.limit).run before = (.ok removed, after)) :
    shelf.Holding after.tree 0 := by
  obtain ⟨still, left⟩ := stock_of_keepNewest sound (standsAt_of_find found) done
  refine ⟨still.found, ?_⟩
  rw [left, List.length_take]
  exact Nat.min_le_left _ _

/-- Whether a manager is within its bounds: the count is within the interval, and once there was a
cleanup, the shelf holds no more than the limit and the count together. A path that is empty names
no folder, so nothing is ever found there. -/
structure Steady (shelf : Shelf) (workspace : Workspace) : Prop where
  /-- The tree is in order. -/
  sound : workspace.tree.Sound
  /-- The count is within the interval. -/
  counted : workspace.schedule.made ≤ cleanupInterval
  /-- The shelf holds few enough. -/
  holding : workspace.schedule.last ≠ none → shelf.folder ≠ [] →
    shelf.Holding workspace.tree workspace.schedule.made

namespace Steady

/-- A manager that has done nothing yet is within its bounds. -/
theorem of_fresh (sound : workspace.tree.Sound) (fresh : workspace.schedule = .fresh) :
    shelf.Steady workspace where
  sound := sound
  counted := by
    rw [fresh]
    exact Nat.zero_le _
  holding := by
    intro cleaned
    rw [fresh] at cleaned
    exact absurd rfl cleaned

/-- A manager within its bounds that has cleaned up lists few enough backups. -/
theorem exists_listed (steady : shelf.Steady workspace)
    (cleaned : workspace.schedule.last ≠ none) :
    ∃ kept, shelf.backups workspace.tree = .ok kept ∧
      kept.length ≤ shelf.limit + workspace.schedule.made := by
  by_cases some : shelf.folder = []
  · have absent : workspace.tree.has shelf.folder = false := by
      rw [some]
      rfl
    refine ⟨[], ?_, Nat.zero_le _⟩
    rw [backups, absent]
    rfl
  · exact (steady.holding cleaned some).exists_listed

/-- Making a backup keeps the manager within its bounds, and a cleanup was made by then. -/
theorem create {path : Text} (steady : shelf.Steady before)
    (done : (shelf.create source).run before = (.ok path, after)) :
    shelf.Steady after ∧ after.schedule.last ≠ none := by
  have confined := shelf.within_create before.tree.start source before steady.sound rfl
  rw [done] at confined
  have sound := confined.sound steady.sound
  obtain ⟨made, copied, folders, copies, cleaned⟩ := exists_of_create done
  have making := Store.Steps.confined_makeFolders shelf.folder before.tree
  rw [folders] at making
  have copying := Store.Tree.confined_copy copies
  have between : copied.Sound := copying.sound (making.sound steady.sound)
  have found (some : shelf.folder ≠ []) : copied.find shelf.folder = .ok .folder :=
    copying.find_folder (Store.Steps.find_of_makeFolders some folders)
  cases upkept_of_cleanUpIfDue cleaned with
  | @cleaned begun ended removed same kept tree counted stamped =>
    refine ⟨⟨sound, by simp [counted], fun _ some => ?_⟩, stamped⟩
    rw [tree, counted]
    exact holding_of_keepNewest (same ▸ between) (same ▸ found some) kept
  | counted few stamped tree schedule =>
    refine ⟨⟨sound, ?_, fun _ some => ?_⟩, ?_⟩
    · rw [schedule]
      exact few
    · -- The folder was there at the last cleanup, so only the copy came to it since.
      have holding := steady.holding stamped some
      obtain rfl : before.tree = made := by
        rw [Store.Steps.run_makeFolders_of_found holding.found] at folders
        exact (Prod.mk.inj folders).2
      obtain ⟨place, content, -, rfl⟩ := Store.Tree.exists_of_copy copies
      have most := shelf.length_stock_set_le before.tree place (.file content)
      have few := (most.trans (Nat.add_le_add_right holding.few 1)).trans (Nat.add_assoc ..).le
      rw [tree, schedule]
      exact ⟨found some, few⟩
    · rw [schedule]
      exact stamped

/-- Backing up a file if there is one keeps the manager within its bounds, and a cleanup was made by
then if there was one. -/
theorem createIfPresent {made : Option Text} (steady : shelf.Steady before)
    (done : (shelf.createIfPresent source).run before = (.ok made, after)) :
    shelf.Steady after ∧ (before.schedule.last ≠ none → after.schedule.last ≠ none) ∧
      (made ≠ none → after.schedule.last ≠ none) := by
  obtain ⟨path, -, created⟩ | ⟨rfl, -, rfl⟩ := create_or_eq_of_createIfPresent done
  · obtain ⟨still, cleaned⟩ := steady.create created
    exact ⟨still, fun _ => cleaned, fun _ => cleaned⟩
  · exact ⟨steady, id, fun wrong => absurd rfl wrong⟩

/-- Restoring a backup to a file that is not in the folder keeps the manager within its bounds, and
a cleanup was made by then if there was such a file. -/
theorem restore (steady : shelf.Steady before)
    (outside : ¬ shelf.Inside before.tree.start (Path.aim before.tree.start target))
    (done : (shelf.restore id target).run before = (.ok (), after)) :
    shelf.Steady after ∧ (before.schedule.last ≠ none → after.schedule.last ≠ none) ∧
      (before.tree.has target = true → after.schedule.last ≠ none) := by
  obtain ⟨path, made, between, copied, saved, copies, rfl⟩ := exists_of_restore done
  obtain ⟨still, stays, cleaned⟩ := steady.createIfPresent saved
  have confined := shelf.within_createIfPresent before.tree.start target before steady.sound rfl
  rw [saved] at confined
  rw [← confined.start] at outside
  refine ⟨⟨(Store.Tree.confined_copy copies).sound still.sound, still.counted,
    fun stamped some => (still.holding stamped some).of_copy copies outside⟩, stays, ?_⟩
  intro present
  obtain ⟨path, rfl, -⟩ | ⟨-, absent, -⟩ := create_or_eq_of_createIfPresent saved
  · exact cleaned (Option.some_ne_none path)
  · rw [absent] at present
    contradiction

/-- Keeping only the newest backups keeps the manager within its bounds. -/
theorem keepNewest {removed : Nat} (steady : shelf.Steady before)
    (done : (shelf.keepNewest count).run before = (.ok removed, after)) :
    shelf.Steady after ∧ after.schedule = before.schedule := by
  have confined := shelf.within_keepNewest before.tree.start count before steady.sound rfl
  have schedule := shelf.leavesSchedule_keepNewest count before
  rw [done] at confined schedule
  refine ⟨⟨confined.sound steady.sound, ?_, ?_⟩, schedule⟩
  · rw [schedule]
    exact steady.counted
  · rw [schedule]
    exact fun cleaned some => (steady.holding cleaned some).of_keepNewest steady.sound done

end Steady

/-! ### Runs -/

/-- What happens to a workspace while one manager is in use: a call of the manager that succeeds, or
something elsewhere that does not change what lies in the folder of the shelf. -/
inductive Move (shelf : Shelf) (before after : Workspace) : Prop where
  /-- A file is backed up. -/
  | create {source path : Text} (done : (shelf.create source).run before = (.ok path, after))
  /-- A file is backed up if it is there. -/
  | createIfPresent {source : Text} {made : Option Text}
      (done : (shelf.createIfPresent source).run before = (.ok made, after))
  /-- A backup is restored to a file that does not lie in the folder. -/
  | restore {id target : Text}
      (outside : ¬ shelf.Inside before.tree.start (Path.aim before.tree.start target))
      (done : (shelf.restore id target).run before = (.ok (), after))
  /-- The shelf is cleaned up. -/
  | cleanUp {removed : Nat} (done : shelf.cleanUp.run before = (.ok removed, after))
  /-- The shelf is cleaned up to a number of backups of one's own. -/
  | keepNewest {count removed : Nat}
      (done : (shelf.keepNewest count).run before = (.ok removed, after))
  /-- Something is done elsewhere, for which the clock may go anywhere. -/
  | elsewhere (sound : before.tree.Sound → after.tree.Sound)
      (same : ∀ entries, before.tree.list shelf.folder = .ok entries →
        after.tree.list shelf.folder = .ok entries)
      (schedule : after.schedule = before.schedule)

/-- A call of the manager that succeeds and makes a backup. -/
inductive Backs (shelf : Shelf) (before after : Workspace) : Prop where
  /-- A file is backed up. -/
  | create {source path : Text} (done : (shelf.create source).run before = (.ok path, after))
  /-- A file that is there is backed up. -/
  | createIfPresent {source path : Text}
      (done : (shelf.createIfPresent source).run before = (.ok (some path), after))
  /-- A backup is restored over a file that is there and does not lie in the folder. -/
  | restore {id target : Text}
      (outside : ¬ shelf.Inside before.tree.start (Path.aim before.tree.start target))
      (present : before.tree.has target = true)
      (done : (shelf.restore id target).run before = (.ok (), after))

/-- What happens keeps a manager within its bounds, and a cleanup that was made stays made. -/
theorem Steady.move (steady : shelf.Steady before) (move : shelf.Move before after) :
    shelf.Steady after ∧ (before.schedule.last ≠ none → after.schedule.last ≠ none) := by
  cases move with
  | create done =>
    obtain ⟨still, cleaned⟩ := steady.create done
    exact ⟨still, fun _ => cleaned⟩
  | createIfPresent done =>
    obtain ⟨still, stays, -⟩ := steady.createIfPresent done
    exact ⟨still, stays⟩
  | restore outside done =>
    obtain ⟨still, stays, -⟩ := steady.restore outside done
    exact ⟨still, stays⟩
  | cleanUp done =>
    obtain ⟨still, schedule⟩ := steady.keepNewest done
    exact ⟨still, schedule ▸ id⟩
  | keepNewest done =>
    obtain ⟨still, schedule⟩ := steady.keepNewest done
    exact ⟨still, schedule ▸ id⟩
  | elsewhere sound same schedule =>
    refine ⟨⟨sound steady.sound, ?_, ?_⟩, schedule ▸ id⟩
    · rw [schedule]
      exact steady.counted
    · rw [schedule]
      exact fun cleaned some => (steady.holding cleaned some).of_list same

/-- Whatever happens in a row keeps a manager within its bounds, and a cleanup that was made stays
made. -/
theorem Steady.moves (steady : shelf.Steady before) (moves : ReflTransGen shelf.Move before after) :
    shelf.Steady after ∧ (before.schedule.last ≠ none → after.schedule.last ≠ none) := by
  induction moves with
  | refl => exact ⟨steady, id⟩
  | tail _ move ih =>
    obtain ⟨still, stays⟩ := ih
    obtain ⟨again, further⟩ := still.move move
    exact ⟨again, fun cleaned => further (stays cleaned)⟩

/-- A call that makes a backup keeps a manager within its bounds, and a cleanup was made by then. -/
theorem Steady.backs (steady : shelf.Steady before) (backs : shelf.Backs before after) :
    shelf.Steady after ∧ after.schedule.last ≠ none := by
  cases backs with
  | create done => exact steady.create done
  | createIfPresent done =>
    obtain ⟨still, -, cleaned⟩ := steady.createIfPresent done
    exact ⟨still, cleaned (Option.some_ne_none _)⟩
  | restore outside present done =>
    obtain ⟨still, -, cleaned⟩ := steady.restore outside done
    exact ⟨still, cleaned present⟩

/-- From the first backup on that a manager makes, whatever it does and whatever the clock shows, at
most ten backups were made since the last cleanup, and the shelf lists at most as many backups as
the limit and these together. -/
theorem backups_stay_bounded {begun current : Workspace} (sound : begun.tree.Sound)
    (fresh : begun.schedule = .fresh) (earlier : ReflTransGen shelf.Move begun before)
    (backs : shelf.Backs before after) (later : ReflTransGen shelf.Move after current) :
    current.schedule.made ≤ 10 ∧
      (shelf.folder ≠ [] → current.tree.find shelf.folder = .ok .folder) ∧
      ∃ kept, shelf.backups current.tree = .ok kept ∧
        kept.length ≤ shelf.limit + current.schedule.made ∧ kept.length ≤ shelf.limit + 10 := by
  obtain ⟨steady, -⟩ := (Steady.of_fresh sound fresh).moves earlier
  obtain ⟨again, cleaned⟩ := steady.backs backs
  obtain ⟨still, stays⟩ := again.moves later
  have counted : current.schedule.made ≤ 10 := still.counted
  obtain ⟨kept, listed, few⟩ := still.exists_listed (stays cleaned)
  exact ⟨counted, fun some => (still.holding (stays cleaned) some).found, kept, listed, few,
    few.trans (Nat.add_le_add_left counted _)⟩

/-- A file that was never backed up. -/
def neverBackedUp : Workspace :=
  { backedUpOnce with tree := ⟨[], [(["app.ini".toList], .file "new".toUTF8)]⟩ }

/-- A manager that keeps one backup and made two of a file lists at most two. -/
theorem backups_stay_bounded_twice :
    let shelf : Shelf := ⟨"backups".toList, 1⟩
    let first := ((shelf.create "app.ini".toList).run neverBackedUp).2
    let second := ((shelf.create "app.ini".toList).run first).2
    second.schedule.made = 1 ∧
      ∃ kept, shelf.backups second.tree = .ok kept ∧ kept.length ≤ 2 := by
  intro shelf first second
  have sound : neverBackedUp.tree.Sound :=
    ⟨by decide +kernel, by decide +kernel, by decide +kernel⟩
  obtain ⟨path, made⟩ : ∃ path,
      (shelf.create "app.ini".toList).run neverBackedUp = (.ok path, first) :=
    Attempt.exists_run_of_isOk (by decide +kernel)
  obtain ⟨other, again⟩ : ∃ path,
      (shelf.create "app.ini".toList).run first = (.ok path, second) :=
    Attempt.exists_run_of_isOk (by decide +kernel)
  have counted : second.schedule.made = 1 := by decide +kernel
  obtain ⟨-, -, kept, listed, few, -⟩ := backups_stay_bounded sound rfl .refl (.create made)
    (.single (.create again))
  rw [counted] at few
  exact ⟨counted, kept, listed, few⟩

end Shelf

end IniKeeper
