import IniKeeper.Proofs.Jobs
import IniKeeper.Proofs.Shelves

/-!
# How backups come and go

Removing old backups takes just their files from the tree, and what is left on the shelf is the
newest ones. Backing up a file puts one more backup in front of the others; the first one that is
made cleans up, so the shelf then holds the newest ones again, with the new one among them.
-/

namespace IniKeeper

namespace Shelf

open Store (Tree Place Node)

variable {shelf : Shelf} {workspace : Workspace} {home : Place} {kept : List Backup}

/-! ### Removing -/

/-- Whether each of some backups is a file that its path leads to. -/
def AllReadable (tree : Tree) (home : Place) (backups : List Backup) : Prop :=
  ∀ backup ∈ backups, ∃ content, tree.LeadsTo backup.path (placeOf home backup) content

/-- Backups are still files where others are taken. -/
theorem AllReadable.without {tree : Tree} {backups others : List Backup}
    (readable : AllReadable tree home backups) (taken : AllReadable tree home others)
    (apart : ∀ backup ∈ backups, placeOf home backup ∉ others.map (placeOf home)) :
    AllReadable (tree.without (others.map (placeOf home))) home backups := by
  intro backup member
  obtain ⟨content, leads⟩ := readable backup member
  refine ⟨content, leads.of_sameFolders (Tree.sameFolders_without ?_) ?_⟩
  · intro place inside
    obtain ⟨other, listed, rfl⟩ := List.mem_map.mp inside
    obtain ⟨held, there⟩ := taken other listed
    exact there.plain
  · rw [Tree.node?_without_of_not_mem (apart backup member)]
    exact leads.node

/-- Removing backups takes their files. -/
theorem run_removeAll {old : List Backup} (sound : workspace.tree.Sound)
    (readable : AllReadable workspace.tree home old) (distinct : (old.map Backup.filename).Nodup) :
    (removeAll old).run workspace =
      (.ok (), { workspace with tree := workspace.tree.without (old.map (placeOf home)) }) := by
  -- The files of the rest have other names, so they are there still when the first one is gone.
  induction old generalizing workspace with
  | nil =>
    rw [List.map_nil, Tree.without_nil]
    rfl
  | cons backup rest ih =>
    obtain ⟨content, leads⟩ := readable backup List.mem_cons_self
    rw [List.map_cons, List.nodup_cons] at distinct
    have apart : ∀ other ∈ rest, placeOf home other ∉ [backup].map (placeOf home) := by
      intro other member same
      rw [List.map_singleton, List.mem_singleton, placeOf_eq_iff] at same
      exact distinct.1 (same ▸ List.mem_map_of_mem member)
    have left : AllReadable (workspace.tree.without [placeOf home backup]) home rest :=
      AllReadable.without (fun other member => readable other (List.mem_cons_of_mem backup member))
        (fun other member =>
          readable other (List.mem_cons.mpr (.inl (List.mem_singleton.mp member))))
        apart
    have removed := @Job.run_once_of_ok .cause (·.remove backup.path) workspace _
      (Tree.remove_eq sound leads)
    have further := @ih { workspace with tree := workspace.tree.without [placeOf home backup] }
      (sound.without _) left distinct.2
    rw [removeAll, Job.run_bind_of_ok removed, further]
    simp only [Tree.without_without, List.map_cons, List.singleton_append]

/-- Listing a shelf gives its backups and changes nothing. -/
theorem run_list (listed : shelf.backups workspace.tree = .ok kept) :
    shelf.list.run workspace = (.ok kept, workspace) := by
  rw [list, Job.run_bind_of_ok (Job.run_tree workspace), listed]
  rfl

/-- Looking for a backup gives the first that goes by the id. -/
theorem run_find (listed : shelf.backups workspace.tree = .ok kept) (id : Text) :
    (shelf.find id).run workspace = (.ok (kept.find? (Backup.goesBy id)), workspace) := by
  rw [find, Job.run_bind_of_ok (run_list listed)]
  rfl

/-- Keeping the newest backups takes the files of the others. -/
theorem run_keepNewest {count : Nat} (listed : shelf.backups workspace.tree = .ok kept)
    (sound : workspace.tree.Sound) (readable : AllReadable workspace.tree home (kept.drop count))
    (distinct : (kept.map Backup.filename).Nodup) :
    (shelf.keepNewest count).run workspace =
      (.ok (kept.drop count).length,
        { workspace with tree :=
            workspace.tree.without ((kept.drop count).map (placeOf home)) }) := by
  have dropped : (kept.drop count).Sublist kept := List.drop_sublist count kept
  have removed := run_removeAll sound readable (distinct.sublist (dropped.map Backup.filename))
  rw [keepNewest, Job.run_bind_of_ok (run_list listed), Job.run_bind_of_ok removed]
  rfl

/-- A backup that is kept is at another place than those that are dropped. -/
theorem not_mem_dropped (distinct : (kept.map Backup.filename).Nodup) {count : Nat}
    {backup : Backup} (newest : backup ∈ kept.take count) :
    placeOf home backup ∉ (kept.drop count).map (placeOf home) := by
  intro inside
  obtain ⟨other, dropped, same⟩ := List.mem_map.mp inside
  rw [← List.take_append_drop count kept, List.map_append, List.nodup_append] at distinct
  obtain ⟨-, -, apart⟩ := distinct
  exact apart backup.filename (List.mem_map_of_mem newest) other.filename
    (List.mem_map_of_mem dropped) (placeOf_eq_iff.mp same).symm

/-- What is left when the older backups are taken is the newest ones. -/
theorem filter_not_dropped (distinct : (kept.map Backup.filename).Nodup) (count : Nat) :
    kept.filter (fun backup => placeOf home backup ∉ (kept.drop count).map (placeOf home)) =
      kept.take count := by
  let stays (backup : Backup) : Bool :=
    placeOf home backup ∉ (kept.drop count).map (placeOf home)
  have front : (kept.take count).filter stays = kept.take count :=
    List.filter_eq_self.mpr fun backup newest => decide_eq_true (not_mem_dropped distinct newest)
  have rest : (kept.drop count).filter stays = [] := by
    refine List.filter_eq_nil_iff.mpr fun backup member stay => ?_
    exact (of_decide_eq_true stay) (List.mem_map_of_mem member)
  calc
    kept.filter stays = (kept.take count ++ kept.drop count).filter stays := by
      rw [List.take_append_drop]
    _ = kept.take count := by
      rw [List.filter_append, front, rest, List.append_nil]

/-! ### Making -/

/-- The instant that the clock shows next. -/
def nextInstant (workspace : Workspace) : Instant :=
  workspace.clock.reading workspace.clock.taken

/-- The path of the backup that is made next. -/
def nextPath (shelf : Shelf) (workspace : Workspace) : Text :=
  Store.Path.under shelf.folder (Backup.nameAt (nextInstant workspace))

/-- The place of the backup that is made next. -/
def nextPlace (workspace : Workspace) (home : Place) : Place :=
  home ++ [Backup.nameAt (nextInstant workspace)]

/-- The backup that is made next. -/
def nextBackup (shelf : Shelf) (workspace : Workspace) (content : ByteArray) : Backup :=
  Backup.madeAt shelf.folder (nextInstant workspace) content

/-- The backup that is made next has the next path. -/
theorem path_nextBackup (shelf : Shelf) (workspace : Workspace) (content : ByteArray) :
    (shelf.nextBackup workspace content).path = shelf.nextPath workspace := by
  rw [nextBackup, nextPath, Backup.madeAt]

/-- The backup that is made next is kept at the next place. -/
theorem placeOf_nextBackup (shelf : Shelf) (workspace : Workspace) (home : Place)
    (content : ByteArray) :
    placeOf home (shelf.nextBackup workspace content) = nextPlace workspace home := by
  rw [placeOf, nextPlace, nextBackup, Backup.madeAt]

/-- The tree with one more backup. -/
def withNext (workspace : Workspace) (home : Place) (content : ByteArray) : Tree :=
  workspace.tree.set (nextPlace workspace home) (.file content)

/-- The backups with one more. -/
def next (shelf : Shelf) (workspace : Workspace) (kept : List Backup) (content : ByteArray) :
    List Backup :=
  shelf.nextBackup workspace content :: kept

/-- Whether a shelf is at a place with these backups, all of them older than the clock, and there
is nothing in the way of one more. -/
structure Ready (shelf : Shelf) (workspace : Workspace) (home : Place) (kept : List Backup) :
    Prop where
  /-- The tree is in order. -/
  sound : workspace.tree.Sound
  /-- At least one backup is kept. -/
  limited : 1 ≤ shelf.limit
  /-- The shelf is at the place. -/
  stands : shelf.StandsAt workspace.tree home
  /-- It has these backups. -/
  listed : shelf.backups workspace.tree = .ok kept
  /-- Those that one more leaves no room for are files. -/
  readable : AllReadable workspace.tree home (kept.drop (shelf.limit - 1))
  /-- They were made before now. -/
  older : ∀ backup ∈ kept, backup.id < (nextInstant workspace).stamp
  /-- One more can be written. -/
  room : ∃ place, workspace.tree.Takes (shelf.nextPath workspace) place

namespace Ready

variable (ready : shelf.Ready workspace home kept) (content : ByteArray)

include ready

/-- The next backup is written to the place of its name. -/
theorem takes : workspace.tree.Takes (shelf.nextPath workspace) (nextPlace workspace home) := by
  obtain ⟨place, takes⟩ := ready.room
  have here : place = nextPlace workspace home :=
    Tree.resolve_under (Backup.proper_nameAt _) ready.stands.resolve takes.resolve
  rw [← here]
  exact takes

/-- Nothing is at the next place yet. -/
theorem nothing_there : workspace.tree.node? (nextPlace workspace home) = none := by
  cases held : workspace.tree.node? (nextPlace workspace home) with
  | none => rfl
  | some node =>
    cases node with
    | folder => exact absurd held ready.takes.plain
    | file content =>
      have inside := (ready.sound.mem_children_iff).mpr held
      have made := Backup.ofNode?_nameAt shelf.folder (nextInstant workspace) content
      have member := mem_held_iff.mpr ⟨_, inside, made⟩
      have among := ready.stands.kept_eq ready.listed ▸ List.mem_mergeSort.mpr member
      -- Its id is the stamp of the next instant, and it would have to be smaller than that.
      exact absurd (ready.older _ among) (List.lt_irrefl _)

/-- No file is at the next place. -/
theorem ne_nextPlace {path : Text} {place : Place} {held : ByteArray}
    (leads : workspace.tree.LeadsTo path place held) : place ≠ nextPlace workspace home := by
  rintro rfl
  have nothing := ready.nothing_there
  rw [leads.node] at nothing
  contradiction

/-- The next backup leaves the folders. -/
theorem sameFolders : Tree.SameFolders workspace.tree (withNext workspace home content) :=
  Tree.sameFolders_set ready.takes.plain content

/-- A sound tree stays sound with the next backup. -/
theorem sound_withNext : (withNext workspace home content).Sound :=
  ready.sound.set (ready.sound.proper_of_resolve ready.takes.resolve) _

/-- The shelf is where it was after the next backup. -/
theorem stands_withNext : shelf.StandsAt (withNext workspace home content) home :=
  ready.stands.of_sameFolders (ready.sameFolders content)

/-- After the next backup the shelf has it in front of the others. -/
theorem listed_withNext : shelf.backups (withNext workspace home content) =
    .ok (shelf.next workspace kept content) :=
  ready.stands.backups_set_new ready.listed ready.nothing_there ready.older content

/-- The files that were there are there still after the next backup. -/
theorem leadsTo_withNext {path : Text} {place : Place} {held : ByteArray}
    (leads : workspace.tree.LeadsTo path place held) :
    (withNext workspace home content).LeadsTo path place held := by
  refine leads.of_sameFolders (ready.sameFolders content) ?_
  rw [withNext, Tree.node?_set_other (ready.ne_nextPlace leads)]
  exact leads.node

/-- The next backup is kept with one less of the others. -/
theorem take_next : (shelf.next workspace kept content).take shelf.limit =
    shelf.nextBackup workspace content :: kept.take (shelf.limit - 1) := by
  obtain ⟨fewer, limit⟩ := Nat.exists_eq_add_one.mpr ready.limited
  rw [limit]
  rfl

/-- The others are dropped that the next backup leaves no room for. -/
theorem drop_next :
    (shelf.next workspace kept content).drop shelf.limit = kept.drop (shelf.limit - 1) := by
  obtain ⟨fewer, limit⟩ := Nat.exists_eq_add_one.mpr ready.limited
  rw [limit]
  rfl

/-- The backups that the next one leaves no room for are files. -/
theorem readable_withNext :
    AllReadable (withNext workspace home content) home
      ((shelf.next workspace kept content).drop shelf.limit) := by
  rw [ready.drop_next]
  intro backup dropped
  obtain ⟨held, leads⟩ := ready.readable backup dropped
  exact ⟨held, ready.leadsTo_withNext content leads⟩

/-- The next backup and the others have different names. -/
theorem distinct_next : ((shelf.next workspace kept content).map Backup.filename).Nodup :=
  (ready.stands_withNext content).nodup_filenames (ready.sound_withNext content)
    (ready.listed_withNext content)

end Ready

/-- The tree with one more backup and without those that the limit then leaves no room for. -/
def rotated (shelf : Shelf) (workspace : Workspace) (home : Place) (kept : List Backup)
    (content : ByteArray) : Tree :=
  (withNext workspace home content).without
    (((shelf.next workspace kept content).drop shelf.limit).map (placeOf home))

/-- The workspace with one more backup of a file, before the shelf is cleaned up. -/
def withBackup (shelf : Shelf) (workspace : Workspace) (home : Place) (source : Text)
    (content : ByteArray) : Workspace :=
  { workspace.ticked with
    tree := withNext workspace home content
    shown := workspace.shown ++ [.log (.backedUp source (shelf.nextPath workspace))] }

/-- A cleanup is due for the first backup. -/
theorem run_isCleanupDue_of_fresh (fresh : workspace.schedule = .fresh) :
    isCleanupDue.run workspace = (.ok true, workspace) := by
  rw [isCleanupDue, Job.run_bind_of_ok (Job.run_workspace workspace), fresh]
  rfl

/-- The first cleanup leaves what the limit has room for. -/
theorem run_cleanUpIfDue_of_fresh (listed : shelf.backups workspace.tree = .ok kept)
    (sound : workspace.tree.Sound)
    (readable : AllReadable workspace.tree home (kept.drop shelf.limit))
    (distinct : (kept.map Backup.filename).Nodup) (fresh : workspace.schedule = .fresh) :
    shelf.cleanUpIfDue.run workspace =
      (.ok (), { workspace.ticked with
        tree := workspace.tree.without ((kept.drop shelf.limit).map (placeOf home))
        schedule := ⟨0, some (nextInstant workspace)⟩ }) := by
  have cleaned := run_keepNewest listed sound readable distinct
  rw [cleanUpIfDue, Job.run_bind_of_ok (run_isCleanupDue_of_fresh fresh)]
  rw [if_pos rfl, cleanUp, Job.run_bind_of_ok cleaned, Job.run_bind_of_ok (Job.run_now _)]
  rfl

/-- The first backup is made and the shelf cleaned up, which leaves the newest backups. -/
theorem run_create (ready : shelf.Ready workspace home kept)
    (fresh : workspace.schedule = .fresh) {source : Text} {place : Place} {content : ByteArray}
    (leads : workspace.tree.LeadsTo source place content) :
    ∃ after : Workspace,
      (shelf.create source).run workspace = (.ok (shelf.nextPath workspace), after) ∧
        after.tree = shelf.rotated workspace home kept content := by
  have folders : (Job.onTree (.noShelf shelf.folder) (.makeFolders shelf.folder)).run workspace =
      (.ok (), workspace) :=
    Job.run_onTree_of_ok (Store.Steps.run_makeFolders_of_found ready.stands.found)
  have copied := Tree.copy_eq leads ready.takes (ready.ne_nextPlace leads)
  -- The clock is read for the name, so the copy is made with one more reading taken.
  have stored : (Job.onTree (.notBackedUp source)
      (.once (·.copy source (shelf.nextPath workspace)))).run workspace.ticked =
        (.ok (), { workspace.ticked with tree := withNext workspace home content }) :=
    Job.run_once_of_ok copied
  have shown : (Job.log [.backedUp source (shelf.nextPath workspace)]).run
      { workspace.ticked with tree := withNext workspace home content } =
        (.ok (), shelf.withBackup workspace home source content) := rfl
  obtain ⟨after, cleaned, left⟩ : ∃ after : Workspace,
      shelf.cleanUpIfDue.run (shelf.withBackup workspace home source content) = (.ok (), after) ∧
        after.tree = shelf.rotated workspace home kept content :=
    ⟨_, run_cleanUpIfDue_of_fresh (ready.listed_withNext content) (ready.sound_withNext content)
      (ready.readable_withNext content) (ready.distinct_next content) fresh, rfl⟩
  refine ⟨after, ?_, left⟩
  rw [create, Job.run_bind_of_ok folders, Job.run_bind_of_ok (Job.run_now workspace)]
  refine (Job.run_bind_of_ok stored _).trans ?_
  refine (Job.run_bind_of_ok shown _).trans ?_
  exact Job.run_bind_of_ok cleaned _

/-! ### After a rotation -/

/-- A rotation leaves what is not in the folder of the shelf. -/
theorem node?_rotated_elsewhere (content : ByteArray) {place : Place}
    (elsewhere : place.dropLast ≠ home) :
    (shelf.rotated workspace home kept content).node? place = workspace.tree.node? place := by
  have other : nextPlace workspace home ≠ place :=
    placeOf_nextBackup shelf workspace home content ▸ placeOf_ne elsewhere _
  have left :
      place ∉ ((shelf.next workspace kept content).drop shelf.limit).map (placeOf home) := by
    intro taken
    obtain ⟨backup, -, same⟩ := List.mem_map.mp taken
    exact placeOf_ne elsewhere backup same
  rw [rotated, Tree.node?_without_of_not_mem left]
  exact Tree.node?_set_other other.symm _

namespace Ready

variable (ready : shelf.Ready workspace home kept) (content : ByteArray)

include ready

/-- What the limit has no room for was at places that hold no folder. -/
theorem plain_dropped :
    ∀ place ∈ ((shelf.next workspace kept content).drop shelf.limit).map (placeOf home),
      (withNext workspace home content).node? place ≠ some .folder := by
  intro place inside
  obtain ⟨backup, dropped, rfl⟩ := List.mem_map.mp inside
  obtain ⟨held, leads⟩ := ready.readable_withNext content backup dropped
  exact leads.plain

/-- A rotation leaves the folders. -/
theorem sameFolders_rotated :
    Tree.SameFolders workspace.tree (shelf.rotated workspace home kept content) :=
  (ready.sameFolders content).trans (Tree.sameFolders_without (ready.plain_dropped content))

/-- After the rotation the shelf has the newest backups. -/
theorem listed_rotated : shelf.backups (shelf.rotated workspace home kept content) =
    .ok ((shelf.next workspace kept content).take shelf.limit) := by
  rw [← filter_not_dropped (ready.distinct_next content)]
  exact (ready.stands_withNext content).backups_without (ready.listed_withNext content)
    (ready.plain_dropped content)

/-- The file of a backup among the newest stays in the rotation. -/
theorem leadsTo_rotated {backup : Backup} {held : ByteArray}
    (newest : backup ∈ (shelf.next workspace kept content).take shelf.limit)
    (leads : (withNext workspace home content).LeadsTo backup.path (placeOf home backup) held) :
    (shelf.rotated workspace home kept content).LeadsTo backup.path (placeOf home backup) held := by
  have left := @not_mem_dropped home _ (ready.distinct_next content) _ _ newest
  refine leads.of_sameFolders (Tree.sameFolders_without (ready.plain_dropped content)) ?_
  rw [Tree.node?_without_of_not_mem left]
  exact leads.node

/-- The next backup is among the newest. -/
theorem mem_take_next :
    shelf.nextBackup workspace content ∈ (shelf.next workspace kept content).take shelf.limit := by
  rw [ready.take_next]
  exact List.mem_cons_self

/-- The file of the next backup is there after the rotation. -/
theorem leadsTo_rotated_next : (shelf.rotated workspace home kept content).LeadsTo
    (shelf.nextPath workspace) (nextPlace workspace home) content := by
  have there : (withNext workspace home content).LeadsTo (shelf.nextPath workspace)
      (nextPlace workspace home) content := ready.takes.leadsTo_set content
  rw [← path_nextBackup shelf workspace content, ← placeOf_nextBackup shelf workspace home content]
    at there ⊢
  exact ready.leadsTo_rotated content (ready.mem_take_next content) there

/-- The file of a backup that is dropped is gone after the rotation. -/
theorem find_rotated {backup : Backup}
    (dropped : backup ∈ (shelf.next workspace kept content).drop shelf.limit) :
    (shelf.rotated workspace home kept content).find backup.path = .error .missing := by
  obtain ⟨held, leads⟩ := ready.readable_withNext content backup dropped
  have same := Tree.sameFolders_without (ready.plain_dropped content)
  exact Tree.find_missing (same.resolve_eq_ok_iff.mpr leads.resolve) leads.short
    (Tree.node?_without_of_mem (List.mem_map_of_mem dropped) (Tree.ne_nil_of_node? leads.plain))

/-- Whatever is then put elsewhere, the new backup is on the shelf and holds what was backed up. -/
theorem exists_saved {place : Place} (elsewhere : place.dropLast ≠ home)
    (plain : (shelf.rotated workspace home kept content).node? place ≠ some .folder)
    (put : ByteArray) :
    ∃ saved, shelf.backups ((shelf.rotated workspace home kept content).set place (.file put)) =
        .ok saved ∧
      ∃ one ∈ saved, ((shelf.rotated workspace home kept content).set place (.file put)).read
        one.path = .ok content := by
  have stands := ready.stands.of_sameFolders (ready.sameFolders_rotated content)
  have listed := ready.listed_rotated content
  have copy := ready.leadsTo_rotated_next content
  have other : nextPlace workspace home ≠ place :=
    placeOf_nextBackup shelf workspace home content ▸ placeOf_ne elsewhere _
  have intact := copy.of_sameFolders (Tree.sameFolders_set plain put)
    ((Tree.node?_set_other other _).trans copy.node)
  refine ⟨_, stands.backups_set_elsewhere listed plain elsewhere put,
    shelf.nextBackup workspace content, ready.mem_take_next content, ?_⟩
  rw [path_nextBackup]
  exact Tree.read_eq_ok_iff.mpr ⟨_, intact⟩

end Ready

end Shelf

end IniKeeper
