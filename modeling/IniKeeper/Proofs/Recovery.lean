import IniKeeper.Proofs.Rotation

/-!
# What restoring gives back

Restoring a backup first makes one of the file that it overwrites. Where that first backup cleans
the shelf up, it may take the very backup that is to be restored: the run then fails, the file stays
as it was and the backup is gone. This module states exactly when that happens, and that otherwise
the file gets the content of the backup and what it held before is on the shelf.
-/

namespace IniKeeper

namespace Store.Tree

/-- Whether a path leads somewhere else than directly into a folder. -/
def Outside (tree : Tree) (folder path : Text) : Prop :=
  ∀ home place, tree.resolve folder = .ok home → tree.resolve path = .ok place →
    place.dropLast ≠ home

end Store.Tree

namespace Shelf

open Store (Tree Place Node)

variable {shelf : Shelf} {workspace after : Workspace} {home place : Place} {kept : List Backup}
  {id target : Text} {backup : Backup} {content : ByteArray}

/-- Whether nothing is in the way of one more backup on a shelf with these. -/
structure HasRoom (shelf : Shelf) (workspace : Workspace) (kept : List Backup) : Prop where
  /-- The backups on the shelf were made before now. -/
  older : ∀ one ∈ kept, one.id < (nextInstant workspace).stamp
  /-- Those that one more leaves no room for can be removed. -/
  removable : ∀ one ∈ kept.drop (shelf.limit - 1),
    ∃ changed, workspace.tree.remove one.path = .ok changed
  /-- One more can be written. -/
  writable : ∃ changed, workspace.tree.write (shelf.nextPath workspace) .empty = .ok changed

/-- Whether a backup is found by an id, and can be read, and the file to restore it to can be
written. No backup was made before, and where there is a file to restore to, nothing is in the way
of a backup of it. -/
structure Restorable (shelf : Shelf) (workspace : Workspace) (kept : List Backup)
    (id target : Text) (backup : Backup) (content : ByteArray) : Prop where
  /-- The tree is in order. -/
  sound : workspace.tree.Sound
  /-- No backup was made before. -/
  fresh : workspace.schedule = .fresh
  /-- At least one backup is kept. -/
  limited : 1 ≤ shelf.limit
  /-- These backups are on the shelf. -/
  listed : shelf.backups workspace.tree = .ok kept
  /-- The backup is the one that is found. -/
  found : (shelf.find id).run workspace = (.ok (some backup), workspace)
  /-- It holds this content. -/
  held : workspace.tree.read backup.path = .ok content
  /-- The target can be written. -/
  writable : ∃ changed, workspace.tree.write target .empty = .ok changed
  /-- The target is not in the folder of the shelf. -/
  outside : workspace.tree.Outside shelf.folder target
  /-- If there is a target, it can be backed up. -/
  room : workspace.tree.has target = true → shelf.HasRoom workspace kept

/-- What a restored file and the shelf hold: the file the content, and some backup what the file
held before, if it was there. -/
structure Restored (shelf : Shelf) (before after : Workspace) (target : Text)
    (content : ByteArray) : Prop where
  /-- The file holds the content. -/
  content : after.tree.read target = .ok content
  /-- What it held before is on the shelf. -/
  saved : ∀ old, before.tree.read target = .ok old →
    ∃ kept, shelf.backups after.tree = .ok kept ∧
      ∃ one ∈ kept, after.tree.read one.path = .ok old

/-- What a file that was not restored and the shelf hold: the file what it held, and the backup is
gone. -/
structure Lost (shelf : Shelf) (before after : Workspace) (target : Text) (backup : Backup) :
    Prop where
  /-- The file holds what it held. -/
  unchanged : after.tree.read target = before.tree.read target
  /-- The backup can no longer be read. -/
  gone : after.tree.read backup.path = .error .missing
  /-- The backup is not listed. -/
  unlisted : ∃ kept, shelf.backups after.tree = .ok kept ∧ backup ∉ kept

/-! ### The steps of restoring -/

/-- A file that is not there is not backed up. -/
theorem run_createIfPresent_of_absent (absent : workspace.tree.has target = false) :
    (shelf.createIfPresent target).run workspace = (.ok none, workspace) := by
  rw [createIfPresent, Job.run_bind_of_ok (Job.run_tree workspace), absent]
  rfl

/-- A file that is there is backed up. -/
theorem run_createIfPresent_of_present {path : Text} (present : workspace.tree.has target = true)
    (made : (shelf.create target).run workspace = (.ok path, after)) :
    (shelf.createIfPresent target).run workspace = (.ok (some path), after) := by
  rw [createIfPresent, Job.run_bind_of_ok (Job.run_tree workspace), present, if_pos rfl,
    Job.run_bind_of_ok made]
  rfl

/-- Once the target is backed up, restoring copies the backup that was found. -/
theorem run_restore {made : Option Text}
    (found : (shelf.find id).run workspace = (.ok (some backup), workspace))
    (saved : (shelf.createIfPresent target).run workspace = (.ok made, after)) :
    (shelf.restore id target).run workspace =
      (Job.onTree (.notRestored target) (.once (·.copy backup.path target))).run after := by
  rw [restore, Job.run_bind_of_ok found]
  exact Job.run_bind_of_ok saved _

/-- A backup that is still there is copied to the target. -/
theorem run_restore_of_leadsTo {made : Option Text} {here : Place}
    (found : (shelf.find id).run workspace = (.ok (some backup), workspace))
    (saved : (shelf.createIfPresent target).run workspace = (.ok made, after))
    (leads : after.tree.LeadsTo backup.path here content) (takes : after.tree.Takes target place)
    (apart : here ≠ place) :
    (shelf.restore id target).run workspace =
      (.ok (), { after with tree := after.tree.set place (.file content) }) := by
  rw [run_restore found saved]
  exact Job.run_once_of_ok (Tree.copy_eq leads takes apart)

/-- A backup that is gone cannot be copied. -/
theorem run_restore_of_missing {made : Option Text}
    (found : (shelf.find id).run workspace = (.ok (some backup), workspace))
    (saved : (shelf.createIfPresent target).run workspace = (.ok made, after))
    (gone : after.tree.find backup.path = .error .missing) :
    (shelf.restore id target).run workspace =
      (.error (.notRestored target .missing), after) := by
  rw [run_restore found saved]
  exact Job.run_once_of_error (Tree.copy_of_not_found gone target)

/-! ### Once the target is backed up -/

/-- Whether a run has backed up a file outside of the shelf and cleaned the shelf up. -/
structure BackedUp (shelf : Shelf) (workspace after : Workspace) (home place : Place)
    (kept : List Backup) (target : Text) (old : ByteArray) : Prop where
  /-- The shelf was ready for one more backup. -/
  ready : shelf.Ready workspace home kept
  /-- The file held this content. -/
  held : workspace.tree.LeadsTo target place old
  /-- It can be written. -/
  takes : workspace.tree.Takes target place
  /-- It is not in the folder of the shelf. -/
  elsewhere : place.dropLast ≠ home
  /-- It was backed up. -/
  made : (shelf.createIfPresent target).run workspace =
    (.ok (some (shelf.nextPath workspace)), after)
  /-- The shelf was cleaned up. -/
  left : after.tree = shelf.rotated workspace home kept old

/-- On a shelf that is ready, a file that can be written is backed up by the first backup of a
manager. -/
theorem Ready.exists_backedUp (ready : shelf.Ready workspace home kept)
    (fresh : workspace.schedule = .fresh) {old : ByteArray}
    (held : workspace.tree.LeadsTo target place old) (takes : workspace.tree.Takes target place)
    (elsewhere : place.dropLast ≠ home) :
    ∃ after, shelf.BackedUp workspace after home place kept target old := by
  have present : workspace.tree.has target = true := by
    rw [Tree.has, Tree.find_file_iff.mpr ⟨place, held⟩]
  obtain ⟨after, made, left⟩ := run_create ready fresh held
  exact ⟨after, ready, held, takes, elsewhere, run_createIfPresent_of_present present made, left⟩

namespace BackedUp

variable {old : ByteArray} (backedUp : shelf.BackedUp workspace after home place kept target old)

include backedUp

/-- The folders are as they were once a file is backed up. -/
theorem sameFolders : Tree.SameFolders workspace.tree after.tree :=
  backedUp.left ▸ backedUp.ready.sameFolders_rotated old

/-- A file that was backed up can still be written. -/
theorem takes_after : after.tree.Takes target place :=
  backedUp.takes.of_sameFolders backedUp.sameFolders

/-- A file that was backed up holds what it held. -/
theorem held_after : after.tree.LeadsTo target place old := by
  refine backedUp.held.of_sameFolders backedUp.sameFolders ?_
  rw [backedUp.left, node?_rotated_elsewhere old backedUp.elsewhere]
  exact backedUp.held.node

/-- Whatever is then written to it, what it held is on the shelf. -/
theorem exists_saved (put : ByteArray) :
    ∃ saved, shelf.backups (after.tree.set place (.file put)) = .ok saved ∧
      ∃ one ∈ saved, (after.tree.set place (.file put)).read one.path = .ok old := by
  have plain := backedUp.takes_after.plain
  rw [backedUp.left] at plain ⊢
  exact backedUp.ready.exists_saved old backedUp.elsewhere plain put

end BackedUp

/-! ### When a backup is given back -/

namespace Restorable

variable (restorable : shelf.Restorable workspace kept id target backup content)

include restorable

/-- The backup that is found is on the shelf. -/
theorem member : backup ∈ kept := by
  have looked := restorable.found.symm.trans (run_find restorable.listed id)
  have first : kept.find? (Backup.goesBy id) = some backup :=
    (Except.ok.inj (congrArg Prod.fst looked)).symm
  exact List.mem_of_find?_eq_some first

/-- There is a shelf, and the target is elsewhere. -/
theorem exists_places : ∃ home place, shelf.StandsAt workspace.tree home ∧
    workspace.tree.Takes target place ∧ place.dropLast ≠ home := by
  obtain ⟨home, stands⟩ := exists_standsAt restorable.listed restorable.member
  obtain ⟨changed, written⟩ := restorable.writable
  obtain ⟨place, takes, -⟩ := Tree.write_eq_ok_iff.mp written
  exact ⟨home, place, stands, takes,
    restorable.outside home place stands.resolve takes.resolve⟩

/-- The backup is the file at its place. -/
theorem leadsTo (stands : shelf.StandsAt workspace.tree home) :
    workspace.tree.LeadsTo backup.path (placeOf home backup) content :=
  stands.leadsTo restorable.sound restorable.listed restorable.member restorable.held

/-- Where there is room, the shelf is ready for one more backup. -/
theorem ready (room : shelf.HasRoom workspace kept) (stands : shelf.StandsAt workspace.tree home) :
    shelf.Ready workspace home kept where
  sound := restorable.sound
  limited := restorable.limited
  stands := stands
  listed := restorable.listed
  readable := by
    intro one dropped
    obtain ⟨changed, removed⟩ := room.removable one dropped
    obtain ⟨place, bytes, leads⟩ := Tree.exists_leadsTo_of_remove removed
    have reads : workspace.tree.read one.path = .ok bytes := Tree.read_eq_ok_iff.mpr ⟨place, leads⟩
    exact ⟨bytes, stands.leadsTo restorable.sound restorable.listed
      (List.mem_of_mem_drop dropped) reads⟩
  older := room.older
  room := by
    obtain ⟨changed, written⟩ := room.writable
    obtain ⟨place, takes, -⟩ := Tree.write_eq_ok_iff.mp written
    exact ⟨place, takes⟩

/-- A backup is restored to where there is no file. -/
theorem restored_of_absent (absent : workspace.tree.has target = false) :
    ∃ after, (shelf.restore id target).run workspace = (.ok (), after) ∧
      shelf.Restored workspace after target content := by
  obtain ⟨home, place, stands, takes, elsewhere⟩ := restorable.exists_places
  have copied := run_restore_of_leadsTo restorable.found (run_createIfPresent_of_absent absent)
    (restorable.leadsTo stands) takes (placeOf_ne elsewhere backup)
  refine ⟨_, copied, ?_, ?_⟩
  · exact Tree.read_eq_ok_iff.mpr ⟨place, takes.leadsTo_set content⟩
  · intro old reads
    rcases takes.absent_or_file with ⟨-, nothing⟩ | ⟨present, -⟩
    · exact absurd reads (nothing old)
    · rw [absent] at present
      contradiction

/-- A file that is there is backed up before anything is restored to it. -/
theorem exists_backedUp (present : workspace.tree.has target = true) :
    ∃ home place old after, shelf.BackedUp workspace after home place kept target old := by
  obtain ⟨home, place, stands, takes, elsewhere⟩ := restorable.exists_places
  have ready := restorable.ready (restorable.room present) stands
  obtain ⟨old, held⟩ : ∃ old, workspace.tree.LeadsTo target place old := by
    rcases takes.absent_or_file with ⟨absent, -⟩ | ⟨-, file⟩
    · rw [present] at absent
      contradiction
    · exact file
  obtain ⟨after, backedUp⟩ := ready.exists_backedUp restorable.fresh held takes elsewhere
  exact ⟨home, place, old, after, backedUp⟩

/-- A backup that the cleanup leaves is restored over a file that is there. -/
theorem restored_of_newest (present : workspace.tree.has target = true)
    (newest : backup ∈ kept.take (shelf.limit - 1)) :
    ∃ after, (shelf.restore id target).run workspace = (.ok (), after) ∧
      shelf.Restored workspace after target content := by
  obtain ⟨home, place, old, after, backedUp⟩ := restorable.exists_backedUp present
  have ready := backedUp.ready
  have leads := restorable.leadsTo ready.stands
  have among : backup ∈ (shelf.next workspace kept old).take shelf.limit := by
    rw [ready.take_next]
    exact List.mem_cons_of_mem _ newest
  have still : after.tree.LeadsTo backup.path (placeOf home backup) content := by
    rw [backedUp.left]
    exact ready.leadsTo_rotated old among (ready.leadsTo_withNext old leads)
  have copied := run_restore_of_leadsTo restorable.found backedUp.made still backedUp.takes_after
    (placeOf_ne backedUp.elsewhere backup)
  refine ⟨_, copied, ?_, ?_⟩
  · exact Tree.read_eq_ok_iff.mpr ⟨place, backedUp.takes_after.leadsTo_set content⟩
  · intro bytes reads
    have held := Tree.read_eq_ok_iff.mpr ⟨place, backedUp.held⟩
    obtain rfl : bytes = old := Except.ok.inj (reads.symm.trans held)
    exact backedUp.exists_saved content

/-- A backup that the cleanup takes is lost, and the file stays as it was. -/
theorem lost_of_dropped (present : workspace.tree.has target = true)
    (dropped : backup ∉ kept.take (shelf.limit - 1)) :
    ∃ after, (shelf.restore id target).run workspace =
        (.error (.notRestored target .missing), after) ∧
      shelf.Lost workspace after target backup := by
  obtain ⟨home, place, old, after, backedUp⟩ := restorable.exists_backedUp present
  have ready := backedUp.ready
  -- The cleanup runs between the search for the backup and its copy, and takes it.
  have older : backup ∈ (shelf.next workspace kept old).drop shelf.limit := by
    have member := restorable.member
    rw [← List.take_append_drop (shelf.limit - 1) kept, List.mem_append] at member
    rw [ready.drop_next]
    exact member.resolve_left dropped
  have gone : after.tree.find backup.path = .error .missing := by
    rw [backedUp.left]
    exact ready.find_rotated old older
  refine ⟨after, run_restore_of_missing restorable.found backedUp.made gone, ?_, ?_, ?_⟩
  · rw [Tree.read_eq_ok_iff.mpr ⟨place, backedUp.held_after⟩,
      Tree.read_eq_ok_iff.mpr ⟨place, backedUp.held⟩]
  · rw [Tree.read, gone]
    rfl
  · have listed : shelf.backups after.tree = _ := backedUp.left ▸ ready.listed_rotated old
    refine ⟨_, listed, fun kept => ?_⟩
    have apart := @not_mem_dropped home _ (ready.distinct_next old) _ _ kept
    exact apart (List.mem_map_of_mem older)

end Restorable

/-- A backup that can be found is restored exactly where there is no file to overwrite, or where the
backup is among the newest that the backup of that file leaves room for; what the file held before
is then on the shelf. Otherwise restoring fails because the backup is gone, and the file stays. -/
theorem restore_gives_back
    (restorable : shelf.Restorable workspace kept id target backup content) :
    ∃ after,
      ((workspace.tree.has target = false ∨ backup ∈ kept.take (shelf.limit - 1)) ∧
          (shelf.restore id target).run workspace = (.ok (), after) ∧
          shelf.Restored workspace after target content) ∨
        ((workspace.tree.has target = true ∧ backup ∉ kept.take (shelf.limit - 1)) ∧
          (shelf.restore id target).run workspace = (.error (.notRestored target .missing), after) ∧
          shelf.Lost workspace after target backup) := by
  cases present : workspace.tree.has target with
  | false =>
    obtain ⟨after, ran, restored⟩ := restorable.restored_of_absent present
    exact ⟨after, .inl ⟨.inl rfl, ran, restored⟩⟩
  | true =>
    by_cases newest : backup ∈ kept.take (shelf.limit - 1)
    · obtain ⟨after, ran, restored⟩ := restorable.restored_of_newest present newest
      exact ⟨after, .inl ⟨.inr newest, ran, restored⟩⟩
    · obtain ⟨after, ran, lost⟩ := restorable.lost_of_dropped present newest
      exact ⟨after, .inr ⟨⟨rfl, newest⟩, ran, lost⟩⟩

/-- A file with one backup. -/
def backedUpOnce : Workspace where
  tree :=
    ⟨[], [(["app.ini".toList], .file "new".toUTF8), (["backups".toList], .folder),
      (["backups".toList, "2019-01-01_000000_000000001.bak".toList], .file "old".toUTF8)]⟩
  clock := .startingAt (.after1970 1600000000000000000)
  home := []
  configHome := []
  outside := fun _ => .error []
  schedule := .fresh
  shown := []

/-- The backup. -/
def onlyBackup : Backup :=
  ⟨"2019-01-01_000000_000000001".toList, "backups/2019-01-01_000000_000000001.bak".toList,
    "2019-01-01_000000".toList, "2019-01-01_000000_000000001.bak".toList, 3⟩

set_option maxRecDepth 8000 in
/-- Nothing but the cleanup is in the way of restoring the backup. -/
theorem restorable_onlyBackup {limit : Nat} (limited : 1 ≤ limit) :
    Restorable ⟨"backups".toList, limit⟩ backedUpOnce [onlyBackup] onlyBackup.id "app.ini".toList
      onlyBackup "old".toUTF8 := by
  let shelf : Shelf := ⟨"backups".toList, limit⟩
  have listed : shelf.backups backedUpOnce.tree = .ok [onlyBackup] := by
    have stands : shelf.StandsAt backedUpOnce.tree ["backups".toList] := ⟨rfl, rfl⟩
    have held : shelf.held (backedUpOnce.tree.children ["backups".toList]) = [onlyBackup] := rfl
    rw [stands.backups_eq, held, List.mergeSort_singleton]
  refine ⟨?_, rfl, limited, listed, ?_, rfl, ⟨_, rfl⟩, ?_, fun _ => ⟨?_, ?_, ⟨_, rfl⟩⟩⟩
  · exact ⟨by decide +kernel, by decide +kernel, by decide +kernel⟩
  · rw [run_find listed]
    rfl
  · intro home place folder file
    have here : backedUpOnce.tree.resolve "backups".toList = .ok ["backups".toList] := rfl
    have there : backedUpOnce.tree.resolve "app.ini".toList = .ok ["app.ini".toList] := rfl
    obtain rfl := Except.ok.inj (here.symm.trans folder)
    obtain rfl := Except.ok.inj (there.symm.trans file)
    decide
  · intro one member
    rw [List.mem_singleton.mp member]
    decide +kernel
  · intro one dropped
    rw [List.mem_singleton.mp (List.mem_of_mem_drop dropped)]
    exact ⟨_, rfl⟩

/-- The only backup of a file is restored where two are kept. -/
theorem restore_gives_back_newest :
    let shelf : Shelf := ⟨"backups".toList, 2⟩
    shelf.Restorable backedUpOnce [onlyBackup] onlyBackup.id "app.ini".toList onlyBackup
        "old".toUTF8 ∧
      ∃ after, (shelf.restore onlyBackup.id "app.ini".toList).run backedUpOnce = (.ok (), after) ∧
        shelf.Restored backedUpOnce after "app.ini".toList "old".toUTF8 := by
  intro shelf
  have restorable := @restorable_onlyBackup 2 (by decide)
  obtain ⟨after, ⟨-, restored⟩ | ⟨⟨-, dropped⟩, -⟩⟩ := restore_gives_back restorable
  · exact ⟨restorable, after, restored⟩
  · exact absurd List.mem_cons_self dropped

/-- Where one is kept, restoring it fails and it is gone. -/
theorem restore_loses_backup :
    let shelf : Shelf := ⟨"backups".toList, 1⟩
    shelf.Restorable backedUpOnce [onlyBackup] onlyBackup.id "app.ini".toList onlyBackup
        "old".toUTF8 ∧
      ∃ after, (shelf.restore onlyBackup.id "app.ini".toList).run backedUpOnce =
          (.error (.notRestored "app.ini".toList .missing), after) ∧
        shelf.Lost backedUpOnce after "app.ini".toList onlyBackup := by
  intro shelf
  have restorable := @restorable_onlyBackup 1 (by decide)
  exact ⟨restorable, restorable.lost_of_dropped rfl List.not_mem_nil⟩

end Shelf

end IniKeeper
