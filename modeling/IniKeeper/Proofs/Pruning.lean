import IniKeeper.Proofs.Finding
import IniKeeper.Proofs.LongRunningManager

/-!
# Which backups a rotation leaves

A backup is named for the instant it was made at, and the ids that are read from such names compare
as the instants do. A shelf lists its backups by falling ids, so the rank of a backup is the number
of those with a greater id. Keeping the newest ones takes the files of just those backups whose rank
is not below the number to be kept, and leaves everything else in the tree as it was.
-/

namespace IniKeeper

open Store (Tree Place)

namespace Backup

/-- The id that is read from the name made for an instant. -/
def idAt (instant : Instant) : Text := dropExtension (nameAt instant)

/-- The ids that are read from made names compare as texts exactly as the instants compare in
time. -/
theorem idAt_lt_iff {instant other : Instant} (within : instant.InYears)
    (otherWithin : other.InYears) : idAt instant < idAt other ↔ instant.nanos < other.nanos := by
  rw [idAt, idAt, dropExtension_nameAt, dropExtension_nameAt]
  exact Instant.stamp_lt_iff within otherWithin

/-- The ids that are read from made names are the same only for the same instant. -/
theorem idAt_eq_iff {instant other : Instant} (within : instant.InYears)
    (otherWithin : other.InYears) : idAt instant = idAt other ↔ instant = other := by
  refine ⟨fun same => ?_, congrArg idAt⟩
  rcases Nat.lt_trichotomy instant.nanos other.nanos with earlier | equal | later
  · have less := (idAt_lt_iff within otherWithin).mpr earlier
    rw [same] at less
    exact absurd less (List.lt_irrefl _)
  · exact congrArg Instant.mk equal
  · have less := (idAt_lt_iff otherWithin within).mpr later
    rw [same] at less
    exact absurd less (List.lt_irrefl _)

variable {kept front rest : List Backup} {backup : Backup} {count : Nat}

/-- How many of some backups are newer than one, going by their ids. -/
def rank (kept : List Backup) (backup : Backup) : Nat :=
  kept.countP fun newer => backup.id < newer.id

namespace Descending

/-- The rank of a backup is the number of those in front of it. -/
theorem rank_eq (descending : Descending (front ++ backup :: rest)) :
    rank (front ++ backup :: rest) backup = front.length := by
  rw [Descending, List.pairwise_append, List.pairwise_cons] at descending
  obtain ⟨-, ⟨older, -⟩, apart⟩ := descending
  have before : front.countP (fun newer => backup.id < newer.id) = front.length :=
    List.countP_eq_length.mpr fun newer inFront =>
      decide_eq_true (apart newer inFront backup List.mem_cons_self)
  have behind : (backup :: rest).countP (fun newer => backup.id < newer.id) = 0 := by
    refine List.countP_eq_zero.mpr fun other member newer => ?_
    rcases List.mem_cons.mp member with rfl | inRest
    · exact List.lt_irrefl _ (of_decide_eq_true newer)
    · exact List.lt_asymm (older other inRest) (of_decide_eq_true newer)
  rw [rank, List.countP_append, before, behind, Nat.add_zero]

/-- A backup is dropped where as many as are kept are newer. -/
theorem mem_drop_iff (descending : Descending kept) (member : backup ∈ kept) :
    backup ∈ kept.drop count ↔ count ≤ rank kept backup := by
  obtain ⟨front, rest, rfl⟩ := List.append_of_mem member
  rw [descending.rank_eq, List.drop_append, List.mem_append]
  rw [Descending, List.pairwise_append, List.pairwise_cons] at descending
  obtain ⟨-, ⟨older, -⟩, apart⟩ := descending
  constructor
  · rintro (inFront | behind)
    · have newer := apart backup (List.mem_of_mem_drop inFront) backup List.mem_cons_self
      exact absurd newer (List.lt_irrefl _)
    · by_contra few
      obtain ⟨more, gap⟩ := Nat.exists_eq_add_of_lt (Nat.lt_of_not_le few)
      have left : count - front.length = more + 1 := by omega
      rw [left, List.drop_succ_cons] at behind
      exact List.lt_irrefl _ (older backup (List.mem_of_mem_drop behind))
  · intro enough
    have all : count - front.length = 0 := by omega
    rw [all]
    exact .inr List.mem_cons_self

/-- A backup is among the newest where fewer than are kept are newer. -/
theorem mem_take (descending : Descending kept) (member : backup ∈ kept)
    (few : rank kept backup < count) : backup ∈ kept.take count := by
  have stays : backup ∉ kept.drop count := fun dropped =>
    absurd ((descending.mem_drop_iff member).mp dropped) (Nat.not_le_of_lt few)
  rw [← List.take_append_drop count kept, List.mem_append] at member
  exact member.resolve_right stays

end Descending

end Backup

namespace Shelf

open Backup (Descending rank)

variable {shelf : Shelf} {workspace after : Workspace} {home : Place} {kept : List Backup}
  {count : Nat}

/-! ### Names -/

/-- A backup that could be made is named for the instant that the clock showed. -/
theorem path_of_create {source path : Text}
    (created : (shelf.create source).run workspace = (.ok path, after)) :
    path = Store.Path.under shelf.folder (Backup.nameAt (nextInstant workspace)) := by
  obtain ⟨⟨⟩, first, folders, rest⟩ := Attempt.exists_of_run_bind_ok created
  obtain ⟨made, -, rfl⟩ := Job.exists_of_run_onTree_ok folders
  rw [Attempt.run_bind_of_ok (Job.run_now _)] at rest
  obtain ⟨⟨⟩, second, -, rest⟩ := Attempt.exists_of_run_bind_ok rest
  obtain ⟨⟨⟩, third, -, rest⟩ := Attempt.exists_of_run_bind_ok rest
  obtain ⟨⟨⟩, fourth, -, ended⟩ := Attempt.exists_of_run_bind_ok rest
  exact (Except.ok.inj (Prod.mk.inj ended).1).symm

/-! ### Keeping the newest -/

/-- Whether the folder of a shelf is at a place, and what it holds under the extension of backups
are files of different ids. -/
structure Orderly (shelf : Shelf) (tree : Tree) (home : Place) : Prop where
  /-- The tree is in order. -/
  sound : tree.Sound
  /-- The folder is there. -/
  stands : shelf.StandsAt tree home
  /-- Nothing with the extension is a folder. -/
  plain : ∀ name, Store.Path.extension? name = some ['b', 'a', 'k'] →
    tree.node? (home ++ [name]) ≠ some .folder
  /-- The ids are different. -/
  distinct : ((shelf.held (tree.children home)).map Backup.id).Nodup

/-- Whether a tree is left when so many of the newest of some backups are kept. -/
structure Pruned (before : Tree) (home : Place) (kept : List Backup) (count : Nat) (left : Tree) :
    Prop where
  /-- A backup is gone if so many others are newer. -/
  gone : ∀ backup ∈ kept, count ≤ rank kept backup → left.node? (placeOf home backup) = none
  /-- Any other backup is as it was. -/
  stays : ∀ backup ∈ kept, rank kept backup < count →
    left.node? (placeOf home backup) = before.node? (placeOf home backup)
  /-- What has another extension is as it was. -/
  unextended : ∀ name, Store.Path.extension? name ≠ some ['b', 'a', 'k'] →
    left.node? (home ++ [name]) = before.node? (home ++ [name])
  /-- What lies elsewhere is as it was. -/
  elsewhere : ∀ place : Place, place.dropLast ≠ home → left.node? place = before.node? place

namespace Orderly

variable (orderly : shelf.Orderly workspace.tree home)

include orderly

/-- An orderly shelf lists what it holds by falling ids. -/
theorem descending (listed : shelf.backups workspace.tree = .ok kept) : Descending kept := by
  have sorted := List.mergeSort_perm (shelf.held (workspace.tree.children home)) Backup.notOlder
  refine descending_of_backups listed ?_
  rw [orderly.stands.kept_eq listed, (sorted.map Backup.id).nodup_iff]
  exact orderly.distinct

/-- The backups on an orderly shelf are the files with the extension. -/
theorem mem_iff (listed : shelf.backups workspace.tree = .ok kept) {backup : Backup} :
    backup ∈ kept ↔ ∃ content,
      workspace.tree.node? (placeOf home backup) = some (.file content) ∧
        Backup.ofNode? shelf.folder backup.filename (.file content) = some backup := by
  constructor
  · intro member
    obtain ⟨node, inside, made⟩ := orderly.stands.of_mem listed member
    have there := orderly.sound.mem_children_iff.mp inside
    cases node with
    | folder => exact absurd there (orderly.plain _ (Backup.ofNode?_eq_some_iff.mp made).1)
    | file content => exact ⟨content, there, made⟩
  · rintro ⟨content, there, made⟩
    rw [orderly.stands.kept_eq listed, List.mem_mergeSort, mem_held_iff]
    exact ⟨_, orderly.sound.mem_children_iff.mpr there, made⟩

/-- Backups on the shelf that can be found are files that their paths lead to. -/
theorem allReadable (listed : shelf.backups workspace.tree = .ok kept) {old : List Backup}
    (some : ∀ backup ∈ old, backup ∈ kept)
    (found : ∀ backup ∈ old, workspace.tree.has backup.path = true) :
    AllReadable workspace.tree home old := by
  intro backup member
  obtain ⟨proper, path⟩ := of_mem_backups orderly.sound listed (some backup member)
  obtain ⟨content, there, -⟩ := (orderly.mem_iff listed).mp (some backup member)
  have has := found backup member
  unfold Tree.has at has
  cases looked : workspace.tree.find backup.path with
  | error cause =>
    rw [looked] at has
    contradiction
  | ok node =>
    obtain ⟨place, leads, held, -⟩ := Tree.find_eq_ok_iff.mp looked
    obtain rfl : place = placeOf home backup :=
      Tree.resolve_under proper orderly.stands.resolve (path ▸ leads)
    obtain rfl : node = .file content :=
      Option.some.inj ((Tree.look_eq_ok_iff.mp held).2.symm.trans there)
    obtain ⟨again, leadsTo⟩ := Tree.find_file_iff.mp looked
    obtain rfl : again = placeOf home backup :=
      Except.ok.inj (leadsTo.resolve.symm.trans leads)
    exact ⟨content, leadsTo⟩

/-- Taking the backups that are too old leaves the tree pruned. -/
theorem pruned (listed : shelf.backups workspace.tree = .ok kept) (count : Nat) :
    Pruned workspace.tree home kept count
      (workspace.tree.without ((kept.drop count).map (placeOf home))) where
  gone := by
    intro backup member old
    have dropped := (orderly.descending listed).mem_drop_iff member |>.mpr old
    exact Tree.node?_without_of_mem (List.mem_map_of_mem dropped) (by simp [placeOf])
  stays := by
    intro backup member new
    have newest := (orderly.descending listed).mem_take member new
    have names := orderly.stands.nodup_filenames orderly.sound listed
    exact Tree.node?_without_of_not_mem (not_mem_dropped names newest)
  unextended := by
    intro name other
    refine Tree.node?_without_of_not_mem fun inside => ?_
    obtain ⟨backup, dropped, same⟩ := List.mem_map.mp inside
    obtain ⟨content, -, made⟩ := (orderly.mem_iff listed).mp (List.mem_of_mem_drop dropped)
    have named : backup.filename = name := by simpa [placeOf] using same
    exact other (named ▸ (Backup.ofNode?_eq_some_iff.mp made).1)
  elsewhere := by
    intro place apart
    refine Tree.node?_without_of_not_mem fun inside => ?_
    obtain ⟨backup, -, same⟩ := List.mem_map.mp inside
    exact placeOf_ne apart backup same

/-- Where the newest backups could be kept, the others were counted and taken, and the shelf lists
those that were kept. -/
theorem of_keepNewest (listed : shelf.backups workspace.tree = .ok kept) {removed : Nat}
    (done : (shelf.keepNewest count).run workspace = (.ok removed, after)) :
    removed = kept.length - count ∧ Pruned workspace.tree home kept count after.tree ∧
      shelf.list.run after = (.ok (kept.take count), after) := by
  have left := stock_of_keepNewest orderly.sound orderly.stands done
  have stock : shelf.stock workspace.tree = kept :=
    Except.ok.inj (orderly.stands.backups_eq_stock.symm.trans listed)
  rw [keepNewest, Attempt.run_bind_of_ok (run_list listed)] at done
  obtain ⟨⟨⟩, between, taken, ended⟩ := Attempt.exists_of_run_bind_ok done
  obtain ⟨counted, rfl⟩ := Prod.mk.inj ended
  obtain ⟨-, tree⟩ := tree_of_removeAll orderly.sound orderly.stands
    (fun backup dropped => of_mem_backups orderly.sound listed (List.mem_of_mem_drop dropped)) taken
  refine ⟨?_, tree ▸ orderly.pruned listed count, run_list ?_⟩
  · rw [← Except.ok.inj counted, List.length_drop]
  · rw [left.1.backups_eq_stock, left.2, stock]

/-- The newest backups can be kept where the others can be found. -/
theorem exists_keepNewest (listed : shelf.backups workspace.tree = .ok kept)
    (found : ∀ backup ∈ kept, count ≤ rank kept backup → workspace.tree.has backup.path = true) :
    ∃ removed after, (shelf.keepNewest count).run workspace = (.ok removed, after) := by
  have among : ∀ backup ∈ kept.drop count, backup ∈ kept := fun _ => List.mem_of_mem_drop
  have readable : AllReadable workspace.tree home (kept.drop count) := by
    refine orderly.allReadable listed among fun backup dropped => ?_
    have member := among backup dropped
    exact found backup member (((orderly.descending listed).mem_drop_iff member).mp dropped)
  have names := orderly.stands.nodup_filenames orderly.sound listed
  exact ⟨_, _, run_keepNewest listed orderly.sound readable names⟩

end Orderly

/-- A backup is named for the instant it was made at, and such names give ids that compare as the
instants do. Where a shelf holds files of different ids under the extension of backups, it lists
just these by falling ids. Keeping so many of the newest, where it succeeds, takes exactly the
backups that so many others have greater ids than, gives their number, and leaves the other backups,
what has another extension and what lies elsewhere as they were; it succeeds wherever those that it
takes can be found. -/
theorem rotation_keeps_newest (shelf : Shelf) :
    (∀ workspace after source path, (shelf.create source).run workspace = (.ok path, after) →
      path = Store.Path.under shelf.folder (Backup.nameAt (nextInstant workspace))) ∧
    (∀ instant other : Instant, instant.InYears → other.InYears →
      (Backup.idAt instant < Backup.idAt other ↔ instant.nanos < other.nanos) ∧
        (Backup.idAt instant = Backup.idAt other ↔ instant = other)) ∧
    ∀ workspace home, shelf.Orderly workspace.tree home →
      ∃ kept, shelf.list.run workspace = (.ok kept, workspace) ∧ Descending kept ∧
        (∀ backup, backup ∈ kept ↔ ∃ content,
          workspace.tree.node? (placeOf home backup) = some (.file content) ∧
            Backup.ofNode? shelf.folder backup.filename (.file content) = some backup) ∧
        ∀ count,
          ((∀ backup ∈ kept, count ≤ rank kept backup →
              workspace.tree.has backup.path = true) →
            ∃ removed after, (shelf.keepNewest count).run workspace = (.ok removed, after)) ∧
          ∀ removed after, (shelf.keepNewest count).run workspace = (.ok removed, after) →
            removed = kept.length - count ∧ Pruned workspace.tree home kept count after.tree ∧
              shelf.list.run after = (.ok (kept.take count), after) := by
  refine ⟨fun workspace after source path created => path_of_create created,
    fun instant other within otherWithin =>
      ⟨Backup.idAt_lt_iff within otherWithin, Backup.idAt_eq_iff within otherWithin⟩, ?_⟩
  intro workspace home orderly
  have listed := orderly.stands.backups_eq_stock
  refine ⟨shelf.stock workspace.tree, run_list listed, orderly.descending listed,
    fun backup => orderly.mem_iff listed, fun count => ⟨orderly.exists_keepNewest listed, ?_⟩⟩
  intro removed after done
  exact orderly.of_keepNewest listed done

/-- A backup, a copy of it and a note in one folder. -/
def backedUpAndNoted : Workspace :=
  { backedUpAndCopied with
    tree := ⟨[], (["backups".toList, "notes.txt".toList], .file "note".toUTF8) ::
      backedUpAndCopied.tree.nodes⟩ }

set_option maxRecDepth 8000 in
/-- A backup made in 2020 has that date in its name, and its id is greater than that of an instant
in 1970. Keeping one of the two that are there takes the one with the smaller id and leaves the
note. -/
theorem rotation_keeps_newest_noted :
    let shelf : Shelf := ⟨"backups".toList, 20⟩
    let home := ["backups".toList]
    let instant := nextInstant neverBackedUp
    (∃ path after, (shelf.create "app.ini".toList).run neverBackedUp = (.ok path, after) ∧
        path = "backups/2020-09-13_122640_000000000.bak".toList) ∧
      (Instant.after1970 0).InYears ∧ instant.InYears ∧
      Backup.idAt (Instant.after1970 0) < Backup.idAt instant ∧
      shelf.Orderly backedUpAndNoted.tree home ∧
      shelf.list.run backedUpAndNoted = (.ok [copiedBackup, onlyBackup], backedUpAndNoted) ∧
      ∃ after, (shelf.keepNewest 1).run backedUpAndNoted = (.ok 1, after) ∧
        after.tree.node? (placeOf home onlyBackup) = none ∧
        after.tree.node? (placeOf home copiedBackup) = some (.file "copy".toUTF8) ∧
        after.tree.node? (home ++ ["notes.txt".toList]) = some (.file "note".toUTF8) ∧
        shelf.list.run after = (.ok [copiedBackup], after) := by
  intro shelf home instant
  have begun : (Instant.after1970 0).InYears := by decide +kernel
  have within : instant.InYears := by decide +kernel
  have stands : shelf.StandsAt backedUpAndNoted.tree home := ⟨rfl, rfl⟩
  have held : shelf.held (backedUpAndNoted.tree.children home) = [copiedBackup, onlyBackup] := by
    decide +kernel
  have sound : backedUpAndNoted.tree.Sound :=
    ⟨by decide +kernel, by decide +kernel, by decide +kernel⟩
  have distinct : ((shelf.held (backedUpAndNoted.tree.children home)).map Backup.id).Nodup := by
    rw [held]
    decide +kernel
  have plain : ∀ name, Store.Path.extension? name = some ['b', 'a', 'k'] →
      backedUpAndNoted.tree.node? (home ++ [name]) ≠ some .folder := by
    intro name extended folder
    have files : ∀ entry ∈ backedUpAndNoted.tree.children home, entry.2 ≠ .folder := by
      decide +kernel
    exact absurd rfl (files _ (sound.mem_children_iff.mpr folder))
  have orderly : shelf.Orderly backedUpAndNoted.tree home := ⟨sound, stands, plain, distinct⟩
  have listed : shelf.list.run backedUpAndNoted =
      (.ok [copiedBackup, onlyBackup], backedUpAndNoted) := by
    refine run_list ?_
    rw [stands.backups_eq, held, List.mergeSort_of_pairwise (by decide +kernel)]
  obtain ⟨named, ordered, rotates⟩ := rotation_keeps_newest shelf
  obtain ⟨path, made⟩ : ∃ path, (shelf.create "app.ini".toList).run neverBackedUp =
      (.ok path, ((shelf.create "app.ini".toList).run neverBackedUp).2) :=
    Attempt.exists_run_of_isOk (by decide +kernel)
  have path_eq : path = "backups/2020-09-13_122640_000000000.bak".toList :=
    (named _ _ _ _ made).trans (by decide +kernel)
  have older := (ordered _ _ begun within).1.mpr (by decide +kernel)
  obtain ⟨kept, lists, -, -, keeps⟩ := rotates backedUpAndNoted home orderly
  obtain rfl : kept = [copiedBackup, onlyBackup] :=
    Except.ok.inj (Prod.mk.inj (lists.symm.trans listed)).1
  obtain ⟨succeeds, leaves⟩ := keeps 1
  obtain ⟨removed, after, done⟩ := succeeds (by decide +kernel)
  obtain ⟨counted, pruned, left⟩ := leaves removed after done
  obtain rfl : removed = 1 := counted
  have gone := pruned.gone onlyBackup (by decide +kernel) (by decide +kernel)
  refine ⟨⟨path, _, made, path_eq⟩, begun, within, older, orderly, listed, after, done, gone,
    ?_, ?_, left⟩
  · rw [pruned.stays copiedBackup (by decide +kernel) (by decide +kernel)]
    rfl
  · rw [pruned.unextended "notes.txt".toList (by decide +kernel)]
    rfl

end Shelf

end IniKeeper
