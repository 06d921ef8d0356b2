import IniKeeper.Proofs.Recovery
import IniKeeper.Proofs.CommandFootprint

/-!
# The stock of a shelf

What lies in the folder of a shelf under the extension of backups is its stock, whether the path of
the folder can be walked or not. A change that is confined to other places leaves the stock, a
cleanup that succeeds leaves its newest backups, and a backup that could be made is put in front of
the others before that. A shelf holds some versions of a file if its stock tells just these, with
their instants and their contents, so that making a backup adds one version.
-/

namespace IniKeeper

open Store (Tree Place Path.aim Path.way)
open Store.Tree (Confined nowhere)

namespace Shelf

variable {shelf : Shelf} {tree other : Tree} {start home : Place} {file : Text}
  {files folders : Place → Prop} {kept : List Backup} {workspace after : Workspace} {count : Nat}

/-- What lies in the folder of a shelf as backups, newest first. -/
def stock (shelf : Shelf) (tree : Tree) : List Backup :=
  (shelf.held (tree.children (shelf.site tree.start))).mergeSort Backup.notOlder

/-- A shelf that stands somewhere lists its stock. -/
theorem StandsAt.backups_eq_stock (stands : shelf.StandsAt tree home) :
    shelf.backups tree = .ok (shelf.stock tree) := by
  rw [stands.backups_eq, stock, stands.site_eq]

/-- A shelf whose folder is found stands where it aims. -/
theorem standsAt_of_find (found : tree.find shelf.folder = .ok .folder) :
    shelf.StandsAt tree (shelf.site tree.start) := by
  obtain ⟨place, leads, -, -⟩ := Store.Tree.find_eq_ok_iff.mp found
  have here : shelf.site tree.start = place := Store.Path.aim_of_resolve leads
  exact ⟨here ▸ leads, found⟩

/-- A change that is confined to other places leaves where a shelf stands. -/
theorem StandsAt.of_confined (stands : shelf.StandsAt tree home)
    (confined : Confined files folders tree other) : shelf.StandsAt other home :=
  ⟨confined.resolve stands.resolve, confined.find_folder stands.found⟩

/-- A change that touches nothing directly in the folder of a shelf leaves its stock. -/
theorem stock_of_confined (confined : Confined files folders tree other)
    (apart : ∀ place, files place ∨ folders place → ¬ shelf.Inside tree.start place) :
    shelf.stock other = shelf.stock tree := by
  rw [stock, confined.start, confined.children (shelf.site tree.start) apart, stock]

/-- Whether a shelf can be listed where it stands, and nothing is in its way where it does not. -/
structure Usable (shelf : Shelf) (tree : Tree) : Prop where
  /-- The tree is in order. -/
  sound : tree.Sound
  /-- No file stands in the place of the folder. -/
  plain : ∀ content, tree.node? (shelf.site tree.start) ≠ some (.file content)
  /-- Where there is a stock, the folder is found. -/
  stands : shelf.stock tree ≠ [] → shelf.StandsAt tree (shelf.site tree.start)

/-- A usable shelf lists its stock. -/
theorem Usable.listed (usable : shelf.Usable tree) :
    shelf.backups tree = .ok (shelf.stock tree) := by
  by_cases none : shelf.stock tree = []
  · unfold backups Store.Tree.has
    cases found : tree.find shelf.folder with
    | error cause =>
      rw [none]
      rfl
    | ok node =>
      cases node with
      | folder =>
        have listed := (standsAt_of_find found).backups_eq_stock
        simpa [backups, Store.Tree.has, found] using listed
      | file content =>
        obtain ⟨place, leads⟩ := Store.Tree.find_file_iff.mp found
        have here : shelf.site tree.start = place := Store.Path.aim_of_resolve leads.resolve
        exact absurd leads.node (here ▸ usable.plain content)
  · exact (usable.stands none).backups_eq_stock

/-- A change that touches neither the folder of a shelf nor anything directly in it leaves the shelf
usable. -/
theorem Usable.of_confined (usable : shelf.Usable tree)
    (confined : Confined files folders tree other)
    (apart : ∀ place, files place ∨ folders place → ¬ shelf.Inside tree.start place)
    (elsewhere : ¬ files (shelf.site tree.start)) : shelf.Usable other where
  sound := confined.sound usable.sound
  plain := by
    intro content held
    rw [confined.start] at held
    exact usable.plain content ((confined.file _ elsewhere content).mp held)
  stands := by
    rw [stock_of_confined confined apart, confined.start]
    exact fun some => (usable.stands some).of_confined confined

/-- Whether nothing is in the folder of a shelf, and no file is in its place. -/
structure Bare (shelf : Shelf) (tree : Tree) : Prop where
  /-- No file stands in the place of the folder. -/
  plain : ∀ content, tree.node? (shelf.site tree.start) ≠ some (.file content)
  /-- Nothing lies directly in the folder. -/
  empty : tree.children (shelf.site tree.start) = []

/-- There is no stock on a bare shelf. -/
theorem Bare.stock_eq_nil (bare : shelf.Bare tree) : shelf.stock tree = [] := by
  have none : shelf.held [] = [] := rfl
  rw [stock, bare.empty, none, List.mergeSort_nil]

/-- A bare shelf in a tree in order is usable. -/
theorem Bare.usable (bare : shelf.Bare tree) (sound : tree.Sound) : shelf.Usable tree :=
  ⟨sound, bare.plain, fun some => absurd bare.stock_eq_nil some⟩

/-- Whether the ways of a file and of a shelf stay out of the folder of the shelf. -/
structure Clear (shelf : Shelf) (start : Place) (file : Text) : Prop where
  /-- The way of the shelf does not pass what lies in its folder. -/
  passing : ∀ place ∈ Path.way start shelf.folder, ¬ shelf.Inside start place
  /-- The way of the file does not pass what lies in the folder. -/
  outside : ∀ place ∈ Path.way start file, ¬ shelf.Inside start place
  /-- The file is not in the place of the folder. -/
  apart : Path.aim start file ≠ shelf.site start

/-- Where neither path leads up anywhere, the ways stay out of the folder of the shelf unless it
contains the file. -/
theorem clear_of_level (some : shelf.site start ≠ [])
    (level : Store.Path.above ∉ Store.Path.steps shelf.folder)
    (levelFile : Store.Path.above ∉ Store.Path.steps file)
    (elsewhere : ¬ shelf.site start <+: Path.aim start file) : shelf.Clear start file where
  passing := by
    intro place passed inside
    have within := Store.Path.prefix_of_mem_way level passed
    have deeper : place.length = (shelf.site start).length + 1 := by
      have shorter := congrArg List.length inside
      rw [List.length_dropLast] at shorter
      have filled := List.length_pos_of_ne_nil some
      omega
    have short : place.length ≤ (shelf.site start).length := within.length_le
    omega
  outside := by
    intro place passed inside
    have within := Store.Path.prefix_of_mem_way levelFile passed
    exact elsewhere (inside ▸ (List.dropLast_prefix place).trans within)
  apart := by
    intro same
    exact elsewhere (same ▸ List.prefix_rfl)

/-! ### Cleaning up -/

/-- Where backups could be removed, they were files, and these files are gone. -/
theorem tree_of_removeAll {old : List Backup} (sound : workspace.tree.Sound)
    (stands : shelf.StandsAt workspace.tree home)
    (named : ∀ backup ∈ old, Store.Path.Proper backup.filename ∧
      backup.path = Store.Path.under shelf.folder backup.filename)
    (removed : (removeAll old).run workspace = (.ok (), after)) :
    (∀ place ∈ old.map (placeOf home), workspace.tree.node? place ≠ some .folder) ∧
      after.tree = workspace.tree.without (old.map (placeOf home)) := by
  induction old generalizing workspace with
  | nil =>
    obtain rfl : workspace = after := (Prod.mk.inj removed).2
    rw [List.map_nil, Store.Tree.without_nil]
    exact ⟨fun place none => absurd none List.not_mem_nil, rfl⟩
  | cons backup rest ih =>
    obtain ⟨⟨⟩, between, first, further⟩ := Attempt.exists_of_run_bind_ok removed
    obtain ⟨proper, path⟩ := named backup List.mem_cons_self
    obtain ⟨changed, taken, rfl⟩ := Job.exists_of_run_once_ok first
    obtain ⟨place, content, leads⟩ := Store.Tree.exists_leadsTo_of_remove taken
    have here : place = placeOf home backup :=
      Store.Tree.resolve_under proper stands.resolve (path ▸ leads.resolve)
    obtain rfl : workspace.tree.without [place] = changed :=
      Except.ok.inj ((Store.Tree.remove_eq sound leads).symm.trans taken)
    have plain : ∀ other ∈ [place], workspace.tree.node? other ≠ some .folder := by
      intro other same
      rw [List.mem_singleton.mp same]
      exact leads.plain
    have same := Store.Tree.sameFolders_without plain
    obtain ⟨others, left⟩ := ih (sound.without [place]) (stands.of_sameFolders same)
      (fun other member => named other (List.mem_cons_of_mem backup member)) further
    refine ⟨fun elsewhere inside => ?_, ?_⟩
    · rcases List.mem_cons.mp inside with first | later
      · rw [first, ← here]
        exact leads.plain
      · exact fun folder => others elsewhere later ((same.folders elsewhere).mpr folder)
    · rw [left, Store.Tree.without_without, List.map_cons, here]
      rfl

/-- Where the newest backups could be kept, they are what is left of the stock. -/
theorem stock_of_keepNewest (sound : workspace.tree.Sound)
    (stands : shelf.StandsAt workspace.tree home) {removed : Nat}
    (done : (shelf.keepNewest count).run workspace = (.ok removed, after)) :
    shelf.StandsAt after.tree home ∧
      shelf.stock after.tree = (shelf.stock workspace.tree).take count := by
  have listed := stands.backups_eq_stock
  rw [keepNewest, Attempt.run_bind_of_ok (run_list listed)] at done
  obtain ⟨⟨⟩, between, taken, rest⟩ := Attempt.exists_of_run_bind_ok done
  obtain rfl : between = after := (Prod.mk.inj rest).2
  obtain ⟨plain, left⟩ := tree_of_removeAll sound stands
    (fun backup dropped => of_mem_backups sound listed (List.mem_of_mem_drop dropped)) taken
  have still := stands.of_sameFolders (Store.Tree.sameFolders_without plain)
  have distinct := stands.nodup_filenames sound listed
  have shorter := stands.backups_without listed plain
  rw [filter_not_dropped distinct] at shorter
  rw [left]
  exact ⟨still, Except.ok.inj (still.backups_eq_stock.symm.trans shorter)⟩

/-- Keeping the newest backups never leaves more than there were. -/
theorem length_stock_of_keepNewest (sound : workspace.tree.Sound) {removed : Nat}
    (done : (shelf.keepNewest count).run workspace = (.ok removed, after)) :
    (shelf.stock after.tree).length ≤ (shelf.stock workspace.tree).length := by
  have whole := done
  obtain ⟨kept, looked, asked, rest⟩ := Attempt.exists_of_run_bind_ok done
  cases listed : shelf.backups workspace.tree with
  | error cause =>
    rw [list, Job.run_bind_of_ok (Job.run_tree workspace), listed] at asked
    have wrong := (Prod.mk.inj asked).1
    contradiction
  | ok backups =>
    cases backups with
    | nil =>
      have nothing := (run_list listed).symm.trans asked
      obtain ⟨same, rfl⟩ := Prod.mk.inj nothing
      obtain rfl := Except.ok.inj same
      rw [List.drop_nil] at rest
      obtain rfl : workspace = after := (Prod.mk.inj rest).2
      exact Nat.le_refl _
    | cons backup others =>
      obtain ⟨home, stands⟩ := exists_standsAt listed List.mem_cons_self
      rw [(stock_of_keepNewest sound stands whole).2, List.length_take]
      exact Nat.min_le_right _ _

/-! ### Making a backup -/

/-- The steps of making a backup that succeeds: the folder was made, the file was copied there under
the name of the instant, and the shelf was cleaned up. -/
theorem exists_of_create {source path : Text}
    (created : (shelf.create source).run workspace = (.ok path, after)) :
    ∃ made copied : Tree,
      (Store.Steps.makeFolders shelf.folder).run workspace.tree = (.ok (), made) ∧
        made.copy source (shelf.nextPath workspace) = .ok copied ∧
        shelf.cleanUpIfDue.run { workspace.ticked with
          tree := copied
          shown := workspace.shown ++ [.log (.backedUp source (shelf.nextPath workspace))] } =
            (.ok (), after) := by
  obtain ⟨⟨⟩, first, folders, rest⟩ := Attempt.exists_of_run_bind_ok created
  obtain ⟨made, ran, rfl⟩ := Job.exists_of_run_onTree_ok folders
  rw [Attempt.run_bind_of_ok (Job.run_now _)] at rest
  obtain ⟨⟨⟩, second, stored, rest⟩ := Attempt.exists_of_run_bind_ok rest
  obtain ⟨copied, copies, rfl⟩ := Job.exists_of_run_once_ok stored
  obtain ⟨⟨⟩, third, logged, rest⟩ := Attempt.exists_of_run_bind_ok rest
  obtain ⟨⟨⟩, fourth, cleaned, ended⟩ := Attempt.exists_of_run_bind_ok rest
  obtain rfl : fourth = after := (Prod.mk.inj ended).2
  have shown := (Prod.mk.inj logged).2
  rw [← shown] at cleaned
  exact ⟨made, copied, ran, copies, cleaned⟩

end Shelf

/-! ### Versions of a file -/

/-- What a file held when it was backed up, and when that was. -/
structure Version where
  /-- The instant. -/
  instant : Instant
  /-- The content. -/
  content : ByteArray

/-- The id and the content of the backup of a version. -/
def Version.told (version : Version) : Text × Except Store.Cause ByteArray :=
  (version.instant.stamp, .ok version.content)

namespace Shelf

variable {shelf : Shelf} {tree other : Tree} {files folders : Place → Prop}
  {workspace after : Workspace} {versions : List Version} {backup : Backup}

/-- The ids of some backups, and what reading each of them gives. -/
def told (tree : Tree) (backups : List Backup) : List (Text × Except Store.Cause ByteArray) :=
  backups.map fun backup => (backup.id, tree.read backup.path)

/-- Whether a usable shelf holds just some versions of a file, the newest first. -/
structure Holds (shelf : Shelf) (tree : Tree) (versions : List Version) : Prop
    extends shelf.Usable tree where
  /-- The stock tells the versions. -/
  told : told tree (shelf.stock tree) = versions.map Version.told

namespace Holds

/-- Each backup of the stock is one of the versions. -/
theorem exists_version (holds : shelf.Holds tree versions) (member : backup ∈ shelf.stock tree) :
    ∃ version ∈ versions, backup.id = version.instant.stamp ∧
      tree.read backup.path = .ok version.content := by
  have told : (backup.id, tree.read backup.path) ∈ versions.map Version.told := by
    rw [← holds.told]
    exact List.mem_map_of_mem member
  obtain ⟨version, among, same⟩ := List.mem_map.mp told
  obtain ⟨id, content⟩ := Prod.mk.inj same
  exact ⟨version, among, id.symm, content.symm⟩

/-- A backup of the stock is a file at its place. -/
theorem leadsTo (holds : shelf.Holds tree versions) (member : backup ∈ shelf.stock tree) :
    ∃ version ∈ versions, backup.id = version.instant.stamp ∧
      tree.LeadsTo backup.path (placeOf (shelf.site tree.start) backup) version.content := by
  obtain ⟨version, among, id, content⟩ := holds.exists_version member
  have stands := holds.stands (List.ne_nil_of_mem member)
  exact ⟨version, among, id, stands.leadsTo holds.sound holds.listed member content⟩

/-- A change that touches neither the folder of the shelf nor anything directly in it leaves the
versions. -/
theorem of_confined (holds : shelf.Holds tree versions)
    (confined : Confined files folders tree other)
    (apart : ∀ place, files place ∨ folders place → ¬ shelf.Inside tree.start place)
    (elsewhere : ¬ files (shelf.site tree.start)) : shelf.Holds other versions where
  toUsable := holds.toUsable.of_confined confined apart elsewhere
  told := by
    rw [stock_of_confined confined apart, ← holds.told, Shelf.told, Shelf.told]
    refine List.map_congr_left fun backup member => ?_
    obtain ⟨version, -, -, leads⟩ := holds.leadsTo member
    have inside : shelf.Inside tree.start (placeOf (shelf.site tree.start) backup) :=
      List.dropLast_concat
    have still := confined.leadsTo leads fun touched => apart _ (.inl touched) inside
    rw [Store.Tree.read_eq_ok_iff.mpr ⟨_, leads⟩, Store.Tree.read_eq_ok_iff.mpr ⟨_, still⟩]

/-- A shelf that holds a version stands. -/
theorem standsAt (holds : shelf.Holds tree versions) (some : versions ≠ []) :
    shelf.StandsAt tree (shelf.site tree.start) := by
  refine holds.stands fun none => some ?_
  have told := holds.told
  rw [none] at told
  exact List.map_eq_nil_iff.mp told.symm

/-- A shelf that stands and holds older versions only is ready for one more. -/
theorem ready (holds : shelf.Holds workspace.tree versions) (limited : 1 ≤ shelf.limit)
    (stands : shelf.StandsAt workspace.tree (shelf.site workspace.tree.start))
    (older : ∀ version ∈ versions, version.instant.stamp < (nextInstant workspace).stamp)
    (room : ∃ place, workspace.tree.Takes (shelf.nextPath workspace) place) :
    shelf.Ready workspace (shelf.site workspace.tree.start) (shelf.stock workspace.tree) where
  sound := holds.sound
  limited := limited
  stands := stands
  listed := holds.listed
  readable := by
    intro backup dropped
    obtain ⟨version, -, -, leads⟩ := holds.leadsTo (List.mem_of_mem_drop dropped)
    exact ⟨version.content, leads⟩
  older := by
    intro backup member
    obtain ⟨version, among, id, -⟩ := holds.exists_version member
    rw [id]
    exact older version among
  room := room

/-- Once a backup was put in front of the others, reading the backups gives the versions with the
new one in front. -/
theorem told_withNext (holds : shelf.Holds workspace.tree versions)
    (ready : shelf.Ready workspace (shelf.site workspace.tree.start) (shelf.stock workspace.tree))
    (content : ByteArray) :
    Shelf.told (withNext workspace (shelf.site workspace.tree.start) content)
        (shelf.next workspace (shelf.stock workspace.tree) content) =
      (⟨nextInstant workspace, content⟩ :: versions : List Version).map Version.told := by
  have new : (withNext workspace (shelf.site workspace.tree.start) content).read
      (shelf.nextBackup workspace content).path = .ok content := by
    rw [path_nextBackup]
    exact Store.Tree.read_eq_ok_iff.mpr ⟨_, ready.takes.leadsTo_set content⟩
  have others : Shelf.told (withNext workspace (shelf.site workspace.tree.start) content)
      (shelf.stock workspace.tree) = versions.map Version.told := by
    rw [← holds.told, Shelf.told, Shelf.told]
    refine List.map_congr_left fun backup member => ?_
    obtain ⟨version, -, -, leads⟩ := holds.leadsTo member
    have still := ready.leadsTo_withNext content leads
    rw [Store.Tree.read_eq_ok_iff.mpr ⟨_, leads⟩, Store.Tree.read_eq_ok_iff.mpr ⟨_, still⟩]
  have id : (shelf.nextBackup workspace content).id = (nextInstant workspace).stamp := rfl
  rw [next, Shelf.told, List.map_cons, List.map_cons, ← Shelf.told, others, new, id, Version.told]

/-- A rotation leaves the newest versions, with the new one in front. -/
theorem rotated (holds : shelf.Holds workspace.tree versions)
    (ready : shelf.Ready workspace (shelf.site workspace.tree.start) (shelf.stock workspace.tree))
    (content : ByteArray) :
    shelf.Holds (shelf.rotated workspace (shelf.site workspace.tree.start)
        (shelf.stock workspace.tree) content)
      ((⟨nextInstant workspace, content⟩ :: versions).take shelf.limit) := by
  have stands := ready.stands.of_sameFolders (ready.sameFolders_rotated content)
  have stock := Except.ok.inj (stands.backups_eq_stock.symm.trans (ready.listed_rotated content))
  have told := congrArg (List.take shelf.limit) (holds.told_withNext ready content)
  refine ⟨⟨(ready.sound_withNext content).without _, fun held file => ?_, fun _ => stands⟩, ?_⟩
  · obtain ⟨place, leads, looked, -⟩ := Store.Tree.find_eq_ok_iff.mp stands.found
    obtain rfl := Except.ok.inj (stands.resolve.symm.trans leads)
    have folder := (Store.Tree.look_eq_ok_iff.mp looked).2
    exact absurd (folder.symm.trans file) (by simp)
  · rw [Shelf.told, ← List.map_take, ← List.map_take] at told
    rw [stock, ← told, Shelf.told]
    refine List.map_congr_left fun backup newest => ?_
    -- What was there before the cleanup could be read, and the newest of it stays.
    have among : (backup.id, (withNext workspace (shelf.site workspace.tree.start) content).read
        backup.path) ∈ ((⟨nextInstant workspace, content⟩ :: versions : List Version).take
          shelf.limit).map Version.told := by
      rw [← told]
      exact List.mem_map_of_mem newest
    obtain ⟨version, -, same⟩ := List.mem_map.mp among
    have reads := (Prod.mk.inj same).2.symm
    have leads := (ready.stands_withNext content).leadsTo (ready.sound_withNext content)
      (ready.listed_withNext content) (List.mem_of_mem_take newest) reads
    have still := ready.leadsTo_rotated content newest leads
    rw [reads, Store.Tree.read_eq_ok_iff.mpr ⟨_, still⟩]

/-- Backing up a file, where that succeeds, adds the version that the file holds, and the limit
takes the oldest one where there is no room. -/
theorem of_create (holds : shelf.Holds workspace.tree versions) (some : shelf.folder ≠ [])
    (limited : 1 ≤ shelf.limit) (fresh : workspace.schedule = .fresh)
    (clear : ∀ place ∈ Path.way workspace.tree.start shelf.folder,
      ¬ shelf.Inside workspace.tree.start place)
    (older : ∀ version ∈ versions, version.instant.stamp < (nextInstant workspace).stamp)
    {source path : Text} {place : Place} {content : ByteArray}
    (leads : workspace.tree.LeadsTo source place content)
    (created : (shelf.create source).run workspace = (.ok path, after)) :
    shelf.Holds after.tree ((⟨nextInstant workspace, content⟩ :: versions).take shelf.limit) := by
  obtain ⟨made, copied, folders, copies, -⟩ := exists_of_create created
  have found := Store.Steps.find_of_makeFolders some folders
  have confined := Store.Steps.confined_makeFolders shelf.folder workspace.tree
  rw [folders] at confined
  -- Once the folder is there, making the backup again comes to the same.
  let between : Workspace := { workspace with tree := made }
  have first : (Job.onTree (.noShelf shelf.folder) (.makeFolders shelf.folder)).run workspace =
      (.ok (), between) := Job.run_onTree_of_ok folders
  have again : (Job.onTree (.noShelf shelf.folder) (.makeFolders shelf.folder)).run between =
      (.ok (), between) := Job.run_onTree_of_ok (Store.Steps.run_makeFolders_of_found found)
  have rerun : (shelf.create source).run between = (.ok path, after) := by
    rw [create, Attempt.run_bind_of_ok again]
    rw [create, Attempt.run_bind_of_ok first] at created
    exact created
  have apart : ∀ place, nowhere place ∨ place ∈ Path.way workspace.tree.start shelf.folder →
      ¬ shelf.Inside workspace.tree.start place := by
    rintro place (none | passed)
    · exact none.elim
    · exact clear place passed
  have holdsThere : shelf.Holds between.tree versions := holds.of_confined confined apart id
  obtain ⟨there, bytes, takes, -⟩ := Store.Tree.exists_of_copy copies
  have ready := holdsThere.ready limited (standsAt_of_find found) older ⟨there, takes⟩
  obtain ⟨left, ran, tree⟩ := run_create ready fresh (confined.leadsTo leads id)
  obtain rfl : after = left := congrArg Prod.snd (rerun.symm.trans ran)
  rw [tree]
  exact holdsThere.rotated ready content

end Holds

end Shelf

end IniKeeper
