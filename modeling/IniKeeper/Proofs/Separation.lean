import IniKeeper.Proofs.Harmless
import IniKeeper.Proofs.BackupLog

/-!
# Backups of different files

Backups are kept in folders that have the names of the files. So whatever is done with files, by any
number of runs and restorations, the backups of files with different names stay apart: what is done
with one never lists, removes or changes a backup of another, and each shelf stays within its limit.
Files with the same name in different folders share a shelf, and there each lists the backups of the
other.
-/

namespace IniKeeper

open Store (Tree Place Path.aim Path.way)
open Store.Tree (Confined)

/-! ### Shelves of different files -/

namespace Shelf

variable {tree : Tree} {start place : Place} {configHome file other : Text}
  {settings others : Settings} {kept : List Backup} {path : Text}

/-- Shelves of files with different names are at different places. -/
theorem site_ne (apart : folderName other ≠ folderName file) :
    (ofTarget configHome others other).site start ≠
      (ofTarget configHome settings file).site start := by
  rw [site_ofTarget, site_ofTarget]
  intro same
  have names := List.append_cancel_left same
  simp [apart] at names

/-- The folder of one shelf does not lie in that of another, since both lie in the same folder. -/
theorem not_inside_site : ¬ (ofTarget configHome others other).Inside start
    ((ofTarget configHome settings file).site start) := by
  rw [Inside, site_ofTarget, site_ofTarget]
  intro same
  have lengths := congrArg List.length same
  simp at lengths

/-- The way to one shelf does not lead into the folder of another if the way to the other does
not. -/
theorem not_inside_of_mem_way
    (clear : ∀ place ∈ Path.way start (ofTarget configHome settings file).folder,
      ¬ (ofTarget configHome settings file).Inside start place)
    (passed : place ∈ Path.way start (ofTarget configHome others other).folder) :
    ¬ (ofTarget configHome settings file).Inside start place := by
  have split (target : Text) : ∀ {chosen : Settings} {place : Place},
      place ∈ Path.way start (ofTarget configHome chosen target).folder ↔
        place ∈ Path.way start (Store.Path.under (programFolder configHome) "backups".toList) ∨
          place = (ofTarget configHome chosen target).site start := by
    intro chosen place
    rw [site, ofTarget, Store.Path.mem_way_under _ (proper_folderName target),
      Store.Path.aim_under _ (proper_folderName target)]
  rcases (split other).mp passed with above | rfl
  · exact clear place ((split file).mpr (.inl above))
  · exact not_inside_site

/-- A backup that was made on a shelf aims directly into its folder. -/
theorem Makes.inside {shelf : Shelf} (made : shelf.Makes path) :
    shelf.Inside start (Path.aim start path) := by
  obtain ⟨instant, rfl⟩ := made
  rw [Inside, Store.Path.aim_under _ (Backup.proper_nameAt instant), List.dropLast_concat, site]

/-- The shelf of a file with another name lists no backup that was made on the shelf of a file,
whatever the files are. -/
theorem not_mem_of_makes (apart : folderName other ≠ folderName file)
    (made : (ofTarget configHome settings file).Makes path) (sound : tree.Sound)
    (listed : (ofTarget configHome others other).backups tree = .ok kept) :
    path ∉ kept.map Backup.path := by
  intro member
  obtain ⟨backup, among, rfl⟩ := List.mem_map.mp member
  have here : (ofTarget configHome settings file).Inside tree.start _ := made.inside
  rw [Inside, aim_of_mem_backups sound listed among, List.dropLast_concat] at here
  exact site_ne apart here

/-- Files with the same name have their backups in the same folder. -/
theorem folder_eq (same : folderName other = folderName file) :
    (ofTarget configHome others other).folder = (ofTarget configHome settings file).folder := by
  rw [ofTarget, ofTarget, same]

/-- What a shelf lists depends on its folder only. -/
theorem backups_congr {shelf another : Shelf} (same : another.folder = shelf.folder) :
    another.backups = shelf.backups := by
  funext tree
  unfold backups
  rw [same]

end Shelf

/-! ### Errands -/

/-- What can be done with a file: a command is run on it, or a backup is restored to it. -/
inductive Deed where
  /-- Run a command. -/
  | run (command : Command)
  /-- Restore the newest backup that goes by an id. -/
  | restore (id : Text)

/-- What is done with the file of a context. -/
def Deed.job (context : Context) : Deed → Job Unit
  | run command => command.run context
  | restore id => do (← context.shelf).restore id context.file

/-- Restoring a backup is done by the shelf of the file. -/
theorem Deed.run_restore (context : Context) (id : Text) (workspace : Workspace) :
    ((restore id).job context).run workspace =
      ((context.shelfIn workspace).restore id context.file).run workspace := by
  have looked : context.shelf.run workspace = (.ok (context.shelfIn workspace), workspace) := rfl
  rw [job, Attempt.run_bind_of_ok looked]

/-- Something that is done with a file, and what it is done with. -/
structure Errand where
  /-- What is done. -/
  deed : Deed
  /-- The file, the settings and how equals signs are written. -/
  context : Context
  /-- The clock, the folders of the user, the answers from outside, and the schedule of the
  manager. -/
  surroundings : Workspace

namespace Errand

variable {errand : Errand} {tree : Tree} {configHome file path : Text} {settings : Settings}

/-- The workspace in which an errand starts. -/
def workspace (errand : Errand) (tree : Tree) : Workspace :=
  { errand.surroundings with tree := tree, shown := [] }

/-- What comes of an errand, and the workspace afterwards. -/
def run (errand : Errand) (tree : Tree) : Except Failure Unit × Workspace :=
  (errand.deed.job errand.context).run (errand.workspace tree)

/-- The shelf for the backups of the file. -/
def shelf (errand : Errand) : Shelf :=
  .ofTarget errand.surroundings.configHome errand.context.settings errand.context.file

/-- The backups that an errand makes, each with the file of which it is made. -/
def made (errand : Errand) (tree : Tree) : List (Text × Text) :=
  (errand.run tree).2.shown.filterMap Emission.backup?

/-- An errand makes backups of its file only, and on the shelf of the file. -/
theorem of_mem_made {source : Text} (member : (source, path) ∈ errand.made tree) :
    source = errand.context.file ∧ errand.shelf.Makes path := by
  have tells : Workspace.TellsOf errand.shelf errand.context.file (errand.workspace tree)
      (errand.run tree).2 := by
    rw [run]
    cases errand.deed with
    | run command => exact command.tells_run errand.context (errand.workspace tree)
    | restore id =>
      rw [Deed.run_restore]
      exact errand.shelf.tells_restore id errand.context.file (errand.workspace tree)
  obtain ⟨emissions, shown, only⟩ := tells
  obtain ⟨emission, told, backup⟩ := List.mem_filterMap.mp member
  have all : (errand.run tree).2.shown = emissions := shown
  rw [all] at told
  exact only emission told source path backup

/-- The places of the files that an errand may change: those in the folder of the shelf, the file
itself and the settings file. -/
def Touches (errand : Errand) (start place : Place) : Prop :=
  errand.shelf.Inside start place ∨ place = Path.aim start errand.context.file ∨
    place = Path.aim start (Settings.path errand.surroundings.configHome)

/-- The places of the folders that an errand may make: those on the way of the shelf or the file. -/
def Passes (errand : Errand) (start place : Place) : Prop :=
  place ∈ Path.way start errand.shelf.folder ∨ place ∈ Path.way start errand.context.file

/-- An errand is confined to the places that it may touch and pass. -/
theorem confined (errand : Errand) (sound : tree.Sound) :
    Confined (errand.Touches tree.start) (errand.Passes tree.start) tree
      (errand.run tree).2.tree := by
  rw [run]
  cases errand.deed with
  | run command =>
    refine (@Command.confined_run (errand.workspace tree) errand.context command sound).mono ?_
      fun _ passed => passed
    rintro place ((inside | ⟨-, here⟩) | ⟨-, there⟩)
    · exact .inl inside
    · exact .inr (.inl here)
    · exact .inr (.inr there)
  | restore id =>
    rw [Deed.run_restore]
    refine (errand.shelf.confined_restore id errand.context.file (errand.workspace tree)
      sound).mono ?_ fun _ => .inl
    rintro place (inside | ⟨-, here⟩)
    · exact .inl inside
    · exact .inr (.inl here)

/-- Whether an errand leaves a backup alone. -/
structure Spares (errand : Errand) (tree : Tree) (path : Text) : Prop where
  /-- It is never listed for the file of the errand, so the errand neither restores nor removes
  it. -/
  unlisted : ∀ other : Tree, other.Sound → ∀ kept, errand.shelf.backups other = .ok kept →
    path ∉ kept.map Backup.path
  /-- It stays as it is, unless it is itself the file of the errand. -/
  kept : Path.aim tree.start errand.context.file ≠ Path.aim tree.start path →
    tree.KeepsFile (errand.run tree).2.tree path

/-- An errand leaves the backups of files with other names alone. -/
theorem spares (sound : tree.Sound) (here : errand.surroundings.configHome = configHome)
    (apart : Shelf.folderName errand.context.file ≠ Shelf.folderName file)
    (made : (Shelf.ofTarget configHome settings file).Makes path) : errand.Spares tree path where
  unlisted := by
    subst here
    exact fun other otherSound kept listed => Shelf.not_mem_of_makes apart made otherSound listed
  kept := by
    subst here
    intro elsewhere
    have inside : (Shelf.ofTarget _ settings file).Inside tree.start (Path.aim tree.start path) :=
      made.inside
    refine (errand.confined sound).keepsFile ?_
    rintro (own | target | config)
    · exact Shelf.site_ne apart (own.symm.trans inside)
    · exact elsewhere target.symm
    · rw [config] at inside
      exact Shelf.not_inside_settings inside

/-- Whether an errand is carried out by a manager of its own under the limit of a shelf, and its
file keeps clear of the shelf. -/
structure Regular (shelf : Shelf) (start : Place) (errand : Errand) : Prop where
  /-- The limit is that of the shelf. -/
  limit : errand.context.settings.maxBackups = shelf.limit
  /-- The manager made no backup before. -/
  fresh : errand.surroundings.schedule = .fresh
  /-- The file keeps clear of the shelf. -/
  clear : shelf.Clear start errand.context.file

/-- A regular errand leaves a tended shelf tended. -/
theorem Regular.tended (here : errand.surroundings.configHome = configHome)
    (regular : errand.Regular (Shelf.ofTarget configHome settings file) tree.start)
    (tended : (Shelf.ofTarget configHome settings file).Tended tree) :
    (Shelf.ofTarget configHome settings file).Tended (errand.run tree).2.tree := by
  subst here
  by_cases same : Shelf.folderName errand.context.file = Shelf.folderName file
  · -- The shelf is that of the errand.
    have own : Shelf.ofTarget errand.surroundings.configHome settings file = errand.shelf := by
      have limit : settings.maxBackups = errand.context.settings.maxBackups := regular.limit.symm
      rw [shelf, Shelf.ofTarget, Shelf.ofTarget, same, limit]
    have some : errand.shelf.folder ≠ [] := Shelf.folder_ofTarget_ne_nil _ _ _
    have clear := regular.clear
    rw [own] at tended clear ⊢
    rw [run]
    cases errand.deed with
    | run command =>
      exact @Command.tended_run errand.context (errand.workspace tree) command tended regular.fresh
        clear
    | restore id =>
      rw [Deed.run_restore]
      exact @Shelf.Tended.restore errand.shelf errand.context.file (errand.workspace tree) tended
        some regular.fresh clear id
  · refine tended.of_confined (errand.confined tended.sound) ?_ ?_
    · rintro place ((inside | rfl | rfl) | passed | passed)
      · exact fun also => Shelf.site_ne same (inside.symm.trans also)
      · exact regular.clear.outside _ (Store.Path.aim_mem_way _ _)
      · exact Shelf.not_inside_settings
      · exact Shelf.not_inside_of_mem_way regular.clear.passing passed
      · exact regular.clear.outside place passed
    · rintro (inside | target | config)
      · exact Shelf.not_inside_site inside
      · exact regular.clear.apart target.symm
      · exact Shelf.site_ne_settings config

end Errand

/-! ### Any number of errands -/

/-- A tree, and all backups that were made so far, each with the file of which it was made. -/
structure Ledger where
  /-- The files and folders. -/
  tree : Tree
  /-- The files and the paths of their backups. -/
  made : List (Text × Text)

namespace Ledger

variable {ledger : Ledger} {errand : Errand} {errands : List Errand} {tree : Tree} {start : Place}
  {configHome : Text}

/-- The tree that an errand leaves, and the backups with those that it makes. -/
def after (ledger : Ledger) (errand : Errand) : Ledger where
  tree := (errand.run ledger.tree).2.tree
  made := ledger.made ++ errand.made ledger.tree

/-- The tree that some errands leave, and the backups with those that they make. -/
def afterAll (ledger : Ledger) (errands : List Errand) : Ledger := errands.foldl after ledger

/-- Whether the tree is in order and each backup was made on the shelf of its file. -/
structure Kept (configHome : Text) (start : Place) (ledger : Ledger) : Prop where
  /-- The tree is in order. -/
  sound : ledger.tree.Sound
  /-- Relative paths start at this place. -/
  start : ledger.tree.start = start
  /-- The backups are on the shelves of their files. -/
  made : ∀ file path, (file, path) ∈ ledger.made →
    (Shelf.ofTarget configHome .default file).Makes path

/-- An errand keeps the tree in order and each backup on the shelf of its file. -/
theorem Kept.after (kept : Kept configHome start ledger)
    (here : errand.surroundings.configHome = configHome) :
    Kept configHome start (ledger.after errand) where
  sound := (errand.confined kept.sound).sound kept.sound
  start := (errand.confined kept.sound).start.trans kept.start
  made := by
    intro file path member
    rcases List.mem_append.mp member with before | now
    · exact kept.made file path before
    · obtain ⟨rfl, made⟩ := Errand.of_mem_made now
      subst here
      exact made

/-- Errands in a row keep the tree in order and each backup on the shelf of its file. -/
theorem Kept.afterAll (kept : Kept configHome start ledger)
    (here : ∀ errand ∈ errands, errand.surroundings.configHome = configHome) :
    Kept configHome start (ledger.afterAll errands) := by
  induction errands generalizing ledger with
  | nil => exact kept
  | cons errand rest ih =>
    exact ih (kept.after (here errand List.mem_cons_self)) fun other member =>
      here other (List.mem_cons_of_mem errand member)

/-- Regular errands leave a tended shelf tended. -/
theorem Kept.tended {file : Text} {settings : Settings} (kept : Kept configHome start ledger)
    (here : ∀ errand ∈ errands, errand.surroundings.configHome = configHome)
    (regular : ∀ errand ∈ errands, errand.Regular (Shelf.ofTarget configHome settings file) start)
    (tended : (Shelf.ofTarget configHome settings file).Tended ledger.tree) :
    (Shelf.ofTarget configHome settings file).Tended (ledger.afterAll errands).tree := by
  induction errands generalizing ledger with
  | nil => exact tended
  | cons errand rest ih =>
    have first := regular errand List.mem_cons_self
    rw [← kept.start] at first
    have next := kept.after (here errand List.mem_cons_self)
    exact ih next (fun other member => here other (List.mem_cons_of_mem errand member))
      (fun other member => regular other (List.mem_cons_of_mem errand member))
      (first.tended (here errand List.mem_cons_self) tended)

/-- After any errands on any files, with the settings in one folder: an errand leaves the backups of
a file alone if its own file has another name, and else it has them on its own shelf. If besides all
errands were regular and the shelf of the file was tended, the shelf can be listed and lists no more
backups than its limit allows. -/
theorem backups_stay_apart (sound : tree.Sound)
    (here : ∀ errand ∈ errands, errand.surroundings.configHome = configHome) :
    let ledger := (Ledger.mk tree []).afterAll errands
    ∀ (file : Text) (settings : Settings), let shelf := Shelf.ofTarget configHome settings file
      (∀ errand : Errand, errand.surroundings.configHome = configHome →
        (Shelf.folderName errand.context.file ≠ Shelf.folderName file →
          ∀ path, (file, path) ∈ ledger.made → errand.Spares ledger.tree path) ∧
        (Shelf.folderName errand.context.file = Shelf.folderName file →
          errand.shelf.backups = shelf.backups)) ∧
      ((∀ errand ∈ errands, errand.Regular shelf tree.start) → shelf.Tended tree →
        ∃ kept, shelf.backups ledger.tree = .ok kept ∧ kept.length ≤ shelf.limit) := by
  intro ledger file settings shelf
  have start : Kept configHome tree.start (Ledger.mk tree []) :=
    ⟨sound, rfl, fun _ _ none => absurd none List.not_mem_nil⟩
  have kept : Kept configHome tree.start ledger := start.afterAll here
  refine ⟨fun errand same => ⟨fun apart path member => ?_, fun alike => ?_⟩, ?_⟩
  · exact errand.spares kept.sound same apart (kept.made file path member)
  · subst same
    exact Shelf.backups_congr (Shelf.folder_eq alike)
  · intro regular tended
    have still : shelf.Tended ledger.tree := start.tended here regular tended
    exact ⟨shelf.stock ledger.tree, still.listed, still.few⟩

end Ledger

/-- An errand with the settings as they are by default. -/
def Errand.plain (deed : Deed) (file : String) : Errand where
  deed := deed
  context := ⟨.default, file.toList, false⟩
  surroundings :=
    { tree := .empty []
      clock := .startingAt (.after1970 1600000000000000000)
      home := []
      configHome := "config".toList
      outside := fun _ => .error []
      schedule := .fresh
      shown := [] }

/-- Set a value. -/
def Deed.setting : Deed := .run (.set "k".toList "2".toList none none)

/-- Remove all backups. -/
def Deed.clearing : Deed := .run (.backup (.clean 0))

/-- Two folders, with one file in each. -/
def Store.Tree.twoFolders : Store.Tree :=
  ⟨[], [(["a".toList], .folder), (["a".toList, "app.ini".toList], .file "k=1\n".toUTF8),
    (["b".toList], .folder), (["b".toList, "web.ini".toList], .file "k=3\n".toUTF8)]⟩

/-- Once both files were written, removing the backups of one leaves that of the other. -/
theorem Ledger.backups_stay_apart_clearing :
    let errands := [Errand.plain .setting "a/app.ini", .plain .setting "b/web.ini"]
    let ledger := (Ledger.mk .twoFolders []).afterAll errands
    let path := "config/inidoc/backups/app.ini/2020-09-13_122640_000000000.bak".toList
    let shelf := Shelf.ofTarget "config".toList .default "a/app.ini".toList
    ("a/app.ini".toList, path) ∈ ledger.made ∧
      ((Errand.plain .clearing "b/web.ini").run ledger.tree).2.tree.read path =
        .ok "k=1\n".toUTF8 ∧
      ∃ kept, shelf.backups ledger.tree = .ok kept ∧ kept.length ≤ 20 := by
  intro errands ledger path shelf
  have sound : Tree.Sound .twoFolders := ⟨by decide +kernel, by decide +kernel, by decide +kernel⟩
  have bare : shelf.Bare .twoFolders := by
    have nothing : Tree.twoFolders.node? (shelf.site Tree.twoFolders.start) = none := by
      decide +kernel
    exact ⟨fun content => by simp [nothing], by decide +kernel⟩
  have made : ("a/app.ini".toList, path) ∈ ledger.made := by decide +kernel
  have here : ∀ errand ∈ errands, errand.surroundings.configHome = "config".toList := by
    decide +kernel
  have regular : ∀ errand ∈ errands, errand.Regular shelf Tree.twoFolders.start := by
    intro errand member
    rcases List.mem_cons.mp member with rfl | rest
    · exact ⟨rfl, rfl, Shelf.clear_of_level (by decide +kernel) (by decide +kernel)
        (by decide +kernel) (by decide +kernel)⟩
    · obtain rfl := List.mem_singleton.mp rest
      exact ⟨rfl, rfl, Shelf.clear_of_level (by decide +kernel) (by decide +kernel)
        (by decide +kernel) (by decide +kernel)⟩
  obtain ⟨errand, few⟩ := backups_stay_apart sound here "a/app.ini".toList .default
  have spares : (Errand.plain .clearing "b/web.ini").Spares ledger.tree path :=
    (errand (.plain .clearing "b/web.ini") rfl).1 (by decide +kernel) path made
  have held : ledger.tree.read path = .ok "k=1\n".toUTF8 := by decide +kernel
  have kept := (spares.kept (by decide +kernel)).read _ held
  exact ⟨made, kept, few regular (bare.tended sound)⟩

/-- A file with the same name in another folder lists the backup of the first, restores it and
removes it. -/
theorem Ledger.backups_mix_under_one_name :
    let ledger := (Ledger.mk .twoFolders []).afterAll [.plain .setting "a/app.ini"]
    let path := "config/inidoc/backups/app.ini/2020-09-13_122640_000000000.bak".toList
    let restoring := Errand.plain (.restore "2020-09-13_122640_000000000".toList) "b/app.ini"
    let clearing := Errand.plain .clearing "b/app.ini"
    ("a/app.ini".toList, path) ∈ ledger.made ∧
      (clearing.shelf.backups ledger.tree).map (List.map Backup.path) = .ok [path] ∧
      (restoring.run ledger.tree).2.tree.read "b/app.ini".toList = .ok "k=1\n".toUTF8 ∧
      ledger.tree.read path = .ok "k=1\n".toUTF8 ∧
      (clearing.run ledger.tree).2.tree.read path = .error .missing := by
  refine ⟨by decide +kernel, by decide +kernel, by decide +kernel, by decide +kernel,
    by decide +kernel⟩

end IniKeeper
