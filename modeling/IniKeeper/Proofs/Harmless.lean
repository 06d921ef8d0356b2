import IniKeeper.Program
import IniKeeper.Proofs.CommandFootprint

/-!
# Questions and failed runs leave the files

A run reads the settings and its command line before it comes to its command. A run of the program
that only asks leaves the tree as it was, whether it fails or not. A run that fails leaves every
file but those directly in the folder of backups, the target among them: saving is the last thing
that a command does which can fail, and where it fails the file was not written.
-/

namespace IniKeeper

open Store (Tree Path.aim)
open Store.Tree (Confined)

/-! ### Coming to the command -/

/-- Loading the settings only looks. -/
theorem Settings.looks_load : Job.Looks Settings.load := by
  refine Job.looks_workspace.bind fun workspace => ?_
  dsimp only
  split
  · refine (Job.looks_ofExcept _ _).bind fun text => ?_
    split
    · exact Job.looks_pure _
    · exact Job.looks_throw _
  · exact Job.looks_pure _

/-- What a command works with, or there is no file to work on. -/
theorem Context.run_ofInvocation (invocation : Invocation) (settings : Settings)
    (workspace : Workspace) :
    (ofInvocation invocation settings).run workspace = (.error .noFile, workspace) ∨
      (ofInvocation invocation settings).run workspace =
        (.ok ⟨settings, Store.Path.expandHome workspace.home (invocation.file.getD []),
          invocation.padded || settings.paddedEquals⟩, workspace) := by
  have looked : Job.workspace.run workspace = (.ok workspace, workspace) := rfl
  rw [ofInvocation, Attempt.run_bind_of_ok looked]
  dsimp only
  cases invocation.file with
  | some path => exact .inr rfl
  | none =>
    cases needs : invocation.command.needsFile with
    | true => exact .inl rfl
    | false => exact .inr rfl

/-- All that a run of an invocation can come to: it fails while it looks at the settings and the
command line, or it carries out its command on the file. -/
inductive Arrival (invocation : Invocation) (workspace : Workspace) :
    Except Failure Unit × Workspace → Prop where
  /-- It did not come to its command. -/
  | stopped {failure : Failure} {emissions : List Emission} :
      Arrival invocation workspace (.error failure, workspace.showing emissions)
  /-- It carried out its command. -/
  | arrived {context : Context} {emissions : List Emission}
      (file : context.file = Store.Path.expandHome workspace.home (invocation.file.getD [])) :
      Arrival invocation workspace
        ((invocation.command.run context).run (workspace.showing emissions))

/-- Every run of an invocation stops before its command or carries it out on the file. -/
theorem Invocation.arrival (invocation : Invocation) (workspace : Workspace) :
    Arrival invocation workspace (invocation.run.run workspace) := by
  obtain ⟨emissions, -, left⟩ := Settings.looks_load workspace
  rcases loaded : Settings.load.run workspace with ⟨failure | settings, between⟩
  all_goals
    rw [loaded] at left
    obtain rfl : between = workspace.showing emissions := left
  · rw [run, Attempt.run_bind_of_error loaded]
    exact .stopped
  · have logged : (Job.log [.configured settings.describe]).run (workspace.showing emissions) =
        (.ok (), (workspace.showing emissions).showing [.log (.configured settings.describe)]) :=
      rfl
    rw [run, Attempt.run_bind_of_ok loaded, Attempt.run_bind_of_ok logged,
      Workspace.showing_showing]
    rcases Context.run_ofInvocation invocation settings
      (workspace.showing (emissions ++ [.log (.configured settings.describe)])) with failed | made
    · rw [Attempt.run_bind_of_error failed]
      exact .stopped
    · rw [Attempt.run_bind_of_ok made]
      exact .arrived rfl

/-! ### What is left as it was -/

/-- Whether the file that a path aims at is the same in two trees, and is read where it was. -/
structure Store.Tree.KeepsFile (before after : Tree) (path : Text) : Prop where
  /-- The place at which the path aims holds a file exactly if it held this file. -/
  held : ∀ content, after.node? (Path.aim before.start path) = some (.file content) ↔
    before.node? (Path.aim before.start path) = some (.file content)
  /-- What could be read can be read. -/
  read : ∀ content, before.read path = .ok content → after.read path = .ok content

/-- A change that is confined to other places keeps a file. -/
theorem Store.Tree.Confined.keepsFile {files folders : Place → Prop} {before after : Tree}
    {path : Text} (confined : Confined files folders before after)
    (elsewhere : ¬ files (Path.aim before.start path)) : before.KeepsFile after path where
  held := confined.file _ elsewhere
  read := by
    intro content reads
    obtain ⟨place, leads⟩ := Store.Tree.read_eq_ok_iff.mp reads
    obtain rfl := Store.Path.aim_of_resolve leads.resolve
    exact Store.Tree.read_eq_ok_iff.mpr ⟨_, confined.leadsTo leads elsewhere⟩

namespace Invocation

variable {invocation : Invocation} {workspace : Workspace}
  {outcome : Except Failure Unit × Workspace}

/-- Whether a path aims directly into the folder with the backups of the file of a run. -/
def AimsAtBackups (invocation : Invocation) (workspace : Workspace) (path : Text) : Prop :=
  (Path.aim workspace.tree.start path).dropLast =
    Path.aim workspace.tree.start (invocation.shelfFolder workspace.home workspace.configHome)

/-- Whether a path aims at the backups of a run can be decided. -/
instance (invocation : Invocation) (workspace : Workspace) (path : Text) :
    Decidable (invocation.AimsAtBackups workspace path) :=
  inferInstanceAs (Decidable (_ = _))

/-- A run that only asks leaves the tree. -/
theorem tree_of_isQuery (arrival : Arrival invocation workspace outcome)
    (query : invocation.command.isQuery = true) : outcome.2.tree = workspace.tree := by
  cases arrival with
  | stopped => rfl
  | @arrived context emissions file =>
    obtain ⟨more, -, left⟩ :=
      Command.looks_of_isQuery context query (workspace.showing emissions)
    rw [left]
    rfl

/-- A failed run keeps every file but the backups. -/
theorem keepsFile_of_error (arrival : Arrival invocation workspace outcome)
    (sound : workspace.tree.Sound) {failure : Failure} (failed : outcome.1 = .error failure)
    {path : Text} (elsewhere : ¬ invocation.AimsAtBackups workspace path) :
    workspace.tree.KeepsFile outcome.2.tree path := by
  cases arrival with
  | stopped =>
    have still : Confined Store.Tree.nowhere Store.Tree.nowhere workspace.tree workspace.tree :=
      .refl _
    exact still.keepsFile id
  | @arrived context emissions file =>
    have confined := @Command.confined_run (workspace.showing emissions) context
      invocation.command sound
    refine confined.keepsFile ?_
    rw [failed]
    rintro ((inside | ⟨wrong, -⟩) | ⟨wrong, -⟩)
    · refine elsewhere ?_
      unfold Shelf.Inside Context.shelfIn at inside
      rw [file] at inside
      exact inside
    · contradiction
    · contradiction

/-- A run that only asks leaves the whole tree, whether it fails or not. A run that fails keeps
every file that is not directly in the folder of its backups: it neither changes, nor removes, nor
makes one, and what could be read can be read as before. -/
theorem runToEnd_harmless {words : List Text} (accepted : read words = .ok invocation)
    (sound : workspace.tree.Sound) (levelWord : Option Text) :
    let report := runToEnd levelWord words workspace
    (invocation.command.isQuery = true → report.workspace.tree = workspace.tree) ∧
      (report.code ≠ 0 → ∀ path, ¬ invocation.AimsAtBackups workspace path →
        workspace.tree.KeepsFile report.workspace.tree path) := by
  intro report
  have arrival := invocation.arrival workspace
  rcases ran : invocation.run.run workspace with ⟨failure | ⟨⟨⟩⟩, left⟩
  · have ended : report = ⟨1, left.shown ++ [.complaint failure.report],
        levelFor levelWord workspace, left⟩ := by
      simp only [report, runToEnd, accepted, ran]
    rw [ran] at arrival
    rw [ended]
    exact ⟨fun query => tree_of_isQuery arrival query,
      fun _ path elsewhere => keepsFile_of_error arrival sound rfl elsewhere⟩
  · have ended : report = ⟨0, left.shown, levelFor levelWord workspace, left⟩ := by
      simp only [report, runToEnd, accepted, ran]
    rw [ran] at arrival
    rw [ended]
    exact ⟨fun query => tree_of_isQuery arrival query, fun wrong => absurd rfl wrong⟩

/-- A workspace in which the next backup cannot be made, since a folder has its name, and with a
user who always wants to go on. -/
def blocked : Workspace where
  tree :=
    let shelf := ["config", "inidoc", "backups", "app.ini"].map String.toList
    ⟨[], [(["app.ini".toList], .file "k=1\n".toUTF8), (shelf.take 1, .folder),
      (shelf.take 2, .folder), (shelf.take 3, .folder), (shelf, .folder),
      (shelf ++ ["2020-09-13_122640_000000000.bak".toList], .folder)]⟩
  clock := .startingAt (.after1970 1600000000000000000)
  home := []
  configHome := "config".toList
  outside := fun
    | .leave _ => .ok true
    | .download _ => .error []
  schedule := .fresh
  shown := []

/-- In the blocked workspace setting a value fails, and so does restoring the folder, which counts as
a backup, although the user wants to go on. The file stays both times. -/
theorem runToEnd_harmless_blocked :
    let run (words : List String) :=
      runToEnd none ((["--file", "app.ini"] ++ words).map String.toList) blocked
    let failure := Failure.notBackedUp "app.ini".toList .isFolder
    ∀ words ∈ [["set", "k", "2"], ["backup", "restore", "2020-09-13_122640_000000000"]],
      (run words).code = 1 ∧ (run words).shown.getLast? = some (.complaint failure.report) ∧
        (run words).workspace.tree.read "app.ini".toList = .ok "k=1\n".toUTF8 := by
  intro run failure words member
  have sound : blocked.tree.Sound := ⟨by decide +kernel, by decide +kernel, by decide +kernel⟩
  have keeps {command : Command} {words : List Text}
      (accepted : read words = .ok ⟨some "app.ini".toList, false, command⟩)
      (failed : (runToEnd none words blocked).code = 1) :
      (runToEnd none words blocked).workspace.tree.read "app.ini".toList =
        .ok "k=1\n".toUTF8 := by
    have elsewhere : ¬ AimsAtBackups ⟨some "app.ini".toList, false, command⟩ blocked
        "app.ini".toList := by
      dsimp only [AimsAtBackups, shelfFolder]
      decide +kernel
    have kept := (runToEnd_harmless accepted sound none).2 (failed ▸ Nat.one_ne_zero) _ elsewhere
    exact kept.read _ (by decide +kernel)
  rcases List.mem_pair.mp member with rfl | rfl
  · have failed : (run ["set", "k", "2"]).code = 1 := by decide +kernel
    refine ⟨failed, by decide +kernel, ?_⟩
    exact @keeps (.set "k".toList "2".toList none none) _ (by decide +kernel) failed
  · have failed : (run ["backup", "restore", "2020-09-13_122640_000000000"]).code = 1 := by
      decide +kernel
    refine ⟨failed, by decide +kernel, ?_⟩
    exact @keeps (.backup (.restore "2020-09-13_122640_000000000".toList)) _ (by decide +kernel)
      failed

end Invocation

end IniKeeper
