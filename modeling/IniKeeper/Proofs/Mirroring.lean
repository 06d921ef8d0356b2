import IniKeeper.Proofs.FileEdits

/-!
# The file follows the document in memory

Every command opens the file anew and writes all of it again, while the operations in memory work on
one document that is loaded once. Over a run of commands of any length, each with its own settings
and padding, the file stays missing or readable, and what it opens as agrees with the document in
memory. So a command that shows a value shows the value in memory.
-/

namespace IniKeeper

open Context (Opens)

/-! ### Turns -/

/-- One run of the program on the file: the command, and what it runs with. -/
structure Turn where
  /-- The command. -/
  edit : FileEdit
  /-- The settings of the user. -/
  settings : Settings
  /-- Whether equals signs are written with spaces around them. -/
  padded : Bool
  /-- The clock. -/
  clock : Clock
  /-- The user's own folder. -/
  home : Text
  /-- The folder for settings. -/
  configHome : Text
  /-- What the world outside answers, or why it gives no answer. -/
  outside : (query : Query) → Except Text query.Answer

namespace Turn

/-- What the command works with. -/
def context (turn : Turn) (file : Text) : Context := ⟨turn.settings, file, turn.padded⟩

/-- The workspace in which the run starts. -/
def workspace (turn : Turn) (tree : Store.Tree) : Workspace where
  tree := tree
  clock := turn.clock
  home := turn.home
  configHome := turn.configHome
  outside := turn.outside
  schedule := .fresh
  shown := []

/-- What comes of the run, and the workspace afterwards. -/
def run (turn : Turn) (file : Text) (tree : Store.Tree) : Except Failure Unit × Workspace :=
  (turn.edit.command.run (turn.context file)).run (turn.workspace tree)

/-- The content that a merge reads, where there is one to read. -/
def content (turn : Turn) (tree : Store.Tree) : Text :=
  match turn.edit with
  | .merge source =>
    match ((Command.sourceText source).run (turn.workspace tree)).1 with
    | .ok found => found
    | .error _ => []
  | _ => []

/-- What the operation in memory makes of a document. -/
def apply (turn : Turn) (tree : Store.Tree) (document : Document) : Except Fault Document :=
  turn.edit.apply (turn.content tree) document

/-- Whether nothing but a missing file keeps the run from accessing what it needs, and a source that
it merges has a key. -/
structure Quiet (turn : Turn) (file : Text) (tree : Store.Tree) : Prop where
  /-- Where something cannot be accessed, it is the file, which is missing. -/
  accessible : ∀ failure, (turn.run file tree).1 = .error failure → failure.isAccess = true →
    tree.has file = false ∧ turn.edit.needsFile = true
  /-- A source that can be loaded has a key. -/
  brings : turn.edit.BringsKeys (turn.content tree)

/-- Whether a turn is quiet can be decided by taking it. -/
instance decidableQuiet (turn : Turn) (file : Text) (tree : Store.Tree) :
    Decidable (turn.Quiet file tree) :=
  decidable_of_iff
    ((∀ failure, (turn.run file tree).1 = .error failure → failure.isAccess = true →
        tree.has file = false ∧ turn.edit.needsFile = true) ∧
      turn.edit.BringsKeys (turn.content tree))
    ⟨fun both => ⟨both.1, both.2⟩, fun quiet => ⟨quiet.accessible, quiet.brings⟩⟩

end Turn

/-- The tree of files on one side, and the document in memory on the other. -/
structure Twin where
  /-- The files and folders. -/
  tree : Store.Tree
  /-- The document in memory. -/
  memory : Document

namespace Twin

/-- Both sides after a turn: the run of the command on one, and on the other what the operation
makes of the document, which stays where the operation fails. -/
def after (file : Text) (twin : Twin) (turn : Turn) : Twin where
  tree := (turn.run file twin.tree).2.tree
  memory := (turn.apply twin.tree twin.memory).toOption.getD twin.memory

/-- Both sides after some turns. -/
def afterAll (file : Text) (twin : Twin) (turns : List Turn) : Twin :=
  turns.foldl (after file) twin

/-- Whether each of some turns is quiet in the tree that the turns before it left. -/
def Quiet (file : Text) (twin : Twin) : List Turn → Prop
  | [] => True
  | turn :: rest => turn.Quiet file twin.tree ∧ (twin.after file turn).Quiet file rest

/-- Whether turns are quiet can be decided by taking them. -/
instance decidableQuiet (file : Text) :
    (twin : Twin) → (turns : List Turn) → Decidable (twin.Quiet file turns)
  | _, [] => isTrue trivial
  | twin, turn :: rest =>
    have := decidableQuiet file (twin.after file turn) rest
    inferInstanceAs (Decidable (turn.Quiet file twin.tree ∧ (twin.after file turn).Quiet file rest))

/-- Whether the file opens as a document that agrees with the one in memory. -/
structure Mirrors (file : Text) (twin : Twin) : Prop where
  /-- The document in memory is sound. -/
  sound : twin.memory.Sound
  /-- The file opens, and what it opens as agrees. -/
  opens : ∃ found, Opens twin.tree file found ∧ found.Agrees twin.memory

end Twin

/-! ### What a file opens as -/

namespace Context.Opens

variable {tree : Store.Tree} {file : Text} {document : Document}

/-- What a file opens as is sound. -/
theorem sound (opens : Opens tree file document) : document.Sound := by
  cases opens with
  | missing absent => exact Document.sound_empty
  | holds read loaded =>
    have wellFormed := Session.wellFormed_of_load loaded
    rw [(Session.load_of_wellFormed wellFormed file).2]
    exact Document.sound_empty.parse file _

/-- A file with the text of a sound document opens as a document that agrees with it. -/
theorem exists_of_render {changed : Document} {padded : Bool} (sound : changed.Sound)
    (stored : tree.textAt file = .ok (changed.render padded)) :
    ∃ found, Opens tree file found ∧ found.Agrees changed := by
  obtain ⟨report, accepted, agrees⟩ := sound.reread padded file
  have wellFormed := (Document.isOk_parse_iff Document.sound_empty file _).mp ⟨report, accepted⟩
  obtain ⟨loaded, same⟩ := Session.load_of_wellFormed wellFormed file
  exact ⟨_, .holds stored loaded, same ▸ agrees⟩

end Context.Opens

/-! ### One turn -/

/-- Whether the run of a command had the outcome of its operation in memory: a fault, and then no
file changed; or a document, which the file follows where it is there. -/
structure Echoes (file : Text) (needsFile : Bool) (before : Store.Tree)
    (made : Except Fault Document) (outcome : Except Failure Unit × Workspace) : Prop where
  /-- Where the operation fails, the run fails for the same reason and changes no file. -/
  refused : ∀ fault, made = .error fault →
    outcome.1 = .error (.fault fault) ∧ outcome.2.tree = before
  /-- Where the operation succeeds, so does the run, unless it needs a file that is missing. -/
  done : ∀ changed, made = .ok changed → outcome.1 = .ok () ∨
    before.has file = false ∧ needsFile = true ∧ outcome.2.tree = before
  /-- What the operation made agrees with what the file opens as. -/
  opens : ∀ changed, made = .ok changed →
    ∃ found, Opens outcome.2.tree file found ∧ found.Agrees changed

/-- A run has the outcome of the operation on any document with which the file agrees. -/
theorem Edited.echoes {file : Text} {padded needsFile : Bool} {before : Store.Tree}
    {found : Document} {applied made : Except Fault Document}
    {outcome : Except Failure Unit × Workspace}
    (edited : Edited file padded needsFile before found applied outcome)
    (alike : Document.Alike applied made) (opens : Opens before file found)
    (sound : ∀ changed, applied = .ok changed → changed.Sound)
    (accessible : ∀ failure, outcome.1 = .error failure → failure.isAccess = true →
      before.has file = false ∧ needsFile = true) :
    Echoes file needsFile before made outcome := by
  have intact : ∀ failure, outcome.1 = .error failure → failure.isAccess = true →
      ¬ (needsFile = true → before.has file = true) := by
    intro failure failed access present
    obtain ⟨missing, needs⟩ := accessible failure failed access
    rw [present needs] at missing
    contradiction
  -- By the outcome of the operation; the ways out of the run that do not fit it contradict it.
  cases alike with
  | error reason =>
    refine ⟨fun fault same => ?_, fun _ wrong => by contradiction, fun _ wrong => by contradiction⟩
    obtain rfl := Except.error.inj same
    cases edited with
    | refused failed still =>
      obtain rfl := Except.error.inj failed
      exact ⟨rfl, still⟩
    | kept wrong _ => contradiction
    | saved wrong _ => contradiction
    | absent _ _ wrong _ => contradiction
    | broken access present => exact absurd present (intact _ rfl access)
  | @ok changed other agrees =>
    refine ⟨fun _ wrong => by contradiction, fun _ _ => ?_, fun result same => ?_⟩
    · cases edited with
      | refused wrong _ => contradiction
      | kept _ _ => exact .inl rfl
      | saved _ _ => exact .inl rfl
      | absent missing needs _ still => exact .inr ⟨missing, needs, still⟩
      | broken access present => exact absurd present (intact _ rfl access)
    · obtain rfl := Except.ok.inj same
      cases edited with
      | refused wrong _ => contradiction
      | kept unchanged still =>
        obtain rfl := Except.ok.inj unchanged
        exact ⟨changed, still ▸ opens, agrees⟩
      | saved made stored =>
        obtain rfl := Except.ok.inj made
        obtain ⟨reread, again, same⟩ := Opens.exists_of_render (sound changed rfl) stored
        exact ⟨reread, again, same.trans agrees⟩
      | absent _ _ unchanged still =>
        obtain rfl := Except.ok.inj unchanged
        exact ⟨changed, still ▸ opens, agrees⟩
      | broken access present => exact absurd present (intact _ rfl access)

namespace Twin

variable {file : Text} {twin : Twin} {turn : Turn}

/-- Where the file agrees with the document in memory, a turn has the outcome that the operation has
in memory. -/
theorem Mirrors.echoes (mirrors : Mirrors file twin) (quiet : turn.Quiet file twin.tree) :
    Echoes file turn.edit.needsFile twin.tree (turn.apply twin.tree twin.memory)
      (turn.run file twin.tree) := by
  obtain ⟨found, opens, agrees⟩ := mirrors.opens
  have fetched : ∀ source text, turn.edit = .merge source →
      ((Command.sourceText source).run (turn.workspace twin.tree)).1 = .ok text →
        text = turn.content twin.tree := by
    intro source text merges read
    rw [Turn.content, merges]
    simp only [read]
  have edited := @Edited.run (turn.context file) found (turn.workspace twin.tree) opens opens.sound
    (turn.content twin.tree) turn.edit fetched quiet.brings
  exact edited.echoes (FileEdit.alike_apply agrees opens.sound mirrors.sound _ _) opens
    (fun _ made => FileEdit.sound_apply opens.sound made) quiet.accessible

/-- A quiet turn keeps the file in agreement with the document in memory. -/
theorem Mirrors.after (mirrors : Mirrors file twin) (quiet : turn.Quiet file twin.tree) :
    Mirrors file (twin.after file turn) := by
  have echoes := mirrors.echoes quiet
  unfold Twin.after
  cases made : turn.apply twin.tree twin.memory with
  | error fault =>
    rw [(echoes.refused fault made).2]
    exact mirrors
  | ok changed => exact ⟨FileEdit.sound_apply mirrors.sound made, echoes.opens changed made⟩

/-- Quiet turns in a row keep the file in agreement with the document in memory. -/
theorem Mirrors.afterAll (mirrors : Mirrors file twin) {turns : List Turn}
    (quiet : twin.Quiet file turns) : Mirrors file (twin.afterAll file turns) := by
  induction turns generalizing twin with
  | nil => exact mirrors
  | cons turn rest ih => exact ih (mirrors.after quiet.1) quiet.2

end Twin

/-! ### What is shown -/

/-- The value of a real key is shown as it is in memory. -/
theorem Twin.Mirrors.run_get {context : Context} {twin : Twin}
    (mirrors : twin.Mirrors context.file) {workspace : Workspace}
    (here : workspace.tree = twin.tree) {key : Text} {sect : Option Text} (default : Option Text)
    (unreserved : Entry.isReserved (Text.trim key) = false)
    (present : twin.memory.hasKey sect key = true) :
    ∃ events : List Event, (Command.run context (.get key sect default)).run workspace =
      (.ok (), { workspace with shown := workspace.shown ++ events.map .log ++
        [.output (twin.memory.getString sect key [] ++ ['\n'])] }) := by
  obtain ⟨found, opens, agrees⟩ := mirrors.opens
  rw [← here] at opens
  rw [← agrees.hasKey_eq sect unreserved] at present
  rw [← agrees.getString_eq sect unreserved]
  have empty : Document.empty.hasKey sect key = false := by cases sect <;> rfl
  rcases Context.run_load opens with ⟨-, session, report, events, loaded, rfl⟩ | ⟨-, rfl, -⟩
  · refine ⟨events, ?_⟩
    unfold Command.run Command.runGet
    rw [Job.run_bind_of_ok loaded]
    dsimp only
    rw [if_pos present]
    rfl
  · rw [empty] at present
    contradiction

/-! ### Runs of turns -/

/-- However many turns are taken, each of them quiet, the file is missing or can be loaded
afterwards, and it has the sections, keys and values that the document in memory has, on which the
operations were carried out one after the other. The next turn has the outcome of its operation, and
where that fails, no file changes. A real key that is asked for is shown with the value in
memory. -/
theorem Twin.file_follows_memory {file : Text} {tree : Store.Tree} {document : Document}
    (opens : Opens tree file document) {turns : List Turn}
    (quiet : (Twin.mk tree document).Quiet file turns) :
    let twin := (Twin.mk tree document).afterAll file turns
    (∃ found, Opens twin.tree file found ∧ found.outline = twin.memory.outline) ∧
      (∀ turn : Turn, turn.Quiet file twin.tree →
        Echoes file turn.edit.needsFile twin.tree (turn.apply twin.tree twin.memory)
          (turn.run file twin.tree)) ∧
      ∀ (context : Context) (workspace : Workspace), context.file = file →
        workspace.tree = twin.tree → ∀ (sect : Option Text) (key : Text) (default : Option Text),
          Entry.isReserved (Text.trim key) = false → twin.memory.hasKey sect key = true →
            ∃ events : List Event, (Command.run context (.get key sect default)).run workspace =
              (.ok (), { workspace with shown := workspace.shown ++ events.map .log ++
                [.output (twin.memory.getString sect key [] ++ ['\n'])] }) := by
  intro twin
  have start : (Twin.mk tree document).Mirrors file :=
    ⟨opens.sound, document, opens, Document.Agrees.refl document⟩
  have mirrors : twin.Mirrors file := start.afterAll quiet
  refine ⟨?_, fun turn next => mirrors.echoes next, ?_⟩
  · obtain ⟨found, again, agrees⟩ := mirrors.opens
    exact ⟨found, again, (again.sound.agrees_iff mirrors.sound).mp agrees⟩
  · rintro context workspace rfl here sect key default unreserved present
    exact mirrors.run_get here default unreserved present

/-- A turn with the settings as they are by default. -/
def Turn.plain (edit : FileEdit) (padded : Bool) : Turn where
  edit := edit
  settings := .default
  padded := padded
  clock := .startingAt (.after1970 1600000000000000000)
  home := []
  configHome := "config".toList
  outside := fun _ => .error []

/-- Some turns: a value and its comment are set, a value is refused, a source is merged, a section
is removed, and the file is written in its plain form. -/
def Turn.several : List Turn :=
  [.plain (.set "k".toList "2".toList none (some "# why".toList)) false,
    .plain (.set "k".toList "2\n3".toList none none) false,
    .plain (.merge "more.ini".toList) true,
    .plain (.removeSection "s".toList) false,
    .plain .format true]

/-- A file, and beside it a source to merge. -/
def Store.Tree.twoFiles : Store.Tree :=
  ⟨[], [(["app.ini".toList], .file "# top\n\nk=1\n[s]\na=1\n".toUTF8),
    (["more.ini".toList], .file "[s]\na=2\n[t]\nb=3\n".toUTF8)]⟩

/-- After several turns the file has what the document in memory has, and it is shown so. -/
theorem Twin.file_follows_memory_several :
    let document := (Session.new.load "app.ini".toList
      "# top\n\nk=1\n[s]\na=1\n".toList).session.document
    let twin := (Twin.mk .twoFiles document).afterAll "app.ini".toList Turn.several
    let context : Context := ⟨.default, "app.ini".toList, false⟩
    let workspace := (Turn.plain .format false).workspace twin.tree
    Opens .twoFiles "app.ini".toList document ∧
      (Twin.mk .twoFiles document).Quiet "app.ini".toList Turn.several ∧
      (∃ found, Opens twin.tree "app.ini".toList found ∧
        found.outline = [(none, [("k".toList, some "2".toList)]),
          (some "t".toList, [("b".toList, some "3".toList)])]) ∧
      ∃ events : List Event, (Command.run context (.get "k".toList none none)).run workspace =
        (.ok (), { workspace with shown := events.map .log ++ [.output "2\n".toList] }) := by
  intro document twin context workspace
  have opens : Opens .twoFiles "app.ini".toList document := .holds (by decide +kernel) rfl
  have quiet : (Twin.mk .twoFiles document).Quiet "app.ini".toList Turn.several := by
    decide +kernel
  have outline : twin.memory.outline = [(none, [("k".toList, some "2".toList)]),
      (some "t".toList, [("b".toList, some "3".toList)])] := by decide +kernel
  have value : twin.memory.getString none "k".toList [] = "2".toList := by decide +kernel
  obtain ⟨⟨found, again, same⟩, -, shows⟩ := file_follows_memory opens quiet
  have here : workspace.tree = twin.tree := by simp only [workspace, Turn.workspace]
  obtain ⟨events, shown⟩ := shows context workspace rfl here none "k".toList none (by decide)
    (by decide +kernel)
  refine ⟨opens, quiet, ⟨found, again, same.trans outline⟩, events, shown.trans ?_⟩
  rw [value]
  rfl

end IniKeeper
