import IniKeeper.Workspace

/-!
# How jobs run

A job in which another follows runs the first, and then the other in the workspace that the first
left, unless the first failed. The smallest jobs are read off here, one equation each, and a job
that only shows something is told by what it shows.
-/

namespace IniKeeper

namespace Attempt

variable {ε σ α β : Type} {first : ExceptT ε (StateM σ) α} {state after : σ}

/-- What follows a step that succeeded runs in the state that the step left. -/
theorem run_bind_of_ok {found : α} (done : first.run state = (.ok found, after))
    (next : α → ExceptT ε (StateM σ) β) :
    (first >>= next).run state = (next found).run after := by
  have whole : (first >>= next).run state =
      ExceptT.bindCont next (first.run state).1 (first.run state).2 := rfl
  rw [whole, done]
  rfl

/-- What follows a step that failed is left out. -/
theorem run_bind_of_error {error : ε} (failed : first.run state = (.error error, after))
    (next : α → ExceptT ε (StateM σ) β) :
    (first >>= next).run state = (.error error, after) := by
  have whole : (first >>= next).run state =
      ExceptT.bindCont next (first.run state).1 (first.run state).2 := rfl
  rw [whole, failed]
  rfl

/-- Steps in a row that succeeded did so one after the other. -/
theorem exists_of_run_bind_ok {next : α → ExceptT ε (StateM σ) β} {result : β}
    (done : (first >>= next).run state = (.ok result, after)) :
    ∃ found between, first.run state = (.ok found, between) ∧
      (next found).run between = (.ok result, after) := by
  rcases ran : first.run state with ⟨error | found, between⟩
  · rw [run_bind_of_error ran next] at done
    have wrong := (Prod.mk.inj done).1
    contradiction
  · rw [run_bind_of_ok ran next] at done
    exact ⟨found, between, rfl, done⟩

/-- An attempt that is seen to succeed gives some result. -/
theorem exists_of_isOk {attempt : Except ε α} (done : attempt.isOk = true) :
    ∃ result, attempt = .ok result := by
  cases attempt with
  | error reason => contradiction
  | ok result => exact ⟨result, rfl⟩

/-- Steps that are seen to succeed give some result. -/
theorem exists_run_of_isOk (done : (first.run state).1.isOk = true) :
    ∃ result, first.run state = (.ok result, (first.run state).2) := by
  obtain ⟨result, given⟩ := exists_of_isOk done
  exact ⟨result, Prod.ext given rfl⟩

/-- Whether something holds of the result of an attempt, if it has one, can be decided. -/
instance decidableForallOk {holds : α → Prop} [DecidablePred holds] :
    (attempt : Except ε α) → Decidable (∀ result, attempt = .ok result → holds result)
  | .ok result =>
    decidable_of_iff (holds result)
      ⟨fun here _ same => Except.ok.inj same ▸ here, fun all => all result rfl⟩
  | .error _ => isTrue fun _ wrong => by contradiction

/-- Whether something holds of the error of an attempt, if it has one, can be decided. -/
instance decidableForallError {holds : ε → Prop} [DecidablePred holds] :
    (attempt : Except ε α) → Decidable (∀ error, attempt = .error error → holds error)
  | .error error =>
    decidable_of_iff (holds error)
      ⟨fun here _ same => Except.error.inj same ▸ here, fun all => all error rfl⟩
  | .ok _ => isTrue fun _ wrong => by contradiction

end Attempt

/-- A single operation on a tree gives the tree changed, or leaves it where it fails. -/
theorem Store.Steps.run_once (operation : Tree → Except Cause Tree) (tree : Tree) :
    (once operation).run tree =
      match operation tree with
      | .ok changed => (.ok (), changed)
      | .error cause => (.error cause, tree) := by
  have whole : (once operation).run tree =
      (match operation tree with
        | .ok changed => (set changed : Steps Cause Unit)
        | .error cause => throw cause).run tree := rfl
  rw [whole]
  cases operation tree <;> rfl

/-- The workspace after one more reading of its clock. -/
def Workspace.ticked (workspace : Workspace) : Workspace :=
  { workspace with clock := { workspace.clock with taken := workspace.clock.taken + 1 } }

namespace Job

variable {α β ε : Type}

/-- What follows a job runs where that succeeded, in the workspace that it left. -/
theorem run_bind (job : Job α) (next : α → Job β) (workspace : Workspace) :
    (job >>= next).run workspace =
      match job.run workspace with
      | (.ok found, after) => (next found).run after
      | (.error failure, after) => (.error failure, after) := by
  rcases ran : job.run workspace with ⟨failure | found, after⟩
  · exact Attempt.run_bind_of_error ran next
  · exact Attempt.run_bind_of_ok ran next

/-- What follows a job that succeeded goes on from its result. -/
theorem run_bind_of_ok {job : Job α} {workspace after : Workspace} {found : α}
    (done : job.run workspace = (.ok found, after)) (next : α → Job β) :
    (job >>= next).run workspace = (next found).run after :=
  Attempt.run_bind_of_ok done next

/-- Giving a result after a job leaves what the job left. -/
theorem snd_run_bind_pure (job : Job α) (result : α → β) (workspace : Workspace) :
    ((job >>= fun found => pure (result found)).run workspace).2 = (job.run workspace).2 := by
  rw [run_bind]
  rcases job.run workspace with ⟨failure | found, after⟩ <;> rfl

/-- What leaves the tree as it is leaves the tree of the job before it. -/
theorem tree_run_bind_of_still {next : α → Job β}
    (still : ∀ found workspace, ((next found).run workspace).2.tree = workspace.tree) (job : Job α)
    (workspace : Workspace) :
    ((job >>= next).run workspace).2.tree = (job.run workspace).2.tree := by
  rcases ran : job.run workspace with ⟨failure | found, after⟩
  · rw [Attempt.run_bind_of_error ran]
  · rw [Attempt.run_bind_of_ok ran, still]

/-- Looking at the workspace gives it as it is. -/
theorem run_workspace (workspace : Workspace) :
    Job.workspace.run workspace = (.ok workspace, workspace) :=
  rfl

/-- Looking at the tree gives it as it is. -/
theorem run_tree (workspace : Workspace) :
    Job.tree.run workspace = (.ok workspace.tree, workspace) :=
  rfl

/-- Taking the result of an attempt changes nothing. -/
theorem run_ofExcept (meaning : ε → Failure) (attempt : Except ε α) (workspace : Workspace) :
    (ofExcept meaning attempt).run workspace = (attempt.mapError meaning, workspace) := by
  cases attempt <;> rfl

/-- Reading the clock gives the next reading. -/
theorem run_now (workspace : Workspace) :
    now.run workspace =
      (.ok (workspace.clock.reading workspace.clock.taken), workspace.ticked) :=
  rfl

/-- Work on the tree leaves the tree changed, whatever comes of it. -/
theorem run_onTree (meaning : ε → Failure) (steps : Store.Steps ε α) (workspace : Workspace) :
    (onTree meaning steps).run workspace =
      ((steps.run workspace.tree).1.mapError meaning,
        { workspace with tree := (steps.run workspace.tree).2 }) := by
  unfold onTree
  rw [run_bind_of_ok (run_tree workspace)]
  rcases steps.run workspace.tree with ⟨result, changed⟩
  cases result <;> rfl

/-- Work on the tree that succeeds leaves the tree that it gives. -/
theorem run_onTree_of_ok {meaning : ε → Failure} {steps : Store.Steps ε α} {workspace : Workspace}
    {result : α} {changed : Store.Tree} (done : steps.run workspace.tree = (.ok result, changed)) :
    (onTree meaning steps).run workspace = (.ok result, { workspace with tree := changed }) := by
  rw [run_onTree, done]
  rfl

/-- Work on the tree that fails leaves the tree that it gives. -/
theorem run_onTree_of_error {meaning : ε → Failure} {steps : Store.Steps ε α}
    {workspace : Workspace} {error : ε} {changed : Store.Tree}
    (failed : steps.run workspace.tree = (.error error, changed)) :
    (onTree meaning steps).run workspace =
      (.error (meaning error), { workspace with tree := changed }) := by
  rw [run_onTree, failed]
  rfl

/-- An operation on the tree that succeeds leaves the tree that it gives. -/
theorem run_once_of_ok {meaning : Store.Cause → Failure}
    {operation : Store.Tree → Except Store.Cause Store.Tree} {workspace : Workspace}
    {changed : Store.Tree} (done : operation workspace.tree = .ok changed) :
    (onTree meaning (.once operation)).run workspace =
      (.ok (), { workspace with tree := changed }) := by
  rw [run_onTree, Store.Steps.run_once, done]
  rfl

/-- An operation on the tree that fails leaves the workspace as it was. -/
theorem run_once_of_error {meaning : Store.Cause → Failure}
    {operation : Store.Tree → Except Store.Cause Store.Tree} {workspace : Workspace}
    {cause : Store.Cause} (failed : operation workspace.tree = .error cause) :
    (onTree meaning (.once operation)).run workspace = (.error (meaning cause), workspace) := by
  rw [run_onTree, Store.Steps.run_once, failed]
  rfl

/-- Work on the tree that succeeded did so on the tree as it was, and left the tree changed. -/
theorem exists_of_run_onTree_ok {meaning : ε → Failure} {steps : Store.Steps ε α}
    {workspace after : Workspace} {result : α}
    (done : (onTree meaning steps).run workspace = (.ok result, after)) :
    ∃ changed, steps.run workspace.tree = (.ok result, changed) ∧
      after = { workspace with tree := changed } := by
  rw [run_onTree] at done
  obtain ⟨given, rfl⟩ := Prod.mk.inj done
  rcases ran : steps.run workspace.tree with ⟨error | found, changed⟩
  · rw [ran] at given
    contradiction
  · rw [ran] at given
    obtain rfl : found = result := Except.ok.inj given
    exact ⟨changed, rfl, rfl⟩

/-- An operation on the tree that succeeded gave the tree that was left. -/
theorem exists_of_run_once_ok {meaning : Store.Cause → Failure}
    {operation : Store.Tree → Except Store.Cause Store.Tree} {workspace after : Workspace}
    (done : (onTree meaning (.once operation)).run workspace = (.ok (), after)) :
    ∃ changed, operation workspace.tree = .ok changed ∧
      after = { workspace with tree := changed } := by
  obtain ⟨changed, ran, left⟩ := exists_of_run_onTree_ok done
  rw [Store.Steps.run_once] at ran
  cases given : operation workspace.tree with
  | error cause =>
    rw [given] at ran
    have wrong := (Prod.mk.inj ran).1
    contradiction
  | ok result =>
    rw [given] at ran
    obtain rfl : result = changed := (Prod.mk.inj ran).2
    exact ⟨result, rfl, left⟩

/-! ### Jobs that fail in some ways only -/

/-- Whether a job fails, where it fails, in a way that is allowed. -/
def FailsAs (allowed : Failure → Prop) (job : Job α) : Prop :=
  ∀ workspace failure, (job.run workspace).1 = .error failure → allowed failure

section FailsAs

variable {allowed : Failure → Prop}

/-- A job that always succeeds does not fail. -/
theorem failsAs_of_ok {job : Job α}
    (succeeds : ∀ workspace, ∃ result, (job.run workspace).1 = .ok result) :
    FailsAs allowed job := by
  intro workspace failure failed
  obtain ⟨result, done⟩ := succeeds workspace
  rw [done] at failed
  contradiction

/-- Jobs in a row fail as one of them does. -/
theorem FailsAs.bind {job : Job α} {next : α → Job β} (fails : FailsAs allowed job)
    (further : ∀ found, FailsAs allowed (next found)) : FailsAs allowed (job >>= next) := by
  intro workspace failure failed
  have first := fails workspace
  rcases ran : job.run workspace with ⟨reason | found, between⟩
  · rw [Attempt.run_bind_of_error ran next] at failed
    obtain rfl := Except.error.inj failed
    exact first reason (congrArg Prod.fst ran)
  · rw [Attempt.run_bind_of_ok ran next] at failed
    exact further found between failure failed

/-- A job that does nothing does not fail. -/
theorem failsAs_pure (result : α) : FailsAs allowed (pure result : Job α) :=
  failsAs_of_ok fun _ => ⟨result, rfl⟩

/-- The workspace can always be looked at. -/
theorem failsAs_workspace : FailsAs allowed Job.workspace := failsAs_of_ok fun _ => ⟨_, rfl⟩

/-- The tree can always be looked at. -/
theorem failsAs_tree : FailsAs allowed Job.tree := failsAs_of_ok fun _ => ⟨_, rfl⟩

/-- The clock can always be read. -/
theorem failsAs_now : FailsAs allowed Job.now := failsAs_of_ok fun _ => ⟨_, rfl⟩

/-- A change of the workspace does not fail. -/
theorem failsAs_modify (change : Workspace → Workspace) :
    FailsAs allowed (modify change : Job Unit) :=
  failsAs_of_ok fun _ => ⟨(), rfl⟩

/-- The result of an attempt is taken, or the job fails as its error means. -/
theorem failsAs_ofExcept {meaning : ε → Failure} {attempt : Except ε α}
    (means : ∀ error, attempt = .error error → allowed (meaning error)) :
    FailsAs allowed (ofExcept meaning attempt) := by
  cases attempt with
  | ok result => exact failsAs_pure result
  | error error =>
    intro workspace failure failed
    exact Except.error.inj failed ▸ means error rfl

/-- Work on the tree fails as its errors mean. -/
theorem failsAs_onTree {meaning : ε → Failure} (means : ∀ error, allowed (meaning error))
    (steps : Store.Steps ε α) : FailsAs allowed (onTree meaning steps) := by
  intro workspace failure failed
  rw [run_onTree] at failed
  rcases ran : steps.run workspace.tree with ⟨error | result, changed⟩
  · rw [ran] at failed
    exact Except.error.inj failed ▸ means error
  · rw [ran] at failed
    contradiction

end FailsAs

/-! ### Jobs that only show something -/

/-- Whether a job always succeeds and does nothing but show these emissions. -/
def Shows (job : Job Unit) (emissions : List Emission) : Prop :=
  ∀ workspace, job.run workspace =
    (.ok (), { workspace with shown := workspace.shown ++ emissions })

/-- A job that does nothing shows nothing. -/
theorem shows_pure : Shows (pure ()) [] := by
  intro workspace
  rw [List.append_nil]
  rfl

/-- A line that is put is shown with a line feed. -/
theorem shows_putLine (text : Text) : Shows (putLine text) [.output (text ++ ['\n'])] :=
  fun _ => rfl

/-- Two jobs in a row show what the first shows and then what the second shows. -/
theorem Shows.seq {job next : Job Unit} {first second : List Emission} (shows : job.Shows first)
    (further : Shows next second) : Shows (job >>= fun _ => next) (first ++ second) := by
  intro workspace
  rw [run_bind_of_ok (shows workspace), further, List.append_assoc]

/-- Jobs for the elements of a list show what each of them shows, in order. -/
theorem Shows.forM {job : α → Job Unit} {emission : α → Emission}
    (shows : ∀ a, Shows (job a) [emission a]) (items : List α) :
    Shows (items.forM job) (items.map emission) := by
  induction items with
  | nil => exact shows_pure
  | cons a rest ih => exact (shows a).seq ih

end Job

end IniKeeper
