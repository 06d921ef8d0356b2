import IniKeeper.Proofs.InPlace

/-!
# Failing changes nothing

Writes to the document of a session are made in place; loading and merging work on a document of
their own and put it in the place of the old one at the end. In a run of any such operations, one
that fails leaves the session as it was, and one load at most succeeds. The one exception is a text
that is read straight into the document: what stood before the faulty line stays.
-/

namespace IniKeeper

/-! ### Writes that stop -/

/-- An attempt fails exactly if it fails with its result left out. -/
theorem Attempt.map_eq_error_iff {ε α β : Type} {attempt : Except ε α} {change : α → β}
    {error : ε} : attempt.map change = .error error ↔ attempt = .error error := by
  cases attempt with
  | ok result => exact ⟨fun wrong => by contradiction, fun wrong => by contradiction⟩
  | error found =>
    exact ⟨fun same => congrArg _ (Except.error.inj same),
      fun same => congrArg _ (Except.error.inj same)⟩

namespace InPlace

variable {α : Type} {document : Document} {write : InPlace α}
  {attempt : Except Fault (Document × α)}

/-- A write that does what an attempt does leaves the document as it was where it stops. -/
theorem Matches.unchanged (same : Matches write document attempt) {fault : Fault}
    (stopped : (write.run document).1 = .error fault) : (write.run document).2 = document := by
  unfold Matches at same
  rw [same] at stopped ⊢
  rcases attempt with reason | ⟨changed, result⟩
  · rfl
  · contradiction

/-- A write that does what a setter does keeps a document sound, whether it stops or not. -/
theorem Matches.sound (same : Matches write document attempt) (sound : document.Sound)
    (setter : ∀ changed result, attempt = .ok (changed, result) →
      Document.Setter document changed) : (write.run document).2.Sound := by
  unfold Matches at same
  rw [same]
  rcases attempt with reason | ⟨changed, result⟩
  · exact sound
  · exact (setter changed result rfl).sound sound

end InPlace

namespace Session

/-! ### Operations -/

/-- An operation on a session or on its document, with its arguments. -/
inductive Operation : Type 1 where
  /-- Add a section where it is missing, and set its comment. -/
  | ensureSection (sect comment : Option Text)
  /-- Set a value. -/
  | setString (sect : Option Text) (key value : Text)
  /-- Set a value and replace the comment. -/
  | setStringWithComment (sect : Option Text) (key value : Text) (comment : Option Text)
  /-- Replace the comment of a key. -/
  | setComment (sect : Option Text) (key : Text) (comment : Option Text)
  /-- Set a value of a type. -/
  | setAs {α : Type} [Storable α] (sect : Option Text) (key : Text) (value : α)
  /-- Set a value of a type and replace the comment. -/
  | setAsWithComment {α : Type} [Storable α] (sect : Option Text) (key : Text) (value : α)
      (comment : Option Text)
  /-- Remove a key. -/
  | removeKey (sect : Option Text) (key : Text)
  /-- Remove a section. -/
  | removeSection (sect : Option Text)
  /-- Read a text into the document, as far as it goes. -/
  | parse (origin content : Text)
  /-- Load a text. -/
  | load (origin content : Text)
  /-- Load a file. -/
  | loadPath (tree : Store.Tree) (path : Text)
  /-- Merge a text. -/
  | merge (origin content : Text)
  /-- Merge a file. -/
  | mergePath (tree : Store.Tree) (path : Text)

/-- Make a write in place in the document of a session. -/
def edit {α : Type} (session : Session) (write : InPlace α) : Except Fault Unit × Session :=
  ((write.run session.document).1.map fun _ => (),
    { session with document := (write.run session.document).2 })

/-- What came of an operation, without its report, and the session afterwards. -/
def Answer.outcome (answer : Answer) : Except Fault Unit × Session :=
  (answer.result.map fun _ => (), answer.session)

/-- Carry out an operation: whether it failed, and the session afterwards. -/
def perform (session : Session) : Operation → Except Fault Unit × Session
  | .ensureSection sect comment => session.edit (InPlace.ensureSection sect comment)
  | .setString sect key value => session.edit (InPlace.setString sect key value)
  | .setStringWithComment sect key value comment =>
    session.edit (InPlace.setStringWithComment sect key value comment)
  | .setComment sect key comment => session.edit (InPlace.setComment sect key comment)
  | @Operation.setAs _ _ sect key value => session.edit (InPlace.setAs sect key value)
  | @Operation.setAsWithComment _ _ sect key value comment =>
    session.edit (InPlace.setAsWithComment sect key value comment)
  | .removeKey sect key =>
    (.ok (), { session with document := session.document.removingKey sect key })
  | .removeSection sect =>
    (.ok (), { session with document := session.document.removingSection sect })
  | .parse origin content => (session.parse origin content).outcome
  | .load origin content => (session.load origin content).outcome
  | .loadPath tree path => (session.loadPath tree path).outcome
  | .merge origin content => (session.merge origin content).outcome
  | .mergePath tree path => (session.mergePath tree path).outcome

/-- The session after some operations. -/
def after (session : Session) (operations : List Operation) : Session :=
  operations.foldl (fun session operation => (session.perform operation).2) session

/-- The source that an operation loads, if it is a load. -/
def Operation.source? : Operation → Option Text
  | load origin _ => some origin
  | loadPath _ path => some path
  | _ => none

/-- The source of an operation that is a load and succeeds. -/
def loadedBy (session : Session) (operation : Operation) : List Text :=
  match (session.perform operation).1 with
  | .ok _ => operation.source?.toList
  | .error _ => []

/-- The sources of the loads among some operations that succeed, in order. -/
def loaded (session : Session) : List Operation → List Text
  | [] => []
  | operation :: rest => session.loadedBy operation ++ (session.perform operation).2.loaded rest

/-! ### What one operation does -/

variable {session : Session} {origin content path : Text} {fault : Fault}

/-- A load that fails leaves the session. -/
theorem load_failed (failed : (session.load origin content).result = .error fault) :
    (session.load origin content).session = session := by
  unfold load at failed ⊢
  cases origined : session.origin with
  | some before => rfl
  | none =>
    cases ended : (Document.empty.parse origin content).result with
    | ok report => simp [origined, ended] at failed
    | error reason => simp [ended]

/-- A load that succeeds puts an origin where there was none. -/
theorem load_done {report : Report} (done : (session.load origin content).result = .ok report) :
    session.origin = none ∧ (session.load origin content).session.origin = some origin := by
  unfold load at done ⊢
  cases origined : session.origin with
  | some before => simp [origined] at done
  | none =>
    cases ended : (Document.empty.parse origin content).result with
    | ok found => simp [ended]
    | error reason => simp [origined, ended] at done

/-- A load into a session with an origin fails and names the origin. -/
theorem load_again {before : Text} (origined : session.origin = some before)
    (origin content : Text) :
    (session.load origin content).result = .error (.alreadyLoaded before) := by
  unfold load
  rw [origined]

/-- A merge that fails leaves the session. -/
theorem merge_failed (failed : (session.merge origin content).result = .error fault) :
    (session.merge origin content).session = session := by
  unfold merge at failed ⊢
  cases ended : (session.document.parse origin content).result with
  | ok report => simp [ended] at failed
  | error reason => simp [ended]

/-- A merge keeps the origin. -/
theorem merge_origin (session : Session) (origin content : Text) :
    (session.merge origin content).session.origin = session.origin := by
  unfold merge
  cases ended : (session.document.parse origin content).result with
  | ok report => simp [ended]
  | error reason => simp [ended]

/-- A file is loaded by loading its text, or it cannot be read. -/
theorem loadPath_cases (session : Session) (tree : Store.Tree) (path : Text) :
    (∃ content, session.loadPath tree path = session.load path content) ∨
      ∃ reason, session.loadPath tree path = ⟨.error reason, session, []⟩ := by
  unfold loadPath
  cases tree.textAt path with
  | ok content => exact .inl ⟨content, rfl⟩
  | error reason => exact .inr ⟨reason, rfl⟩

/-- A file is merged by merging its text, or it cannot be read. -/
theorem mergePath_cases (session : Session) (tree : Store.Tree) (path : Text) :
    (∃ content, session.mergePath tree path = session.merge path content) ∨
      ∃ reason, session.mergePath tree path = ⟨.error reason, session, []⟩ := by
  unfold mergePath
  cases tree.textAt path with
  | ok content => exact .inl ⟨content, rfl⟩
  | error reason => exact .inr ⟨reason, rfl⟩

/-- A write in place that fails leaves the session. -/
theorem edit_failed {α : Type} {write : InPlace α} {attempt : Except Fault (Document × α)}
    (same : write.Matches session.document attempt)
    (failed : (session.edit write).1 = .error fault) : (session.edit write).2 = session :=
  congrArg (Session.mk · session.origin) (same.unchanged (Attempt.map_eq_error_iff.mp failed))

/-- An operation that fails leaves the session, unless it reads a text straight into the
document. -/
theorem perform_failed (sound : session.document.Sound) {operation : Operation}
    (apart : ∀ origin content, operation ≠ .parse origin content)
    (failed : (session.perform operation).1 = .error fault) :
    (session.perform operation).2 = session := by
  cases operation with
  | ensureSection sect comment =>
    exact edit_failed (InPlace.matches_ensureSection sound sect comment) failed
  | setString sect key value =>
    exact edit_failed (InPlace.matches_setString sound sect key value) failed
  | setStringWithComment sect key value comment =>
    exact edit_failed (InPlace.matches_setStringWithComment sound sect key value comment) failed
  | setComment sect key comment =>
    exact edit_failed (InPlace.matches_setComment sound sect key comment) failed
  | setAs sect key value =>
    exact edit_failed (InPlace.matches_setAs sound sect key value) failed
  | setAsWithComment sect key value comment =>
    exact edit_failed (InPlace.matches_setAsWithComment sound sect key value comment) failed
  | removeKey sect key => contradiction
  | removeSection sect => contradiction
  | parse origin content => exact absurd rfl (apart origin content)
  | load origin content => exact load_failed (Attempt.map_eq_error_iff.mp failed)
  | merge origin content => exact merge_failed (Attempt.map_eq_error_iff.mp failed)
  | loadPath tree path =>
    rw [perform] at failed ⊢
    rcases loadPath_cases session tree path with ⟨content, same⟩ | ⟨reason, same⟩
    · rw [same] at failed ⊢
      exact load_failed (Attempt.map_eq_error_iff.mp failed)
    · rw [same]
      rfl
  | mergePath tree path =>
    rw [perform] at failed ⊢
    rcases mergePath_cases session tree path with ⟨content, same⟩ | ⟨reason, same⟩
    · rw [same] at failed ⊢
      exact merge_failed (Attempt.map_eq_error_iff.mp failed)
    · rw [same]
      rfl

/-- An operation keeps a document sound. -/
theorem perform_sound (sound : session.document.Sound) (operation : Operation) :
    (session.perform operation).2.document.Sound := by
  have parsed (origin content : Text) : (session.document.parse origin content).document.Sound :=
    sound.parse origin content
  have loads (origin content : Text) : (session.load origin content).session.document.Sound :=
    (Document.Step.load session.origin origin content rfl).sound sound
  have merges (origin content : Text) : (session.merge origin content).session.document.Sound :=
    (Document.Step.merge session.origin origin content rfl).sound sound
  cases operation with
  | ensureSection sect comment =>
    refine (InPlace.matches_ensureSection sound sect comment).sound sound fun changed _ done => ?_
    obtain ⟨found, ensured, same⟩ := Attempt.bind_eq_ok_iff.mp done
    obtain rfl := congrArg Prod.fst (Except.ok.inj same)
    exact .ensureSection (Document.refuse_eq_ok_iff.mp ensured)
  | setString sect key value =>
    exact (InPlace.matches_setString sound sect key value).sound sound fun _ _ done =>
      .setString (Document.refuse_eq_ok_iff.mp done)
  | setStringWithComment sect key value comment =>
    exact (InPlace.matches_setStringWithComment sound sect key value comment).sound sound
      fun _ _ done => .setStringWithComment (Document.refuse_eq_ok_iff.mp done)
  | setComment sect key comment =>
    exact (InPlace.matches_setComment sound sect key comment).sound sound fun _ _ done =>
      .setComment (Document.refuse_eq_ok_iff.mp done)
  | setAs sect key value =>
    exact (InPlace.matches_setAs sound sect key value).sound sound fun _ _ done => .setAs done
  | setAsWithComment sect key value comment =>
    exact (InPlace.matches_setAsWithComment sound sect key value comment).sound sound
      fun _ _ done => .setAsWithComment done
  | removeKey sect key => exact sound.removingKey sect key
  | removeSection sect => exact sound.removingSection sect
  | parse origin content => exact sound.parse origin content
  | load origin content => exact loads origin content
  | merge origin content => exact merges origin content
  | loadPath tree path =>
    rw [perform]
    rcases loadPath_cases session tree path with ⟨content, same⟩ | ⟨reason, same⟩
    · rw [same]
      exact loads path content
    · rw [same]
      exact sound
  | mergePath tree path =>
    rw [perform]
    rcases mergePath_cases session tree path with ⟨content, same⟩ | ⟨reason, same⟩
    · rw [same]
      exact merges path content
    · rw [same]
      exact sound

/-- The origin after a load is the one before, or the source where the load succeeds. -/
theorem load_origin (session : Session) (origin content : Text) :
    (session.load origin content).session.origin.toList =
      session.origin.toList ++ session.loadedBy (.load origin content) := by
  unfold loadedBy
  rw [perform, Answer.outcome]
  cases ended : (session.load origin content).result with
  | error reason =>
    rw [load_failed ended]
    exact (List.append_nil _).symm
  | ok report =>
    obtain ⟨before, behind⟩ := load_done ended
    rw [before, behind]
    rfl

/-- The origin after an operation is the one before, or the source of a load that succeeds. -/
theorem perform_origin (session : Session) (operation : Operation) :
    (session.perform operation).2.origin.toList =
      session.origin.toList ++ session.loadedBy operation := by
  have apart (kept : (session.perform operation).2.origin = session.origin)
      (noLoad : operation.source? = none) :
      (session.perform operation).2.origin.toList =
        session.origin.toList ++ session.loadedBy operation := by
    rw [kept, loadedBy, noLoad]
    cases (session.perform operation).1 <;> exact (List.append_nil _).symm
  cases operation with
  | load origin content => exact load_origin session origin content
  | loadPath tree path =>
    unfold loadedBy
    rw [perform]
    rcases loadPath_cases session tree path with ⟨content, same⟩ | ⟨reason, same⟩
    · rw [same]
      exact load_origin session path content
    · rw [same]
      exact (List.append_nil _).symm
  | merge origin content => exact apart (merge_origin session origin content) rfl
  | mergePath tree path =>
    refine apart ?_ rfl
    rw [perform]
    rcases mergePath_cases session tree path with ⟨content, same⟩ | ⟨reason, same⟩
    · rw [same]
      exact merge_origin session path content
    · rw [same]
      rfl
  | ensureSection | setString | setStringWithComment | setComment | setAs | setAsWithComment
  | removeKey | removeSection | parse => exact apart rfl rfl

/-! ### What a run does -/

/-- A run keeps a document sound. -/
theorem after_sound (sound : session.document.Sound) (operations : List Operation) :
    (session.after operations).document.Sound := by
  induction operations generalizing session with
  | nil => exact sound
  | cons operation rest ih => exact ih (perform_sound sound operation)

/-- The origin after a run is the one before, or the source of the one load that succeeds. -/
theorem after_origin (session : Session) (operations : List Operation) :
    (session.after operations).origin.toList =
      session.origin.toList ++ session.loaded operations := by
  induction operations generalizing session with
  | nil => exact (List.append_nil _).symm
  | cons operation rest ih =>
    calc (session.after (operation :: rest)).origin.toList
        = (session.perform operation).2.origin.toList ++
            (session.perform operation).2.loaded rest := ih (session.perform operation).2
      _ = (session.origin.toList ++ session.loadedBy operation) ++
            (session.perform operation).2.loaded rest := by rw [perform_origin]
      _ = session.origin.toList ++ session.loaded (operation :: rest) :=
            List.append_assoc _ _ _

/-- An origin stays for the rest of a run. -/
theorem after_origin_of_some {before : Text} (origined : session.origin = some before)
    (operations : List Operation) : (session.after operations).origin = some before := by
  have whole := after_origin session operations
  rw [origined] at whole
  cases behind : (session.after operations).origin with
  | none =>
    rw [behind] at whole
    contradiction
  | some other =>
    rw [behind] at whole
    exact congrArg some (List.cons.inj whole).1

/-- In any run of operations on a new session, one that fails leaves the session with its document
and origin exactly as it was, unless it reads a text straight into the document. One load at most
succeeds: the origin is its source, stays so for the rest of the run, and is named by every later
attempt to load a text. -/
theorem failures_change_nothing (operations : List Operation) :
    (∀ operation fault, (∀ origin content, operation ≠ .parse origin content) →
      ((new.after operations).perform operation).1 = .error fault →
        ((new.after operations).perform operation).2 = new.after operations) ∧
      new.loaded operations = (new.after operations).origin.toList ∧
      (new.loaded operations).length ≤ 1 ∧
      ∀ source, (new.after operations).origin = some source → ∀ later origin content,
        ((new.after operations).after later).origin = some source ∧
          (((new.after operations).after later).load origin content).result =
            .error (.alreadyLoaded source) := by
  have sound : (new.after operations).document.Sound := after_sound Document.sound_empty operations
  have loads : new.loaded operations = (new.after operations).origin.toList :=
    (after_origin new operations).symm
  refine ⟨fun operation fault apart failed => perform_failed sound apart failed, loads, ?_, ?_⟩
  · rw [loads]
    cases (new.after operations).origin <;> simp
  · intro source origined later origin content
    have kept := after_origin_of_some origined later
    exact ⟨kept, load_again kept origin content⟩

/-- A session with a loaded text stays as it is where a value before is no number, where a section
name, a comment or a line is bad, and where another text is to be loaded. -/
theorem failures_change_nothing_loaded :
    let session := new.after [.load "a.ini".toList "[s]\nk=x\n".toList]
    let number : Operation := .setAs (some "s".toList) "k".toList (1 : Int32)
    let name : Operation := .setString (some "]".toList) "k".toList "v".toList
    let comment : Operation :=
      .setStringWithComment (some "t".toList) "k".toList "v".toList (some "no".toList)
    let line : Operation := .merge "b.ini".toList "[t]\nk=1\noops\n".toList
    let load : Operation := .load "c.ini".toList "k=1".toList
    ((session.perform number).1 =
          .error (.unreadable (some "s".toList) "k".toList "x".toList .int) ∧
        (session.perform number).2 = session) ∧
      ((session.perform name).1 = .error (.refused (.badSectionName "]".toList)) ∧
        (session.perform name).2 = session) ∧
      ((session.perform comment).1 = .error (.refused (.badComment "no".toList)) ∧
        (session.perform comment).2 = session) ∧
      ((session.perform line).1 = .error (.badLine "b.ini".toList 3 "oops".toList) ∧
        (session.perform line).2 = session) ∧
      (session.perform load).2 = session ∧
      new.loaded [.load "a.ini".toList "[s]\nk=x\n".toList] = ["a.ini".toList] ∧
      ((session.after [.removeSection (some "s".toList), line]).load [] []).result =
        .error (.alreadyLoaded "a.ini".toList) := by
  intro session number name comment line load
  obtain ⟨unchanged, loads, -, again⟩ :=
    failures_change_nothing [.load "a.ini".toList "[s]\nk=x\n".toList]
  have numberFails : (session.perform number).1 =
      .error (.unreadable (some "s".toList) "k".toList "x".toList .int) := by decide +kernel
  have nameFails : (session.perform name).1 = .error (.refused (.badSectionName "]".toList)) := by
    decide +kernel
  have commentFails : (session.perform comment).1 =
      .error (.refused (.badComment "no".toList)) := by decide +kernel
  have lineFails : (session.perform line).1 =
      .error (.badLine "b.ini".toList 3 "oops".toList) := by decide +kernel
  have loadFails : (session.perform load).1 = .error (.alreadyLoaded "a.ini".toList) := by
    decide +kernel
  have origined : session.origin = some "a.ini".toList := by decide +kernel
  exact ⟨⟨numberFails, unchanged number _ (fun _ _ same => by contradiction) numberFails⟩,
    ⟨nameFails, unchanged name _ (fun _ _ same => by contradiction) nameFails⟩,
    ⟨commentFails, unchanged comment _ (fun _ _ same => by contradiction) commentFails⟩,
    ⟨lineFails, unchanged line _ (fun _ _ same => by contradiction) lineFails⟩,
    unchanged load _ (fun _ _ same => by contradiction) loadFails,
    loads.trans (congrArg Option.toList origined),
    (again _ origined [.removeSection (some "s".toList), line] [] []).2⟩

end Session

end IniKeeper
