import IniKeeper.Proofs.Atomicity

/-!
# What a failed load leaves

A load reads its text into a document of its own, so nothing of a faulty text comes into the
session. Nor is the document of the session reset: it stays what the edits and merges before made of
it, and is empty after the failed load exactly if it was empty before. The next load that succeeds
puts its own document in the place of what was left.
-/

namespace IniKeeper

namespace Document

/-- A sound document is the empty one if it has nothing but a bare global section. -/
theorem Sound.isEmpty_iff {document : Document} (sound : document.Sound) :
    document.isEmpty = true ↔ document = empty := by
  constructor
  · intro bare
    obtain ⟨sections⟩ := document
    unfold isEmpty at bare
    split at bare
    · rename_i only single
      obtain rfl : sections = [only] := single
      obtain ⟨name, comment, entries⟩ := only
      rw [Bool.and_eq_true] at bare
      obtain ⟨entryless, uncommented⟩ := bare
      obtain rfl : entries = [] := List.isEmpty_iff.mp entryless
      obtain rfl : comment = none := Option.isNone_iff_eq_none.mp uncommented
      have unnamed : some name = some none := sound.first
      obtain rfl : name = none := Option.some.inj unnamed
      rfl
    · contradiction
  · rintro rfl
    rfl

end Document

namespace Session

variable {session : Session} {operation : Operation} {operations : List Operation}

/-- Whether an operation is a load. -/
def Operation.isLoad (operation : Operation) : Bool := operation.source?.isSome

/-- A load that leaves no origin leaves the session as it was. -/
theorem load_of_unloaded {origin content : Text}
    (unloaded : (session.load origin content).session.origin = none) :
    (session.load origin content).session = session := by
  cases ended : (session.load origin content).result with
  | error fault => exact load_failed ended
  | ok report =>
    have origined : (session.load origin content).session.origin = some origin :=
      (load_done ended).2
    rw [origined] at unloaded
    contradiction

/-- A load, of a text or of a file, that leaves no origin leaves the session as it was. -/
theorem perform_of_unloaded (loads : operation.isLoad = true)
    (unloaded : (session.perform operation).2.origin = none) :
    (session.perform operation).2 = session := by
  cases operation with
  | load origin content => exact load_of_unloaded unloaded
  | loadPath tree path =>
    rw [perform] at unloaded ⊢
    rcases loadPath_cases session tree path with ⟨content, same⟩ | ⟨reason, same⟩
    · rw [same] at unloaded ⊢
      exact load_of_unloaded unloaded
    · rw [same]
      rfl
  | ensureSection | setString | setStringWithComment | setComment | setAs | setAsWithComment
  | removeKey | removeSection | parse | merge | mergePath => contradiction

/-- In a run that ends without an origin, the loads did nothing: the session is what the other
operations make on their own. -/
theorem after_of_unloaded (unloaded : (session.after operations).origin = none) :
    session.after operations = session.after (operations.filter (!·.isLoad)) := by
  induction operations generalizing session with
  | nil => rfl
  | cons operation rest ih =>
    have further : ((session.perform operation).2.after rest).origin = none := unloaded
    have between : (session.perform operation).2.origin = none := by
      cases origined : (session.perform operation).2.origin with
      | none => rfl
      | some source =>
        rw [after_origin_of_some origined rest] at further
        contradiction
    cases loads : operation.isLoad with
    | true =>
      have still : (session.perform operation).2 = session := perform_of_unloaded loads between
      rw [List.filter_cons_of_neg (by simp [loads]), ← ih (still ▸ further)]
      show (session.perform operation).2.after rest = session.after rest
      rw [still]
    | false =>
      rw [List.filter_cons_of_pos (by simp [loads])]
      exact ih further

/-- A load into a session without an origin that succeeds does what it does in a new session. -/
theorem load_eq_load_new {origin content : Text} {report : Report}
    (unloaded : session.origin = none)
    (done : (session.load origin content).result = .ok report) :
    session.load origin content = new.load origin content := by
  unfold load at done ⊢
  rw [unloaded] at done ⊢
  dsimp only [new] at done ⊢
  cases ended : (Document.empty.parse origin content).result with
  | ok found => rfl
  | error fault =>
    rw [ended] at done
    contradiction

/-- In a run of operations on a new session that ends without an origin, a load that fails leaves no
origin and just the document that the operations of the run other than loads made. That document is
empty exactly if it was empty before the load, so always in a run of loads only. A load that
succeeds later does what it does in a new session. -/
theorem failed_load_keeps_document {load : Operation} {fault : Fault}
    (unloaded : (new.after operations).isLoaded = false) (loads : load.isLoad = true)
    (failed : ((new.after operations).perform load).1 = .error fault) :
    let left := ((new.after operations).perform load).2
    left.isLoaded = false ∧
      left.document = (new.after (operations.filter (!·.isLoad))).document ∧
      (left.document.isEmpty = true ↔ (new.after operations).document = .empty) ∧
      ((∀ operation ∈ operations, operation.isLoad = true) → left.document = .empty) ∧
      ∀ origin content report, (left.load origin content).result = .ok report →
        left.load origin content = new.load origin content := by
  have sound : (new.after operations).document.Sound := after_sound Document.sound_empty operations
  have without : (new.after operations).origin = none := Option.not_isSome_iff_eq_none.mp (by
    rw [← isLoaded, unloaded]
    decide)
  have apart : ∀ origin content, load ≠ .parse origin content := by
    rintro origin content rfl
    contradiction
  have same : ((new.after operations).perform load).2 = new.after operations :=
    perform_failed sound apart failed
  have others : new.after operations = new.after (operations.filter (!·.isLoad)) :=
    after_of_unloaded without
  intro left
  rw [show left = new.after operations from same]
  refine ⟨unloaded, congrArg Session.document others, sound.isEmpty_iff, fun only => ?_,
    fun origin content report done => load_eq_load_new without done⟩
  have none : operations.filter (!·.isLoad) = [] :=
    List.filter_eq_nil_iff.mpr fun operation member => by simp [only operation member]
  rw [others, none]
  rfl

/-- Two loads that fail, the one before a setting and the other after it, leave the setting and
nothing of their own. -/
theorem failed_load_keeps_document_set :
    let first : Operation := .load "a.ini".toList "x=1\noops\n".toList
    let second : Operation := .load "b.ini".toList "[s]\ny=2\n\noops\n".toList
    let before := new.after [first, .setString none "k".toList "v".toList]
    before.isLoaded = false ∧ second.isLoad = true ∧
      (before.perform second).1 = .error (.badLine "b.ini".toList 4 "oops".toList) ∧
      (before.perform second).2.isLoaded = false ∧
      (before.perform second).2.document =
        (new.after [.setString none "k".toList "v".toList]).document := by
  intro first second before
  have unloaded : before.isLoaded = false := by decide +kernel
  have failed : (before.perform second).1 =
      .error (.badLine "b.ini".toList 4 "oops".toList) := by decide +kernel
  obtain ⟨still, kept, -⟩ := failed_load_keeps_document unloaded rfl failed
  exact ⟨unloaded, rfl, failed, still, kept⟩

/-- A load that fails in its first line leaves the value that was set before, so the document is not
empty. -/
theorem failed_load_leaves_setting :
    let before := new.after [.setString none "k".toList "v".toList]
    let load : Operation := .load "bad.ini".toList "garbage\n".toList
    before.isLoaded = false ∧ load.isLoad = true ∧
      (before.perform load).1 = .error (.badLine "bad.ini".toList 1 "garbage".toList) ∧
      (before.perform load).2.document.isEmpty = false ∧
      (before.perform load).2.document.getString none "k".toList [] = "v".toList := by
  decide +kernel

end Session

end IniKeeper
