import IniKeeper.Proofs.Invariance
import IniKeeper.Proofs.Mirroring
import IniKeeper.Proofs.TypedValues

/-!
# Present keys and defaults

A key is present where an entry is stored under it, and reading it falls back to the default where
the entry has no value. In a document with any history the two go together except under the keys
that are made up for comment blocks of their own: such a key is present without a value. Reading it
gives the default, and the command that gets it shows an empty line instead.
-/

namespace IniKeeper

open Context (Opens)

namespace Document

variable {document : Document} {sect : Option Text} {key : Text}

/-- Whether a key is present exactly where what is read does not depend on the default. -/
structure PresentIffRead (document : Document) (sect : Option Text) (key : Text) : Prop where
  /-- It is present exactly if the same text is read with every default. -/
  text : document.hasKey sect key = true ↔
    ∃ stored, ∀ default, document.getString sect key default = stored
  /-- It is absent exactly if every default of a type is read. -/
  typed : ∀ (α : Type) [Storable α] [Nontrivial α],
    (∀ default : α, document.getAs sect key default = .ok default) ↔
      document.hasKey sect key = false

/-- The same text is read with every default exactly if there is a value. -/
theorem exists_getString_iff :
    (∃ stored, ∀ default, document.getString sect key default = stored) ↔
      (document.value? sect key).isSome = true := by
  unfold getString
  cases document.value? sect key with
  | some value => exact ⟨fun _ => rfl, fun _ => ⟨value, fun _ => rfl⟩⟩
  | none =>
    refine ⟨fun ⟨stored, same⟩ => ?_, fun wrong => by contradiction⟩
    have empty : [] = stored := same []
    have filled : ['x'] = stored := same ['x']
    rw [← empty] at filled
    contradiction

/-- Every default of a type of several values is read exactly if there is no value. -/
theorem forall_getAs_iff {α : Type} [Storable α] [Nontrivial α] :
    (∀ default : α, document.getAs sect key default = .ok default) ↔
      (document.value? sect key).isSome = false := by
  cases valued : document.value? sect key with
  | none => exact ⟨fun _ => rfl, fun _ => getAs_of_none valued⟩
  | some value =>
    refine ⟨fun same => ?_, fun wrong => by contradiction⟩
    -- What is read does not depend on the default, so two defaults cannot both be read.
    obtain ⟨one, other, different⟩ := exists_pair_ne α
    have first := (getAs_of_value valued one).symm.trans (same one)
    have second := (getAs_of_value valued other).symm.trans (same other)
    exact absurd (Except.ok.inj (first.symm.trans second)) different

/-- A key of a sound document has no value exactly where it is absent or made up for a comment
block. -/
theorem Sound.value?_eq_none_iff (sound : document.Sound) :
    document.value? sect key = none ↔
      (document.hasKey sect key = true → Entry.isReserved (Text.trim key) = true) := by
  rw [← Option.not_isSome_iff_eq_none, sound.isSome_value?_eq sect key]
  cases document.hasKey sect key <;> cases Entry.isReserved (Text.trim key) <;> simp

/-- A key of a sound document is present exactly where a value is read, unless it is present and
made up for a comment block. -/
theorem Sound.presentIffRead_iff (sound : document.Sound) (sect : Option Text) (key : Text) :
    document.PresentIffRead sect key ↔
      ¬ (document.hasKey sect key = true ∧ Entry.isReserved (Text.trim key) = true) := by
  have valued := sound.isSome_value?_eq sect key
  constructor
  · rintro ⟨text, -⟩ ⟨present, reserved⟩
    have some := exists_getString_iff.mp (text.mp present)
    rw [valued, reserved, Bool.not_true, Bool.and_false] at some
    contradiction
  · intro real
    have same : (document.value? sect key).isSome = document.hasKey sect key := by
      rw [valued]
      cases present : document.hasKey sect key with
      | false => rfl
      | true =>
        have unreserved := fun reserved => real ⟨present, reserved⟩
        simpa using unreserved
    refine ⟨?_, fun α _ _ => ?_⟩
    · rw [exists_getString_iff, same]
    · rw [forall_getAs_iff, same]

end Document

/-! ### Getting a key -/

namespace Command

variable {context : Context} {workspace : Workspace} {document : Document} {sect : Option Text}
  {key : Text}

/-- Whether a command that gets a key shows a text, or fails in a way, after it logged some events
and did nothing else. -/
def Gets (context : Context) (workspace : Workspace) (key : Text) (sect default : Option Text)
    (answer : Except Failure Text) : Prop :=
  ∃ events : List Event, (run context (.get key sect default)).run workspace =
    match answer with
    | .ok text => (.ok (), { workspace with
        shown := workspace.shown ++ events.map .log ++ [.output (text ++ ['\n'])] })
    | .error failure => (.error failure, { workspace with
        shown := workspace.shown ++ events.map .log })

/-- The answer that goes by the value: it is the value if there is one, and else the default. -/
def valueOrDefault (key : Text) (sect default value : Option Text) : Except Failure Text :=
  match value.or default with
  | some text => .ok text
  | none => .error (.noKey key sect)

/-- A key of a file is answered by its value or the default, unless it is present and made up for a
comment block: then it is answered by the empty text. -/
theorem gets (opens : Opens workspace.tree context.file document)
    (there : workspace.tree.has context.file = true) (sect : Option Text) (key : Text)
    (default : Option Text) :
    Gets context workspace key sect default
      (if document.hasKey sect key = true ∧ Entry.isReserved (Text.trim key) = true then .ok []
        else valueOrDefault key sect default (document.value? sect key)) := by
  have sound := opens.sound
  rcases Context.run_load opens with ⟨-, session, report, events, loaded, rfl⟩ | ⟨absent, -⟩
  · refine ⟨events, ?_⟩
    have valued := @Document.Sound.value?_eq_none_iff session.document sect key sound
    unfold run runGet
    rw [Job.run_bind_of_ok loaded]
    dsimp only
    cases present : session.document.hasKey sect key with
    | false =>
      have none := valued.mpr fun wrong => absurd (present.symm.trans wrong) Bool.false_ne_true
      rw [if_neg Bool.false_ne_true, if_neg (fun both => Bool.false_ne_true both.1), none]
      cases default <;> rfl
    | true =>
      rw [if_pos rfl, Document.getString]
      cases reserved : Entry.isReserved (Text.trim key) with
      | true =>
        rw [if_pos ⟨rfl, rfl⟩, valued.mpr fun _ => reserved]
        rfl
      | false =>
        rw [if_neg (fun both => Bool.false_ne_true both.2)]
        cases stored : session.document.value? sect key with
        | none =>
          have wrong := valued.mp stored present
          rw [reserved] at wrong
          contradiction
        | some value => rfl
  · rw [absent] at there
    contradiction

end Command

namespace Document

/-- In a document with any history, a key is present exactly where what is read does not depend on
the default, unless it is present and made up for a comment block of its own; no key that a setter
accepts is such a key. Where the document is that of a file, getting a key shows its value or the
default, and an empty line for such a key. -/
theorem default_read_iff_absent {document : Document} (reachable : document.Reachable)
    (sect : Option Text) (key : Text) :
    (document.PresentIffRead sect key ↔
        ¬ (document.hasKey sect key = true ∧ Entry.isReserved (Text.trim key) = true)) ∧
      (∀ stored, Guard.key key = .ok stored → Entry.isReserved (Text.trim key) = false) ∧
      ∀ (context : Context) (workspace : Workspace) (default : Option Text),
        Opens workspace.tree context.file document → workspace.tree.has context.file = true →
          Command.Gets context workspace key sect default
            (if document.hasKey sect key = true ∧ Entry.isReserved (Text.trim key) = true
              then .ok []
              else Command.valueOrDefault key sect default (document.value? sect key)) := by
  refine ⟨reachable.sound.presentIffRead_iff sect key, fun stored accepted => ?_,
    fun context workspace default opens there => Command.gets opens there sect key default⟩
  obtain ⟨rfl, storedKey⟩ := Guard.key_eq_ok_iff.mp accepted
  exact Entry.isReserved_of_storedKey storedKey

/-- A file with a setting and a comment block of its own behind it. -/
def commentedFile : Store.Tree :=
  ⟨[], [(["app.ini".toList], .file "k=1\n# a\n\n".toUTF8)]⟩

/-- The value of its setting is read with any default, and shown. -/
theorem default_read_iff_absent_setting :
    let document := (Session.new.load "app.ini".toList "k=1\n# a\n\n".toList).session.document
    let context : Context := ⟨.default, "app.ini".toList, false⟩
    let workspace := (Turn.plain .format false).workspace commentedFile
    document.Reachable ∧ document.PresentIffRead none "k".toList ∧
      Opens workspace.tree context.file document ∧
      Command.Gets context workspace "k".toList none (some "x".toList) (.ok "1".toList) := by
  intro document context workspace
  have reachable : document.Reachable := .step .empty (.load none _ _ rfl)
  have opens : Opens workspace.tree context.file document := .holds (by decide +kernel) rfl
  obtain ⟨read, -, gets⟩ := default_read_iff_absent reachable none "k".toList
  exact ⟨reachable, read.mpr (by decide +kernel), opens,
    gets context workspace (some "x".toList) opens (by decide +kernel)⟩

/-- The key made up for its comment block is present, but reading it gives any default, and getting
it shows an empty line whatever the default. -/
theorem default_ignored_under_note :
    let document := (Session.new.load "app.ini".toList "k=1\n# a\n\n".toList).session.document
    let context : Context := ⟨.default, "app.ini".toList, false⟩
    let workspace := (Turn.plain .format false).workspace commentedFile
    document.Reachable ∧ document.hasKey none "#3".toList = true ∧
      (∀ default, document.getString none "#3".toList default = default) ∧
      (∀ default : Int32, document.getAs none "#3".toList default = .ok default) ∧
      ¬ document.PresentIffRead none "#3".toList ∧
      Opens workspace.tree context.file document ∧
      Command.Gets context workspace "#3".toList none (some "x".toList) (.ok []) := by
  intro document context workspace
  have reachable : document.Reachable := .step .empty (.load none _ _ rfl)
  have present : document.hasKey none "#3".toList = true := by decide +kernel
  have reserved : Entry.isReserved (Text.trim "#3".toList) = true := by decide +kernel
  have nothing : document.value? none "#3".toList = none := by decide +kernel
  have opens : Opens workspace.tree context.file document := .holds (by decide +kernel) rfl
  have shown := Command.gets opens (by decide +kernel) none "#3".toList (some "x".toList)
  rw [if_pos ⟨present, reserved⟩] at shown
  refine ⟨reachable, present, fun default => ?_, fun default => ?_, fun read => ?_, opens, shown⟩
  · rw [getString, nothing]
    rfl
  · exact getAs_of_none nothing default
  · exact (reachable.sound.presentIffRead_iff none _).mp read ⟨present, reserved⟩

end Document

end IniKeeper
