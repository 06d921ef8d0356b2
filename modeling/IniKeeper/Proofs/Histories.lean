import IniKeeper.Session
import IniKeeper.Proofs.ParseOutcome

/-!
# Histories of a document

A document comes from the empty one by steps: a setter succeeds, an entry or a section is removed,
a text is read into it to its end or to a fault, or a session loads or merges a text. One step keeps
a document sound, so every document with a history is sound. A history of setters alone makes
documents in which every entry is a setting.
-/

namespace IniKeeper

namespace Document

/-- One step in the history of a document. -/
inductive Step (document next : Document) : Prop where
  /-- A setter succeeds. -/
  | set (setter : Setter document next)
  /-- An entry or a section is removed. -/
  | remove (removal : Removal document next)
  /-- A text is read into the document, to its end or to a fault. -/
  | parse (origin content : Text) (read : next = (document.parse origin content).document)
  /-- A session with the document loads a text, or fails to. -/
  | load (loaded : Option Text) (origin content : Text)
      (read : next = (Session.load ⟨document, loaded⟩ origin content).session.document)
  /-- A session with the document merges a text, or fails to. -/
  | merge (loaded : Option Text) (origin content : Text)
      (read : next = (Session.merge ⟨document, loaded⟩ origin content).session.document)

/-- The documents that some history leads to. -/
inductive Reachable : Document → Prop where
  /-- Every history starts at the empty document. -/
  | empty : Reachable .empty
  /-- A history goes on by one step. -/
  | step {document next : Document} (reached : Reachable document) (step : Step document next) :
      Reachable next

/-- The documents that setters alone lead to. -/
inductive Built : Document → Prop where
  /-- Every history starts at the empty document. -/
  | empty : Built .empty
  /-- A setter succeeds. -/
  | set {document next : Document} (built : Built document) (setter : Setter document next) :
      Built next

/-- Loading puts a document in place that was read from the empty one, or leaves the one before. -/
theorem load_document (document : Document) (loaded : Option Text) (origin content : Text) :
    (Session.load ⟨document, loaded⟩ origin content).session.document =
        (Document.empty.parse origin content).document ∨
      (Session.load ⟨document, loaded⟩ origin content).session.document = document := by
  unfold Session.load
  cases loaded with
  | some before => exact .inr rfl
  | none =>
    cases ended : (Document.empty.parse origin content).result with
    | error fault => simp [ended]
    | ok report => simp [ended]

/-- Merging puts a document in place that was read from the one before, or leaves that. -/
theorem merge_document (document : Document) (loaded : Option Text) (origin content : Text) :
    (Session.merge ⟨document, loaded⟩ origin content).session.document =
        (document.parse origin content).document ∨
      (Session.merge ⟨document, loaded⟩ origin content).session.document = document := by
  unfold Session.merge
  cases ended : (document.parse origin content).result with
  | error fault => simp [ended]
  | ok report => simp [ended]

/-- A step keeps a document sound. -/
theorem Step.sound {document next : Document} (step : Step document next)
    (sound : document.Sound) : next.Sound := by
  cases step with
  | set setter => exact setter.sound sound
  | remove removal => exact removal.sound sound
  | parse origin content read => exact read ▸ sound.parse origin content
  | load loaded origin content read =>
    rcases load_document document loaded origin content with fresh | same
    · rw [read, fresh]
      exact sound_empty.parse origin content
    · rw [read, same]
      exact sound
  | merge loaded origin content read =>
    rcases merge_document document loaded origin content with further | same
    · rw [read, further]
      exact sound.parse origin content
    · rw [read, same]
      exact sound

/-- Every document with a history is sound. -/
theorem Reachable.sound {document : Document} (reachable : document.Reachable) :
    document.Sound := by
  induction reachable with
  | empty => exact sound_empty
  | step _ step ih => exact step.sound ih

/-- Setters are steps, so what they build has a history. -/
theorem Built.reachable {document : Document} (built : document.Built) : document.Reachable := by
  induction built with
  | empty => exact .empty
  | set _ setter ih => exact .step ih (.set setter)

/-- Whether every entry is a setting. -/
def OnlySettings (document : Document) : Prop :=
  ∀ sect ∈ document.sections, ∀ entry ∈ sect.entries, entry.IsSetting

/-- A setter adds no entry but a setting. -/
theorem Setter.onlySettings {document changed : Document} (setter : Setter document changed)
    (sound : document.Sound) (only : document.OnlySettings) : changed.OnlySettings := by
  intro sect member entry inside
  obtain ⟨name, -, ⟨comment, -, rfl⟩ | ⟨key, edit, setting, rfl⟩⟩ := setter.amends sound
  · rcases Roster.mem_upsert _ _ _ _ _ member with old | rfl | ⟨found, there, -, rfl⟩
    · exact only sect old entry inside
    · simp [Section.new] at inside
    · exact only found there entry inside
  · have edited : ∀ found : Section, (∀ entry ∈ found.entries, entry.IsSetting) →
        ∀ entry ∈ (found.change key edit).entries, entry.IsSetting := by
      intro found settings entry inside
      rcases Roster.mem_upsert _ _ _ _ _ inside with old | rfl | ⟨before, there, same, rfl⟩
      · exact settings entry old
      · exact setting.fresh
      · exact setting.again before (settings before there) same
    rcases Roster.mem_upsert _ _ _ _ _ member with old | rfl | ⟨found, there, -, rfl⟩
    · exact only sect old entry inside
    · exact edited _ (by simp [Section.new]) entry inside
    · exact edited found (only found there) entry inside

/-- What setters build has no entries but settings. -/
theorem Built.onlySettings {document : Document} (built : document.Built) :
    document.OnlySettings := by
  induction built with
  | empty => simp [OnlySettings, Document.empty, Section.global, Section.new]
  | set before setter ih => exact setter.onlySettings before.reachable.sound ih

end Document

end IniKeeper
