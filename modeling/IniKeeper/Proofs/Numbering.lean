import IniKeeper.Proofs.Formatting

/-!
# Documents up to made-up numbers

The made-up key of a comment block that stands on its own ends in the number of the line that
settled it, so a line more or less in front of the block changes the key and nothing else. Without
these numbers a document is told by what was stated, wherever it was: every comment block comes last
in its section when it is stated, and settings never share a key with one. The obvious lemma, that
dropping the numbers commutes with putting a block under its key, fails where two blocks of one
marker lose their numbers; what carries the argument is that each block is new when it is put.
-/

namespace IniKeeper

/-! ### Dropping the numbers -/

namespace Entry

/-- An entry without the line number in a made-up key. -/
def unnumbered (entry : Entry) : Entry :=
  if entry.isStandalone then { entry with key := entry.key.take 1 } else entry

end Entry

/-- A section without the line numbers in made-up keys. -/
def Section.unnumbered (sect : Section) : Section :=
  { sect with entries := sect.entries.map Entry.unnumbered }

/-- A document without the line numbers in made-up keys. -/
def Document.unnumbered (document : Document) : Document :=
  ⟨document.sections.map Section.unnumbered⟩

/-- A statement without the number of the line that settles a comment block. -/
def Statement.unnumbered : Statement → Statement
  | note sect block _ => note sect block 0
  | said => said

namespace Entry

/-- Only made-up keys have a number to drop. -/
theorem unnumbered_of_unreserved {entry : Entry} (unreserved : isReserved entry.key = false) :
    entry.unnumbered = entry := by
  rw [unnumbered, isStandalone_eq, unreserved, if_neg Bool.false_ne_true]

/-- Of a made-up key the marker is left. -/
theorem unnumbered_standalone {block : Text} {line : Nat}
    (reserved : isReserved (standalone block line).key = true) :
    (standalone block line).unnumbered = ⟨[Comment.marker block], none, some block⟩ := by
  rw [unnumbered, isStandalone_eq, reserved, if_pos rfl]
  rfl

/-- A made-up key stays one. -/
theorem isReserved_unnumbered (entry : Entry) :
    isReserved entry.unnumbered.key = isReserved entry.key := by
  rw [unnumbered]
  split
  · unfold isReserved
    cases entry.key <;> rfl
  · rfl

/-- Other keys are found among the entries without numbers as before. -/
theorem key_unnumbered_eq_iff {key : Text} (unreserved : isReserved key = false) (entry : Entry) :
    entry.unnumbered.key = key ↔ entry.key = key := by
  cases reserved : isReserved entry.key with
  | false => rw [unnumbered_of_unreserved reserved]
  | true =>
    have kept := entry.isReserved_unnumbered
    rw [reserved] at kept
    constructor
    · rintro rfl
      rw [kept] at unreserved
      contradiction
    · rintro rfl
      rw [reserved] at unreserved
      contradiction

end Entry

/-! ### Statements without numbers -/

namespace Document

/-- The document after a statement, where a comment block of its own comes last in its section. -/
def acceptLast (document : Document) : Statement → Document
  | .note sect block _ =>
    if document.atTop sect then
      document.amend none fun found => { found with comment := some block }
    else document.amend sect fun found =>
      { found with entries := found.entries ++ [⟨[Comment.marker block], none, some block⟩] }
  | said => document.accept said

/-- The document after a statement, with a comment block last in its section, does not depend on
numbers. -/
theorem acceptLast_unnumbered (document : Document) (said : Statement) :
    document.acceptLast said.unnumbered = document.acceptLast said := by
  cases said <;> rfl

variable {document : Document}

/-- Numbers are dropped after a change of one section as before it. -/
theorem unnumbered_amend {home : Option Text} {edit plain : Section → Section}
    (new : (edit (Section.new home none)).unnumbered = plain (Section.new home none))
    (again : ∀ sect ∈ document.sections, sect.name = home →
      (edit sect).unnumbered = plain sect.unnumbered) :
    (document.amend home edit).unnumbered = document.unnumbered.amend home plain := by
  have named : ∀ sect : Section, sect.unnumbered.name = home ↔ sect.name = home :=
    fun _ => Iff.rfl
  exact congrArg Document.mk (Roster.map_upsert Section.unnumbered named new again)

/-- The global section is untouched with and without numbers. -/
theorem atTop_unnumbered (document : Document) (sect : Option Text) :
    document.unnumbered.atTop sect = document.atTop sect := by
  have found : ∀ name, document.unnumbered.section? name =
      (document.section? name).map Section.unnumbered := fun name => List.find?_map ..
  unfold atTop sectionComment?
  rw [found]
  cases document.section? none with
  | none => rfl
  | some sect => simp [Section.unnumbered]

/-- Numbers are dropped after a statement as before it, if a comment block is new to its section. -/
theorem unnumbered_accept {said : Statement} (apart : said.Apart)
    (new : ∀ home block line, said = .note home block line → ∀ found ∈ document.sections,
      found.name = home → ∀ old ∈ found.entries, old.key ≠ (Entry.standalone block line).key) :
    (document.accept said).unnumbered = document.unnumbered.acceptLast said := by
  cases said with
  | header name comment => exact unnumbered_amend rfl fun _ _ _ => rfl
  | setting sect key value comment =>
    have unreserved : Entry.isReserved key = false := apart
    have edited : ∀ found : Section,
        (found.change key fun entry =>
          { entry with value := some value, comment := comment.or entry.comment }).unnumbered =
        found.unnumbered.change key fun entry =>
          { entry with value := some value, comment := comment.or entry.comment } := by
      intro found
      refine congrArg (Section.mk found.name found.comment) ?_
      refine Roster.map_upsert Entry.unnumbered (Entry.key_unnumbered_eq_iff unreserved)
        (Entry.unnumbered_of_unreserved unreserved) fun entry _ same => ?_
      have before : entry.unnumbered = entry :=
        Entry.unnumbered_of_unreserved (same ▸ unreserved)
      rw [before]
      exact Entry.unnumbered_of_unreserved (same ▸ unreserved)
    exact unnumbered_amend (edited _) fun found _ _ => edited found
  | note sect block line =>
    -- The block is new to the section, so putting it under its key appends it.
    have added : ∀ found : Section,
        (∀ old ∈ found.entries, old.key ≠ (Entry.standalone block line).key) →
        (found.put (Entry.standalone block line)).unnumbered =
          { found.unnumbered with
            entries :=
              found.unnumbered.entries ++ [⟨[Comment.marker block], none, some block⟩] } := by
      intro found others
      rw [Section.put, Section.change, Roster.upsert_of_forall_ne _ _ _ _ _ others]
      simp only [Section.unnumbered, List.map_append, List.map_cons, List.map_nil,
        Entry.unnumbered_standalone apart]
    rw [accept, acceptLast, atTop_unnumbered]
    split
    · exact unnumbered_amend rfl fun _ _ _ => rfl
    · refine unnumbered_amend ?_ fun found member named => ?_
      · exact added _ fun old member => absurd member List.not_mem_nil
      · exact added found (new sect block line rfl found member named)

end Document

namespace Rows

/-- Without numbers, the document that well-formed lines describe is made of what they state without
numbers. -/
theorem unnumbered_document {rows : List Text} (clean : ∀ row ∈ rows, '\n' ∉ row)
    (wellFormed : ∀ row ∈ rows, Line.WellFormed row) :
    (Meaning.document (statements rows)).unnumbered =
      ((statements rows).map Statement.unnumbered).foldl Document.acceptLast .empty := by
  induction rows using List.reverseRecOn with
  | nil => rfl
  | append_singleton rows raw ih =>
    have above := ih (fun row inside => clean row (by simp [inside]))
      fun row inside => wellFormed row (by simp [inside])
    cases states : statement? rows raw with
    | none =>
      rw [statements_concat, states, Option.toList_none, List.append_nil]
      exact above
    | some said =>
      have member : said ∈ statements (rows ++ [raw]) := mem_statements_concat.mpr (.inr states)
      have apart := apart_of_mem_statements clean wellFormed member
      have new : ∀ home block line, said = .note home block line →
          ∀ found ∈ (Meaning.document (statements rows)).sections, found.name = home →
          ∀ old ∈ found.entries, old.key ≠ (Entry.standalone block line).key := by
        rintro home block line rfl found inside named
        obtain ⟨name, -, rfl⟩ := List.mem_map.mp inside
        obtain rfl : name = home := named
        exact @key_ne_of_statement? rows raw _ (.note block line) clean wellFormed states
          (if_pos rfl) fun address sets => by contradiction
      rw [statements_concat, states, Option.toList_some, List.map_append, List.foldl_append,
        ← above, List.map_singleton, List.foldl_cons, List.foldl_nil,
        Document.acceptLast_unnumbered, ← Document.unnumbered_accept apart new,
        Meaning.accept_document (follows_statement? clean wellFormed states)]

end Rows

end IniKeeper
