import IniKeeper.Proofs.Histories

/-!
# Which texts are accepted

A text is accepted exactly when each of its lines is well formed, whatever the document that it is
read into. Otherwise it is at fault at its first line that is not: the fault has the number and the
text of that line. Keys, values, names and comments of well-formed lines are never refused, and a
comment block that a blank line or the end of the text settles is never refused either. So what
comes of a text, its report included, does not depend on the document that it is read into.
-/

namespace IniKeeper

namespace Document

/-- Reading into a sound document succeeds exactly when every line is well formed. -/
theorem isOk_parse_iff {document : Document} (sound : document.Sound) (origin content : Text) :
    (∃ report, (document.parse origin content).result = .ok report) ↔
      ∀ raw ∈ Text.lines content, Line.WellFormed raw := by
  constructor
  · rintro ⟨report, accepted⟩
    rcases wellFormed_or_exists_offence (Text.lines content) with
      wellFormed | ⟨before, raw, after, rows, above, offends⟩
    · exact wellFormed
    · have fault := (parse_of_offence sound origin rows above offends).1
      rw [accepted] at fault
      contradiction
  · intro wellFormed
    exact ⟨_, (parse_of_wellFormed sound origin wellFormed).1⟩

/-- Reading into any document with a history succeeds exactly when every line is well formed;
otherwise the fault has the number and the text of the first line that is not. -/
theorem parse_judges_lines {document : Document} (reachable : document.Reachable)
    (origin content : Text) :
    ((∃ report, (document.parse origin content).result = .ok report) ↔
        ∀ raw ∈ Text.lines content, Line.WellFormed raw) ∧
      ∀ before raw after, Text.lines content = before ++ raw :: after →
        (∀ row ∈ before, Line.WellFormed row) → ¬ Line.WellFormed raw →
          (document.parse origin content).result =
            .error (.badLine origin (before.length + 1) raw) := by
  have sound := reachable.sound
  refine ⟨isOk_parse_iff sound origin content, ?_⟩
  intro before raw after rows above offends
  exact (parse_of_offence sound origin rows above offends).1

/-- A document that a header was read into is read into again, up to a header without a name. -/
theorem parse_judges_lines_nameless_header :
    ((parse empty [] "[s]".toList).document.parse "again".toList "; c\n[ ]\nk=v".toList).result =
      .error (.badLine "again".toList 2 "[ ]".toList) := by
  have reachable : (parse empty [] "[s]".toList).document.Reachable :=
    .step .empty (.parse [] "[s]".toList rfl)
  have rows : Text.lines "; c\n[ ]\nk=v".toList =
      ["; c".toList] ++ "[ ]".toList :: ["k=v".toList] := by decide
  refine (parse_judges_lines reachable "again".toList "; c\n[ ]\nk=v".toList).2 _ _ _ rows ?_ ?_
  · intro row member
    rw [List.mem_singleton.mp member]
    exact .comment ⟨';', ' ', ['c'], .inr rfl, .inl rfl, rfl⟩
  · have nameless : Line.classify "[ ]".toList = .header [] := by decide
    rw [Line.wellFormed_iff (by decide), nameless]
    simp

/-! ### What is there already -/

/-- What comes of a text is the same for every sound document. -/
theorem Sound.result_parse_eq {document other : Document} (sound : document.Sound)
    (otherSound : other.Sound) (origin content : Text) :
    (document.parse origin content).result = (other.parse origin content).result := by
  rcases wellFormed_or_exists_offence (Text.lines content) with
    wellFormed | ⟨before, raw, after, rows, above, offends⟩
  · have here := (parse_of_wellFormed sound origin wellFormed).1
    have there := (parse_of_wellFormed otherSound origin wellFormed).1
    exact here.trans there.symm
  · have here := (parse_of_offence sound origin rows above offends).1
    have there := (parse_of_offence otherSound origin rows above offends).1
    exact here.trans there.symm

end Document

namespace Session

/-- A merge has the result of reading the text into the document. -/
theorem result_merge (session : Session) (origin content : Text) :
    (session.merge origin content).result = (session.document.parse origin content).result := by
  unfold merge
  cases ended : (session.document.parse origin content).result <;> simp [ended]

/-- Loading into a new session has the result of reading the text into the empty document. -/
theorem result_load_new (origin content : Text) :
    (new.load origin content).result = (Document.empty.parse origin content).result := by
  unfold load new
  cases ended : (Document.empty.parse origin content).result <;> simp [ended]

end Session

namespace Document

/-- Reading a text into any document with a history has the result of reading it into the empty one:
the same report with the same warnings, or a fault at the same line. So a merge succeeds exactly
where loading the text on its own does, with the same report. -/
theorem parse_ignores_document {document : Document} (reachable : document.Reachable)
    (origin content : Text) :
    (document.parse origin content).result = (empty.parse origin content).result ∧
      ∀ loaded : Option Text, (Session.merge ⟨document, loaded⟩ origin content).result =
        (Session.new.load origin content).result := by
  have same := reachable.sound.result_parse_eq sound_empty origin content
  refine ⟨same, fun loaded => ?_⟩
  rw [Session.result_merge, Session.result_load_new]
  exact same

/-- A section and a key that the document has already are no repetition; those that the text has
twice are. -/
theorem parse_ignores_document_repetition :
    (Session.merge ⟨(parse empty [] "[s]\nk=1".toList).document, none⟩ "t".toList
        "[s]\nk=2\n[s]\n".toList).result =
      .ok ⟨3, 2, 1, [⟨3, .sectionAgain "s".toList, "[s]".toList⟩]⟩ := by
  have reachable : (parse empty [] "[s]\nk=1".toList).document.Reachable :=
    .step .empty (.parse [] "[s]\nk=1".toList rfl)
  rw [(parse_ignores_document reachable "t".toList "[s]\nk=2\n[s]\n".toList).2 none]
  rfl

end Document

end IniKeeper
