import IniKeeper.Proofs.StatementEffects

/-!
# One text on top of a document

A text read on top of a document lies over it: names of sections and keys that the document lacks
come behind its own, a value is that of the text where the text has one, and a comment is that of
the text where the text gives one. The text read on its own tells all of this beforehand. What
carries the argument is that each statement, made both on top of a document and on top of nothing,
keeps the first result lying over the document as the second one says.
-/

namespace IniKeeper

/-! ### Single entries, one over the other -/

namespace Entry

/-- An entry over another: it counts where it is there, but a comment shows through where it has
none. -/
def atop (upper lower : Option Entry) : Option Entry :=
  match upper with
  | none => lower
  | some entry => some { entry with comment := entry.comment.or (lower.bind comment) }

end Entry

/-- A statement about the upper of two entries is one about both. -/
theorem Statement.define_atop (said : Statement) (home : Option Text) {key : Text}
    (upper : Option Entry) {lower : Option Entry} (keyed : ∀ entry ∈ lower, entry.key = key) :
    said.define home key (Entry.atop upper lower) =
      Entry.atop (said.define home key upper) lower := by
  cases said with
  | header name comment => rfl
  | note sect block line => rfl
  | setting sect found value comment =>
    simp only [define]
    by_cases hit : sect = home ∧ found = key
    · rw [if_pos hit, if_pos hit]
      cases upper with
      | some entry => simp [Entry.atop, Option.or_assoc]
      | none =>
        cases lower with
        | none => simp [Entry.atop, Entry.new]
        | some entry =>
          have same : entry.key = key := keyed entry rfl
          simp [Entry.atop, Entry.new, same]
    · rw [if_neg hit, if_neg hit]

/-! ### Documents -/

/-- Whether a document is what another, read on its own, makes of one that it lies over. -/
structure Layers (lower upper whole : Document) : Prop where
  /-- New sections come behind those that are there. -/
  names : whole.sectionNames = Roster.extend lower.sectionNames upper.sectionNames
  /-- A section comment is the upper one, if there is one. -/
  comments : ∀ name, whole.commentAt? (some name) =
    (upper.commentAt? (some name)).or (lower.commentAt? (some name))
  /-- New keys come behind those that are there. -/
  keys : ∀ home, whole.keysAt home = Roster.extend (lower.keysAt home) (upper.keysAt home)
  /-- A setting is the upper one, if there is one. -/
  entries : ∀ home key, Entry.isReserved key = false →
    whole.entryAt? home key = Entry.atop (upper.entryAt? home key) (lower.entryAt? home key)

namespace Layers

variable {lower upper whole : Document} {said : Statement}

/-- A document without anything over it is itself. -/
theorem ofEmpty (sound : lower.Sound) : Layers lower .empty lower where
  names := by
    apply (Roster.extend_of_subset _).symm
    intro name member
    rw [List.mem_singleton.mp member]
    exact sound.global_mem
  comments name := rfl
  keys home := by
    have bare : Document.empty.keysAt home = [] := by
      cases home <;> rfl
    rw [bare]
    exact (Roster.extend_of_subset fun _ member => absurd member List.not_mem_nil).symm
  entries home key _ := by
    have bare : Document.empty.entryAt? home key = none := by
      cases home <;> rfl
    rw [bare]
    rfl

/-- A statement that is accepted above and in the whole keeps the one lying in the other. -/
theorem accept (layers : Layers lower upper whole) (apart : said.Apart) :
    Layers lower (upper.accept said) (whole.accept said) where
  names := by
    rw [Document.sectionNames_accept, Document.sectionNames_accept, layers.names,
      Roster.enroll_extend]
  comments name := by
    rw [Document.commentAt?_accept, Document.commentAt?_accept, layers.comments, Option.or_assoc]
  keys home := by
    rw [Document.keysAt_accept apart, Document.keysAt_accept apart, layers.keys]
    cases said.key? home with
    | none => rfl
    | some key => exact Roster.enroll_extend key (lower.keysAt home) (upper.keysAt home)
  entries home key unreserved := by
    have keyed : ∀ entry ∈ lower.entryAt? home key, entry.key = key :=
      fun entry found => (Roster.of_get?_eq_some _ _ _ found).2
    rw [Document.entryAt?_accept apart home unreserved,
      Document.entryAt?_accept apart home unreserved, layers.entries home key unreserved,
      Statement.define_atop said home _ keyed]

/-- Statements in a row that are accepted above and in the whole keep the one lying in the other. -/
theorem acceptAll (layers : Layers lower upper whole) {all : List Statement}
    (apart : ∀ said ∈ all, said.Apart) :
    Layers lower (upper.acceptAll all) (whole.acceptAll all) := by
  induction all generalizing upper whole with
  | nil => exact layers
  | cons said rest ih =>
    have further := layers.accept (apart said List.mem_cons_self)
    exact ih further fun other member => apart other (List.mem_cons_of_mem said member)

end Layers

namespace Document

/-- A text of well-formed lines that is read on top of a sound document lies over it. -/
theorem Sound.layers_parse {document : Document} (sound : document.Sound) (source origin : Text)
    {content : Text} (wellFormed : ∀ raw ∈ Text.lines content, Line.WellFormed raw) :
    Layers document (empty.parse source content).document
      (document.parse origin content).document := by
  have apart : ∀ said ∈ Rows.wholeStatements (Text.lines content), said.Apart :=
    fun said => Rows.apart_of_mem_statements (Rows.clean_whole content)
      (Rows.wellFormed_whole wellFormed)
  rw [(parse_of_wellFormed sound_empty source wellFormed).2.1,
    (parse_of_wellFormed sound origin wellFormed).2.1]
  exact (Layers.ofEmpty sound).acceptAll apart

end Document

end IniKeeper
