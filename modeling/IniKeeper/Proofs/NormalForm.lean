import IniKeeper.Layout
import IniKeeper.Proofs.LineEnds
import IniKeeper.Proofs.Soundness

/-!
# Normal forms

A text cannot say everything that a document can hold. What it cannot say is left out in the normal
form: a comment line loses a carriage return at its end, a comment block that the global section
begins with is the comment of that section, and every other comment block of its own is kept under
its marker and the number of the blank line that follows it in the text of the document. Sections,
settings and their order, values and comments stay.
-/

namespace IniKeeper

universe u v

/-! ### Carriage returns -/

/-- A comment block whose lines lost a carriage return at their end. -/
def Comment.dropReturns (block : Text) : Text :=
  Text.joinLines ((block.splitOn '\n').map Text.dropReturn)

/-- An entry whose comment lost the carriage returns at the ends of its lines. -/
def Entry.dropReturns (entry : Entry) : Entry :=
  { entry with comment := entry.comment.map Comment.dropReturns }

/-- A section whose comments lost the carriage returns at the ends of their lines. -/
def Section.dropReturns (sect : Section) : Section :=
  ⟨sect.name, sect.comment.map Comment.dropReturns, sect.entries.map Entry.dropReturns⟩

/-- A document whose comments lost the carriage returns at the ends of their lines. -/
def Document.dropReturns (document : Document) : Document :=
  ⟨document.sections.map Section.dropReturns⟩

/-! ### The comment of the global section -/

/-- A section in which a comment block at the top of the global section became its comment. -/
def Section.lift (sect : Section) : Section :=
  match sect with
  | ⟨none, none, entry :: rest⟩ =>
    if entry.isStandalone then ⟨none, entry.comment, rest⟩ else sect
  | _ => sect

/-- A document in which a comment block at its top became the comment of the global section. -/
def Document.lift (document : Document) : Document := ⟨document.sections.map Section.lift⟩

/-! ### Line numbers -/

namespace Layout

/-- How many lines an entry takes up. -/
def entryLines (padded : Bool) (entry : Entry) : Nat := (entryText padded entry).count '\n'

/-- How many lines stand above the entries of a section. -/
def headLines (sect : Section) : Nat := (headText sect).count '\n'

/-- How many lines a section takes up. -/
def sectionLines (padded : Bool) (sect : Section) : Nat := (sectionText padded sect).count '\n'

/-- Things that stand one under the other, each with the number of lines above it. -/
def stack {α : Type u} (height : α → Nat) (above : Nat) : List α → List (α × Nat)
  | [] => []
  | a :: rest => (a, above) :: stack height (above + height a) rest

end Layout

/-- An entry with a comment block of its own under its marker and a line; a setting as it is. -/
def Entry.rekey (line : Nat) (entry : Entry) : Entry :=
  if entry.isStandalone then { entry with key := entry.key.take 1 ++ Nat.toDigits 10 line }
  else entry

/-- Entries with some lines above them, in which comment blocks of their own are kept under the
numbers of their last lines. -/
def Layout.rekeyAll (padded : Bool) (above : Nat) (entries : List Entry) : List Entry :=
  (stack (entryLines padded) above entries).map fun (entry, top) =>
    entry.rekey (top + entryLines padded entry)

/-- A section with some lines above it, in which comment blocks of their own are kept under the
numbers of their last lines. -/
def Section.rekey (padded : Bool) (above : Nat) (sect : Section) : Section :=
  { sect with
    entries := Layout.rekeyAll padded (above + Layout.headLines sect) sect.entries }

/-- A document whose comment blocks of their own are kept under the numbers of their last lines in
its text, which are blank. -/
def Document.rekey (padded : Bool) (document : Document) : Document :=
  ⟨(Layout.stack (Layout.sectionLines padded) 0 document.sections).map fun (sect, above) =>
    sect.rekey padded above⟩

/-- What remains of a document when its text is read back. -/
def Document.normal (padded : Bool) (document : Document) : Document :=
  (document.rekey padded).lift.dropReturns

/-! ### Things one under the other -/

namespace Layout

variable {α : Type u} {β : Type v}

/-- The things of a stack are those that were put there. -/
theorem map_fst_stack (height : α → Nat) (above : Nat) (things : List α) :
    (stack height above things).map Prod.fst = things := by
  induction things generalizing above with
  | nil => rfl
  | cons a rest ih => rw [stack, List.map_cons, ih]

/-- What stands in a stack was put there. -/
theorem mem_of_mem_stack {height : α → Nat} {above : Nat} {things : List α} {placed : α × Nat}
    (member : placed ∈ stack height above things) : placed.1 ∈ things := by
  rw [← map_fst_stack height above things]
  exact List.mem_map_of_mem member

/-- What things give does not depend on where they stand. -/
theorem flatMap_stack (height : α → Nat) (above : Nat) (things : List α) (give : α → List β) :
    (stack height above things).flatMap (fun placed => give placed.1) = things.flatMap give := by
  rw [← List.flatMap_map, map_fst_stack]

/-- Things of unchanged height stand where the things before stood. -/
theorem stack_map (before : α → Nat) (after : β → Nat) (change : α → β)
    (same : ∀ a, after (change a) = before a) (above : Nat) (things : List α) :
    stack after above (things.map change) =
      (stack before above things).map fun (a, top) => (change a, top) := by
  induction things generalizing above with
  | nil => rfl
  | cons a rest ih => rw [List.map_cons, stack, stack, List.map_cons, same, ih]

/-- Things of the same heights stand at the same places. -/
theorem stack_congr {one other : α → Nat} {things : List α}
    (same : ∀ a ∈ things, one a = other a) (above : Nat) :
    stack one above things = stack other above things := by
  induction things generalizing above with
  | nil => rfl
  | cons a rest ih =>
    rw [stack, stack, same a List.mem_cons_self,
      ih fun b member => same b (List.mem_cons_of_mem a member)]

/-- What stands further down has all lines of what stands further up above it. -/
theorem pairwise_stack (height : α → Nat) (above : Nat) (things : List α) :
    (stack height above things).Pairwise (fun one other => one.2 + height one.1 ≤ other.2) ∧
      ∀ placed ∈ stack height above things, above ≤ placed.2 := by
  induction things generalizing above with
  | nil => exact ⟨List.Pairwise.nil, fun placed member => absurd member List.not_mem_nil⟩
  | cons a rest ih =>
    obtain ⟨ordered, bounded⟩ := ih (above + height a)
    refine ⟨List.Pairwise.cons bounded ordered, fun placed member => ?_⟩
    rcases List.mem_cons.mp member with rfl | further
    · exact Nat.le_refl above
    · exact Nat.le_trans (Nat.le_add_right _ _) (bounded placed further)

end Layout

/-! ### Blocks without carriage returns -/

/-- A map leaves a list as it is exactly when it leaves each of its elements as it is. -/
theorem map_eq_self_iff {α : Type u} {change : α → α} {things : List α} :
    things.map change = things ↔ ∀ a ∈ things, change a = a := by
  have whole : things.map id = things := List.map_id things
  constructor
  · intro same
    exact List.map_inj_left.mp (same.trans whole.symm)
  · intro each
    exact (List.map_congr_left each).trans whole

/-- A text has one piece more than line feeds. -/
theorem Text.length_splitOn (text : Text) :
    (text.splitOn '\n').length = text.count '\n' + 1 := by
  have pieces : text.splitOn '\n' ≠ [] := List.splitOn_ne_nil _ _
  have clean : ∀ piece ∈ text.splitOn '\n', '\n' ∉ piece := fun piece member =>
    not_mem_of_mem_splitOn member
  rw [← count_endLines _ clean, ← joinLines_append_feed pieces, joinLines_splitOn,
    List.count_append]
  rfl

/-- A line stays as it is exactly when it does not end in a carriage return. -/
theorem Text.dropReturn_eq_self_iff {row : Text} :
    dropReturn row = row ↔ row.getLast? ≠ some '\r' := by
  unfold dropReturn
  constructor
  · intro same ends
    rw [if_pos ends] at same
    have shorter := congrArg List.length same
    rw [List.length_dropLast] at shorter
    have some : row ≠ [] := fun empty => by simp [empty] at ends
    have long := List.length_pos_iff.mpr some
    omega
  · intro unreturned
    rw [if_neg unreturned]

namespace Comment

/-- Each line of a block loses its own carriage return. -/
theorem splitOn_dropReturns (block : Text) :
    (dropReturns block).splitOn '\n' = (block.splitOn '\n').map Text.dropReturn := by
  refine Text.splitOn_joinLines (fun row member feed => ?_) ?_
  · obtain ⟨piece, inside, rfl⟩ := List.mem_map.mp member
    exact Text.not_mem_of_mem_splitOn inside (Text.mem_of_mem_dropReturn feed)
  · rw [ne_eq, List.map_eq_nil_iff]
    exact List.splitOn_ne_nil _ _

/-- A block that loses carriage returns has as many lines as before. -/
theorem count_dropReturns (block : Text) : (dropReturns block).count '\n' = block.count '\n' := by
  have after := Text.length_splitOn (dropReturns block)
  rw [splitOn_dropReturns, List.length_map, Text.length_splitOn] at after
  exact (Nat.add_right_cancel after).symm

/-- A block stays as it is exactly when no line of it ends in a carriage return. -/
theorem dropReturns_eq_self_iff {block : Text} :
    dropReturns block = block ↔ ∀ row ∈ block.splitOn '\n', row.getLast? ≠ some '\r' := by
  have lines : dropReturns block = block ↔
      (block.splitOn '\n').map Text.dropReturn = block.splitOn '\n' := by
    constructor
    · intro same
      rw [← splitOn_dropReturns, same]
    · intro same
      rw [dropReturns, same, Text.joinLines_splitOn]
  rw [lines, map_eq_self_iff]
  simp only [Text.dropReturn_eq_self_iff]

/-- A comment line that loses a carriage return is a comment line. -/
theorem isComment_dropReturn {row : Text} (comment : Line.isComment row = true) :
    Line.isComment (Text.dropReturn row) = true := by
  obtain ⟨⟨marker, gap, rest, first, second, rfl⟩, clean⟩ := Line.isComment_iff.mp comment
  refine Line.isComment_iff.mpr ⟨?_, fun feed => clean (Text.mem_of_mem_dropReturn feed)⟩
  unfold Text.dropReturn
  split
  · rename_i ends
    cases rest with
    | nil =>
      rw [List.getLast?_cons_cons, List.getLast?_singleton] at ends
      obtain rfl := Option.some.inj ends
      simp at second
    | cons c rest => exact ⟨marker, gap, (c :: rest).dropLast, first, second, rfl⟩
  · exact ⟨marker, gap, rest, first, second, rfl⟩

/-- A block that loses carriage returns is a block. -/
theorem isBlock_dropReturns {block : Text} (valid : isBlock block = true) :
    isBlock (dropReturns block) = true := by
  rw [isBlock_iff] at valid ⊢
  intro row member
  rw [splitOn_dropReturns] at member
  obtain ⟨piece, inside, rfl⟩ := List.mem_map.mp member
  exact isComment_dropReturn (valid piece inside)

end Comment

/-! ### Entries -/

namespace Entry

/-- Another number leaves a standalone comment standalone, and a setting a setting. -/
theorem isStandalone_rekey (entry : Entry) (line : Nat) :
    (entry.rekey line).isStandalone = entry.isStandalone := by
  unfold rekey
  split
  · rename_i standalone
    unfold isStandalone at standalone ⊢
    cases key : entry.key with
    | nil => simp [key] at standalone
    | cons c rest => simp
  · rfl

/-- The number in a made-up key has no part in the value. -/
theorem value_rekey (entry : Entry) (line : Nat) : (entry.rekey line).value = entry.value := by
  unfold rekey
  split <;> rfl

/-- The number in a made-up key has no part in the comment. -/
theorem comment_rekey (entry : Entry) (line : Nat) :
    (entry.rekey line).comment = entry.comment := by
  unfold rekey
  split <;> rfl

/-- A setting keeps its key under another number. -/
theorem rekey_of_setting {entry : Entry} (setting : entry.isStandalone = false) (line : Nat) :
    entry.rekey line = entry := by
  rw [rekey, setting, if_neg Bool.false_ne_true]

/-- Numbers and carriage returns have nothing to do with each other. -/
theorem rekey_dropReturns (entry : Entry) (line : Nat) :
    entry.dropReturns.rekey line = (entry.rekey line).dropReturns := by
  have same : entry.dropReturns.isStandalone = entry.isStandalone := rfl
  unfold rekey
  rw [same]
  split <;> rfl

/-- Another number changes nothing in the text. -/
theorem entryText_rekey (padded : Bool) (entry : Entry) (line : Nat) :
    Layout.entryText padded (entry.rekey line) = Layout.entryText padded entry := by
  cases kind : entry.isStandalone with
  | false => rw [rekey_of_setting kind]
  | true =>
    have still : (entry.rekey line).isStandalone = true :=
      (isStandalone_rekey entry line).trans kind
    simp only [Layout.entryText, still, kind, comment_rekey, if_true]

/-- An entry takes up as many lines without carriage returns. -/
theorem entryLines_dropReturns (padded : Bool) (entry : Entry) :
    Layout.entryLines padded entry.dropReturns = Layout.entryLines padded entry := by
  have same : entry.dropReturns.isStandalone = entry.isStandalone := rfl
  unfold Layout.entryLines Layout.entryText
  rw [same]
  cases kind : entry.comment with
  | none => simp [dropReturns, kind, Layout.commentText, valueText]
  | some block =>
    split <;>
      simp [dropReturns, kind, Layout.commentText, valueText, Comment.count_dropReturns]

end Entry

/-! ### Sections -/

namespace Section

/-- A comment block reads the same on its own and as the comment of the global section. -/
theorem sectionText_lift (padded : Bool) (sect : Section) :
    Layout.sectionText padded sect.lift = Layout.sectionText padded sect := by
  unfold lift
  split
  · rename_i entry rest
    split
    · rename_i standalone
      simp only [Layout.sectionText, Layout.headText, List.flatMap_cons, Layout.entryText,
        standalone, if_true, List.nil_append]
    · rfl
  · rfl

/-- Comments lose the same carriage returns wherever they are kept. -/
theorem lift_dropReturns (sect : Section) : sect.dropReturns.lift = sect.lift.dropReturns := by
  obtain ⟨name, comment, entries⟩ := sect
  cases name with
  | some name => rfl
  | none =>
    cases comment with
    | some block => rfl
    | none =>
      cases entries with
      | nil => rfl
      | cons entry rest =>
        have same : entry.dropReturns.isStandalone = entry.isStandalone := rfl
        simp only [dropReturns, Option.map_none, List.map_cons, lift, same]
        split <;> rfl

/-- The head of a section takes up as many lines without carriage returns. -/
theorem headLines_dropReturns (sect : Section) :
    Layout.headLines sect.dropReturns = Layout.headLines sect := by
  obtain ⟨name, comment, entries⟩ := sect
  cases name <;> cases comment <;>
    simp [Layout.headLines, Layout.headText, dropReturns, Layout.commentText,
      Comment.count_dropReturns]

/-- A section takes up the lines of its head and of its entries. -/
theorem sectionLines_eq (padded : Bool) (sect : Section) :
    Layout.sectionLines padded sect =
      Layout.headLines sect + (sect.entries.map (Layout.entryLines padded)).foldr (· + ·) 0 := by
  rw [Layout.sectionLines, Layout.sectionText, List.count_append, Layout.headLines,
    List.count_flatMap]
  rfl

/-- A section takes up as many lines without carriage returns. -/
theorem sectionLines_dropReturns (padded : Bool) (sect : Section) :
    Layout.sectionLines padded sect.dropReturns = Layout.sectionLines padded sect := by
  have entries : (sect.dropReturns.entries.map (Layout.entryLines padded)) =
      sect.entries.map (Layout.entryLines padded) := by
    rw [dropReturns, List.map_map]
    exact List.map_congr_left fun entry _ => Entry.entryLines_dropReturns padded entry
  rw [sectionLines_eq, sectionLines_eq, headLines_dropReturns, entries]

/-- Numbers and carriage returns have nothing to do with each other. -/
theorem rekey_dropReturns (padded : Bool) (above : Nat) (sect : Section) :
    sect.dropReturns.rekey padded above = (sect.rekey padded above).dropReturns := by
  have entries : ∀ above, Layout.rekeyAll padded above (sect.entries.map Entry.dropReturns) =
      (Layout.rekeyAll padded above sect.entries).map Entry.dropReturns := by
    intro above
    rw [Layout.rekeyAll, Layout.rekeyAll, List.map_map,
      Layout.stack_map (Layout.entryLines padded) _ _ (Entry.entryLines_dropReturns padded),
      List.map_map]
    refine List.map_congr_left fun placed _ => ?_
    exact (congrArg (placed.1.dropReturns.rekey <| placed.2 + ·)
      (Entry.entryLines_dropReturns padded placed.1)).trans (Entry.rekey_dropReturns _ _)
  unfold rekey
  rw [headLines_dropReturns]
  exact congrArg (Section.mk sect.name _) (entries _)

/-- Numbers are the same whether a block stands on its own or is the section's comment. -/
theorem rekey_lift (padded : Bool) (above : Nat) (sect : Section) :
    sect.lift.rekey padded above = (sect.rekey padded above).lift := by
  obtain ⟨name, comment, entries⟩ := sect
  cases name with
  | some name => rfl
  | none =>
    cases comment with
    | some block => rfl
    | none =>
      cases entries with
      | nil => rfl
      | cons entry rest =>
        simp only [rekey, lift, Layout.rekeyAll, Layout.stack, List.map_cons,
          Entry.isStandalone_rekey]
        split
        · rename_i standalone
          have head : Layout.headLines ⟨none, entry.comment, rest⟩ =
              Layout.headLines ⟨none, none, entry :: rest⟩ + Layout.entryLines padded entry := by
            simp [Layout.headLines, Layout.headText, Layout.entryLines, Layout.entryText,
              standalone]
          rw [head, Entry.comment_rekey, Nat.add_assoc]
        · simp [Layout.stack]

/-- Whatever an entry has apart from its number, the entries of a section have it as before. -/
theorem flatMap_rekey {β : Type v} (padded : Bool) (above : Nat) (sect : Section)
    (give : Entry → List β) (same : ∀ entry line, give (entry.rekey line) = give entry) :
    (sect.rekey padded above).entries.flatMap give = sect.entries.flatMap give := by
  rw [rekey, Layout.rekeyAll, List.flatMap_map]
  simp only [same]
  exact Layout.flatMap_stack _ _ _ give

/-- Other numbers change nothing in the text. -/
theorem sectionText_rekey (padded again : Bool) (above : Nat) (sect : Section) :
    Layout.sectionText again (sect.rekey padded above) = Layout.sectionText again sect := by
  rw [Layout.sectionText, flatMap_rekey padded above sect (Layout.entryText again)
    fun entry line => Entry.entryText_rekey again entry line]
  rfl

end Section

/-! ### Documents -/

namespace Document

/-- Whatever a section has apart from numbers, the sections of a document have it as before. -/
theorem flatMap_rekey {β : Type v} (padded : Bool) (document : Document)
    (give : Section → List β) (same : ∀ sect above, give (sect.rekey padded above) = give sect) :
    (document.rekey padded).sections.flatMap give = document.sections.flatMap give := by
  rw [rekey, List.flatMap_map]
  simp only [same]
  exact Layout.flatMap_stack _ _ _ give

/-- The order in which the normal form is taken does not matter. -/
theorem normal_eq (padded : Bool) (document : Document) :
    document.normal padded = document.dropReturns.lift.rekey padded := by
  have lines : ∀ sect : Section, Layout.sectionLines padded sect.dropReturns.lift =
      Layout.sectionLines padded sect := by
    intro sect
    rw [← Section.sectionLines_dropReturns padded sect, Layout.sectionLines,
      Section.sectionText_lift, Layout.sectionLines]
  have order : ∀ (sect : Section) (above : Nat), sect.dropReturns.lift.rekey padded above =
      (sect.rekey padded above).lift.dropReturns := by
    intro sect above
    rw [Section.rekey_lift, Section.rekey_dropReturns, Section.lift_dropReturns]
  have placed := Layout.stack_map (Layout.sectionLines padded) (Layout.sectionLines padded)
    (fun sect => sect.dropReturns.lift) lines 0 document.sections
  simp only [normal, rekey, lift, dropReturns, List.map_map]
  refine congrArg Document.mk (Eq.symm ?_)
  have whole : (Section.lift ∘ Section.dropReturns) = fun sect => sect.dropReturns.lift := rfl
  rw [whole, placed, List.map_map]
  exact List.map_congr_left fun placed _ => order placed.1 placed.2

/-- The comment blocks of a document, in order. -/
def blocks (document : Document) : List Text :=
  document.sections.flatMap fun sect =>
    sect.comment.toList ++ sect.entries.flatMap fun entry => entry.comment.toList

/-- The names of the sections of a document, each with its keys and their values, in order. -/
def outline (document : Document) : List (Option Text × List (Text × Option Text)) :=
  document.sections.flatMap fun sect =>
    [(sect.name, sect.entries.flatMap fun entry =>
      if entry.isStandalone then [] else [(entry.key, entry.value)])]

/-- The normal form has every comment block, without carriage returns. -/
theorem blocks_normal (padded : Bool) (document : Document) :
    (document.normal padded).blocks = document.blocks.map Comment.dropReturns := by
  have rekeyed : (document.rekey padded).blocks = document.blocks := by
    refine flatMap_rekey padded document _ fun sect above => ?_
    rw [Section.flatMap_rekey padded above sect _ fun entry line => by rw [Entry.comment_rekey]]
    rfl
  have lifted : ∀ document : Document, document.lift.blocks = document.blocks := by
    intro document
    rw [blocks, lift, List.flatMap_map]
    refine congrArg (List.flatMap · document.sections) (funext fun sect => ?_)
    unfold Section.lift
    split
    · split
      · rfl
      · rfl
    · rfl
  have dropped : ∀ document : Document,
      document.dropReturns.blocks = document.blocks.map Comment.dropReturns := by
    intro document
    rw [blocks, blocks, dropReturns, List.flatMap_map, List.map_flatMap]
    refine congrArg (List.flatMap · document.sections) (funext fun sect => ?_)
    simp only [Section.dropReturns, List.flatMap_map, List.map_append, List.map_flatMap,
      Entry.dropReturns, Option.toList_map]
  rw [normal, dropped, lifted, rekeyed]

/-- The normal form has every section, key and value, in order. -/
theorem outline_normal (padded : Bool) (document : Document) :
    (document.normal padded).outline = document.outline := by
  have rekeyed : (document.rekey padded).outline = document.outline := by
    refine flatMap_rekey padded document _ fun sect above => ?_
    rw [Section.flatMap_rekey padded above sect _ fun entry line => ?_]
    · rfl
    · rw [Entry.isStandalone_rekey, Entry.value_rekey]
      cases kind : entry.isStandalone with
      | true => rfl
      | false => rw [Entry.rekey_of_setting kind]
  have lifted : ∀ document : Document, document.lift.outline = document.outline := by
    intro document
    rw [outline, lift, List.flatMap_map]
    refine congrArg (List.flatMap · document.sections) (funext fun sect => ?_)
    unfold Section.lift
    split
    · split
      · rename_i standalone
        simp [standalone]
      · rfl
    · rfl
  have dropped : ∀ document : Document, document.dropReturns.outline = document.outline := by
    intro document
    rw [outline, dropReturns, List.flatMap_map]
    refine congrArg (List.flatMap · document.sections) (funext fun sect => ?_)
    simp only [Section.dropReturns, List.flatMap_map]
    rfl
  rw [normal, dropped, lifted, rekeyed]

/-- Whether no line of a comment ends in a carriage return. -/
def Unreturned (document : Document) : Prop :=
  ∀ block ∈ document.blocks, ∀ row ∈ block.splitOn '\n', row.getLast? ≠ some '\r'

/-- A document stays as it is exactly when no line of its comments ends in a carriage return. -/
theorem dropReturns_eq_self_iff {document : Document} :
    document.dropReturns = document ↔ document.Unreturned := by
  have ofComment : ∀ comment : Option Text, comment.map Comment.dropReturns = comment ↔
      ∀ block ∈ comment.toList, Comment.dropReturns block = block := by
    intro comment
    cases comment <;> simp
  have ofEntry : ∀ entry : Entry, entry.dropReturns = entry ↔
      ∀ block ∈ entry.comment.toList, Comment.dropReturns block = block := by
    intro entry
    rw [← ofComment, Entry.dropReturns]
    exact ⟨fun same => congrArg Entry.comment same, fun same => by rw [same]⟩
  have ofSection : ∀ sect : Section, sect.dropReturns = sect ↔
      (∀ block ∈ sect.comment.toList, Comment.dropReturns block = block) ∧
        ∀ entry ∈ sect.entries, entry.dropReturns = entry := by
    intro sect
    rw [← ofComment, ← map_eq_self_iff, Section.dropReturns]
    exact ⟨fun same => ⟨congrArg Section.comment same, congrArg Section.entries same⟩,
      fun same => by rw [same.1, same.2]⟩
  have ofSections : document.dropReturns = document ↔
      ∀ sect ∈ document.sections, sect.dropReturns = sect := by
    rw [← map_eq_self_iff, dropReturns]
    exact ⟨fun same => congrArg Document.sections same, fun same => by rw [same]⟩
  simp only [Unreturned, ← Comment.dropReturns_eq_self_iff, ofSections, ofSection, ofEntry,
    blocks, List.mem_flatMap, List.mem_append]
  constructor
  · rintro each block ⟨sect, member, here | ⟨entry, inside, there⟩⟩
    · exact (each sect member).1 block here
    · exact (each sect member).2 entry inside block there
  · intro each sect member
    exact ⟨fun block here => each block ⟨sect, member, .inl here⟩,
      fun entry inside block there => each block ⟨sect, member, .inr ⟨entry, inside, there⟩⟩⟩

/-- Other numbers change nothing in the text. -/
theorem render_rekey (padded again : Bool) (document : Document) :
    (document.rekey padded).render again = document.render again :=
  flatMap_rekey padded document (Layout.sectionText again) fun sect above =>
    Section.sectionText_rekey padded again above sect

/-- A document reads the same with a comment block at its top in either place. -/
theorem render_lift (padded : Bool) (document : Document) :
    document.lift.render padded = document.render padded := by
  simp only [render, lift, List.flatMap_map, Section.sectionText_lift]

/-- Without carriage returns to lose, the text of the normal form is that of the document. -/
theorem render_normal {document : Document} (padded again : Bool)
    (unreturned : document.Unreturned) :
    (document.normal padded).render again = document.render again := by
  rw [normal_eq, render_rekey, render_lift, dropReturns_eq_self_iff.mpr unreturned]

end Document

/-! ### Soundness -/

/-- A block begins with the same marker without carriage returns. -/
theorem Comment.marker_dropReturns {block : Text} (valid : isBlock block = true) :
    marker (dropReturns block) = marker block := by
  have lines := isBlock_iff.mp valid
  have joined := Text.joinLines_splitOn block
  rw [marker, marker, dropReturns]
  cases pieces : block.splitOn '\n' with
  | nil => exact absurd pieces (List.splitOn_ne_nil _ _)
  | cons row rest =>
    rw [pieces] at lines joined
    obtain ⟨⟨first, gap, more, -, -, rfl⟩, -⟩ :=
      Line.isComment_iff.mp (lines row List.mem_cons_self)
    have kept : ∃ tail, Text.dropReturn (first :: gap :: more) = first :: tail := by
      unfold Text.dropReturn
      split
      · exact ⟨(gap :: more).dropLast, rfl⟩
      · exact ⟨gap :: more, rfl⟩
    obtain ⟨tail, kept⟩ := kept
    rw [← joined, List.map_cons, kept]
    cases rest <;> simp [Text.joinLines]

namespace Entry

/-- A setting stays one without carriage returns in its comment. -/
theorem IsSetting.dropReturns {entry : Entry} (setting : entry.IsSetting) :
    entry.dropReturns.IsSetting := by
  refine ⟨setting.key, setting.value, ?_⟩
  have valid := setting.comment
  unfold Entry.dropReturns
  cases kind : entry.comment with
  | none => rfl
  | some block =>
    rw [kind] at valid
    exact Comment.isBlock_dropReturns valid

/-- A note stays one without carriage returns. -/
theorem IsNote.dropReturns {entry : Entry} (note : entry.IsNote) : entry.dropReturns.IsNote := by
  obtain ⟨block, line, valid, rfl⟩ := note
  refine ⟨Comment.dropReturns block, line, Comment.isBlock_dropReturns valid, ?_⟩
  have marker := Comment.marker_dropReturns valid
  simp only [standalone, Entry.dropReturns, marker, Option.map_some]

/-- Under the number of another line a note is the standalone comment of that line. -/
theorem IsNote.rekey {entry : Entry} (note : entry.IsNote) (line : Nat) :
    entry.rekey line = standalone (entry.comment.getD []) line := by
  have kind := note.isStandalone
  obtain ⟨block, old, valid, rfl⟩ := note
  rw [Entry.rekey, kind, if_pos rfl]
  rfl

end Entry

namespace Section

/-- A section stays sound without carriage returns. -/
theorem Sound.dropReturns {sect : Section} (sound : sect.Sound) : sect.dropReturns.Sound := by
  refine ⟨?_, ?_, ?_⟩
  · have valid := sound.comment
    unfold Section.dropReturns
    cases kind : sect.comment with
    | none => rfl
    | some block =>
      rw [kind] at valid
      exact Comment.isBlock_dropReturns valid
  · intro entry member
    obtain ⟨before, inside, rfl⟩ := List.mem_map.mp member
    exact (sound.entries before inside).imp Entry.IsSetting.dropReturns Entry.IsNote.dropReturns
  · have keys : sect.dropReturns.entries.map Entry.key = sect.entries.map Entry.key := by
      rw [Section.dropReturns, List.map_map]
      rfl
    rw [keys]
    exact sound.distinct

/-- A section stays sound when a comment block at its top becomes its comment. -/
theorem Sound.lift {sect : Section} (sound : sect.Sound) : sect.lift.Sound := by
  unfold Section.lift
  split
  · rename_i entry rest
    split
    · rename_i standalone
      have note : entry.IsNote := by
        rcases sound.entries entry List.mem_cons_self with setting | note
        · rw [setting.not_isStandalone] at standalone
          contradiction
        · exact note
      obtain ⟨block, line, valid, rfl⟩ := note
      exact ⟨valid, fun other member => sound.entries other (List.mem_cons_of_mem _ member),
        (List.nodup_cons.mp sound.distinct).2⟩
    · exact sound
  · exact sound

/-- Lifting a comment leaves the name. -/
theorem name_lift (sect : Section) : sect.lift.name = sect.name := by
  unfold lift
  split
  · split <;> rfl
  · rfl

end Section

namespace Document

/-- A document stays sound when its sections do and keep their names. -/
theorem Sound.map {document : Document} (sound : document.Sound) {change : Section → Section}
    (named : ∀ sect, (change sect).name = sect.name)
    (kept : ∀ sect : Section, sect.Sound → (change sect).Sound) :
    Document.Sound ⟨document.sections.map change⟩ := by
  have names : (⟨document.sections.map change⟩ : Document).sectionNames =
      document.sectionNames := by
    rw [sectionNames, List.map_map]
    exact List.map_congr_left fun sect _ => named sect
  refine ⟨names ▸ sound.first, names ▸ sound.named, names ▸ sound.distinct, ?_⟩
  intro sect member
  obtain ⟨before, inside, rfl⟩ := List.mem_map.mp member
  exact kept before (sound.sections before inside)

/-- A document stays sound without carriage returns. -/
theorem Sound.dropReturns {document : Document} (sound : document.Sound) :
    document.dropReturns.Sound :=
  sound.map (fun _ => rfl) fun _ whole => whole.dropReturns

/-- A document stays sound when a comment block at its top becomes a comment. -/
theorem Sound.lift {document : Document} (sound : document.Sound) : document.lift.Sound :=
  sound.map Section.name_lift fun _ whole => whole.lift

end Document

end IniKeeper
