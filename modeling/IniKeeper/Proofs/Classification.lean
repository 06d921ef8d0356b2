import IniKeeper.Proofs.LineShapes
import IniKeeper.Proofs.Patterns

/-!
# Lines by one pattern

The grammar of a line can be written as one pattern of four alternatives: a header, a comment, a
setting, and any other line without a line feed. The kind that a line is given by looking at its
characters is the one that the first match of this pattern gives it, line feeds and all. Said
without the order of trying, a line is of the first kind whose shape it has, and it has each shape
in one way only, so that its name, key and value are determined by its text.
-/

namespace IniKeeper

namespace Line

open Text (AllBlank)

/-! ### Cuts -/

/-- A text does not hold a character if each of its characters is another. -/
theorem forall_bne_iff {text : Text} {mark : Char} :
    (∀ c ∈ text, (c != mark) = true) ↔ mark ∉ text := by
  simp only [bne_iff_ne, ne_eq]
  constructor
  · intro other member
    exact other mark member rfl
  · rintro absent c member rfl
    exact absent member

/-- A text is cut in one way only at the first character that is not of a class. -/
theorem cut_unique {allowed : Char → Bool} {front back other rest : Text} {c d : Char}
    (members : ∀ x ∈ front, allowed x = true) (others : ∀ x ∈ other, allowed x = true)
    (stop : allowed c = false) (halt : allowed d = false)
    (same : front ++ c :: back = other ++ d :: rest) : front = other ∧ back = rest := by
  have taken (most last : Text) (e : Char) (all : ∀ x ∈ most, allowed x = true)
      (ends : allowed e = false) : (most ++ e :: last).takeWhile allowed = most := by
    rw [List.takeWhile_append_of_pos all, List.takeWhile_cons_of_neg (by simp [ends]),
      List.append_nil]
  have fronts : front = other := by
    have first := taken front back c members stop
    rw [same, taken other rest d others halt] at first
    exact first.symm
  rw [fronts] at same
  have backs : c :: back = d :: rest := List.append_cancel_left same
  exact ⟨fronts, List.tail_eq_of_cons_eq backs⟩

/-- A header, cut into the white space before it, its name, and the white space behind it. -/
structure HeaderCut (text front name back : Text) : Prop where
  /-- There is only white space before the brackets. -/
  before : AllBlank front
  /-- There is only white space behind them. -/
  behind : AllBlank back
  /-- The name holds no closing bracket. -/
  closed : ']' ∉ name
  /-- The pieces make up the text. -/
  whole : text = front ++ '[' :: (name ++ ']' :: back)

/-- A line of header shape is one that can be cut as a header. -/
theorem headerShape_iff_exists_cut {text name : Text} :
    HeaderShape text name ↔ ∃ front back, HeaderCut text front name back := by
  constructor
  · rintro ⟨front, back, before, behind, closed, rfl⟩
    exact ⟨front, back, before, behind, closed, by simp⟩
  · rintro ⟨front, back, before, behind, closed, rfl⟩
    exact ⟨front, back, before, behind, closed, by simp⟩

/-- A header can be cut in one way only. -/
theorem HeaderCut.unique {text front name back first other last : Text}
    (cut : HeaderCut text front name back) (again : HeaderCut text first other last) :
    front = first ∧ name = other ∧ back = last := by
  have opening : Text.isBlank '[' = false := by decide
  have closing : (']' != ']') = false := by decide
  have same := cut.whole.symm.trans again.whole
  obtain ⟨fronts, inside⟩ := cut_unique cut.before again.before opening opening same
  have unclosed : ∀ c ∈ name, (c != ']') = true := forall_bne_iff.mpr cut.closed
  have otherUnclosed : ∀ c ∈ other, (c != ']') = true := forall_bne_iff.mpr again.closed
  obtain ⟨names, backs⟩ := cut_unique unclosed otherUnclosed closing closing inside
  exact ⟨fronts, names, backs⟩

/-- A header has one name only. -/
theorem HeaderShape.unique {text name other : Text} (shape : HeaderShape text name)
    (again : HeaderShape text other) : name = other := by
  obtain ⟨front, back, cut⟩ := headerShape_iff_exists_cut.mp shape
  obtain ⟨first, last, same⟩ := headerShape_iff_exists_cut.mp again
  exact (cut.unique same).2.1

/-! ### The first kind that fits -/

/-- The first kind whose shape a text has, where it has none of those before. -/
inductive FirstFit (text : Text) : Line → Prop where
  /-- Only white space. -/
  | blank (blank : AllBlank text) : FirstFit text .blank
  /-- A header, with its name trimmed. -/
  | header {name : Text} (solid : ¬ AllBlank text) (shape : HeaderShape text name) :
      FirstFit text (.header (Text.trim name))
  /-- A comment on one line, kept as it is. -/
  | comment (solid : ¬ AllBlank text) (plain : ∀ name, ¬ HeaderShape text name)
      (shape : CommentShape text) (clean : '\n' ∉ text) : FirstFit text (.comment text)
  /-- A setting with a key and with a value on one line, both kept as they are. -/
  | setting {key value : Text} (solid : ¬ AllBlank text) (plain : ∀ name, ¬ HeaderShape text name)
      (unremarked : ¬ (CommentShape text ∧ '\n' ∉ text)) (shape : SettingShape text key value)
      (keyed : key ≠ []) (clean : '\n' ∉ value) : FirstFit text (.setting key value)
  /-- Anything else, kept as it is. -/
  | unrecognized (solid : ¬ AllBlank text) (plain : ∀ name, ¬ HeaderShape text name)
      (unremarked : ¬ (CommentShape text ∧ '\n' ∉ text))
      (unset : ∀ key value, SettingShape text key value → key ≠ [] → '\n' ∈ value) :
      FirstFit text (.unrecognized text)

/-- A line is of the first kind that fits it. -/
theorem firstFit_classify (text : Text) : FirstFit text (classify text) := by
  have shape := classify_shape text
  by_cases blank : AllBlank text
  · rw [classify_of_allBlank blank]
    exact .blank blank
  cases kind : classify text with
  | blank =>
    rw [kind] at shape
    exact absurd shape blank
  | header name =>
    rw [kind] at shape
    obtain ⟨inner, header, rfl⟩ := shape
    exact .header blank header
  | comment whole =>
    rw [kind] at shape
    obtain ⟨comment, rfl⟩ := shape
    have plain := headerName?_eq_none_iff.mp (headerName?_of_isComment comment).2
    obtain ⟨remark, clean⟩ := isComment_iff.mp comment
    exact .comment blank plain remark clean
  | setting key value =>
    rw [kind] at shape
    obtain ⟨setting, plain, filled, clean⟩ := shape
    have remark : isComment text = false :=
      isComment_eq_false fun whole same => by rw [kind] at same; contradiction
    have unremarked : ¬ (CommentShape text ∧ '\n' ∉ text) := by
      rw [← isComment_iff, remark]
      exact Bool.false_ne_true
    exact .setting blank plain unremarked setting filled clean
  | unrecognized whole =>
    rw [kind] at shape
    obtain ⟨rfl, -, plain, remark, unset⟩ := shape
    have unremarked : ¬ (CommentShape whole ∧ '\n' ∉ whole) := by
      rw [← isComment_iff, remark]
      exact Bool.false_ne_true
    refine .unrecognized blank plain unremarked fun key value setting filled => ?_
    by_cases feed : '\n' ∈ value
    · exact feed
    · have found : settingParts? whole = some (key, value) :=
        settingParts?_eq_some_iff.mpr ⟨setting, filled, feed⟩
      rw [unset] at found
      contradiction

/-! ### The pattern -/

/-- The names under which the pattern of a line keeps parts of it. -/
inductive Part where
  /-- The name in a header. -/
  | name
  /-- A whole comment line. -/
  | remark
  /-- The key of a setting. -/
  | key
  /-- The value of a setting. -/
  | value
  /-- A whole line of no other kind. -/
  | other
  deriving Repr, DecidableEq

section Pattern

open Pattern (one many chain either keep several)

/-- A name in brackets between white space. -/
def headerPattern : Pattern Part :=
  chain (many Text.isBlank)
    (chain (one (· == '['))
      (chain (keep .name (many (· != ']')))
        (chain (one (· == ']')) (many Text.isBlank))))

/-- A marker, a space or tab, and what follows on the line. -/
def commentPattern : Pattern Part :=
  keep .remark
    (chain (one isMarker) (chain (one fun c => c == ' ' || c == '\t') (many (· != '\n'))))

/-- A key, an equals sign, and what follows on the line. -/
def settingPattern : Pattern Part :=
  chain (keep .key (several isKeyChar)) (chain (one (· == '=')) (keep .value (many (· != '\n'))))

/-- Anything on one line. -/
def otherPattern : Pattern Part := keep .other (several (· != '\n'))

/-- A line: a header, or else a comment, or else a setting, or else anything. -/
def linePattern : Pattern Part :=
  either headerPattern (either commentPattern (either settingPattern otherPattern))

end Pattern

/-- The kind of a line by the parts of it that were kept. -/
def ofParts (text : Text) (parts : List (Part × Text)) : Line :=
  match parts.lookup .name, parts.lookup .remark, parts.lookup .key, parts.lookup .value with
  | some name, _, _, _ => header (Text.trim name)
  | none, some whole, _, _ => comment whole
  | none, none, some key, some value => setting key value
  | none, none, _, _ => unrecognized ((parts.lookup .other).getD text)

/-- The kind of a line by the first match of the pattern, unless it is blank. -/
def classifyByPattern (text : Text) : Line :=
  if text.all Text.isBlank then blank
  else
    match linePattern.match? text with
    | some parts => ofParts text parts
    | none => unrecognized text

/-! ### What the alternatives spell -/

section Spells

open Pattern

variable {text : Text} {parts : List (Part × Text)}

/-- The alternative for headers spells the headers and keeps their names. -/
theorem spells_headerPattern_iff :
    headerPattern.Spells text parts ↔
      ∃ name, HeaderShape text name ∧ parts = [(.name, name)] := by
  simp only [headerShape_iff_exists_cut]
  constructor
  · intro spells
    obtain ⟨front, _, before, opened, rfl⟩ := spells_many_chain_iff.mp spells
    obtain ⟨c, _, opening, named, rfl⟩ := spells_one_chain_iff.mp opened
    obtain ⟨name, _, _, _, inside, closed, rfl, rfl⟩ := spells_keep_chain_iff.mp named
    obtain ⟨d, back, closing, behind, rfl⟩ := spells_one_chain_iff.mp closed
    obtain ⟨unclosed, rfl⟩ := spells_many_iff.mp inside
    obtain ⟨after, rfl⟩ := spells_many_iff.mp behind
    obtain rfl : c = '[' := beq_iff_eq.mp opening
    obtain rfl : d = ']' := beq_iff_eq.mp closing
    exact ⟨name, ⟨front, back, before, after, forall_bne_iff.mp unclosed, rfl⟩, rfl⟩
  · rintro ⟨name, ⟨front, back, before, after, unclosed, rfl⟩, rfl⟩
    have behind : (chain (one (· == ']')) (many Text.isBlank)).Spells (']' :: back)
        ([] : List (Part × Text)) := spells_one_chain_iff.mpr ⟨']', back, rfl, .many after, rfl⟩
    have kept : (keep Part.name (many (· != ']'))).Spells name [(.name, name)] :=
      .keep (.many (forall_bne_iff.mpr unclosed))
    have named := Spells.chain kept behind
    exact spells_many_chain_iff.mpr
      ⟨front, _, before, spells_one_chain_iff.mpr ⟨'[', _, rfl, named, rfl⟩, rfl⟩

/-- The alternative for comments spells the comment lines and keeps them. -/
theorem spells_commentPattern_iff :
    commentPattern.Spells text parts ↔
      (CommentShape text ∧ '\n' ∉ text) ∧ parts = [(.remark, text)] := by
  constructor
  · intro spells
    obtain ⟨_, inside, rfl⟩ := spells_keep_iff.mp spells
    obtain ⟨marker, _, marks, spaced, rfl⟩ := spells_one_chain_iff.mp inside
    obtain ⟨gap, rest, gaps, line, rfl⟩ := spells_one_chain_iff.mp spaced
    obtain ⟨clean, rfl⟩ := spells_many_iff.mp line
    have feedless : '\n' ∉ rest := forall_bne_iff.mp clean
    have gapped : gap = ' ' ∨ gap = '\t' := by simpa using gaps
    have comment : isComment (marker :: gap :: rest) = true := by
      simp [isComment, marks, gapped, feedless]
    exact ⟨isComment_iff.mp comment, rfl⟩
  · rintro ⟨⟨⟨marker, gap, rest, first, second, rfl⟩, clean⟩, rfl⟩
    have feedless : '\n' ∉ rest := fun feed =>
      clean (List.mem_cons_of_mem marker (List.mem_cons_of_mem gap feed))
    have gaps : (gap == ' ' || gap == '\t') = true := by simpa using second
    have line : (many (· != '\n')).Spells rest ([] : List (Part × Text)) :=
      .many (forall_bne_iff.mpr feedless)
    exact .keep (spells_one_chain_iff.mpr ⟨marker, _, isMarker_iff.mpr first,
      spells_one_chain_iff.mpr ⟨gap, rest, gaps, line, rfl⟩, rfl⟩)

/-- The alternative for settings spells the lines of setting shape with a key and with a value on
one line, and keeps the two. -/
theorem spells_settingPattern_iff :
    settingPattern.Spells text parts ↔
      ∃ key value, (SettingShape text key value ∧ key ≠ [] ∧ '\n' ∉ value) ∧
        parts = [(.key, key), (.value, value)] := by
  have keyed (key : Text) : (∀ c ∈ key, isKeyChar c = true) ↔
      ∀ c ∈ key, c ≠ '#' ∧ c ≠ ';' ∧ c ≠ '=' := by
    simp only [isKeyChar_iff]
  constructor
  · intro spells
    obtain ⟨key, _, _, _, inside, signed, rfl, rfl⟩ := spells_keep_chain_iff.mp spells
    obtain ⟨filled, chars, rfl⟩ := spells_several_iff.mp inside
    obtain ⟨c, value, sign, kept, rfl⟩ := spells_one_chain_iff.mp signed
    obtain ⟨_, line, rfl⟩ := spells_keep_iff.mp kept
    obtain ⟨clean, rfl⟩ := spells_many_iff.mp line
    obtain rfl : c = '=' := beq_iff_eq.mp sign
    exact ⟨key, value, ⟨⟨(keyed key).mp chars, rfl⟩, filled, forall_bne_iff.mp clean⟩, rfl⟩
  · rintro ⟨key, value, ⟨⟨chars, rfl⟩, filled, clean⟩, rfl⟩
    have inside : (several isKeyChar).Spells key ([] : List (Part × Text)) :=
      spells_several_iff.mpr ⟨filled, (keyed key).mpr chars, rfl⟩
    have line : (many (· != '\n')).Spells value ([] : List (Part × Text)) :=
      .many (forall_bne_iff.mpr clean)
    exact .chain (.keep inside) (spells_one_chain_iff.mpr ⟨'=', value, rfl, .keep line, rfl⟩)

/-- The alternative for anything spells every line that is not empty. -/
theorem spells_otherPattern_iff :
    otherPattern.Spells text parts ↔
      (text ≠ [] ∧ '\n' ∉ text) ∧ parts = [(.other, text)] := by
  constructor
  · intro spells
    obtain ⟨_, inside, rfl⟩ := spells_keep_iff.mp spells
    obtain ⟨filled, clean, rfl⟩ := spells_several_iff.mp inside
    exact ⟨⟨filled, forall_bne_iff.mp clean⟩, rfl⟩
  · rintro ⟨⟨filled, clean⟩, rfl⟩
    exact .keep (spells_several_iff.mpr ⟨filled, forall_bne_iff.mpr clean, rfl⟩)

/-- Each alternative spells a text in one way at most. -/
theorem unambiguous_of_mem {pattern : Pattern Part}
    (member : pattern ∈ [headerPattern, commentPattern, settingPattern, otherPattern]) :
    pattern.Unambiguous := by
  intro text parts more spells again
  simp only [List.mem_cons, List.not_mem_nil, or_false] at member
  rcases member with rfl | rfl | rfl | rfl
  · obtain ⟨name, shape, rfl⟩ := spells_headerPattern_iff.mp spells
    obtain ⟨other, same, rfl⟩ := spells_headerPattern_iff.mp again
    rw [shape.unique same]
  · obtain ⟨-, rfl⟩ := spells_commentPattern_iff.mp spells
    obtain ⟨-, rfl⟩ := spells_commentPattern_iff.mp again
    rfl
  · obtain ⟨key, value, ⟨shape, -, -⟩, rfl⟩ := spells_settingPattern_iff.mp spells
    obtain ⟨other, rest, ⟨same, -, -⟩, rfl⟩ := spells_settingPattern_iff.mp again
    obtain ⟨keys, values⟩ := shape.unique same
    rw [keys, values]
  · obtain ⟨-, rfl⟩ := spells_otherPattern_iff.mp spells
    obtain ⟨-, rfl⟩ := spells_otherPattern_iff.mp again
    rfl

end Spells

/-! ### The match gives the first kind that fits -/

section Match

open Pattern

variable {text : Text}

/-- A line without header shape is not matched as a header. -/
theorem match?_headerPattern_eq_none (plain : ∀ name, ¬ HeaderShape text name) :
    headerPattern.match? text = none := by
  refine match?_eq_none_iff.mpr fun parts spells => ?_
  obtain ⟨name, shape, -⟩ := spells_headerPattern_iff.mp spells
  exact plain name shape

/-- A line that is no comment is not matched as a comment. -/
theorem match?_commentPattern_eq_none (unremarked : ¬ (CommentShape text ∧ '\n' ∉ text)) :
    commentPattern.match? text = none := by
  refine match?_eq_none_iff.mpr fun parts spells => ?_
  obtain ⟨comment, -⟩ := spells_commentPattern_iff.mp spells
  exact unremarked comment

/-- A line that is no setting is not matched as a setting. -/
theorem match?_settingPattern_eq_none
    (unset : ∀ key value, SettingShape text key value → key ≠ [] → '\n' ∈ value) :
    settingPattern.match? text = none := by
  refine match?_eq_none_iff.mpr fun parts spells => ?_
  obtain ⟨key, value, ⟨shape, keyed, clean⟩, -⟩ := spells_settingPattern_iff.mp spells
  exact clean (unset key value shape keyed)

/-- The match of the whole pattern, by the alternatives in their order. -/
theorem match?_linePattern (text : Text) :
    linePattern.match? text =
      (headerPattern.match? text).or ((commentPattern.match? text).or
        ((settingPattern.match? text).or (otherPattern.match? text))) := by
  rw [linePattern, match?_either, match?_either, match?_either]

/-- The first kind that fits a line is the one that the match gives it. -/
theorem FirstFit.classifyByPattern_eq {line : Line} (fits : FirstFit text line) :
    classifyByPattern text = line := by
  have matched {pattern : Pattern Part} {parts : List (Part × Text)}
      (member : pattern ∈ [headerPattern, commentPattern, settingPattern, otherPattern])
      (spells : pattern.Spells text parts) : pattern.match? text = some parts :=
    (unambiguous_of_mem member).match?_eq_some_iff.mpr spells
  have unblank (solid : ¬ AllBlank text) : ¬ text.all Text.isBlank = true :=
    mt Text.all_isBlank_iff.mp solid
  unfold classifyByPattern
  rw [match?_linePattern]
  cases fits with
  | blank blank => rw [if_pos (Text.all_isBlank_iff.mpr blank)]
  | @header name solid shape =>
    have spells := spells_headerPattern_iff.mpr ⟨name, shape, rfl⟩
    rw [if_neg (unblank solid), matched (by simp) spells]
    rfl
  | comment solid plain shape clean =>
    have spells := spells_commentPattern_iff.mpr ⟨⟨shape, clean⟩, rfl⟩
    rw [if_neg (unblank solid), match?_headerPattern_eq_none plain, matched (by simp) spells]
    rfl
  | @setting key value solid plain unremarked shape keyed clean =>
    have spells := spells_settingPattern_iff.mpr ⟨key, value, ⟨shape, keyed, clean⟩, rfl⟩
    rw [if_neg (unblank solid), match?_headerPattern_eq_none plain,
      match?_commentPattern_eq_none unremarked, matched (by simp) spells]
    rfl
  | unrecognized solid plain unremarked unset =>
    rw [if_neg (unblank solid), match?_headerPattern_eq_none plain,
      match?_commentPattern_eq_none unremarked, match?_settingPattern_eq_none unset]
    -- The last alternative keeps the whole line, and does not match a line with a feed.
    cases found : otherPattern.match? text with
    | none => rfl
    | some parts =>
      obtain ⟨-, rfl⟩ := spells_otherPattern_iff.mp (spells_of_match? found)
      rfl

end Match

/-- A line is given the kind that the first match of the pattern gives it, and this is the first
kind that fits it. Each alternative of the pattern spells the line in one way at most, and a header
or a setting is cut in one way only, so the name, the key and the value are determined by the text.
-/
theorem classify_first_match (text : Text) :
    classify text = classifyByPattern text ∧
      (∀ line, classify text = line ↔ FirstFit text line) ∧
      (∀ pattern ∈ [headerPattern, commentPattern, settingPattern, otherPattern],
        ∀ parts more, pattern.Spells text parts → pattern.Spells text more → parts = more) ∧
      (∀ front name back first other last, HeaderCut text front name back →
        HeaderCut text first other last → front = first ∧ name = other ∧ back = last) ∧
      ∀ key value first last, SettingShape text key value → SettingShape text first last →
        key = first ∧ value = last := by
  have fits : FirstFit text (classify text) := firstFit_classify text
  have same : classify text = classifyByPattern text := fits.classifyByPattern_eq.symm
  refine ⟨same, fun line => ⟨?_, fun other => ?_⟩, ?_, ?_, ?_⟩
  · rintro rfl
    exact fits
  · rw [same]
    exact other.classifyByPattern_eq
  · intro pattern member parts more spells again
    exact unambiguous_of_mem member text parts more spells again
  · intro front name back first other last cut again
    exact cut.unique again
  · intro key value first last shape again
    exact shape.unique again

/-- A header may hold an equals sign and a line feed; the line is a header, although it has setting
shape as well, and it can be read in one way as the one and in one way as the other. -/
theorem classify_first_match_header :
    let text := " [a\n=b] ".toList
    classify text = .header "a\n=b".toList ∧ FirstFit text (.header "a\n=b".toList) ∧
      HeaderCut text " ".toList "a\n=b".toList " ".toList ∧
      SettingShape text " [a\n".toList "b] ".toList ∧
      (∀ front name back, HeaderCut text front name back →
        front = " ".toList ∧ name = "a\n=b".toList ∧ back = " ".toList) ∧
      ∀ key value, SettingShape text key value →
        key = " [a\n".toList ∧ value = "b] ".toList := by
  intro text
  obtain ⟨-, first, -, cuts, shapes⟩ := classify_first_match text
  have kind : classify text = .header "a\n=b".toList := by decide +kernel
  have blank : AllBlank " ".toList := Text.all_isBlank_iff.mp (by decide)
  have cut : HeaderCut text " ".toList "a\n=b".toList " ".toList :=
    ⟨blank, blank, by decide +kernel, rfl⟩
  have setting : settingParts? text = some (" [a\n".toList, "b] ".toList) := by decide +kernel
  have shape : SettingShape text " [a\n".toList "b] ".toList :=
    (settingParts?_eq_some_iff.mp setting).1
  refine ⟨kind, (first _).mp kind, cut, shape, ?_, ?_⟩
  · intro front name back again
    exact cuts front name back _ _ _ again cut
  · intro key value again
    exact shapes key value _ _ again shape

end Line

end IniKeeper
