import IniKeeper.Proofs.Occurrences
import IniKeeper.Proofs.ParseOutcome

/-!
# Warnings of a text

There is a warning at a line when a line above it defines the same already: a header of the same
name, or a setting of the same key where the same section was open. Warnings stand in line order, at
most one at a line. So what lines define first, and the warnings, add up to all that they define,
and there is nothing to warn of exactly where nothing is defined twice.
-/

namespace IniKeeper

open Occurrences (firsts)

/-! ### Lines that define something -/

namespace Line

/-- The trimmed key in a setting line. -/
def key? (raw : Text) : Option Text :=
  match classify raw with
  | .setting key _ => some (Text.trim key)
  | _ => none

end Line

namespace Finding

/-- Whether a header comes up again. -/
def isHeader : Finding → Bool
  | sectionAgain _ => true
  | keyAgain _ _ => false

/-- Whether a setting comes up again. -/
def isSetting : Finding → Bool
  | sectionAgain _ => false
  | keyAgain _ _ => true

end Finding

namespace Rows

variable {above rows : List Text} {raw : Text}

/-- Whether a line defines what a line above it defines already. -/
inductive Repeats (above : List Text) (raw : Text) : Finding → Prop where
  /-- A header with the name of a header above. -/
  | header (name : Text) (named : Line.header? raw = some name)
      (again : ∃ earlier ∈ above, Line.header? earlier = some name) :
      Repeats above raw (.sectionAgain name)
  /-- A setting with the key of a setting above, where the same section was open. -/
  | setting (key : Text) (keyed : Line.key? raw = some key)
      (again : ∃ front earlier between, above = front ++ earlier :: between ∧
        Line.key? earlier = some key ∧ openSection front = openSection above) :
      Repeats above raw (.keyAgain (openSection above) key)

/-- The section and the key that a line sets. -/
def address? (above : List Text) (raw : Text) : Option (Option Text × Text) :=
  (Line.key? raw).map fun key => (openSection above, key)

/-- What a line sets is set by what it states. -/
theorem address?_statement? (above : List Text) (raw : Text) :
    (statement? above raw).bind Statement.address? = address? above raw := by
  unfold statement? address? Line.key?
  cases Line.classify raw with
  | blank => cases block? above <;> rfl
  | header name => rfl
  | comment text => rfl
  | setting key value => rfl
  | unrecognized text => rfl

/-- A setting line adds its key in the open section. -/
theorem settings_concat_address? (rows : List Text) (raw : Text) :
    settings (rows ++ [raw]) = settings rows ++ (address? rows raw).toList := by
  rw [settings_concat, ← address?_statement?]
  cases states : statement? rows raw with
  | none => rfl
  | some said => cases gives : said.address? <;> simp [gives]

/-- The settings of some lines are those that each line sets. -/
theorem settings_eq (rows : List Text) : settings rows = along address? [] rows := by
  induction rows using List.reverseRecOn with
  | nil => rfl
  | append_singleton rows raw ih =>
    rw [settings_concat_address?, along_concat, ih, List.nil_append]

/-- A key was set in a section when a line with the key stands where that section is open. -/
theorem mem_settings {home : Option Text} {key : Text} :
    (home, key) ∈ settings rows ↔
      ∃ front raw below, rows = front ++ raw :: below ∧ Line.key? raw = some key ∧
        openSection front = home := by
  rw [settings_eq, mem_along]
  simp only [List.nil_append, address?, Option.map_eq_some_iff, Prod.mk.injEq]
  constructor
  · rintro ⟨front, raw, below, split, found, keyed, opened, rfl⟩
    exact ⟨front, raw, below, split, keyed, opened⟩
  · rintro ⟨front, raw, below, split, keyed, opened⟩
    exact ⟨front, raw, below, split, key, keyed, opened, rfl⟩

/-- There is a warning at a line exactly when it repeats something, with its number and its text. -/
theorem warning?_eq_some_iff {warning : Warning} :
    warning? above raw = some warning ↔
      Repeats above raw warning.finding ∧ warning.line = above.length + 1 ∧ warning.raw = raw := by
  obtain ⟨line, finding, text⟩ := warning
  unfold warning?
  cases kind : Line.classify raw with
  | header name =>
    have named : Line.header? raw = some name := Line.header?_eq_some_iff.mpr kind
    have unkeyed : Line.key? raw = none := by simp [Line.key?, kind]
    simp only [Option.ite_none_right_eq_some, Option.some.injEq, Warning.mk.injEq, headers,
      List.mem_filterMap]
    constructor
    · rintro ⟨again, rfl, rfl, rfl⟩
      exact ⟨.header name named again, rfl, rfl⟩
    · rintro ⟨repeats, rfl, rfl⟩
      cases repeats with
      | header found same again =>
        obtain rfl := Option.some.inj (named.symm.trans same)
        exact ⟨again, rfl, rfl, rfl⟩
      | setting key keyed again => simp [unkeyed] at keyed
  | setting keyText value =>
    have unnamed : Line.header? raw = none := by simp [Line.header?, kind]
    have keyed : Line.key? raw = some (Text.trim keyText) := by simp [Line.key?, kind]
    simp only [Option.ite_none_right_eq_some, Option.some.injEq, Warning.mk.injEq, mem_settings]
    constructor
    · rintro ⟨again, rfl, rfl, rfl⟩
      exact ⟨.setting _ keyed again, rfl, rfl⟩
    · rintro ⟨repeats, rfl, rfl⟩
      cases repeats with
      | header name named again => simp [unnamed] at named
      | setting key same again =>
        obtain rfl := Option.some.inj (keyed.symm.trans same)
        exact ⟨again, rfl, rfl, rfl⟩
  | blank | comment _ | unrecognized _ =>
    simp only [reduceCtorEq, false_iff]
    rintro ⟨repeats, -, -⟩
    cases repeats with
    | header name named again => simp [Line.header?, kind] at named
    | setting key keyed again => simp [Line.key?, kind] at keyed

/-- Warnings stand in line order, at lines of the text. -/
theorem pairwise_warnings (rows : List Text) :
    ((along warning? [] rows).Pairwise fun one other => one.line < other.line) ∧
      ∀ warning ∈ along warning? [] rows, warning.line ≤ rows.length := by
  induction rows using List.reverseRecOn with
  | nil => exact ⟨List.Pairwise.nil, fun warning member => absurd member List.not_mem_nil⟩
  | append_singleton rows raw ih =>
    obtain ⟨ordered, bounded⟩ := ih
    have here : ∀ warning ∈ (warning? rows raw).toList, warning.line = rows.length + 1 :=
      fun warning member => (warning?_eq_some_iff.mp (Option.mem_toList.mp member)).2.1
    rw [warnings_concat, List.length_append, List.length_singleton]
    refine ⟨List.pairwise_append.mpr ⟨ordered, ?_, ?_⟩, ?_⟩
    · cases warning? rows raw with
      | none => exact List.Pairwise.nil
      | some warning => exact List.pairwise_singleton _ _
    · intro earlier member warning last
      have first := bounded earlier member
      have second := here warning last
      omega
    · intro warning member
      rcases List.mem_append.mp member with earlier | last
      · exact Nat.le_succ_of_le (bounded warning earlier)
      · exact Nat.le_of_eq (here warning last)

/-! ### First definitions and warnings -/

/-- There are as many headers as header lines. -/
theorem length_headers (rows : List Text) :
    (headers rows).length = rows.countP fun raw => (Line.header? raw).isSome := by
  rw [headers, List.length_filterMap_eq_countP]

/-- There are as many settings as setting lines. -/
theorem length_settings (rows : List Text) :
    (settings rows).length = rows.countP fun raw => (Line.key? raw).isSome := by
  induction rows using List.reverseRecOn with
  | nil => rfl
  | append_singleton rows raw ih =>
    rw [settings_concat_address?, List.length_append, ih, List.countP_append]
    cases keyed : Line.key? raw <;> simp [address?, keyed]

/-- First definitions of a kind and warnings of that kind add up to all definitions, if each line
that defines something again has one. -/
theorem length_eraseDups_add_countP {β : Type} [DecidableEq β] {items : List Text → List β}
    {give : List Text → Text → Option β} {kind : Warning → Bool} (none : items [] = [])
    (concat : ∀ rows raw, items (rows ++ [raw]) = items rows ++ (give rows raw).toList)
    (again : ∀ rows raw, (warning? rows raw).toList.countP kind =
      (give rows raw).toList.countP (· ∈ items rows)) (rows : List Text) :
    (items rows).eraseDups.length + (along warning? [] rows).countP kind = (items rows).length := by
  induction rows using List.reverseRecOn with
  | nil =>
    rw [none]
    rfl
  | append_singleton rows raw ih =>
    rw [concat, warnings_concat, List.countP_append, List.length_append, again]
    cases give rows raw with
    | none => simpa using ih
    | some item =>
      rw [Option.toList_some, Roster.eraseDups_concat]
      -- An item that is there already adds a warning, and a new one adds a first definition.
      by_cases present : item ∈ items rows
      · rw [Roster.enroll_of_mem (List.mem_eraseDups.mpr present)]
        simp only [List.countP_singleton, present, decide_true, if_true, List.length_singleton]
        omega
      · rw [Roster.enroll_of_not_mem fun member => present (List.mem_eraseDups.mp member)]
        simp only [List.countP_singleton, present, decide_false, Bool.false_eq_true, if_false,
          List.length_append, List.length_singleton]
        omega

/-- Header lines that come up first, and warnings of headers, are all header lines. -/
theorem headers_add_warnings (rows : List Text) :
    (firsts Line.header? rows).length +
        (along warning? [] rows).countP (fun warning => warning.finding.isHeader) =
      (headers rows).length := by
  refine length_eraseDups_add_countP rfl headers_concat (fun rows raw => ?_) rows
  unfold warning? Line.header?
  cases Line.classify raw with
  | header name => by_cases again : name ∈ headers rows <;> simp [again, Finding.isHeader]
  | setting key value => dsimp only; split <;> rfl
  | blank => rfl
  | comment text => rfl
  | unrecognized text => rfl

/-- Setting lines that come up first, and warnings of settings, are all setting lines. -/
theorem settings_add_warnings (rows : List Text) :
    (firsts Statement.address? (statements rows)).length +
        (along warning? [] rows).countP (fun warning => warning.finding.isSetting) =
      (settings rows).length := by
  refine length_eraseDups_add_countP rfl settings_concat_address? (fun rows raw => ?_) rows
  unfold warning? address? Line.key?
  cases Line.classify raw with
  | header name => dsimp only; split <;> rfl
  | setting key value =>
    by_cases again : (openSection rows, Text.trim key) ∈ settings rows <;>
      simp [again, Finding.isSetting]
  | blank => rfl
  | comment text => rfl
  | unrecognized text => rfl

/-! ### Nothing is defined twice -/

/-- There is no warning at a line that defines nothing again. -/
theorem warning?_eq_none_iff :
    warning? above raw = none ↔
      (∀ name ∈ Line.header? raw, name ∉ headers above) ∧
        ∀ address ∈ address? above raw, address ∉ settings above := by
  unfold warning? address? Line.header? Line.key?
  cases Line.classify raw <;> simp

/-- Distinct items stay distinct with one more that is not among them. -/
theorem nodup_append_toList_iff {β : Type} {items : List β} {more : Option β} :
    (items ++ more.toList).Nodup ↔ items.Nodup ∧ ∀ item ∈ more, item ∉ items := by
  cases more with
  | none => simp
  | some item =>
    rw [Option.toList_some, ← List.concat_eq_append, List.nodup_concat]
    simp [and_comm]

/-- Where there is nothing to warn of, no header and no setting comes up twice. -/
theorem nodup_of_warnings (quiet : along warning? [] rows = []) :
    (headers rows).Nodup ∧ (settings rows).Nodup := by
  induction rows using List.reverseRecOn with
  | nil => exact ⟨List.nodup_nil, List.nodup_nil⟩
  | append_singleton rows raw ih =>
    rw [warnings_concat, List.append_eq_nil_iff, Option.toList_eq_nil_iff, warning?_eq_none_iff]
      at quiet
    obtain ⟨above, newHeader, newSetting⟩ := quiet
    obtain ⟨distinctHeaders, distinctSettings⟩ := ih above
    rw [headers_concat, settings_concat_address?, nodup_append_toList_iff, nodup_append_toList_iff]
    exact ⟨⟨distinctHeaders, newHeader⟩, distinctSettings, newSetting⟩

/-- Where no header and no setting comes up twice, there is nothing to warn of. -/
theorem warnings_eq_nil (distinctHeaders : (headers rows).Nodup)
    (distinctSettings : (settings rows).Nodup) : along warning? [] rows = [] := by
  induction rows using List.reverseRecOn with
  | nil => rfl
  | append_singleton rows raw ih =>
    rw [headers_concat, nodup_append_toList_iff] at distinctHeaders
    rw [settings_concat_address?, nodup_append_toList_iff] at distinctSettings
    have silent := warning?_eq_none_iff.mpr ⟨distinctHeaders.2, distinctSettings.2⟩
    rw [warnings_concat, ih distinctHeaders.1 distinctSettings.1, silent]
    rfl

end Rows

end IniKeeper
