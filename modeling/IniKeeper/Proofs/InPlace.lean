import IniKeeper.Proofs.Histories
import IniKeeper.Proofs.Jobs
import IniKeeper.Proofs.StatementEffects

/-!
# Writes made in place

A write can be made in place: its section is looked up and added where it is missing, then its
entry, and then the parts of the entry are changed one by one. What such a write has changed when it
fails stays changed, so it depends on the order of checks and changes whether a failure leaves
anything behind. This module spells the setters of a document out in that order, and proves that
each does to a sound document what the setter does that gives a new document instead: where that one
is refused, nothing was changed in place.
-/

namespace IniKeeper

/-! ### Places in a list -/

namespace Roster

universe u v

variable {α : Type u} {κ : Type v} [DecidableEq κ]

/-- The first place of a name in a list. -/
def place? (nameOf : α → κ) (name : κ) (items : List α) : Option Nat :=
  items.findIdx? fun a => nameOf a = name

/-- A place for a name, and the list with a fresh element at its end where the name has none. -/
def seat (nameOf : α → κ) (name : κ) (fresh : α) (items : List α) : Nat × List α :=
  match place? nameOf name items with
  | some place => (place, items)
  | none => (items.length, items ++ [fresh])

/-- A name has a place exactly when an element has the name. -/
theorem isSome_place?_iff (nameOf : α → κ) (name : κ) (items : List α) :
    (place? nameOf name items).isSome = true ↔ name ∈ items.map nameOf := by
  simp [place?, List.findIdx?_isSome, List.any_eq_true]

/-- A name that no element has is seated at the end, any other at its first element. -/
theorem seat_cases (nameOf : α → κ) (name : κ) (fresh : α) (items : List α) :
    (seat nameOf name fresh items = (items.length, items ++ [fresh]) ∧
        ∀ a ∈ items, nameOf a ≠ name) ∨
      ∃ front a rest, items = front ++ a :: rest ∧
        seat nameOf name fresh items = (front.length, items) ∧ (∀ b ∈ front, nameOf b ≠ name) ∧
        nameOf a = name := by
  rcases forall_ne_or_exists_first nameOf name items with
    others | ⟨front, a, rest, rfl, others, named⟩
  · have nowhere : place? nameOf name items = none :=
      List.findIdx?_eq_none_iff.mpr fun a member => decide_eq_false (others a member)
    exact .inl ⟨by rw [seat, nowhere], others⟩
  · have nowhere : front.findIdx? (fun b => decide (nameOf b = name)) = none :=
      List.findIdx?_eq_none_iff.mpr fun b member => decide_eq_false (others b member)
    have here : place? nameOf name (front ++ a :: rest) = some front.length := by
      simp [place?, List.findIdx?_append, nowhere, List.findIdx?_cons, named]
    exact .inr ⟨front, a, rest, rfl, by rw [seat, here], others, named⟩

/-- A change at the place behind the elements in front changes the one that stands there. -/
theorem modify_append_cons (front : List α) (a : α) (rest : List α) (change : α → α) :
    (front ++ a :: rest).modify front.length change = front ++ change a :: rest := by
  induction front with
  | nil => rfl
  | cons b front ih => exact congrArg (b :: ·) ih

/-- A change where a name is seated changes the first element of the name or adds one. -/
theorem modify_seat (nameOf : α → κ) (name : κ) (fresh : α) (change : α → α) (items : List α) :
    (seat nameOf name fresh items).2.modify (seat nameOf name fresh items).1 change =
      upsert nameOf name fresh change items := by
  rcases seat_cases nameOf name fresh items with
    ⟨seated, others⟩ | ⟨front, a, rest, rfl, seated, others, named⟩
  · rw [seated, upsert_of_forall_ne nameOf name fresh change items others]
    exact modify_append_cons items fresh [] change
  · rw [seated, upsert_append_cons nameOf name fresh change front a rest others named]
    exact modify_append_cons front a rest change

/-- What stands where a name is seated: the first element of the name, or the fresh one. -/
theorem getElem?_seat (nameOf : α → κ) (name : κ) (fresh : α) (items : List α) :
    (seat nameOf name fresh items).2[(seat nameOf name fresh items).1]? =
      some ((get? nameOf name items).getD fresh) := by
  rcases seat_cases nameOf name fresh items with
    ⟨seated, others⟩ | ⟨front, a, rest, rfl, seated, others, named⟩
  · have missing : get? nameOf name items = none :=
      List.find?_eq_none.mpr fun a member => by simpa using others a member
    rw [seated, missing]
    simp
  · have found : get? nameOf name (front ++ a :: rest) = some a := by
      have passed : front.find? (fun b => decide (nameOf b = name)) = none :=
        List.find?_eq_none.mpr fun b member => by simpa using others b member
      simp [get?, List.find?_append, passed, named]
    rw [seated, found]
    simp

omit [DecidableEq κ] in
/-- Changes that agree on the element at a place are the same change there. -/
theorem modify_congr {items : List α} {place : Nat} {a : α} {change other : α → α}
    (here : items[place]? = some a) (same : change a = other a) :
    items.modify place change = items.modify place other := by
  rw [List.modify_eq_set_getElem?, List.modify_eq_set_getElem?, here]
  exact congrArg (items.set place) same

end Roster

/-! ### Spots -/

/-- The section with the entry at a place changed. -/
def Section.changeAt (place : Nat) (change : Entry → Entry) (found : Section) : Section :=
  { found with entries := found.entries.modify place change }

/-- Two changes of the entry at a place are one. -/
theorem Section.changeAt_comp (place : Nat) (first second : Entry → Entry) :
    Section.changeAt place second ∘ Section.changeAt place first =
      Section.changeAt place (second ∘ first) := by
  funext found
  exact congrArg (Section.mk found.name found.comment)
    (List.modify_modify_eq first second place found.entries)

namespace Document

/-- Where an entry stands: the place of its section, and its own place in that. -/
structure Spot where
  /-- The place of the section. -/
  sect : Nat
  /-- The place of the entry among those of the section. -/
  entry : Nat

/-- The entry at a spot. -/
def entryAtSpot? (document : Document) (spot : Spot) : Option Entry := do
  (← document.sections[spot.sect]?).entries[spot.entry]?

/-- The document with the entry at a spot changed. -/
def changeSpot (document : Document) (spot : Spot) (change : Entry → Entry) : Document :=
  ⟨document.sections.modify spot.sect (Section.changeAt spot.entry change)⟩

/-- What stands at a spot after a change there is what stood there, changed. -/
theorem entryAtSpot?_changeSpot (document : Document) (spot : Spot) (change : Entry → Entry) :
    (document.changeSpot spot change).entryAtSpot? spot =
      (document.entryAtSpot? spot).map change := by
  unfold entryAtSpot? changeSpot
  cases here : document.sections[spot.sect]? <;> simp [here, Section.changeAt]

/-- Two changes at a spot are one. -/
theorem changeSpot_changeSpot (document : Document) (spot : Spot) (first second : Entry → Entry) :
    (document.changeSpot spot first).changeSpot spot second =
      document.changeSpot spot (second ∘ first) := by
  unfold changeSpot
  rw [List.modify_modify_eq, Section.changeAt_comp]

end Document

/-! ### The writes -/

/-- A write made in place: where it stops, what it has changed by then stays changed. -/
abbrev InPlace := ExceptT Fault (StateM Document)

namespace InPlace

variable {α : Type} {sect comment : Option Text} {key : Text}

/-- Go on with the result of an attempt, or stop with its fault. -/
def ofExcept : Except Fault α → InPlace α
  | .ok result => return result
  | .error fault => throw fault

/-- Go on with what passes a guard, or stop with the refusal. -/
def check (guard : Except Refusal α) : InPlace α := ofExcept (Document.refuse guard)

/-- The place of a section. The global section is not looked for, it is the first. -/
def place? (document : Document) : Option Text → Option Nat
  | none => some 0
  | some name => Roster.place? Section.name (some (Text.trim name)) document.sections

/-- Find the place of a section, or add the section at the end. -/
def sectionOrInsert (sect : Option Text) : InPlace Nat := do
  let document ← get
  match place? document sect with
  | some place => return place
  | none => do
    let name ← check (Guard.sectionName (sect.getD []))
    set (⟨document.sections ++ [Section.new (some name) none]⟩ : Document)
    return document.sections.length

/-- Find the spot of an entry in the section at a place, or add an entry without a value at its
end. -/
def entryOrInsert (place : Nat) (key : Text) : InPlace Document.Spot := do
  let document ← get
  let seated (found : Section) := Roster.seat Entry.key key (Entry.new key) found.entries
  set (⟨document.sections.modify place fun found =>
    { found with entries := (seated found).2 }⟩ : Document)
  return ⟨place, ((document.sections[place]?).map fun found => (seated found).1).getD 0⟩

/-- Find the spot of an entry; a missing section is added, and so is a missing entry. -/
def locate (sect : Option Text) (key : Text) : InPlace Document.Spot := do
  entryOrInsert (← sectionOrInsert sect) key

/-- Change a part of the entry at a spot; give what the part was before. -/
def replace (spot : Document.Spot) (part : Entry → Option Text) (change : Entry → Entry) :
    InPlace (Option Text) := do
  let document ← get
  set (document.changeSpot spot change)
  return (document.entryAtSpot? spot).bind part

/-- Add a section where it is missing, and then set its comment. -/
def ensureSection (sect comment : Option Text) : InPlace Unit := do
  check (Guard.comment comment)
  let place ← sectionOrInsert sect
  modify fun document => ⟨document.sections.modify place ({ · with comment := comment })⟩

/-- Set a value and keep the comment; give the value before. -/
def setString (sect : Option Text) (key value : Text) : InPlace (Option Text) := do
  let (key, value) ← check (Guard.entry key value)
  let spot ← locate sect key
  replace spot Entry.value ({ · with value := some value })

/-- Replace the comment and then the value; give the value before. -/
def setStringWithComment (sect : Option Text) (key value : Text) (comment : Option Text) :
    InPlace (Option Text) := do
  check (Guard.comment comment)
  let (key, value) ← check (Guard.entry key value)
  let spot ← locate sect key
  let _ ← replace spot Entry.comment ({ · with comment := comment })
  replace spot Entry.value ({ · with value := some value })

/-- Set the empty value where there is none, and then replace the comment; give the comment
before. -/
def setComment (sect : Option Text) (key : Text) (comment : Option Text) :
    InPlace (Option Text) := do
  check (Guard.comment comment)
  let (key, _) ← check (Guard.entry key [])
  let spot ← locate sect key
  let _ ← replace spot Entry.value fun entry => { entry with value := some entry.valueText }
  replace spot Entry.comment ({ · with comment := comment })

/-- Set a value of a type; the value before is read first and given. -/
def setAs [Storable α] (sect : Option Text) (key : Text) (value : α) : InPlace (Option α) := do
  let _ ← check (Guard.key key)
  let previous ← ofExcept ((← get).previous? sect key)
  let _ ← setString sect key (Storable.write value)
  return previous

/-- Set a value of a type and replace the comment; the value before is read first and given. -/
def setAsWithComment [Storable α] (sect : Option Text) (key : Text) (value : α)
    (comment : Option Text) : InPlace (Option α) := do
  check (Guard.comment comment)
  let _ ← check (Guard.key key)
  let previous ← ofExcept ((← get).previous? sect key)
  let _ ← setStringWithComment sect key (Storable.write value) comment
  return previous

/-! ### How they run -/

/-- Whether a write made in place does to a document what an attempt does that gives a new one: it
leaves that document, or it stops with the same fault and leaves the document as it was. -/
def Matches (write : InPlace α) (document : Document)
    (attempt : Except Fault (Document × α)) : Prop :=
  write.run document =
    match attempt with
    | .ok (changed, result) => (.ok result, changed)
    | .error fault => (.error fault, document)

/-- An attempt that changes nothing may come before both. -/
theorem Matches.after {β : Type} {document : Document} {first : Except Fault β}
    {next : β → InPlace α} {attempt : β → Except Fault (Document × α)}
    (each : ∀ passed, first = .ok passed → Matches (next passed) document (attempt passed)) :
    Matches (ofExcept first >>= next) document (first >>= attempt) := by
  cases first with
  | error fault => exact Attempt.run_bind_of_error rfl next
  | ok passed => exact (Attempt.run_bind_of_ok rfl next).trans (each passed rfl)

/-- A result may be put in the place of the one that both give. -/
theorem Matches.giving {β : Type} {document : Document} {write : InPlace β}
    {attempt : Except Fault (Document × β)} (same : Matches write document attempt) (result : α) :
    Matches (write >>= fun _ => return result) document
      (attempt >>= fun done => .ok (done.1, result)) := by
  unfold Matches at same ⊢
  rcases attempt with fault | ⟨changed, given⟩
  · exact Attempt.run_bind_of_error same _
  · exact Attempt.run_bind_of_ok same _

/-- A refusal among guarded steps is a fault among them. -/
theorem refuse_bind {β : Type} (guard : Except Refusal β) (next : β → Except Refusal α) :
    Document.refuse (guard >>= next) =
      Document.refuse guard >>= fun passed => Document.refuse (next passed) := by
  cases guard <;> rfl

/-- The document is at hand at every step. -/
theorem run_get (document : Document) :
    (get : InPlace Document).run document = (.ok document, document) :=
  rfl

/-- The global section is where it is looked for: at the first place of no name. -/
theorem place?_eq {document : Document} (sound : document.Sound) (sect : Option Text) :
    place? document sect =
      Roster.place? Section.name (Document.address sect) document.sections := by
  cases sect with
  | some given => rfl
  | none =>
    have first := sound.first
    cases whole : document.sections with
    | nil => simp [Document.sectionNames, whole] at first
    | cons head rest =>
      simp only [Document.sectionNames, whole, List.map_cons, List.head?_cons,
        Option.some.injEq] at first
      simp [place?, Roster.place?, Document.address, List.findIdx?_cons, first]

/-- A section that has a place may be changed under its name. -/
theorem nameFor_of_place {document : Document} (sound : document.Sound) {place : Nat}
    (placed : place? document sect = some place) :
    document.nameFor sect = .ok (Document.address sect) := by
  have present : (place? document sect).isSome = true := by rw [placed]; rfl
  rw [place?_eq sound, Roster.isSome_place?_iff] at present
  exact if_pos (Document.hasSection_iff.mpr present)

/-- A section that has no place may be changed under a name that may be added. -/
theorem nameFor_of_placeless {document : Document} (sound : document.Sound)
    (placeless : place? document sect = none) :
    document.nameFor sect = (Guard.sectionName (sect.getD [])).map some := by
  have absent : ¬ (place? document sect).isSome = true := by
    rw [placeless]
    exact Bool.false_ne_true
  rw [place?_eq sound, Roster.isSome_place?_iff] at absent
  exact if_neg fun present => absent (Document.hasSection_iff.mp present)

/-- Finding a section stops where its name is refused, and nothing was changed. -/
theorem run_sectionOrInsert_of_error {document : Document} {reason : Refusal}
    (sound : document.Sound) (refused : document.nameFor sect = .error reason) :
    (sectionOrInsert sect).run document = (.error (.refused reason), document) := by
  unfold sectionOrInsert
  rw [Attempt.run_bind_of_ok (run_get document)]
  cases placed : place? document sect with
  | some place =>
    rw [nameFor_of_place sound placed] at refused
    contradiction
  | none =>
    rw [nameFor_of_placeless sound placed] at refused
    cases guarded : Guard.sectionName (sect.getD []) with
    | ok name =>
      rw [guarded] at refused
      contradiction
    | error found =>
      rw [guarded] at refused
      obtain rfl := Except.error.inj refused
      simp only
      exact Attempt.run_bind_of_error rfl _

/-- Finding a section ends where its name is seated. -/
theorem run_sectionOrInsert_of_ok {document : Document} {name : Option Text}
    (sound : document.Sound) (admitted : document.nameFor sect = .ok name) :
    (sectionOrInsert sect).run document =
      (.ok (Roster.seat Section.name name (Section.new name none) document.sections).1,
        ⟨(Roster.seat Section.name name (Section.new name none) document.sections).2⟩) := by
  unfold sectionOrInsert
  rw [Attempt.run_bind_of_ok (run_get document)]
  cases placed : place? document sect with
  | some place =>
    rw [nameFor_of_place sound placed] at admitted
    obtain rfl := Except.ok.inj admitted
    rw [place?_eq sound] at placed
    rw [Roster.seat, placed]
    rfl
  | none =>
    have named := ((Document.nameFor_eq_ok_iff sound).mp admitted).1
    rw [nameFor_of_placeless sound placed] at admitted
    rw [place?_eq sound, ← named] at placed
    rw [Roster.seat, placed]
    cases guarded : Guard.sectionName (sect.getD []) with
    | error reason =>
      rw [guarded] at admitted
      contradiction
    | ok plain =>
      rw [guarded] at admitted
      obtain rfl := Except.ok.inj admitted
      simp only
      exact Attempt.run_bind_of_ok rfl _

/-- A spot that was found or made for an entry: the entry stands there, and a change there is a
change of the entry in the document before. -/
structure Located (document : Document) (home : Option Text) (key : Text) (spot : Document.Spot)
    (seated : Document) : Prop where
  /-- What stands at the spot is the entry of the key, or a bare one where that is new. -/
  entry : seated.entryAtSpot? spot = some ((document.entryAt? home key).getD (Entry.new key))
  /-- A change at the spot is a change of the entry of the key. -/
  change : ∀ change, seated.changeSpot spot change =
    document.amend home fun found => found.change key change

/-- Finding an entry stops where the section is refused, and nothing was changed. -/
theorem run_locate_of_error {document : Document} {reason : Refusal} (sound : document.Sound)
    (refused : document.nameFor sect = .error reason) :
    (locate sect key).run document = (.error (.refused reason), document) :=
  Attempt.run_bind_of_error (run_sectionOrInsert_of_error sound refused) _

/-- In a section that is there, an entry is found where its key is seated. -/
theorem run_entryOrInsert {document : Document} {place : Nat} {found : Section}
    (here : document.sections[place]? = some found) (key : Text) :
    (entryOrInsert place key).run document =
      (.ok ⟨place, (Roster.seat Entry.key key (Entry.new key) found.entries).1⟩,
        ⟨document.sections.modify place fun holder =>
          { holder with
            entries := (Roster.seat Entry.key key (Entry.new key) holder.entries).2 }⟩) := by
  unfold entryOrInsert
  rw [Attempt.run_bind_of_ok (run_get document), here]
  rfl

/-- Finding an entry ends with a spot for it. -/
theorem exists_located {document : Document} {name : Option Text} (sound : document.Sound)
    (admitted : document.nameFor sect = .ok name) (key : Text) :
    ∃ spot seated, (locate sect key).run document = (.ok spot, seated) ∧
      Located document name key spot seated := by
  obtain ⟨⟨place, opened⟩, seat⟩ :
      ∃ seated, Roster.seat Section.name name (Section.new name none) document.sections =
        seated := ⟨_, rfl⟩
  have stands := Roster.getElem?_seat Section.name name (Section.new name none) document.sections
  have changed := fun change =>
    Roster.modify_seat Section.name name (Section.new name none) change document.sections
  have run := run_sectionOrInsert_of_ok sound admitted
  rw [seat] at run
  simp only [seat] at stands changed
  obtain ⟨home, isHome⟩ : ∃ home, (document.stored? name).getD (Section.new name none) = home :=
    ⟨_, rfl⟩
  have entries : document.entriesAt name = home.entries := by
    rw [← isHome, Document.entriesAt]
    cases document.stored? name <;> rfl
  have here : opened[place]? = some home := stands.trans (congrArg some isHome)
  refine ⟨_, _, (Attempt.run_bind_of_ok run _).trans (run_entryOrInsert here key), ?_, ?_⟩
  · have entry := Roster.getElem?_seat Entry.key key (Entry.new key) home.entries
    rw [Document.entryAt?, entries, Document.entryAtSpot?]
    simp [here, entry]
  · intro change
    have edited := Roster.modify_seat Entry.key key (Entry.new key) change home.entries
    rw [Document.changeSpot, List.modify_modify_eq]
    refine congrArg Document.mk ((Roster.modify_congr here ?_).trans (changed _))
    exact congrArg (Section.mk home.name home.comment) edited

/-- A part of the entry at a spot is replaced, and the part before is given. -/
theorem run_replace (document : Document) (spot : Document.Spot) (part : Entry → Option Text)
    (change : Entry → Entry) :
    (replace spot part change).run document =
      (.ok ((document.entryAtSpot? spot).bind part), document.changeSpot spot change) :=
  rfl

/-- What is done at the spot of an entry does what a change of the entry does. -/
theorem Matches.located {document : Document} (sound : document.Sound)
    {tail : Document.Spot → InPlace α} {edit : Entry → Entry} {before : α}
    (each : ∀ spot seated,
      seated.entryAtSpot? spot =
          some ((document.entryAt? (Document.address sect) key).getD (Entry.new key)) →
        (tail spot).run seated = (.ok before, seated.changeSpot spot edit)) :
    Matches (locate sect key >>= tail) document
      (Document.refuse
        (document.changeEntry sect key edit >>= fun changed => .ok (changed, before))) := by
  unfold Document.changeEntry Document.change
  cases named : document.nameFor sect with
  | error reason => exact Attempt.run_bind_of_error (run_locate_of_error sound named) tail
  | ok name =>
    obtain ⟨rfl, -⟩ := (Document.nameFor_eq_ok_iff sound).mp named
    obtain ⟨spot, seated, run, located⟩ := exists_located sound named key
    have done := each spot seated located.entry
    rw [located.change] at done
    exact (Attempt.run_bind_of_ok run tail).trans done

/-- A part of an entry, looked up before the entry is added where it is missing. -/
theorem bind_part (document : Document) (sect : Option Text) {key : Text}
    (trimmed : Text.trim key = key) (part : Entry → Option Text)
    (bare : part (Entry.new key) = none) :
    part ((document.entryAt? (Document.address sect) key).getD (Entry.new key)) =
      (document.entry? sect key).bind part := by
  rw [Document.entry?_eq, trimmed]
  cases document.entryAt? (Document.address sect) key with
  | none => exact bare
  | some entry => rfl

/-- A key that passed its guard is trimmed. -/
theorem trim_of_entry {keyText valueText value : Text}
    (passed : Document.refuse (Guard.entry keyText valueText) = .ok (key, value)) :
    Text.trim key = key := by
  obtain ⟨-, -, stored, -⟩ :=
    Guard.entry_eq_ok_iff.mp (Document.refuse_eq_ok_iff.mp passed)
  exact stored.trimmed

/-! ### What they do -/

variable {document : Document}

/-- Setting a section's comment in place does the same as setting it on the document. -/
theorem matches_ensureSection (sound : document.Sound) (sect comment : Option Text) :
    Matches (ensureSection sect comment) document
      (Document.refuse (document.ensureSection sect comment) >>= fun changed =>
        .ok (changed, ())) := by
  unfold Document.ensureSection Document.change
  rw [refuse_bind, bind_assoc]
  refine Matches.after fun _ _ => ?_
  cases named : document.nameFor sect with
  | error reason => exact Attempt.run_bind_of_error (run_sectionOrInsert_of_error sound named) _
  | ok name =>
    refine (Attempt.run_bind_of_ok (run_sectionOrInsert_of_ok sound named) _).trans ?_
    exact congrArg (fun sections => (Except.ok (), Document.mk sections))
      (Roster.modify_seat _ _ _ _ document.sections)

/-- Setting a value in place does the same as setting it on the document. -/
theorem matches_setString (sound : document.Sound) (sect : Option Text) (key value : Text) :
    Matches (setString sect key value) document
      (Document.refuse (document.setString sect key value)) := by
  unfold Document.setString
  rw [refuse_bind]
  refine Matches.after fun ⟨stored, text⟩ passed => Matches.located sound ?_
  intro spot seated here
  rw [run_replace, here, Option.bind_some,
    bind_part document sect (trim_of_entry passed) Entry.value rfl]
  rfl

/-- Setting a value and replacing the comment in place does the same as on the document. -/
theorem matches_setStringWithComment (sound : document.Sound) (sect : Option Text)
    (key value : Text) (comment : Option Text) :
    Matches (setStringWithComment sect key value comment) document
      (Document.refuse (document.setStringWithComment sect key value comment)) := by
  unfold Document.setStringWithComment
  rw [refuse_bind]
  refine Matches.after fun _ _ => ?_
  rw [refuse_bind]
  refine Matches.after fun ⟨stored, text⟩ passed => Matches.located sound ?_
  intro spot seated here
  rw [Attempt.run_bind_of_ok (run_replace seated spot _ _), run_replace,
    Document.changeSpot_changeSpot, Document.entryAtSpot?_changeSpot, here, Option.map_some,
    Option.bind_some]
  have before := bind_part document sect (trim_of_entry passed) Entry.value rfl
  exact congrArg (fun given => (Except.ok given, _)) before

/-- Replacing a comment in place does the same as replacing it on the document. -/
theorem matches_setComment (sound : document.Sound) (sect : Option Text) (key : Text)
    (comment : Option Text) :
    Matches (setComment sect key comment) document
      (Document.refuse (document.setComment sect key comment)) := by
  unfold Document.setComment
  rw [refuse_bind]
  refine Matches.after fun _ _ => ?_
  rw [refuse_bind]
  refine Matches.after fun ⟨stored, text⟩ passed => Matches.located sound ?_
  intro spot seated here
  rw [Attempt.run_bind_of_ok (run_replace seated spot _ _), run_replace,
    Document.changeSpot_changeSpot, Document.entryAtSpot?_changeSpot, here, Option.map_some,
    Option.bind_some]
  have before :=
    bind_part document sect (trim_of_entry passed) Entry.comment rfl
  exact congrArg (fun given => (Except.ok given, _)) before

/-- Setting a value of a type in place does the same as setting it on the document. -/
theorem matches_setAs [Storable α] (sound : document.Sound) (sect : Option Text) (key : Text)
    (value : α) :
    Matches (setAs sect key value) document (document.setAs sect key value) :=
  Matches.after fun _ _ => Matches.after fun previous _ =>
    (matches_setString sound sect key (Storable.write value)).giving previous

/-- Setting a value of a type and replacing the comment in place does the same as on the
document. -/
theorem matches_setAsWithComment [Storable α] (sound : document.Sound) (sect : Option Text)
    (key : Text) (value : α) (comment : Option Text) :
    Matches (setAsWithComment sect key value comment) document
      (document.setAsWithComment sect key value comment) :=
  Matches.after fun _ _ => Matches.after fun _ _ => Matches.after fun previous _ =>
    (matches_setStringWithComment sound sect key (Storable.write value) comment).giving previous

end InPlace

end IniKeeper
