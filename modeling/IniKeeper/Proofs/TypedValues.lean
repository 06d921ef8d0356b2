import IniKeeper.Proofs.Agreement
import IniKeeper.Proofs.Numerals

/-!
# Values of a type in a document

A value of a type is stored as its text and read from the stored text. A value that reads back from
its text is kept once it was set: reading gives it whatever the default, the next value that is set
gives it as the one before, and it is kept so when the document is written and read again. A stored
text is read as an integer exactly if it is a numeral in the range of the type, and is never bent
into one.
-/

namespace IniKeeper

open Guard (StoredKey)

namespace Document

variable {α : Type} [Storable α] {document after : Document} {sect : Option Text}
  {key text : Text} {value : α}

/-! ### Reading -/

/-- The value before is what the stored text is read as. -/
theorem previous?_of_value (valued : document.value? sect key = some text) :
    (document.previous? sect key : Except Fault (Option α)) =
      (readStored sect key text).map some := by
  rw [previous?, valued]

/-- A key that has a value is read as this value, whatever the default. -/
theorem getAs_of_value (valued : document.value? sect key = some text) (default : α) :
    document.getAs sect key default = readStored sect key text := by
  rw [getAs, previous?_of_value valued]
  cases (readStored sect key text : Except Fault α) <;> rfl

/-- A key without a value is read as the default. -/
theorem getAs_of_none (none : document.value? sect key = none) (default : α) :
    document.getAs sect key default = .ok default := by
  rw [getAs, previous?, none]
  rfl

/-- A text that can be read gives its value. -/
theorem readStored_of_some (reads : Storable.read? text = some value) :
    readStored sect key text = .ok value := by
  rw [readStored, reads]

/-- A text that cannot be read gives a fault that names the address, the text and the type. -/
theorem readStored_of_none (unread : (Storable.read? text : Option α) = none) :
    (readStored sect key text : Except Fault α) =
      .error (.unreadable (address sect) (Text.trim key) text (Storable.kind (α := α))) := by
  rw [readStored, unread]

/-! ### Keeping -/

/-- Whether a document keeps a value of a type under a key. -/
structure Keeps (document : Document) (sect : Option Text) (key : Text) (value : α) : Prop where
  /-- The value is read whatever the default. -/
  read : ∀ default, document.getAs sect key default = .ok value
  /-- Whatever value of the type is set, the value is given as the one before. -/
  before : ∀ next : α, ∃ changed, document.setAs sect key next = .ok (changed, some value)
  /-- Where the comment is replaced as well, the value is given as the one before. -/
  beforeCommented : ∀ (next : α) (comment : Option Text), Comment.isValid comment = true →
    ∃ changed, document.setAsWithComment sect key next comment = .ok (changed, some value)

/-- A section in which there is a value is there. -/
theorem mem_sectionNames_of_value (valued : document.value? sect key = some text) :
    address sect ∈ document.sectionNames := by
  by_contra absent
  rw [value?_eq, valueAt?, entryAt?, entriesAt_of_not_mem absent] at valued
  contradiction

/-- A sound document keeps a value whose text is stored under a key that a setter accepts. -/
theorem Sound.keeps (sound : document.Sound) (plainly : Storable.WritesPlainly α)
    (stored : StoredKey (Text.trim key)) (valued : document.value? sect key = some text)
    (reads : Storable.read? text = some value) : document.Keeps sect key value := by
  have accepted : Guard.key key = .ok (Text.trim key) := Guard.key_eq_ok_iff.mpr ⟨rfl, stored⟩
  have admits : document.Admits (address sect) := .inl (mem_sectionNames_of_value valued)
  have previous : (document.previous? sect key : Except Fault (Option α)) = .ok (some value) := by
    rw [previous?_of_value valued, readStored_of_some reads]
    rfl
  -- A plain text is let through beside any key, so the next value is never refused.
  have passed (next : α) : Guard.entry key (Storable.write next) =
      .ok (Text.trim key, Text.trim (Storable.write next)) := by
    obtain ⟨noFeed, noReturn⟩ := (plainly next).unbroken
    refine Guard.entry_eq_ok_iff.mpr ⟨rfl, rfl, stored, noFeed, noReturn, ?_⟩
    rw [(plainly next).trimmed]
    exact (plainly next).not_bracketed _
  refine ⟨fun default => ?_, fun next => ?_, fun next comment valid => ?_⟩
  · rw [getAs_of_value valued, readStored_of_some reads]
  · obtain ⟨changed, before, written⟩ : ∃ changed before,
        document.setString sect key (Storable.write next) = .ok (changed, before) :=
      ⟨_, _, (setString_eq_ok_iff sound).mpr ⟨_, _, passed next, admits, rfl, rfl⟩⟩
    refine ⟨changed, ?_⟩
    unfold setAs
    simp only [Attempt.bind_eq_ok_iff, refuse_eq_ok_iff, Except.ok.injEq, Prod.mk.injEq]
    exact ⟨_, accepted, _, previous, (changed, before), written, rfl, rfl⟩
  · obtain ⟨changed, before, written⟩ : ∃ changed before,
        document.setStringWithComment sect key (Storable.write next) comment =
          .ok (changed, before) :=
      ⟨_, _, (setStringWithComment_eq_ok_iff sound).mpr
        ⟨valid, _, _, passed next, admits, rfl, rfl⟩⟩
    refine ⟨changed, ?_⟩
    unfold setAsWithComment
    simp only [Attempt.bind_eq_ok_iff, refuse_eq_ok_iff, Except.ok.injEq, Prod.mk.injEq]
    exact ⟨(), Guard.comment_eq_ok_iff.mpr valid, _, accepted, _, previous, (changed, before),
      written, rfl, rfl⟩

/-! ### Setting -/

/-- Whether a document comes from another by setting a value of a type under a key. -/
inductive Stores (document after : Document) (sect : Option Text) (key : Text) (value : α) :
    Prop where
  /-- The comment is kept. -/
  | plain {before : Option α} (done : document.setAs sect key value = .ok (after, before))
  /-- The comment is replaced. -/
  | commented {comment : Option Text} {before : Option α}
      (done : document.setAsWithComment sect key value comment = .ok (after, before))

namespace Stores

/-- Setting a value leaves a sound document sound. -/
theorem sound (stores : document.Stores after sect key value) (sound : document.Sound) :
    after.Sound := by
  cases stores with
  | plain done => exact (Setter.setAs done).sound sound
  | commented done => exact (Setter.setAsWithComment done).sound sound

/-- Where a value is stored, its key was accepted and its text stands under the key. -/
theorem stored (stores : document.Stores after sect key value) (sound : document.Sound) :
    StoredKey (Text.trim key) ∧
      after.value? sect key = some (Text.trim (Storable.write value)) := by
  obtain ⟨storedKey, comment, puts⟩ : StoredKey (Text.trim key) ∧ ∃ comment, document.Puts after
      sect key ⟨Text.trim key, some (Text.trim (Storable.write value)), comment⟩ := by
    cases stores with
    | plain done =>
      obtain ⟨before, written⟩ := setString_of_setAs done
      obtain ⟨_, _, passed, -⟩ := (setString_eq_ok_iff sound).mp written
      obtain ⟨rfl, -, storedKey, -⟩ := Guard.entry_eq_ok_iff.mp passed
      exact ⟨storedKey, _, (sound.puts_of_setString written).2.2⟩
    | commented done =>
      obtain ⟨before, written⟩ := setStringWithComment_of_setAsWithComment done
      obtain ⟨-, _, _, passed, -⟩ := (setStringWithComment_eq_ok_iff sound).mp written
      obtain ⟨rfl, -, storedKey, -⟩ := Guard.entry_eq_ok_iff.mp passed
      exact ⟨storedKey, _, (sound.puts_of_setStringWithComment written).2.2⟩
  refine ⟨storedKey, ?_⟩
  rw [value?, puts.entries, if_pos ⟨rfl, rfl⟩]
  rfl

end Stores

/-- Whether a value that is set under a key is kept, and is still kept when the document is written,
padded or not, and read into a new one. -/
def Survives (document : Document) (sect : Option Text) (key : Text) (value : α) : Prop :=
  ∀ after : Document, document.Stores after sect key value →
    after.Keeps sect key value ∧
      ∀ (padded : Bool) (origin : Text),
        ∃ report, (empty.parse origin (after.render padded)).result = .ok report ∧
          (empty.parse origin (after.render padded)).document.Keeps sect key value

/-- A value that reads back from its text survives in a sound document. -/
theorem Sound.survives (sound : document.Sound) (plainly : Storable.WritesPlainly α)
    (readsBack : Storable.ReadsBack value) : document.Survives sect key value := by
  intro after stores
  have soundAfter := stores.sound sound
  obtain ⟨storedKey, valued⟩ := stores.stored sound
  rw [(plainly value).trimmed] at valued
  refine ⟨soundAfter.keeps plainly storedKey valued readsBack, fun padded origin => ?_⟩
  obtain ⟨report, accepted, agrees⟩ := soundAfter.reread padded origin
  have again : (empty.parse origin (after.render padded)).document.Sound :=
    sound_empty.parse origin (after.render padded)
  have unreserved := Entry.isReserved_of_storedKey storedKey
  refine ⟨report, accepted, again.keeps plainly storedKey ?_ readsBack⟩
  rw [value?_eq, agrees.values _ _ unreserved, ← value?_eq]
  exact valued

/-! ### Integers -/

/-- Whether what is stored under a key is read as an integer of a type exactly if it is a numeral
whose number lies on this side of a bound. -/
structure ReadsIntegers (α : Type) [Storable α] (toInt : α → Int) (bound : Int)
    (document : Document) (sect : Option Text) (key : Text) : Prop where
  /-- A numeral within the bound is read as its number, whatever the default. -/
  within : ∀ text number, document.value? sect key = some text →
    Integer.Denotes (Text.trim text) number → -bound ≤ number → number < bound →
      ∃ n : α, toInt n = number ∧ ∀ default, document.getAs sect key default = .ok n
  /-- Any other text is a fault, for reading as well as for setting. -/
  otherwise : ∀ text, document.value? sect key = some text →
    (∀ number, Integer.Denotes (Text.trim text) number → ¬ (-bound ≤ number ∧ number < bound)) →
      (∀ default : α, document.getAs sect key default =
        .error (.unreadable (address sect) (Text.trim key) text (Storable.kind (α := α)))) ∧
      ∀ (next : α) (stored : Text), Guard.key key = .ok stored →
        document.setAs sect key next =
          .error (.unreadable (address sect) (Text.trim key) text (Storable.kind (α := α)))

/-- A type that holds the integers within a bound reads exactly the numerals within it. -/
theorem readsIntegers {toInt : α → Int} {bound : Int}
    (holds : Storable.HoldsIntegers α toInt bound) (document : Document) (sect : Option Text)
    (key : Text) : ReadsIntegers α toInt bound document sect key where
  within := by
    intro text number valued denotes least most
    obtain ⟨n, rfl⟩ := holds.covers number least most
    refine ⟨n, rfl, fun default => ?_⟩
    rw [getAs_of_value valued, readStored_of_some ((holds.read?_iff text n).mpr denotes)]
  otherwise := by
    intro text valued outside
    have unread : (Storable.read? text : Option α) = none :=
      Option.eq_none_iff_forall_ne_some.mpr fun n reads =>
        outside (toInt n) ((holds.read?_iff text n).mp reads) (holds.within n)
    have failed := @readStored_of_none α _ sect key text unread
    refine ⟨fun default => by rw [getAs_of_value valued, failed], fun next stored accepted => ?_⟩
    have previous := @previous?_of_value α _ document sect key text valued
    rw [failed] at previous
    rw [setAs, accepted, previous]
    rfl

/-- In a document with any history, integers of 32 and of 64 bits and truth values that are set
under a key survive, and so does each binary number that is read back from its text. Stored texts
are read as integers of a type exactly if they are numerals in its range. -/
theorem typed_values_survive (reachable : document.Reachable) (sect : Option Text) (key : Text) :
    (∀ n : Int32, document.Survives sect key n) ∧ (∀ n : Int64, document.Survives sect key n) ∧
      (∀ truth : Bool, document.Survives sect key truth) ∧
      (∀ number : Binary.Number .double,
        Decimal.read? .double (Decimal.write .double number) = some number →
          document.Survives sect key number) ∧
      (∀ number : Binary.Number .single,
        Decimal.read? .single (Decimal.write .single number) = some number →
          document.Survives sect key number) ∧
      ReadsIntegers Int32 Int32.toInt (Int.pow 2 31) document sect key ∧
      ReadsIntegers Int64 Int64.toInt (Int.pow 2 63) document sect key := by
  have sound := reachable.sound
  have int := Storable.holdsIntegers_int32
  have long := Storable.holdsIntegers_int64
  refine ⟨fun n => sound.survives int.writesPlainly (int.readsBack n),
    fun n => sound.survives long.writesPlainly (long.readsBack n),
    fun truth => sound.survives Storable.plain_truthWord (Storable.readsBack_bool truth),
    fun number inverse => sound.survives Decimal.plain_write ?_,
    fun number inverse => sound.survives Decimal.plain_write ?_,
    readsIntegers int document sect key, readsIntegers long document sect key⟩
  · rw [← (Decimal.plain_write number).trimmed] at inverse
    exact inverse
  · rw [← (Decimal.plain_write number).trimmed] at inverse
    exact inverse

/-- The least integer of 32 bits and a tenth survive where nothing was stored; the number after the
greatest integer of 32 bits is a fault for these and is read as an integer of 64 bits. -/
theorem typed_values_survive_extremes :
    let sect := some "s".toList
    let key := "n".toList
    let holding (value : String) : Document :=
      ⟨[Section.global, ⟨some "s".toList, none, [⟨key, some value.toList, none⟩]⟩]⟩
    let tenth : Binary.Number .double := Binary.ofBits .double 0x3FB999999999999A
    (Document.empty.Stores (holding "-2147483648") sect key Int32.minValue ∧
        (holding "-2147483648").Keeps sect key Int32.minValue) ∧
      (Document.empty.Stores (holding "0.1") sect key tenth ∧
        (holding "0.1").Keeps sect key tenth) ∧
      (holding "2147483648").getAs sect key (0 : Int32) =
        .error (.unreadable sect key "2147483648".toList .int) ∧
      ∃ n : Int64, n.toInt = 2147483648 ∧
        (holding "2147483648").getAs sect key (0 : Int64) = .ok n := by
  intro sect key holding tenth
  have least : Document.empty.Stores (holding "-2147483648") sect key Int32.minValue :=
    @Stores.plain Int32 _ _ _ _ _ _ none (by decide +kernel)
  have fraction : Document.empty.Stores (holding "0.1") sect key tenth :=
    @Stores.plain (Binary.Number .double) _ _ _ _ _ _ none (by decide +kernel)
  have reachable : (holding "2147483648").Reachable :=
    .step .empty
      (.set (@Setter.setString _ _ sect key "2147483648".toList none (by decide +kernel)))
  obtain ⟨ints, -, -, doubles, -⟩ := typed_values_survive .empty sect key
  obtain ⟨-, -, -, -, -, short, long⟩ := typed_values_survive reachable sect key
  have denotes : Integer.Denotes (Text.trim "2147483648".toList) 2147483648 :=
    Integer.read?_eq_some_iff.mp (by decide +kernel)
  have only : ∀ number, Integer.Denotes (Text.trim "2147483648".toList) number →
      ¬ (-Int.pow 2 31 ≤ number ∧ number < Int.pow 2 31) := by
    intro number another
    have same := (Integer.read?_eq_some_iff.mpr denotes).symm.trans
      (Integer.read?_eq_some_iff.mpr another)
    rw [← Option.some.inj same]
    decide
  obtain ⟨n, exact, read⟩ := long.within _ _ rfl denotes (by decide) (by decide)
  exact ⟨⟨least, (ints _ _ least).1⟩, ⟨fraction, (doubles tenth (by decide +kernel) _ fraction).1⟩,
    (short.otherwise _ rfl only).1 0, n, exact, read 0⟩

end Document

end IniKeeper
