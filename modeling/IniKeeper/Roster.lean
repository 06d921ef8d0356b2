/-!
# Ordered lists of named things

Sections of a document, entries of a section and places of a folder tree are all kept in lists in
which order matters and a name picks out at most one element. Looking up and removing are the
first match of the list library; this module owns the remaining operation, changing the element of
a name in place or appending it when there is none.
-/

namespace IniKeeper

namespace Roster

universe u v

variable {α : Type u} {κ : Type v} [DecidableEq κ]

/-- Change the first element of a name where it stands, or append `change fresh`. -/
def upsert (nameOf : α → κ) (name : κ) (fresh : α) (change : α → α) : List α → List α
  | [] => [change fresh]
  | a :: rest =>
    if nameOf a = name then change a :: rest else a :: upsert nameOf name fresh change rest

/-- The first element of a name. -/
def get? (nameOf : α → κ) (name : κ) (items : List α) : Option α :=
  items.find? fun a => nameOf a = name

/-- The list without the first element of a name. -/
def erase (nameOf : α → κ) (name : κ) (items : List α) : List α :=
  items.eraseP fun a => nameOf a = name

/-- What a lookup of the changed name gives: the changed element, new or old. -/
theorem get?_upsert_self (nameOf : α → κ) (name : κ) (fresh : α) (change : α → α) (items : List α)
    (freshNamed : nameOf (change fresh) = name)
    (kept : ∀ a ∈ items, nameOf a = name → nameOf (change a) = name) :
    get? nameOf name (upsert nameOf name fresh change items) =
      some (change ((get? nameOf name items).getD fresh)) := by
  induction items with
  | nil => simp [upsert, get?, freshNamed]
  | cons a rest ih =>
    have keptRest : ∀ b ∈ rest, nameOf b = name → nameOf (change b) = name :=
      fun b member => kept b (List.mem_cons_of_mem a member)
    by_cases here : nameOf a = name
    · have changed := kept a List.mem_cons_self here
      simp [upsert, get?, here, changed]
    · have step := ih keptRest
      simp only [get?] at step ⊢
      simp [upsert, here, step]

/-- Changing one name leaves every other lookup as it was. -/
theorem get?_upsert_other (nameOf : α → κ) (name other : κ) (fresh : α) (change : α → α)
    (items : List α) (different : other ≠ name) (freshNamed : nameOf (change fresh) = name)
    (kept : ∀ a ∈ items, nameOf a = name → nameOf (change a) = name) :
    get? nameOf other (upsert nameOf name fresh change items) = get? nameOf other items := by
  induction items with
  | nil => simp [upsert, get?, freshNamed, different.symm]
  | cons a rest ih =>
    have keptRest : ∀ b ∈ rest, nameOf b = name → nameOf (change b) = name :=
      fun b member => kept b (List.mem_cons_of_mem a member)
    by_cases here : nameOf a = name
    · have changed := kept a List.mem_cons_self here
      simp [upsert, get?, here, changed, different.symm]
    · have step := ih keptRest
      simp only [get?] at step ⊢
      simp only [upsert, if_neg here, List.find?_cons, step]

/-! ### What a change can do -/

/-- Elements of other names are passed over. -/
theorem upsert_append (nameOf : α → κ) (name : κ) (fresh : α) (change : α → α) (front rest : List α)
    (others : ∀ a ∈ front, nameOf a ≠ name) :
    upsert nameOf name fresh change (front ++ rest) =
      front ++ upsert nameOf name fresh change rest := by
  induction front with
  | nil => rfl
  | cons a front ih =>
    have here := others a List.mem_cons_self
    have step := ih fun b member => others b (List.mem_cons_of_mem a member)
    rw [List.cons_append, upsert, if_neg here, step, List.cons_append]

/-- A name that no element has is appended. -/
theorem upsert_of_forall_ne (nameOf : α → κ) (name : κ) (fresh : α) (change : α → α)
    (items : List α) (others : ∀ a ∈ items, nameOf a ≠ name) :
    upsert nameOf name fresh change items = items ++ [change fresh] := by
  have passed := upsert_append nameOf name fresh change items [] others
  rw [List.append_nil] at passed
  exact passed

/-- The first element of the name is changed where it stands. -/
theorem upsert_append_cons (nameOf : α → κ) (name : κ) (fresh : α) (change : α → α)
    (front : List α) (a : α) (rest : List α) (others : ∀ b ∈ front, nameOf b ≠ name)
    (named : nameOf a = name) :
    upsert nameOf name fresh change (front ++ a :: rest) = front ++ change a :: rest := by
  rw [upsert_append nameOf name fresh change front (a :: rest) others, upsert, if_pos named]

/-- A name is nowhere in a list, or it has a first place. -/
theorem forall_ne_or_exists_first (nameOf : α → κ) (name : κ) (items : List α) :
    (∀ a ∈ items, nameOf a ≠ name) ∨
      ∃ front a rest, items = front ++ a :: rest ∧ (∀ b ∈ front, nameOf b ≠ name) ∧
        nameOf a = name := by
  induction items with
  | nil => exact .inl fun a member => absurd member List.not_mem_nil
  | cons a rest ih =>
    by_cases here : nameOf a = name
    · exact .inr ⟨[], a, rest, rfl, fun b member => absurd member List.not_mem_nil, here⟩
    · rcases ih with others | ⟨front, b, more, rfl, others, named⟩
      · refine .inl fun b member => ?_
        rcases List.mem_cons.mp member with rfl | later
        · exact here
        · exact others b later
      · refine .inr ⟨a :: front, b, more, rfl, fun c member => ?_, named⟩
        rcases List.mem_cons.mp member with rfl | later
        · exact here
        · exact others c later

/-- A changed list consists of elements that were there, and of the changed one. -/
theorem mem_upsert (nameOf : α → κ) (name : κ) (fresh : α) (change : α → α) (items : List α)
    {a : α} (member : a ∈ upsert nameOf name fresh change items) :
    a ∈ items ∨ a = change fresh ∨ ∃ b ∈ items, nameOf b = name ∧ a = change b := by
  rcases forall_ne_or_exists_first nameOf name items with
    others | ⟨front, b, rest, rfl, others, named⟩
  · rw [upsert_of_forall_ne nameOf name fresh change items others] at member
    rcases List.mem_append.mp member with old | new
    · exact .inl old
    · exact .inr (.inl (List.mem_singleton.mp new))
  · rw [upsert_append_cons nameOf name fresh change front b rest others named] at member
    rcases List.mem_append.mp member with old | new
    · exact .inl (List.mem_append_left _ old)
    · rcases List.mem_cons.mp new with rfl | old
      · exact .inr (.inr ⟨b, by simp, named, rfl⟩)
      · exact .inl (List.mem_append_right _ (List.mem_cons_of_mem b old))

/-- A list of names with one more at its end, unless it is there already. -/
def enroll (name : κ) (names : List κ) : List κ :=
  if name ∈ names then names else names ++ [name]

/-- A name that is there is not added again. -/
theorem enroll_of_mem {name : κ} {names : List κ} (present : name ∈ names) :
    enroll name names = names :=
  if_pos present

/-- A name that is not there is added at the end. -/
theorem enroll_of_not_mem {name : κ} {names : List κ} (absent : name ∉ names) :
    enroll name names = names ++ [name] :=
  if_neg absent

/-- The names afterwards are those before and the one added. -/
theorem mem_enroll {name other : κ} {names : List κ} :
    other ∈ enroll name names ↔ other ∈ names ∨ other = name := by
  by_cases present : name ∈ names
  · rw [enroll_of_mem present]
    constructor
    · exact .inl
    · rintro (old | rfl)
      · exact old
      · exact present
  · rw [enroll_of_not_mem present, List.mem_append, List.mem_singleton]

/-- Distinct names stay distinct when one more is added. -/
theorem nodup_enroll {name : κ} {names : List κ} (distinct : names.Nodup) :
    (enroll name names).Nodup := by
  by_cases present : name ∈ names
  · rw [enroll_of_mem present]
    exact distinct
  · rw [enroll_of_not_mem present, List.nodup_append]
    refine ⟨distinct, by simp, ?_⟩
    rintro a member b single rfl
    rw [List.mem_singleton] at single
    exact present (single ▸ member)

/-- The names of a changed list: a new one comes last, all others keep their places. -/
theorem names_upsert (nameOf : α → κ) (name : κ) (fresh : α) (change : α → α) (items : List α)
    (freshNamed : nameOf (change fresh) = name)
    (kept : ∀ a ∈ items, nameOf a = name → nameOf (change a) = name) :
    (upsert nameOf name fresh change items).map nameOf = enroll name (items.map nameOf) := by
  rcases forall_ne_or_exists_first nameOf name items with
    others | ⟨front, b, rest, rfl, others, named⟩
  · have absent : name ∉ items.map nameOf := by
      intro member
      obtain ⟨a, inside, same⟩ := List.mem_map.mp member
      exact others a inside same
    rw [upsert_of_forall_ne nameOf name fresh change items others, enroll_of_not_mem absent,
      List.map_append, List.map_singleton, freshNamed]
  · have present : name ∈ (front ++ b :: rest).map nameOf :=
      List.mem_map.mpr ⟨b, by simp, named⟩
    have same := kept b (by simp) named
    rw [upsert_append_cons nameOf name fresh change front b rest others named,
      enroll_of_mem present]
    simp [same, named]

/-- Where the name is there already, what would have been appended does not matter. -/
theorem upsert_fresh (nameOf : α → κ) (name : κ) (fresh other : α) (change : α → α)
    (items : List α) (present : name ∈ items.map nameOf) :
    upsert nameOf name fresh change items = upsert nameOf name other change items := by
  rcases forall_ne_or_exists_first nameOf name items with
    others | ⟨front, b, rest, rfl, others, named⟩
  · obtain ⟨a, member, same⟩ := List.mem_map.mp present
    exact absurd same (others a member)
  · rw [upsert_append_cons nameOf name fresh change front b rest others named,
      upsert_append_cons nameOf name other change front b rest others named]

/-- A change that changes nothing, under a name that is there, leaves the list as it is. -/
theorem upsert_of_forall_eq (nameOf : α → κ) (name : κ) (fresh : α) (change : α → α)
    (items : List α) (present : name ∈ items.map nameOf) (same : ∀ a, change a = a) :
    upsert nameOf name fresh change items = items := by
  rcases forall_ne_or_exists_first nameOf name items with
    others | ⟨front, b, rest, rfl, others, named⟩
  · obtain ⟨a, member, here⟩ := List.mem_map.mp present
    exact absurd here (others a member)
  · rw [upsert_append_cons nameOf name fresh change front b rest others named, same]

/-- An element of another name in front stays. -/
theorem erase_cons_of_ne (nameOf : α → κ) (name : κ) (a : α) (rest : List α)
    (other : nameOf a ≠ name) :
    erase nameOf name (a :: rest) = a :: erase nameOf name rest := by
  simp [erase, other]

/-- A name can be looked up exactly when an element has it. -/
theorem isSome_get?_iff (nameOf : α → κ) (name : κ) (items : List α) :
    (get? nameOf name items).isSome = true ↔ name ∈ items.map nameOf := by
  simp [get?, List.find?_isSome]

/-- What a lookup gives is an element of the name. -/
theorem of_get?_eq_some (nameOf : α → κ) (name : κ) (items : List α) {a : α}
    (found : get? nameOf name items = some a) : a ∈ items ∧ nameOf a = name := by
  refine ⟨List.mem_of_find?_eq_some found, ?_⟩
  have holds := List.find?_some found
  simpa using holds

end Roster

end IniKeeper
