import IniKeeper.Proofs.Occurrences

/-!
# Laws of lists of named things

Where names are distinct, looking up, putting and removing an element are told by which elements
there are afterwards. Names can also be taken over from another list, those that are new behind the
old ones.
-/

namespace IniKeeper

namespace Roster

universe u v

variable {α : Type u} {κ : Type v} [DecidableEq κ]

/-! ### Elements of distinct names -/

/-- Where names are distinct, a lookup gives the element of a name. -/
theorem get?_eq_some_iff {nameOf : α → κ} {items : List α}
    (distinct : (items.map nameOf).Nodup) {name : κ} {a : α} :
    get? nameOf name items = some a ↔ a ∈ items ∧ nameOf a = name := by
  constructor
  · exact of_get?_eq_some nameOf name items
  · rintro ⟨member, rfl⟩
    have present : (get? nameOf (nameOf a) items).isSome = true :=
      (isSome_get?_iff nameOf _ items).mpr (List.mem_map_of_mem member)
    obtain ⟨found, looked⟩ := Option.isSome_iff_exists.mp present
    obtain ⟨inside, same⟩ := of_get?_eq_some nameOf _ items looked
    rw [looked, List.inj_on_of_nodup_map distinct inside member same]

/-- Where names are distinct, putting an element replaces the one of its name and no other. -/
theorem mem_upsert_put_iff (nameOf : α → κ) (fresh item : α) {items : List α} {a : α}
    (distinct : (items.map nameOf).Nodup) :
    a ∈ upsert nameOf (nameOf item) fresh (fun _ => item) items ↔
      a = item ∨ a ∈ items ∧ nameOf a ≠ nameOf item := by
  rcases forall_ne_or_exists_first nameOf (nameOf item) items with
    others | ⟨front, b, rest, rfl, others, named⟩
  · rw [upsert_of_forall_ne nameOf _ fresh _ items others, List.mem_append, List.mem_singleton]
    constructor
    · rintro (old | rfl)
      · exact .inr ⟨old, others a old⟩
      · exact .inl rfl
    · rintro (rfl | ⟨old, -⟩)
      · exact .inr rfl
      · exact .inl old
  · rw [List.map_append, List.map_cons, List.nodup_append, List.nodup_cons] at distinct
    obtain ⟨-, ⟨notBehind, -⟩, -⟩ := distinct
    have behind : ∀ c ∈ rest, nameOf c ≠ nameOf item := by
      intro c member same
      exact notBehind (named.trans same.symm ▸ List.mem_map_of_mem member)
    rw [upsert_append_cons nameOf _ fresh _ front b rest others named]
    simp only [List.mem_append, List.mem_cons]
    constructor
    · rintro (old | rfl | old)
      · exact .inr ⟨.inl old, others a old⟩
      · exact .inl rfl
      · exact .inr ⟨.inr (.inr old), behind a old⟩
    · rintro (rfl | ⟨old | rfl | old, different⟩)
      · exact .inr (.inl rfl)
      · exact .inl old
      · exact absurd named different
      · exact .inr (.inr old)

/-- Of two elements put under one name the second counts. -/
theorem upsert_put_put (nameOf : α → κ) {name : κ} (fresh other first second : α)
    (named : nameOf first = name) (items : List α) :
    upsert nameOf name fresh (fun _ => second)
        (upsert nameOf name other (fun _ => first) items) =
      upsert nameOf name fresh (fun _ => second) items := by
  induction items with
  | nil => simp [upsert, named]
  | cons a rest ih =>
    by_cases here : nameOf a = name
    · simp [upsert, here, named]
    · simp [upsert, here, ih]

/-- An element put under a name of which nothing is picked leaves what is picked. -/
theorem filterMap_upsert_of_none {β : Type} (nameOf : α → κ) (name : κ) (fresh item : α)
    {pick : α → Option β} (new : pick item = none) (old : ∀ a, nameOf a = name → pick a = none)
    (items : List α) :
    (upsert nameOf name fresh (fun _ => item) items).filterMap pick = items.filterMap pick := by
  induction items with
  | nil => simp [upsert, new]
  | cons a rest ih =>
    by_cases here : nameOf a = name
    · simp [upsert, here, new, old a here]
    · simp only [upsert, here, if_false, List.filterMap_cons, ih]

/-- An element put under a name adds at most one to what is picked. -/
theorem length_filterMap_upsert_le {β : Type} (nameOf : α → κ) (name : κ) (fresh item : α)
    (pick : α → Option β) (items : List α) :
    ((upsert nameOf name fresh (fun _ => item) items).filterMap pick).length ≤
      (items.filterMap pick).length + 1 := by
  induction items with
  | nil => exact List.length_filterMap_le pick [item]
  | cons a rest ih =>
    by_cases here : nameOf a = name
    · have front : upsert nameOf name fresh (fun _ => item) (a :: rest) = item :: rest :=
        if_pos here
      have old : (rest.filterMap pick).length ≤ ((a :: rest).filterMap pick).length :=
        ((List.sublist_cons_self a rest).filterMap pick).length_le
      have new : ((item :: rest).filterMap pick).length ≤ (rest.filterMap pick).length + 1 := by
        cases picked : pick item <;> simp [picked]
      rw [front]
      omega
    · have later : upsert nameOf name fresh (fun _ => item) (a :: rest) =
          a :: upsert nameOf name fresh (fun _ => item) rest := if_neg here
      rw [later]
      cases picked : pick a with
      | none => simpa [picked] using ih
      | some b => simpa [picked] using ih

/-- Where names are distinct, removing a name leaves the elements of the others. -/
theorem erase_eq_filter {nameOf : α → κ} {items : List α} (distinct : (items.map nameOf).Nodup)
    (name : κ) : erase nameOf name items = items.filter fun a => nameOf a ≠ name := by
  induction items with
  | nil => rfl
  | cons a rest ih =>
    rw [List.map_cons, List.nodup_cons] at distinct
    by_cases here : nameOf a = name
    · have others : ∀ b ∈ rest, decide (nameOf b ≠ name) = true := by
        intro b member
        apply decide_eq_true
        intro same
        exact distinct.1 (here.trans same.symm ▸ List.mem_map_of_mem member)
      rw [List.filter_cons_of_neg (by simpa using here), List.filter_eq_self.mpr others]
      simp [erase, here]
    · rw [erase_cons_of_ne nameOf name a rest here, ih distinct.2,
        List.filter_cons_of_pos (by simpa using here)]

/-! ### Elements of some names -/

/-- A change under a name that is wanted can be made among the elements of wanted names. -/
theorem filter_upsert_of_wanted (nameOf : α → κ) (name : κ) (fresh : α) (change : α → α)
    (items : List α) {wanted : κ → Bool} (isWanted : wanted name = true)
    (freshNamed : nameOf (change fresh) = name)
    (kept : ∀ a ∈ items, nameOf a = name → nameOf (change a) = name) :
    (upsert nameOf name fresh change items).filter (fun a => wanted (nameOf a)) =
      upsert nameOf name fresh change (items.filter fun a => wanted (nameOf a)) := by
  induction items with
  | nil => simp [upsert, freshNamed, isWanted]
  | cons a rest ih =>
    have step := ih fun b member => kept b (List.mem_cons_of_mem a member)
    by_cases here : nameOf a = name
    · have changed := kept a List.mem_cons_self here
      simp [upsert, here, changed, isWanted]
    · cases wants : wanted (nameOf a) with
      | true => simp [upsert, here, wants, step]
      | false => simp [upsert, here, wants, step]

/-- A change under another name leaves the elements of wanted names as they are. -/
theorem filter_upsert_of_unwanted (nameOf : α → κ) (name : κ) (fresh : α) (change : α → α)
    (items : List α) {wanted : κ → Bool} (unwanted : wanted name = false)
    (freshNamed : nameOf (change fresh) = name)
    (kept : ∀ a ∈ items, nameOf a = name → nameOf (change a) = name) :
    (upsert nameOf name fresh change items).filter (fun a => wanted (nameOf a)) =
      items.filter fun a => wanted (nameOf a) := by
  induction items with
  | nil => simp [upsert, freshNamed, unwanted]
  | cons a rest ih =>
    have step := ih fun b member => kept b (List.mem_cons_of_mem a member)
    by_cases here : nameOf a = name
    · have changed := kept a List.mem_cons_self here
      simp [upsert, here, changed, unwanted]
    · simp [upsert, here, step, List.filter_cons]

/-! ### Elements that are mapped -/

/-- A change of the element of a name can be made after a map that keeps the name. -/
theorem map_upsert {β : Type u} {nameOf : α → κ} {labelOf : β → κ} {name : κ} {fresh : α}
    {bare : β} {change : α → α} {edit : β → β} (map : α → β)
    (named : ∀ a, labelOf (map a) = name ↔ nameOf a = name)
    (new : map (change fresh) = edit bare) {items : List α}
    (again : ∀ a ∈ items, nameOf a = name → map (change a) = edit (map a)) :
    (upsert nameOf name fresh change items).map map =
      upsert labelOf name bare edit (items.map map) := by
  induction items with
  | nil => simp [upsert, new]
  | cons a rest ih =>
    have step := ih fun b member => again b (List.mem_cons_of_mem a member)
    by_cases here : nameOf a = name
    · simp [upsert, here, (named a).mpr here, again a List.mem_cons_self here]
    · have other : ¬ labelOf (map a) = name := fun same => here ((named a).mp same)
      simp [upsert, here, other, step]

/-! ### Names taken over from others -/

/-- Some names, and behind them those of others that are not among them, in order. -/
def extend (names others : List κ) : List κ := names ++ others.filter (· ∉ names)

/-- The names of a list extended by others are those of both. -/
theorem mem_extend {name : κ} {names others : List κ} :
    name ∈ extend names others ↔ name ∈ names ∨ name ∈ others := by
  by_cases member : name ∈ names <;> simp [extend, member]

/-- Extending a list of names adds as many as are not there. -/
theorem length_extend (names others : List κ) :
    (extend names others).length = names.length + others.countP (· ∉ names) := by
  rw [extend, List.length_append, List.countP_eq_length_filter]

/-- Distinct names that are extended by distinct names stay distinct. -/
theorem nodup_extend {names others : List κ} (distinct : names.Nodup) (further : others.Nodup) :
    (extend names others).Nodup := by
  rw [extend, List.nodup_append]
  refine ⟨distinct, further.sublist List.filter_sublist, ?_⟩
  rintro name member other behind rfl
  have absent := (List.mem_filter.mp behind).2
  simp [member] at absent

/-- Extending a list by names that are all there adds nothing. -/
theorem extend_of_subset {names others : List κ} (present : ∀ name ∈ others, name ∈ names) :
    extend names others = names := by
  have nothing : others.filter (· ∉ names) = [] :=
    List.filter_eq_nil_iff.mpr fun name member => by simpa using present name member
  rw [extend, nothing, List.append_nil]

/-- A name joins names that were extended as it joins the others beforehand. -/
theorem enroll_extend (name : κ) (names others : List κ) :
    enroll name (extend names others) = extend names (enroll name others) := by
  unfold extend
  rw [filter_enroll]
  by_cases inFront : name ∈ names
  · rw [if_neg (by simpa using inFront), enroll_of_mem (List.mem_append_left _ inFront)]
  · rw [if_pos (by simpa using inFront)]
    by_cases behind : name ∈ others.filter (· ∉ names)
    · rw [enroll_of_mem behind, enroll_of_mem (List.mem_append_right _ behind)]
    · have absent : name ∉ names ++ others.filter (· ∉ names) := fun member =>
        (List.mem_append.mp member).elim inFront behind
      rw [enroll_of_not_mem behind, enroll_of_not_mem absent, List.append_assoc]

end Roster

end IniKeeper
