import IniKeeper.Roster
import Mathlib.Data.List.Induction
import Mathlib.Data.List.Nodup

/-!
# First and last occurrences

What a list of things gives for a purpose can be asked for in two ways: which items come up, each
once and in the order in which they first do, and which item comes up last. One more thing at the
end changes the first by enrolling its item and the second by overriding it. A list made from such
items follows them when the element of one item is changed or added.
-/

namespace IniKeeper

universe u v

/-! ### First occurrences -/

namespace Roster

variable {α : Type u} {κ : Type v} [DecidableEq κ]

/-- First occurrences: one more element is enrolled. -/
theorem eraseDups_concat (names : List κ) (name : κ) :
    (names ++ [name]).eraseDups = enroll name names.eraseDups := by
  rw [List.eraseDups_append, enroll]
  by_cases present : name ∈ names
  · simp [List.removeAll, present, List.mem_eraseDups]
  · simp [List.removeAll, present, List.mem_eraseDups, List.eraseDups_cons]

/-- First occurrences are distinct. -/
theorem nodup_eraseDups (names : List κ) : names.eraseDups.Nodup := by
  induction names using List.reverseRecOn with
  | nil => simp
  | append_singleton names name ih =>
    rw [eraseDups_concat]
    exact nodup_enroll ih

/-- What is enrolled is filtered like any other element. -/
theorem filter_enroll (name : κ) (names : List κ) (wanted : κ → Bool) :
    (enroll name names).filter wanted =
      if wanted name then enroll name (names.filter wanted) else names.filter wanted := by
  by_cases present : name ∈ names
  · rw [enroll_of_mem present]
    split
    · rename_i kept
      rw [enroll_of_mem (List.mem_filter.mpr ⟨present, kept⟩)]
    · rfl
  · have absent : name ∉ names.filter wanted := fun member => present (List.mem_filter.mp member).1
    rw [enroll_of_not_mem present, enroll_of_not_mem absent, List.filter_append]
    split <;> simp_all

/-- Filtering and taking first occurrences go in either order. -/
theorem filter_eraseDups (names : List κ) (wanted : κ → Bool) :
    names.eraseDups.filter wanted = (names.filter wanted).eraseDups := by
  induction names using List.reverseRecOn with
  | nil => rfl
  | append_singleton names name ih =>
    rw [eraseDups_concat, filter_enroll, ih, List.filter_append]
    by_cases kept : wanted name = true
    · rw [if_pos kept, List.filter_cons_of_pos kept, List.filter_nil, eraseDups_concat]
    · rw [if_neg kept, List.filter_cons_of_neg kept, List.filter_nil, List.append_nil]

/-- Distinct elements are their own first occurrences. -/
theorem eraseDups_of_nodup {names : List κ} (distinct : names.Nodup) : names.eraseDups = names := by
  induction names using List.reverseRecOn with
  | nil => rfl
  | append_singleton names name ih =>
    rw [List.nodup_append] at distinct
    have absent : name ∉ names := fun member =>
      distinct.2.2 name member name (List.mem_singleton_self name) rfl
    rw [eraseDups_concat, ih distinct.1, enroll_of_not_mem absent]

/-- In a list that was made from distinct items, a change of the element of one item is a list made
from the items with that one enrolled. -/
theorem upsert_map {ι : Type v} [DecidableEq ι] (nameOf : α → κ) (name : κ) (fresh : α)
    (change : α → α) {items : List ι} {item : ι} {before after : ι → α} (distinct : items.Nodup)
    (others : ∀ other ∈ items, other ≠ item →
      nameOf (before other) ≠ name ∧ after other = before other)
    (here : item ∈ items → nameOf (before item) = name ∧ change (before item) = after item)
    (absent : item ∉ items → change fresh = after item) :
    upsert nameOf name fresh change (items.map before) = (enroll item items).map after := by
  by_cases present : item ∈ items
  · obtain ⟨front, rest, rfl⟩ := List.append_of_mem present
    obtain ⟨named, changed⟩ := here present
    rw [List.nodup_append, List.nodup_cons] at distinct
    obtain ⟨-, ⟨notBehind, -⟩, apart⟩ := distinct
    have inFront : ∀ other ∈ front, other ≠ item :=
      fun other member => apart other member item List.mem_cons_self
    have behind : ∀ other ∈ rest, other ≠ item :=
      fun other member same => notBehind (same ▸ member)
    have passed : ∀ a ∈ front.map before, nameOf a ≠ name := by
      intro a member
      obtain ⟨other, inside, rfl⟩ := List.mem_map.mp member
      exact (others other (by simp [inside]) (inFront other inside)).1
    have frontSame : front.map after = front.map before := List.map_congr_left fun other member =>
      (others other (by simp [member]) (inFront other member)).2
    have restSame : rest.map after = rest.map before := List.map_congr_left fun other member =>
      (others other (by simp [member]) (behind other member)).2
    rw [enroll_of_mem present, List.map_append, List.map_cons,
      upsert_append_cons nameOf name fresh change _ _ _ passed named, changed, List.map_append,
      List.map_cons, frontSame, restSame]
  · have different : ∀ other ∈ items, other ≠ item :=
      fun other member same => present (same ▸ member)
    have passed : ∀ a ∈ items.map before, nameOf a ≠ name := by
      intro a member
      obtain ⟨other, inside, rfl⟩ := List.mem_map.mp member
      exact (others other inside (different other inside)).1
    have same : items.map after = items.map before := List.map_congr_left fun other member =>
      (others other member (different other member)).2
    rw [enroll_of_not_mem present, upsert_of_forall_ne nameOf name fresh change _ passed,
      absent present, List.map_append, List.map_singleton, same]

end Roster

/-! ### What a list of things gives -/

namespace Occurrences

variable {α : Type u} {β : Type v}

/-- The items that a list of things gives, each once, in the order in which they come up first. -/
def firsts [DecidableEq β] (give : α → Option β) (things : List α) : List β :=
  (things.filterMap give).eraseDups

/-- The item that comes up last in a list of things. -/
def last (give : α → Option β) (things : List α) : Option β := (things.filterMap give).getLast?

/-- One more thing enrolls its item. -/
theorem firsts_concat_of_eq_some [DecidableEq β] {give : α → Option β} {thing : α} {item : β}
    (gives : give thing = some item) (things : List α) :
    firsts give (things ++ [thing]) = Roster.enroll item (firsts give things) := by
  rw [firsts, List.filterMap_append, List.filterMap_cons_some gives, List.filterMap_nil,
    Roster.eraseDups_concat, firsts]

/-- A thing without an item enrolls nothing. -/
theorem firsts_concat_of_eq_none [DecidableEq β] {give : α → Option β} {thing : α}
    (gives : give thing = none) (things : List α) :
    firsts give (things ++ [thing]) = firsts give things := by
  rw [firsts, List.filterMap_append, List.filterMap_cons_none gives, List.filterMap_nil,
    List.append_nil, firsts]

/-- The items that come up are distinct. -/
theorem nodup_firsts [DecidableEq β] (give : α → Option β) (things : List α) :
    (firsts give things).Nodup :=
  Roster.nodup_eraseDups _

/-- An item comes up when a thing gives it. -/
theorem mem_firsts [DecidableEq β] {give : α → Option β} {things : List α} {item : β} :
    item ∈ firsts give things ↔ ∃ thing ∈ things, give thing = some item := by
  rw [firsts, List.mem_eraseDups, List.mem_filterMap]

/-- One more thing overrides the last item with its own. -/
theorem last_concat (give : α → Option β) (things : List α) (thing : α) :
    last give (things ++ [thing]) = (give thing).or (last give things) := by
  rw [last, List.filterMap_append, List.getLast?_append, last]
  cases gives : give thing with
  | none => rw [List.filterMap_cons_none gives, List.filterMap_nil, List.getLast?_nil]
  | some item =>
    rw [List.filterMap_cons_some gives, List.filterMap_nil, List.getLast?_singleton]

/-- No item comes up last where no thing gives one. -/
theorem last_of_forall_eq_none {give : α → Option β} {things : List α}
    (silent : ∀ thing ∈ things, give thing = none) : last give things = none := by
  rw [last, List.filterMap_eq_nil_iff.mpr silent, List.getLast?_nil]

end Occurrences

end IniKeeper
