import Mathlib.Data.List.Nodup

/-!
# Lists kept as sets

Two idioms keep a list free of repetitions without sorting it: an element is
searched for and pushed only when it is missing, and all its occurrences are
removed together.  Membership is all that the users of such a list need.
-/

namespace Library

universe u

variable {α : Type u} [DecidableEq α]

/-- Push the element unless the search finds it. -/
def findOrPush (items : List α) (item : α) : List α :=
  if item ∈ items then items else items ++ [item]

/-- Remove every occurrence of the element. -/
def eraseRemove (items : List α) (item : α) : List α :=
  items.filter fun other => other ≠ item

theorem mem_findOrPush {items : List α} {item other : α} :
    other ∈ findOrPush items item ↔ other ∈ items ∨ other = item := by
  rw [findOrPush]
  by_cases present : item ∈ items
  · rw [if_pos present]
    constructor
    · exact Or.inl
    · rintro (member | rfl)
      · exact member
      · exact present
  · rw [if_neg present, List.mem_append, List.mem_singleton]

theorem nodup_findOrPush {items : List α} (nodup : items.Nodup) (item : α) :
    (findOrPush items item).Nodup := by
  rw [findOrPush]
  by_cases present : item ∈ items
  · rw [if_pos present]
    exact nodup
  · rw [if_neg present]
    refine List.nodup_append.mpr ⟨nodup, List.nodup_singleton item, ?_⟩
    rintro earlier member last lastMember rfl
    rw [List.mem_singleton] at lastMember
    exact present (lastMember ▸ member)

theorem mem_eraseRemove {items : List α} {item other : α} :
    other ∈ eraseRemove items item ↔ other ∈ items ∧ other ≠ item := by
  rw [eraseRemove, List.mem_filter, decide_eq_true_eq]

/-! ## Several elements in turn -/

def findOrPushAll (items added : List α) : List α :=
  added.foldl findOrPush items

def eraseRemoveAll (items gone : List α) : List α :=
  gone.foldl eraseRemove items

@[simp]
theorem findOrPushAll_nil (items : List α) :
    findOrPushAll items [] = items :=
  rfl

@[simp]
theorem findOrPushAll_cons (items : List α) (item : α) (added : List α) :
    findOrPushAll items (item :: added) =
      findOrPushAll (findOrPush items item) added :=
  rfl

theorem findOrPushAll_append (items first second : List α) :
    findOrPushAll items (first ++ second) =
      findOrPushAll (findOrPushAll items first) second :=
  List.foldl_append

@[simp]
theorem eraseRemoveAll_nil_right (items : List α) :
    eraseRemoveAll items [] = items :=
  rfl

@[simp]
theorem eraseRemoveAll_cons (items : List α) (item : α) (gone : List α) :
    eraseRemoveAll items (item :: gone) =
      eraseRemoveAll (eraseRemove items item) gone :=
  rfl

theorem mem_findOrPushAll {items added : List α} {item : α} :
    item ∈ findOrPushAll items added ↔ item ∈ items ∨ item ∈ added := by
  induction added generalizing items with
  | nil =>
      simp
  | cons first rest inductionHypothesis =>
      rw [findOrPushAll_cons, inductionHypothesis, mem_findOrPush,
        List.mem_cons, or_assoc]

theorem nodup_findOrPushAll
    {items : List α} (nodup : items.Nodup) (added : List α) :
    (findOrPushAll items added).Nodup := by
  induction added generalizing items with
  | nil =>
      exact nodup
  | cons first rest inductionHypothesis =>
      exact inductionHypothesis (nodup_findOrPush nodup first)

theorem mem_eraseRemoveAll {items gone : List α} {item : α} :
    item ∈ eraseRemoveAll items gone ↔ item ∈ items ∧ item ∉ gone := by
  induction gone generalizing items with
  | nil =>
      simp
  | cons first rest inductionHypothesis =>
      rw [eraseRemoveAll_cons, inductionHypothesis, mem_eraseRemove,
        List.mem_cons, not_or, and_assoc]

theorem nodup_eraseRemoveAll
    {items : List α} (nodup : items.Nodup) (gone : List α) :
    (eraseRemoveAll items gone).Nodup := by
  induction gone generalizing items with
  | nil =>
      exact nodup
  | cons first rest inductionHypothesis =>
      exact inductionHypothesis (nodup.filter _)

theorem eraseRemoveAll_nil_left (gone : List α) :
    eraseRemoveAll [] gone = [] := by
  apply List.eq_nil_iff_forall_not_mem.mpr
  intro item member
  obtain ⟨absent, _⟩ := mem_eraseRemoveAll.mp member
  exact List.not_mem_nil absent

end Library
