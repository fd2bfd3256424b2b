import Mathlib.Data.Finset.Basic
import Mathlib.Data.Finset.Lattice.Lemmas
import Mathlib.Logic.Function.Basic

/-!
# Open resources and who holds them

Every holder has a place for one resource, which is `null` while it holds none.
What is open is held by exactly one holder, or by none at all: it is stray then,
and nobody will close it.  Closing `null` does nothing.
-/

namespace Library

universe u v

/-- The open resources are those held, each once, and the stray ones. -/
structure Owned
    {Holder : Type u} {Resource : Type v} (null : Resource)
    (held : Holder → Resource) (opened stray : Finset Resource) : Prop where
  nullClosed : null ∉ opened
  mem_iff : ∀ resource,
    resource ∈ opened ↔
      resource ∈ stray ∨
        resource ≠ null ∧ ∃ holder, held holder = resource
  once : ∀ {holder other : Holder},
    held holder = held other → held holder ≠ null → holder = other
  apart : ∀ holder, held holder ∉ stray

namespace Owned

variable {Holder : Type u} {Resource : Type v} {null resource : Resource}
  {held : Holder → Resource} {opened stray : Finset Resource}

/-- What is held is open. -/
theorem mem_of_held
    (owned : Owned null held opened stray) {holder : Holder}
    (holds : held holder ≠ null) : held holder ∈ opened :=
  (owned.mem_iff _).mpr (Or.inr ⟨holds, holder, rfl⟩)

theorem null_notMem_stray (owned : Owned null held opened stray) :
    null ∉ stray :=
  fun member => owned.nullClosed ((owned.mem_iff null).mpr (Or.inl member))

/-- Nobody holds a resource that is not open. -/
theorem held_ne_of_notMem
    (owned : Owned null held opened stray) (closed : resource ∉ opened)
    (holder : Holder) (notNull : resource ≠ null) :
    held holder ≠ resource := by
  intro same
  exact closed ((owned.mem_iff resource).mpr (Or.inr ⟨notNull, holder, same⟩))

variable [DecidableEq Resource]

/-- A holder closes what it holds. -/
theorem release
    [DecidableEq Holder] (owned : Owned null held opened stray)
    (holder : Holder) :
    Owned null (Function.update held holder null)
      (opened.erase (held holder)) stray where
  nullClosed := fun member => owned.nullClosed (Finset.mem_of_mem_erase member)
  mem_iff := by
    intro resource
    rw [Finset.mem_erase, owned.mem_iff]
    constructor
    · intro kept
      obtain ⟨different, isStray | ⟨notNull, other, holds⟩⟩ := kept
      · exact Or.inl isStray
      · have apart : other ≠ holder := by
          intro same
          rw [← holds, same] at different
          exact different rfl
        refine Or.inr ⟨notNull, other, ?_⟩
        rw [Function.update_of_ne apart]
        exact holds
    · intro kept
      rcases kept with isStray | ⟨notNull, other, holds⟩
      · refine ⟨?_, Or.inl isStray⟩
        intro same
        rw [same] at isStray
        exact owned.apart holder isStray
      · have apart : other ≠ holder := by
          intro same
          rw [same, Function.update_self] at holds
          exact notNull holds.symm
        rw [Function.update_of_ne apart] at holds
        refine ⟨?_, Or.inr ⟨notNull, other, holds⟩⟩
        intro same
        have holdsSame := holds.trans same
        rw [← holds] at notNull
        exact apart (owned.once holdsSame notNull)
  once := by
    intro first second same notNull
    by_cases isFirst : first = holder
    · rw [isFirst, Function.update_self] at notNull
      exact absurd rfl notNull
    · rw [Function.update_of_ne isFirst] at same notNull
      by_cases isSecond : second = holder
      · rw [isSecond, Function.update_self] at same
        exact absurd same notNull
      · rw [Function.update_of_ne isSecond] at same
        exact owned.once same notNull
  apart := by
    intro other
    by_cases same : other = holder
    · rw [same, Function.update_self]
      exact owned.null_notMem_stray
    · rw [Function.update_of_ne same]
      exact owned.apart other

/-- A holder of nothing is given `null`, or a resource that was not open. -/
theorem acquire
    [DecidableEq Holder] (owned : Owned null held opened stray)
    {holder : Holder} (nothing : held holder = null) (closed : resource ∉ opened) :
    Owned null (Function.update held holder resource)
      (if resource = null then opened else insert resource opened) stray := by
  by_cases isNull : resource = null
  · rw [if_pos isNull, isNull, ← nothing, Function.update_eq_self]
    rw [nothing]
    exact owned
  · rw [if_neg isNull]
    have others (other : Holder) : held other ≠ resource :=
      owned.held_ne_of_notMem closed other isNull
    refine ⟨?_, ?_, ?_, ?_⟩
    · intro member
      rcases Finset.mem_insert.mp member with same | opened
      · exact isNull same.symm
      · exact owned.nullClosed opened
    · intro candidate
      rw [Finset.mem_insert, owned.mem_iff]
      constructor
      · intro isOpen
        rcases isOpen with same | isStray | ⟨notNull, other, holds⟩
        · rw [same]
          exact Or.inr ⟨isNull, holder, Function.update_self _ _ _⟩
        · exact Or.inl isStray
        · have apart : other ≠ holder := by
            intro same
            rw [same, nothing] at holds
            exact notNull holds.symm
          refine Or.inr ⟨notNull, other, ?_⟩
          rw [Function.update_of_ne apart]
          exact holds
      · intro isOpen
        rcases isOpen with isStray | ⟨notNull, other, holds⟩
        · exact Or.inr (Or.inl isStray)
        · by_cases same : other = holder
          · rw [same, Function.update_self] at holds
            exact Or.inl holds.symm
          · rw [Function.update_of_ne same] at holds
            exact Or.inr (Or.inr ⟨notNull, other, holds⟩)
    · intro first second same notNull
      by_cases isFirst : first = holder
      · by_cases isSecond : second = holder
        · exact isFirst.trans isSecond.symm
        · rw [isFirst, Function.update_self,
            Function.update_of_ne isSecond] at same
          exact absurd same.symm (others second)
      · rw [Function.update_of_ne isFirst] at same notNull
        by_cases isSecond : second = holder
        · rw [isSecond, Function.update_self] at same
          exact absurd same (others first)
        · rw [Function.update_of_ne isSecond] at same
          exact owned.once same notNull
    · intro other
      by_cases same : other = holder
      · rw [same, Function.update_self]
        intro isStray
        exact closed ((owned.mem_iff resource).mpr (Or.inl isStray))
      · rw [Function.update_of_ne same]
        exact owned.apart other

/-- Resources are opened, and nobody keeps them. -/
theorem lose
    (owned : Owned null held opened stray) {lost : Finset Resource}
    (closed : ∀ resource ∈ lost, resource ∉ opened)
    (notNull : null ∉ lost) :
    Owned null held (opened ∪ lost) (stray ∪ lost) where
  nullClosed := by
    rw [Finset.mem_union]
    exact not_or.mpr ⟨owned.nullClosed, notNull⟩
  mem_iff := by
    intro resource
    rw [Finset.mem_union, Finset.mem_union, owned.mem_iff, or_right_comm]
  once := owned.once
  apart := by
    intro holder member
    rcases Finset.mem_union.mp member with isStray | isLost
    · exact owned.apart holder isStray
    · by_cases holds : held holder = null
      · rw [holds] at isLost
        exact notNull isLost
      · exact closed _ isLost (owned.mem_of_held holds)

/-- Taking one of these resources, and opening the rest, opens them all. -/
theorem opened_union_erase
    {acquired : Finset Resource}
    (taken : resource = null ∨ resource ∈ acquired)
    (notNull : null ∉ acquired) :
    (if resource = null then opened else insert resource opened) ∪
        acquired.erase resource =
      opened ∪ acquired := by
  by_cases isNull : resource = null
  · rw [if_pos isNull, isNull, Finset.erase_eq_of_notMem notNull]
  · have member := taken.resolve_left isNull
    rw [if_neg isNull, Finset.insert_union, ← Finset.union_insert,
      Finset.insert_erase member]

/-- A holder of nothing is given one of the resources just opened, or `null`;
nobody keeps the rest. -/
theorem acquireFrom
    [DecidableEq Holder] (owned : Owned null held opened stray)
    {holder : Holder} {acquired : Finset Resource}
    (nothing : held holder = null)
    (taken : resource = null ∨ resource ∈ acquired)
    (fresh : ∀ other ∈ acquired, other ∉ opened)
    (notNull : null ∉ acquired) :
    Owned null (Function.update held holder resource) (opened ∪ acquired)
      (stray ∪ acquired.erase resource) := by
  have closed : resource ∉ opened := by
    rcases taken with isNull | member
    · rw [isNull]
      exact owned.nullClosed
    · exact fresh resource member
  rw [← opened_union_erase taken notNull]
  apply (owned.acquire nothing closed).lose
  · intro other new isOpen
    obtain ⟨different, member⟩ := Finset.mem_erase.mp new
    by_cases isNull : resource = null
    · rw [if_pos isNull] at isOpen
      exact fresh other member isOpen
    · rw [if_neg isNull] at isOpen
      exact
        fresh other member
          ((Finset.mem_insert.mp isOpen).resolve_left different)
  · exact fun member => notNull (Finset.mem_of_mem_erase member)

end Owned

end Library
