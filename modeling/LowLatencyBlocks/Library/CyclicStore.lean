import Mathlib.Algebra.Order.Interval.Finset.SuccPred
import Mathlib.Data.Finset.Card
import Mathlib.Data.List.Basic
import Mathlib.Data.Nat.ModEq
import Mathlib.Data.Nat.SuccPred
import Mathlib.Order.Interval.Finset.Nat

/-!
# A cyclic store of a growing log

Values are written one after another, the one at position `k` of the log into
slot `k % size` of a store of `size` slots.  Whatever the readers do, the store
always holds the last `size` values of the log; this is the only fact about the
slots that the queues built on such a store need.

The log may be ahead of the store by one write that has begun and is not
finished, whose slot holds anything.
-/

namespace Library

universe u

/-! ## Positions and slots -/

theorem eq_of_mod_eq_of_window
    {size first second : Nat}
    (same : first % size = second % size)
    (order : first ≤ second) (window : second < first + size) :
    first = second := by
  have divides : size ∣ second - first :=
    (Nat.modEq_iff_dvd' order).mp same
  have distance : second - first = 0 :=
    Nat.eq_zero_of_dvd_of_lt divides (by omega)
  omega

theorem mod_ne_of_window
    {size first second : Nat}
    (order : first < second) (window : second < first + size) :
    first % size ≠ second % size := by
  intro same
  have := eq_of_mod_eq_of_window same (Nat.le_of_lt order) window
  omega

theorem succ_slot (position size : Nat) :
    (position % size + 1) % size = (position + 1) % size :=
  Nat.mod_add_mod position size 1

theorem dvd_sub_of_mod_eq
    {size first second : Nat}
    (same : first % size = second % size) (order : first ≤ second) :
    size ∣ second - first :=
  (Nat.modEq_iff_dvd' order).mp same

theorem mod_eq_iff_dvd_sub
    {size first second : Nat} (order : first ≤ second) :
    first % size = second % size ↔ size ∣ second - first :=
  Nat.modEq_iff_dvd' order

/-! ## The slots of a window of positions -/

/-- The slots of the positions from `first` up to `last`. -/
def slotsOf (size first last : Nat) : Finset Nat :=
  (Finset.Ico first last).image (· % size)

section SlotsOf

variable {size first last : Nat}

theorem slotsOf_empty : slotsOf size first first = ∅ := by
  rw [slotsOf, Finset.Ico_self, Finset.image_empty]

theorem mem_slotsOf_self (order : first < last) :
    first % size ∈ slotsOf size first last :=
  Finset.mem_image_of_mem _ (Finset.mem_Ico.mpr ⟨Nat.le_refl _, order⟩)

theorem slotsOf_succ (order : first ≤ last) :
    slotsOf size first (last + 1) =
      insert (last % size) (slotsOf size first last) := by
  rw [slotsOf, ← Finset.insert_Ico_right_eq_Ico_add_one order, Finset.image_insert]
  rfl

theorem card_slotsOf (window : last ≤ first + size) :
    (slotsOf size first last).card = last - first := by
  have injective :
      Set.InjOn (fun position => position % size)
        (Finset.Ico first last) := by
    intro earlier earlierInside later laterInside same
    rw [Finset.coe_Ico, Set.mem_Ico] at earlierInside laterInside
    rcases Nat.le_total earlier later with order | order
    · exact eq_of_mod_eq_of_window same order (by omega)
    · exact (eq_of_mod_eq_of_window same.symm order (by omega)).symm
  rw [slotsOf, Finset.card_image_of_injOn injective, Nat.card_Ico]

/-- The slot behind a window that leaves one free. -/
theorem notMem_slotsOf_last (window : last < first + size) :
    last % size ∉ slotsOf size first last := by
  intro member
  obtain ⟨position, inside, same⟩ := Finset.mem_image.mp member
  obtain ⟨later, before⟩ := Finset.mem_Ico.mp inside
  exact mod_ne_of_window before (by omega) same

theorem slotsOf_erase_first
    (order : first < last) (window : last ≤ first + size) :
    (slotsOf size first last).erase (first % size) =
      slotsOf size (first + 1) last := by
  have outside : first % size ∉ slotsOf size (first + 1) last := by
    intro member
    obtain ⟨position, inside, same⟩ := Finset.mem_image.mp member
    obtain ⟨later, before⟩ := Finset.mem_Ico.mp inside
    exact mod_ne_of_window later (by omega) same.symm
  have split :
      slotsOf size first last =
        insert (first % size) (slotsOf size (first + 1) last) := by
    rw [slotsOf, ← Finset.insert_Ico_add_one_left_eq_Ico order, Finset.image_insert]
    rfl
  rw [split, Finset.erase_insert outside]

end SlotsOf

/-! ## The newest position of a slot -/

/-- The newest of `count` positions that shares its slot with `target`. -/
def newest (size target count : Nat) : Nat :=
  count - 1 - (count - 1 - target) % size

section Newest

variable {size target count : Nat}

theorem newest_lt (before : target < count) :
    newest size target count < count := by
  rw [newest]
  omega

theorem le_newest (before : target < count) :
    target ≤ newest size target count := by
  have bound : (count - 1 - target) % size ≤ count - 1 - target :=
    Nat.mod_le _ _
  rw [newest]
  omega

theorem newest_recent (positive : 0 < size) :
    count ≤ newest size target count + size := by
  have bound : (count - 1 - target) % size < size :=
    Nat.mod_lt _ positive
  rw [newest]
  omega

theorem newest_mod (before : target < count) :
    newest size target count % size = target % size := by
  have order : target ≤ newest size target count :=
    le_newest before
  have laps :
      newest size target count - target =
        (count - 1 - target) - (count - 1 - target) % size := by
    have bound : (count - 1 - target) % size ≤ count - 1 - target :=
      Nat.mod_le _ _
    rw [newest]
    omega
  have divides : size ∣ newest size target count - target := by
    rw [laps]
    exact Nat.dvd_sub_mod (count - 1 - target)
  exact ((mod_eq_iff_dvd_sub order).mpr divides).symm

/-- `newest` is the largest position that shares the slot. -/
theorem le_newest_of_mod_eq
    {position : Nat}
    (same : position % size = target % size)
    (before : position < count) (targetBefore : target < count) :
    position ≤ newest size target count := by
  have distances :
      (count - 1 - position) % size = (count - 1 - target) % size := by
    rcases Nat.le_total position target with earlier | later
    · have divides : size ∣ target - position :=
        dvd_sub_of_mod_eq same earlier
      refine (((mod_eq_iff_dvd_sub (by omega)).mpr ?_)).symm
      rwa [show count - 1 - position - (count - 1 - target) =
        target - position by omega]
    · have divides : size ∣ position - target :=
        dvd_sub_of_mod_eq same.symm later
      apply (mod_eq_iff_dvd_sub (by omega)).mpr
      rwa [show count - 1 - target - (count - 1 - position) =
        position - target by omega]
  have itself : position ≤ newest size position count :=
    le_newest before
  rwa [newest, distances] at itself

end Newest

/-! ## The store -/

section Store

variable {α : Type u} {store log : List α} {begun : Nat}

/-- Every finished write that no begun write has lapped is still in its
slot.  `begun` counts the writes begun, the unfinished one included. -/
def KeepsRecent (store log : List α) (begun : Nat) : Prop :=
  ∀ position,
    position < log.length →
    begun ≤ position + store.length →
    store[position % store.length]? = log[position]?

theorem keepsRecent_empty (store : List α) (begun : Nat) :
    KeepsRecent store [] begun := by
  intro position before
  simp at before

theorem KeepsRecent.begin
    (keeps : KeepsRecent store log begun) {later : Nat}
    (order : begun ≤ later) :
    KeepsRecent store log later := by
  intro position before recent
  exact keeps position before (Nat.le_trans order recent)

/-- The unfinished write may put anything into its own slot. -/
theorem KeepsRecent.overwrite
    (keeps : KeepsRecent store log (log.length + 1)) (value : α) :
    KeepsRecent
      (store.set (log.length % store.length) value)
      log (log.length + 1) := by
  intro position before recent
  rw [List.length_set] at recent ⊢
  have otherSlot :
      log.length % store.length ≠ position % store.length :=
    (mod_ne_of_window before (by omega)).symm
  rw [List.getElem?_set_ne otherSlot]
  exact keeps position before recent

theorem KeepsRecent.finish
    (keeps : KeepsRecent store log (log.length + 1)) {value : α}
    (written : store[log.length % store.length]? = some value) :
    KeepsRecent store (log ++ [value]) (log.length + 1) := by
  intro position before recent
  rw [List.length_append, List.length_singleton] at before
  rcases Nat.lt_or_ge position log.length with earlier | current
  · rw [List.getElem?_append_left earlier]
    exact keeps position earlier recent
  · have same : position = log.length := by omega
    subst same
    rw [written, List.getElem?_concat_length]

end Store

/-! ## A reader that may be lapped -/

section Lapped

variable {α : Type u} {size : Nat} {log taken : List α}
  {positions : List Nat}

/-- The values taken are those of the log at `positions`: in the order of the
log, none twice, and with whole laps of the store passed over. -/
structure TakenAt
    (size : Nat) (log taken : List α) (positions : List Nat) : Prop where
  values : taken.map some = positions.map fun position => log[position]?
  increasing : positions.Pairwise (· < ·)
  /-- A limit below which every position lies, in the slot next to be read. -/
  below :
    ∃ limit,
      limit ≤ log.length ∧ limit % size = taken.length % size ∧
        ∀ position ∈ positions, position < limit
  laps :
    ∀ index position,
      positions[index]? = some position →
      index ≤ position ∧ size ∣ position - index

namespace TakenAt

theorem empty : TakenAt size ([] : List α) [] [] where
  values := rfl
  increasing := List.Pairwise.nil
  below := ⟨0, Nat.le_refl 0, rfl, fun _ member => nomatch member⟩
  laps := by
    intro index position found
    simp at found

theorem length_eq (takenAt : TakenAt size log taken positions) :
    positions.length = taken.length := by
  have lengths := congrArg List.length takenAt.values
  rw [List.length_map, List.length_map] at lengths
  exact lengths.symm

theorem position_lt
    (takenAt : TakenAt size log taken positions)
    {position : Nat} (member : position ∈ positions) :
    position < log.length := by
  obtain ⟨limit, limitLe, _, below⟩ := takenAt.below
  exact Nat.lt_of_lt_of_le (below position member) limitLe

theorem write
    (takenAt : TakenAt size log taken positions) (value : α) :
    TakenAt size (log ++ [value]) taken positions where
  values := by
    rw [takenAt.values]
    apply List.map_congr_left
    intro position member
    exact
      (List.getElem?_append_left (takenAt.position_lt member)).symm
  increasing := takenAt.increasing
  below := by
    obtain ⟨limit, limitLe, phase, below⟩ := takenAt.below
    refine ⟨limit, ?_, phase, below⟩
    rw [List.length_append]
    omega
  laps := takenAt.laps

/-- The reader finds the newest value of its slot. -/
theorem take
    (takenAt : TakenAt size log taken positions)
    (order : taken.length ≤ log.length)
    (apart : ¬ size ∣ log.length - taken.length)
    {value : α}
    (found : log[newest size taken.length log.length]? = some value) :
    TakenAt size log (taken ++ [value])
      (positions ++ [newest size taken.length log.length]) := by
  obtain ⟨limit, limitLe, phase, below⟩ := takenAt.below
  have before : taken.length < log.length := by
    rcases Nat.lt_or_eq_of_le order with strict | equal
    · exact strict
    · rw [equal, Nat.sub_self] at apart
      exact absurd (Nat.dvd_zero size) apart
  have limitLt : limit < log.length := by
    apply Nat.lt_of_le_of_ne limitLe
    rintro rfl
    exact apart ((mod_eq_iff_dvd_sub order).mp phase.symm)
  have limitNewest : limit ≤ newest size taken.length log.length :=
    le_newest_of_mod_eq phase limitLt before
  have ordered : taken.length ≤ newest size taken.length log.length :=
    le_newest before
  have slot :
      newest size taken.length log.length % size =
        taken.length % size :=
    newest_mod before
  refine ⟨?_, ?_, ?_, ?_⟩
  · rw [List.map_append, List.map_append, takenAt.values,
      List.map_singleton, List.map_singleton, found]
  · refine List.pairwise_append.mpr
      ⟨takenAt.increasing, List.pairwise_singleton _ _, ?_⟩
    intro earlier earlierMember latest latestMember
    rw [List.mem_singleton] at latestMember
    have := below earlier earlierMember
    omega
  · refine ⟨newest size taken.length log.length + 1,
      newest_lt before, ?_, ?_⟩
    · rw [List.length_append, List.length_singleton,
        Nat.add_mod, slot, ← Nat.add_mod]
    · intro position member
      rcases List.mem_append.mp member with earlier | latest
      · have := below position earlier
        omega
      · rw [List.mem_singleton] at latest
        omega
  · intro index position here
    rcases Nat.lt_or_ge index positions.length with earlier | last
    · rw [List.getElem?_append_left earlier] at here
      exact takenAt.laps index position here
    · rw [List.getElem?_append_right last,
        List.getElem?_singleton] at here
      split at here
      · cases here
        have same : index = taken.length := by
          have := takenAt.length_eq
          omega
        rw [same]
        exact ⟨ordered, dvd_sub_of_mod_eq slot.symm ordered⟩
      · cases here

/-- Between two values taken in a row, whole laps are passed over. -/
theorem gap
    (takenAt : TakenAt size log taken positions)
    {index earlier later : Nat}
    (first : positions[index]? = some earlier)
    (second : positions[index + 1]? = some later) :
    size ∣ later - (earlier + 1) := by
  obtain ⟨firstOrder, firstLaps⟩ := takenAt.laps index earlier first
  obtain ⟨secondOrder, secondLaps⟩ :=
    takenAt.laps (index + 1) later second
  have difference :
      later - (earlier + 1) =
        (later - (index + 1)) - (earlier - index) := by
    omega
  rw [difference]
  exact Nat.dvd_sub secondLaps firstLaps

end TakenAt

end Lapped

end Library
