import Mathlib.Data.List.Forall2
import LowLatencyBlocks.Library.Buffer
import LowLatencyBlocks.Library.Records

/-!
# Interrupted writes

A write that is cut short leaves each byte of its range as it was or as it
should become, in any mixture.  Over zeros an interrupted length reads as a
smaller length, so that an interrupted record of a log is again one record, of a
payload that is no longer than the one meant.
-/

namespace Library

/-- Each cell holds what it held before the write or what it holds behind it. -/
def Torn {α : Type} (buffer : Buffer α) (start : Nat) (values : List α)
    (torn : Buffer α) : Prop :=
  ∀ position,
    torn position = buffer position ∨
      torn position = buffer.write start values position

/-- Some of the bytes were set to zero. -/
def Cleared (left whole : List UInt8) : Prop :=
  List.Forall₂ (fun byte meant => byte = meant ∨ byte = 0) left whole

/-- What an interrupted record leaves: the bytes of its length, then those of
its payload, some of them cleared and the last ones, when the length has become
smaller, missing. -/
structure Remains (width : Nat) (left payload : List UInt8) : Prop where
  length :
    Cleared (littleEndianBytes width left.length)
      (littleEndianBytes width payload.length)
  content : Cleared left (payload.take left.length)

/-- From `start` up to `limit` the buffer holds zeros. -/
def ZeroFrom (buffer : Buffer UInt8) (start limit : Nat) : Prop :=
  ∀ position, start ≤ position → position < limit → buffer position = 0

section Cells

variable {buffer torn : Buffer UInt8} {start limit : Nat}
  {values : List UInt8}

theorem Torn.complete (buffer : Buffer UInt8) (start : Nat)
    (values : List UInt8) :
    Torn buffer start values (buffer.write start values) :=
  fun _ => .inr rfl

theorem Torn.before
    (interrupted : Torn buffer start values torn) {position : Nat}
    (earlier : position < start) : torn position = buffer position := by
  rcases interrupted position with kept | written
  · exact kept
  · rw [written, Buffer.write_of_lt earlier]

theorem Torn.behind
    (interrupted : Torn buffer start values torn) {position : Nat}
    (later : start + values.length ≤ position) :
    torn position = buffer position := by
  rcases interrupted position with kept | written
  · exact kept
  · rw [written, Buffer.write_of_ge later]

/-- Over zeros, the range of an interrupted write holds the bytes meant, some of
them cleared. -/
theorem Torn.cleared
    (interrupted : Torn buffer start values torn)
    (zero : ZeroFrom buffer start (start + values.length)) :
    Cleared (torn.cells start values.length) values := by
  apply List.forall₂_iff_get.mpr
  refine ⟨Buffer.length_cells, ?_⟩
  intro index inside insideValues
  have cell :
      (torn.cells start values.length).get ⟨index, inside⟩ =
        torn (start + index) := by
    simp [Buffer.cells]
  rw [cell]
  rcases interrupted (start + index) with kept | written
  · right
    rw [kept]
    exact zero _ (Nat.le_add_right _ _) (by omega)
  · left
    rw [written, Buffer.write_of_inside insideValues]
    rfl

theorem cells_of_zeroFrom (zero : ZeroFrom buffer start limit) :
    buffer.cells start (limit - start) =
      List.replicate (limit - start) 0 := by
  apply List.eq_replicate_iff.mpr
  refine ⟨Buffer.length_cells, ?_⟩
  intro byte member
  obtain ⟨index, inside, rfl⟩ := List.mem_map.mp member
  have small := List.mem_range.mp inside
  exact zero _ (Nat.le_add_right _ _) (by omega)

end Cells

/-! ## Cleared lengths -/

/-- A number whose bytes are partly cleared is no larger. -/
theorem fromLittleEndian_le_of_cleared
    {left whole : List UInt8} (cleared : Cleared left whole) :
    fromLittleEndian left ≤ fromLittleEndian whole := by
  induction cleared with
  | nil =>
      exact Nat.le_refl 0
  | cons byte _ inductionHypothesis =>
      rw [fromLittleEndian, fromLittleEndian]
      rcases byte with rfl | rfl
      · omega
      · rw [UInt8.toNat_zero]
        omega

theorem littleEndianBytes_fromLittleEndian (bytes : List UInt8) :
    littleEndianBytes bytes.length (fromLittleEndian bytes) = bytes := by
  induction bytes with
  | nil =>
      rfl
  | cons byte bytes inductionHypothesis =>
      have low : byte.toNat < 256 := byte.toNat_lt
      have higher :
          (byte.toNat + 256 * fromLittleEndian bytes) / 256 =
            fromLittleEndian bytes := by
        omega
      have lowest :
          UInt8.ofNat (byte.toNat + 256 * fromLittleEndian bytes) =
            byte := by
        apply UInt8.toNat_inj.mp
        rw [UInt8.toNat_ofNat']
        omega
      rw [List.length_cons, fromLittleEndian, littleEndianBytes, higher,
        lowest, inductionHypothesis]

theorem cleared_replicate_zero (whole : List UInt8) :
    Cleared (List.replicate whole.length 0) whole := by
  induction whole with
  | nil =>
      exact List.Forall₂.nil
  | cons byte whole inductionHypothesis =>
      exact List.Forall₂.cons (.inr rfl) inductionHypothesis

theorem Cleared.refl (whole : List UInt8) : Cleared whole whole :=
  List.forall₂_same.mpr fun _ _ => .inl rfl

/-! ## Interrupted records -/

section Records

variable {buffer torn : Buffer UInt8} {width start limit : Nat}
  {payload : List UInt8}

/-- A length, its payload and zeros are a record and zeros. -/
theorem cells_of_record
    (room : start + width + payload.length ≤ limit)
    (length :
      torn.cells start width = littleEndianBytes width payload.length)
    (content : torn.cells (start + width) payload.length = payload)
    (zero : ZeroFrom torn (start + width + payload.length) limit) :
    torn.cells start (limit - start) =
      record width payload ++
        List.replicate (limit - (start + width + payload.length)) 0 := by
  have split :
      limit - start =
        width + payload.length +
          (limit - (start + width + payload.length)) := by
    omega
  rw [split, Buffer.cells_append, Buffer.cells_append, length, content,
    ← Nat.add_assoc, cells_of_zeroFrom zero, record]

/-- Over zeros, an interrupted length is the length of a record of zeros. -/
theorem Torn.record_of_length
    (fits : payload.length < 256 ^ width)
    (room : start + width + payload.length ≤ limit)
    (zero : ZeroFrom buffer start limit)
    (interrupted :
      Torn buffer start (littleEndianBytes width payload.length) torn) :
    ∃ left zeros,
      torn.cells start (limit - start) =
          record width left ++ List.replicate zeros 0 ∧
        Remains width left payload := by
  have widthBytes := length_littleEndianBytes width payload.length
  have cleared := interrupted.cleared fun position after before =>
    zero position after (by omega)
  rw [widthBytes] at cleared
  have smaller := fromLittleEndian_le_of_cleared cleared
  rw [fromLittleEndian_littleEndianBytes fits] at smaller
  obtain ⟨length, lengthDef⟩ :
      ∃ length, length = fromLittleEndian (torn.cells start width) :=
    ⟨_, rfl⟩
  have shorter : length ≤ payload.length := lengthDef ▸ smaller
  have tornZero : ZeroFrom torn (start + width) limit := by
    intro position after before
    rw [interrupted.behind (by omega)]
    exact zero position (by omega) before
  have bytes :
      torn.cells start width =
        littleEndianBytes width (List.replicate length (0 : UInt8)).length := by
    have same :=
      littleEndianBytes_fromLittleEndian (torn.cells start width)
    rw [Buffer.length_cells, ← lengthDef] at same
    rw [List.length_replicate, same]
  have content :
      torn.cells (start + width)
          (List.replicate length (0 : UInt8)).length =
        List.replicate length 0 := by
    have inside : ZeroFrom torn (start + width) (start + width + length) :=
      fun position after before => tornZero position after (by omega)
    have zeros := cells_of_zeroFrom inside
    rw [Nat.add_sub_cancel_left] at zeros
    rw [List.length_replicate, zeros]
  have zeroPayload :
      Cleared (List.replicate length 0)
        (payload.take (List.replicate length (0 : UInt8)).length) := by
    have taken : (payload.take length).length = length := by
      rw [List.length_take]
      omega
    have zeros := cleared_replicate_zero (payload.take length)
    rw [taken] at zeros
    rw [List.length_replicate]
    exact zeros
  have cells :=
    cells_of_record (by rw [List.length_replicate]; omega) bytes content
      fun position after before =>
        tornZero position (by omega) before
  rw [bytes] at cleared
  exact ⟨_, _, cells, ⟨cleared, zeroPayload⟩⟩

/-- Over zeros, an interrupted payload is a payload of the same length. -/
theorem Torn.record_of_payload
    (room : start + width + payload.length ≤ limit)
    (length :
      buffer.cells start width = littleEndianBytes width payload.length)
    (zero : ZeroFrom buffer (start + width) limit)
    (interrupted : Torn buffer (start + width) payload torn) :
    ∃ left zeros,
      torn.cells start (limit - start) =
          record width left ++ List.replicate zeros 0 ∧
        Remains width left payload := by
  have sameLength :
      (torn.cells (start + width) payload.length).length =
        payload.length :=
    Buffer.length_cells
  have cleared := interrupted.cleared fun position after before =>
    zero position after (by omega)
  have sameBytes :
      torn.cells start width =
        littleEndianBytes width
          (torn.cells (start + width) payload.length).length := by
    rw [sameLength, ← length]
    apply Buffer.cells_congr
    intro position _ before
    exact interrupted.before before
  have tornZero :
      ZeroFrom torn
        (start + width +
          (torn.cells (start + width) payload.length).length) limit := by
    rw [sameLength]
    intro position after before
    rw [interrupted.behind after]
    exact zero position (by omega) before
  have cells :=
    cells_of_record (by rw [sameLength]; exact room) sameBytes
      (by rw [sameLength]) tornZero
  refine ⟨_, _, cells, ?_, ?_⟩
  · rw [sameLength]
    exact Cleared.refl _
  · rw [sameLength, List.take_length]
    exact cleared

end Records

end Library
