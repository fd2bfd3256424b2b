import LowLatencyBlocks.BinaryLoggerRingBuffer.FileImage
import LowLatencyBlocks.Library.TornWrite

/-!
# A process killed in `log`

The mapping is shared, so that the file keeps what the process has written when
it is killed.  A `memcpy` that was under way has then copied some of its bytes.
`log` writes the length first, into the zeros behind the last record: what is
left reads as one record more, of a string that is no longer than the one
logged, and the records before it are whole.
-/

namespace LowLatencyBlocks

open Library

namespace BinaryLogger

/-- The mapping of a process that was killed in one of the two `memcpy` calls of
`log(str)`. -/
inductive Interrupted
    (logger : BinaryLogger) (bytes : Buffer UInt8) (str : List UInt8) :
    Buffer UInt8 → Prop
  | inLength {torn : Buffer UInt8} :
      ¬ logger.fileSize <
          logger.writePos + sizeofLen + (UInt32.ofNat str.length).toNat →
      Torn bytes logger.writePos
        (littleEndianBytes sizeofLen (UInt32.ofNat str.length).toNat)
        torn →
      Interrupted logger bytes str torn
  | inData {torn : Buffer UInt8} :
      ¬ logger.fileSize <
          logger.writePos + sizeofLen + (UInt32.ofNat str.length).toNat →
      Torn
        (bytes.write logger.writePos
          (littleEndianBytes sizeofLen (UInt32.ofNat str.length).toNat))
        (logger.writePos + sizeofLen)
        (str.take (UInt32.ofNat str.length).toNat) torn →
      Interrupted logger bytes str torn

section OneCall

variable {logger : BinaryLogger} {bytes torn : Buffer UInt8}
  {str : List UInt8}

theorem Interrupted.room
    (interrupted : Interrupted logger bytes str torn)
    (short : str.length < 2 ^ 32) :
    logger.writePos + sizeofLen + str.length ≤ logger.fileSize := by
  rw [← len_of_short short]
  cases interrupted with
  | inLength room _ | inData room _ =>
      exact Nat.not_lt.mp room

/-- What was written before is still there. -/
theorem Interrupted.before
    (interrupted : Interrupted logger bytes str torn) {position : Nat}
    (earlier : position < logger.writePos) :
    torn position = bytes position := by
  cases interrupted with
  | inLength _ interrupted =>
      exact interrupted.before earlier
  | inData _ interrupted =>
      rw [interrupted.before (Nat.lt_add_right _ earlier),
        Buffer.write_of_lt earlier]

/-- Over zeros, an interrupted call leaves one record. -/
theorem Interrupted.record
    (interrupted : Interrupted logger bytes str torn)
    (short : str.length < 2 ^ 32)
    (zero : ZeroFrom bytes logger.writePos logger.fileSize) :
    ∃ left zeros,
      torn.cells logger.writePos (logger.fileSize - logger.writePos) =
          Library.record sizeofLen left ++ List.replicate zeros 0 ∧
        Remains sizeofLen left str := by
  have room := interrupted.room short
  have fits : str.length < 256 ^ sizeofLen := short
  cases interrupted with
  | inLength _ interrupted =>
      rw [len_of_short short] at interrupted
      exact interrupted.record_of_length fits room zero
  | inData _ interrupted =>
      rw [len_of_short short, List.take_length] at interrupted
      have widthBytes := length_littleEndianBytes sizeofLen str.length
      have length :
          (bytes.write logger.writePos
                (littleEndianBytes sizeofLen str.length)).cells
              logger.writePos sizeofLen =
            littleEndianBytes sizeofLen str.length := by
        have written :
            (bytes.write logger.writePos
                  (littleEndianBytes sizeofLen str.length)).cells
                logger.writePos
                (littleEndianBytes sizeofLen str.length).length =
              littleEndianBytes sizeofLen str.length :=
          Buffer.cells_write_self
        rw [widthBytes] at written
        exact written
      apply interrupted.record_of_payload room length
      intro position after before
      rw [Buffer.write_of_ge (by rw [widthBytes]; exact after)]
      exact zero position (by omega) before

end OneCall

end BinaryLogger

end LowLatencyBlocks
