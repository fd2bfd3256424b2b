import LowLatencyBlocks.BinaryLoggerRingBuffer.BinaryLogger

/-!
# Strings of any length in the binary logger

`log` narrows the length of its string to 32 bits before it compares it with the
room in the file.  So a string is logged as its prefix of that length is: with a
mapping, as it should be exactly when the string is shorter than 2^32 bytes, or
when even the prefix does not fit.
-/

namespace LowLatencyBlocks

open Library

namespace BinaryLogger

/-- The bytes of the string that `log` copies. -/
def narrowed (str : List UInt8) : List UInt8 :=
  str.take (str.length % 2 ^ 32)

/-- A logger with a mapping of the whole file. -/
structure Mapped (logger : BinaryLogger) : Prop where
  fileSize : logger.fileSize = logFileSize
  mapped : ∃ bytes, logger.mmapPtr = .mapped bytes

/-- `log` appends the record of the whole string to the mapping if the string
fits by its real length, and changes nothing if it does not. -/
def DecidesOnLength (logger : BinaryLogger) (str : List UInt8) : Prop :=
  if logger.writePos + sizeofLen + str.length ≤ logger.fileSize then
    ∃ bytes,
      logger.mmapPtr = .mapped bytes ∧
        logger.log str = .ok (logger.appended bytes str)
  else
    logger.log str = .ok logger

section OneString

variable {logger after : BinaryLogger} {bytes : Buffer UInt8}
  {str : List UInt8}

theorem length_narrowed (str : List UInt8) :
    (narrowed str).length = str.length % 2 ^ 32 := by
  rw [narrowed, List.length_take]
  exact Nat.min_eq_left (Nat.mod_le _ _)

theorem narrowed_short (str : List UInt8) :
    (narrowed str).length < 2 ^ 32 := by
  rw [length_narrowed]
  exact Nat.mod_lt _ (by decide)

/-- A string is logged as its narrowed prefix. -/
theorem log_narrowed (logger : BinaryLogger) (str : List UInt8) :
    logger.log str = logger.log (narrowed str) := by
  have len : (UInt32.ofNat str.length).toNat = (narrowed str).length := by
    rw [UInt32.toNat_ofNat', length_narrowed]
  have copied : str.take (narrowed str).length = narrowed str := by
    rw [length_narrowed, narrowed]
  simp only [log, len, len_of_short (narrowed_short str), copied,
    List.take_length]

/-- What `log` does with a mapping. -/
theorem log_mapped (mapped : logger.mmapPtr = .mapped bytes) :
    logger.log str =
      .ok
        (if logger.writePos + sizeofLen + (narrowed str).length ≤
            logger.fileSize then
          logger.appended bytes (narrowed str)
        else
          logger) := by
  rw [log_narrowed]
  by_cases room :
      logger.writePos + sizeofLen + (narrowed str).length ≤
        logger.fileSize
  · rw [if_pos room]
    exact log_appends mapped (narrowed_short str) room
  · rw [if_neg room]
    exact log_skips (narrowed_short str) (Nat.lt_of_not_le room)

/-- Every `log` of a mapped logger returns, and leaves it mapped. -/
theorem Mapped.log
    (mapped : logger.Mapped) (str : List UInt8) :
    ∃ after,
      logger.log str = .ok after ∧ after.Mapped ∧
        after.fd = logger.fd := by
  obtain ⟨bytes, mappedTo⟩ := mapped.mapped
  rw [log_mapped mappedTo]
  by_cases room :
      logger.writePos + sizeofLen + (narrowed str).length ≤
        logger.fileSize
  · rw [if_pos room]
    exact ⟨_, rfl, ⟨mapped.fileSize, ⟨_, rfl⟩⟩, rfl⟩
  · rw [if_neg room]
    exact ⟨logger, rfl, mapped, rfl⟩

theorem Mapped.step
    (mapped : logger.Mapped) (stepped : step logger str = some after) :
    after.Mapped ∧ after.fd = logger.fd := by
  obtain ⟨same, logged, mappedAfter, fd⟩ := mapped.log str
  rw [BinaryLogger.step, logged] at stepped
  cases stepped
  exact ⟨mappedAfter, fd⟩

/-- What `log` does without a mapping. -/
theorem log_mapFailed (failed : logger.mmapPtr = .mapFailed) :
    logger.log str =
      if logger.writePos + sizeofLen + (narrowed str).length ≤
          logger.fileSize then
        .error (.outOfRange logger.writePos)
      else
        .ok logger := by
  rw [log_narrowed]
  by_cases room :
      logger.writePos + sizeofLen + (narrowed str).length ≤
        logger.fileSize
  · rw [if_pos room]
    simp only [log, len_of_short (narrowed_short str),
      if_neg (Nat.not_lt.mpr room), memcpy, failed]
    rfl
  · rw [if_neg room]
    exact log_skips (narrowed_short str) (Nat.lt_of_not_le room)

theorem step_of_mapFailed
    (failed : logger.mmapPtr = .mapFailed)
    (stepped : step logger str = some after) : after = logger := by
  rw [BinaryLogger.step, log_mapFailed failed] at stepped
  by_cases room :
      logger.writePos + sizeofLen + (narrowed str).length ≤
        logger.fileSize
  · rw [if_pos room] at stepped
    cases stepped
  · rw [if_neg room] at stepped
    cases stepped
    rfl

/-- A string that does not fit even narrowed is left out. -/
theorem decidesOnLength_of_full
    (full :
      logger.fileSize <
        logger.writePos + sizeofLen + str.length % 2 ^ 32) :
    logger.DecidesOnLength str := by
  have shorter := Nat.mod_le str.length (2 ^ 32)
  have tooLong :
      ¬ logger.writePos + sizeofLen + str.length ≤ logger.fileSize := by
    omega
  rw [DecidesOnLength, if_neg tooLong, log_narrowed]
  apply log_skips (narrowed_short str)
  rw [length_narrowed]
  exact full

/-- A file of one megabyte has no room for a string that the narrowing
shortens. -/
theorem Mapped.decidesOnLength_iff (mapped : logger.Mapped) :
    logger.DecidesOnLength str ↔
      str.length < 2 ^ 32 ∨
        logger.fileSize <
          logger.writePos + sizeofLen + str.length % 2 ^ 32 := by
  obtain ⟨bytes, mappedTo⟩ := mapped.mapped
  have fileSize := mapped.fileSize
  rw [logFileSize] at fileSize
  constructor
  · intro decides
    by_contra accepted
    rw [not_or, Nat.not_lt, Nat.not_lt] at accepted
    obtain ⟨long, room⟩ := accepted
    have full :
        ¬ logger.writePos + sizeofLen + str.length ≤ logger.fileSize := by
      omega
    rw [DecidesOnLength, if_neg full, log_mapped mappedTo, length_narrowed,
      if_pos room, Except.ok.injEq] at decides
    have samePosition :
        logger.writePos + sizeofLen + (narrowed str).length =
          logger.writePos :=
      congrArg BinaryLogger.writePos decides
    rw [sizeofLen] at samePosition
    omega
  · rintro (short | full)
    · have same : narrowed str = str := by
        rw [narrowed, Nat.mod_eq_of_lt short, List.take_length]
      have logged := @log_mapped logger bytes str mappedTo
      rw [same] at logged
      rw [DecidesOnLength, logged]
      by_cases room :
          logger.writePos + sizeofLen + str.length ≤ logger.fileSize
      · rw [if_pos room, if_pos room]
        exact ⟨bytes, mappedTo, rfl⟩
      · rw [if_neg room, if_neg room]
    · exact decidesOnLength_of_full full

/-- Without a mapping, a string that fits narrowed is written through
`MAP_FAILED`. -/
theorem decidesOnLength_iff_of_mapFailed
    (failed : logger.mmapPtr = .mapFailed) :
    logger.DecidesOnLength str ↔
      logger.fileSize <
        logger.writePos + sizeofLen + str.length % 2 ^ 32 := by
  constructor
  · intro decides
    by_contra room
    rw [Nat.not_lt, ← length_narrowed] at room
    have faults := @log_mapFailed logger str failed
    rw [if_pos room] at faults
    rw [DecidesOnLength, faults] at decides
    by_cases fits :
        logger.writePos + sizeofLen + str.length ≤ logger.fileSize
    · rw [if_pos fits] at decides
      obtain ⟨_, _, returned⟩ := decides
      cases returned
    · rw [if_neg fits] at decides
      cases decides
  · exact decidesOnLength_of_full

end OneString

/-! ## Every run -/

section Runs

variable {file : LogFile} {opening : Opening}

theorem mapped_make (mapped : opening.mapped = true) :
    (make file opening).logger.Mapped where
  fileSize := by
    rw [make]
  mapped := by
    simp only [make, mapped, if_true]
    exact ⟨_, rfl⟩

theorem mapped_of_exec
    (mapped : opening.mapped = true)
    {strings : List (List UInt8)} {logger : BinaryLogger}
    (ran :
      exec step strings (make file opening).logger = some logger) :
    logger.Mapped := by
  apply exec_invariant Mapped _ (mapped_make mapped) ran
  intro before str after mappedBefore stepped
  exact (mappedBefore.step stepped).1

theorem mapFailed_of_exec
    (failed : opening.mapped = false)
    {strings : List (List UInt8)} {logger : BinaryLogger}
    (ran :
      exec step strings (make file opening).logger = some logger) :
    logger.mmapPtr = .mapFailed := by
  have initial : (make file opening).logger.mmapPtr = .mapFailed := by
    simp only [make, failed, Bool.false_eq_true, if_false]
  apply
    exec_invariant
      (fun logger : BinaryLogger => logger.mmapPtr = .mapFailed) _ initial
      ran
  intro before str after failedBefore stepped
  rw [step_of_mapFailed failedBefore stepped]
  exact failedBefore

/-- After any strings, `log` decides on the real length of the next one exactly
when there is a mapping and the string is shorter than 2^32 bytes, or when it
does not fit even narrowed. -/
theorem log_decides_iff
    (file : LogFile) (opening : Opening)
    (strings : List (List UInt8)) (logger : BinaryLogger)
    (str : List UInt8)
    (ran :
      exec step strings (make file opening).logger = some logger) :
    logger.DecidesOnLength str ↔
      opening.mapped = true ∧ str.length < 2 ^ 32 ∨
        logger.fileSize <
          logger.writePos + sizeofLen + str.length % 2 ^ 32 := by
  cases mapped : opening.mapped with
  | true =>
      rw [(mapped_of_exec mapped ran).decidesOnLength_iff]
      simp only [true_and]
  | false =>
      rw [decidesOnLength_iff_of_mapFailed (mapFailed_of_exec mapped ran)]
      simp only [Bool.false_eq_true, false_and, false_or]

/-- A string of two bytes behind one of three. -/
theorem log_decides_sample :
    ∃ logger,
      exec step [[1, 2, 3]] (make LogFile.created ⟨3, true, true⟩).logger =
          some logger ∧
        logger.DecidesOnLength [4, 5] := by
  have ranAll :
      ∃ logger,
        exec step [[1, 2, 3]]
            (make LogFile.created ⟨3, true, true⟩).logger =
          some logger :=
    ⟨_, rfl⟩
  obtain ⟨logger, ran⟩ := ranAll
  refine ⟨logger, ran, ?_⟩
  exact
    (log_decides_iff _ _ _ logger [4, 5] ran).mpr
      (Or.inl ⟨rfl, by decide⟩)

/-- A string of 2^32 bytes is logged as an empty one. -/
theorem log_accepts_long_string :
    ¬ (make LogFile.created ⟨3, true, true⟩).logger.DecidesOnLength
      (List.replicate (2 ^ 32) 65) := by
  have mapped :
      (make LogFile.created ⟨3, true, true⟩).logger.Mapped :=
    mapped_make rfl
  rw [mapped.decidesOnLength_iff, List.length_replicate]
  decide

end Runs

end BinaryLogger

end LowLatencyBlocks
