import LowLatencyBlocks.BinaryLoggerRingBuffer.BinaryLogger

/-!
# What a log file holds

Below `write_pos_` the file consists of the records of the strings that were
accepted, and nothing behind it was touched.  A reader has only the file: what
is behind the last record are the zeros of `ftruncate`, which read as records of
empty strings.
-/

namespace LowLatencyBlocks

open Library

namespace BinaryLogger

/-- The strings that fit behind the records of those kept before them. -/
def kept (strings : List (List UInt8)) : List (List UInt8) :=
  strings.foldl
    (fun earlier str =>
      if logFileSize <
          (records sizeofLen earlier).length + sizeofLen + str.length then
        earlier
      else
        earlier ++ [str]) []

theorem kept_concat (strings : List (List UInt8)) (str : List UInt8) :
    kept (strings ++ [str]) =
      if logFileSize <
          (records sizeofLen (kept strings)).length + sizeofLen +
            str.length then
        kept strings
      else
        kept strings ++ [str] := by
  rw [kept, List.foldl_append]
  rfl

/-- Strings that fit together are all kept. -/
theorem kept_of_fits
    {strings : List (List UInt8)}
    (fits : (records sizeofLen strings).length ≤ logFileSize) :
    kept strings = strings := by
  induction strings using List.reverseRecOn with
  | nil =>
      rfl
  | append_singleton strings str inductionHypothesis =>
      rw [records_concat, List.length_append, length_record] at fits
      have same : kept strings = strings :=
        inductionHypothesis (by omega)
      rw [kept_concat, same, if_neg (by omega)]

/-- What holds of a logger that was mapped over the bytes `original`, after calls
with these strings. -/
structure Holds
    (original : Buffer UInt8) (strings : List (List UInt8))
    (logger : BinaryLogger) (bytes : Buffer UInt8) : Prop where
  fileSize : logger.fileSize = logFileSize
  mapped : logger.mmapPtr = .mapped bytes
  bound : logger.writePos ≤ logFileSize
  position : logger.writePos = (records sizeofLen (kept strings)).length
  image :
    bytes.cells 0 logger.writePos = records sizeofLen (kept strings)
  untouched :
    ∀ position, logger.writePos ≤ position →
      bytes position = original position

section Runs

variable {file : LogFile} {opening : Opening}
  {original bytes : Buffer UInt8} {strings : List (List UInt8)}
  {logger : BinaryLogger} {str : List UInt8}

theorem holds_make (mapped : opening.mapped = true) :
    Holds (make file opening).file.bytes [] (make file opening).logger
      (make file opening).file.bytes where
  fileSize := rfl
  mapped := by
    simp only [make, mapped, if_true]
  bound := Nat.zero_le _
  position := rfl
  image := rfl
  untouched := fun _ _ => rfl

/-- A string that does not fit leaves everything as it is. -/
theorem Holds.skip
    (holds : Holds original strings logger bytes)
    (full : logger.fileSize < logger.writePos + sizeofLen + str.length) :
    Holds original (strings ++ [str]) logger bytes := by
  have same : kept (strings ++ [str]) = kept strings := by
    rw [holds.fileSize, holds.position] at full
    rw [kept_concat, if_pos full]
  exact
    { fileSize := holds.fileSize
      mapped := holds.mapped
      bound := holds.bound
      position := by rw [same]; exact holds.position
      image := by rw [same]; exact holds.image
      untouched := holds.untouched }

/-- A string that fits is appended. -/
theorem Holds.append
    (holds : Holds original strings logger bytes)
    (room : logger.writePos + sizeofLen + str.length ≤ logger.fileSize) :
    Holds original (strings ++ [str]) (logger.appended bytes str)
      (bytes.write logger.writePos (record sizeofLen str)) := by
  have more : kept (strings ++ [str]) = kept strings ++ [str] := by
    rw [holds.fileSize, holds.position] at room
    rw [kept_concat, if_neg (Nat.not_lt.mpr room)]
  have length :
      logger.writePos + sizeofLen + str.length =
        logger.writePos + (record sizeofLen str).length := by
    rw [length_record, Nat.add_assoc]
  exact
    { fileSize := holds.fileSize
      mapped := rfl
      bound := by
        rw [← holds.fileSize]
        exact room
      position := by
        rw [more, records_concat, List.length_append, ← holds.position]
        exact length
      image := by
        rw [more, records_concat, ← holds.image, appended, length]
        exact Buffer.cells_write_append
      untouched := by
        intro position behind
        have far :
            logger.writePos + (record sizeofLen str).length ≤ position := by
          rw [← length]
          exact behind
        rw [Buffer.write_of_ge far]
        exact holds.untouched position (Nat.le_of_add_right_le far) }

theorem Holds.call
    (holds : Holds original strings logger bytes)
    (short : str.length < 2 ^ 32) :
    ∃ after written,
      step logger str = some after ∧
      Holds original (strings ++ [str]) after written := by
  rcases Nat.lt_or_ge logger.fileSize
      (logger.writePos + sizeofLen + str.length) with full | room
  · refine ⟨logger, bytes, ?_, holds.skip full⟩
    rw [step, log_skips short full]
    rfl
  · refine ⟨_, _, ?_, holds.append room⟩
    rw [step, log_appends holds.mapped short room]
    rfl

/-- Every run of short strings returns. -/
theorem exec_holds
    (file : LogFile) (mapped : opening.mapped = true)
    (short : ∀ str ∈ strings, str.length < 2 ^ 32) :
    ∃ logger bytes,
      exec step strings (make file opening).logger = some logger ∧
      Holds (make file opening).file.bytes strings logger bytes := by
  obtain ⟨logger, ran, bytes, holds⟩ :=
    @exec_returns _ _ step (make file opening).logger
      (fun str => str.length < 2 ^ 32)
      (fun strings logger =>
        ∃ bytes,
          Holds (make file opening).file.bytes strings logger bytes)
      ⟨_, holds_make mapped⟩
      (by
        rintro calls before str ⟨bytes, holds⟩ admitted
        obtain ⟨after, written, stepped, holdsAfter⟩ :=
          holds.call admitted
        exact ⟨after, stepped, written, holdsAfter⟩)
      strings short
  exact ⟨logger, bytes, ran, holds⟩

/-- The records in the file are short, since they lie in it. -/
theorem Holds.kept_fits
    (holds : Holds original strings logger bytes) :
    ∀ str ∈ kept strings, str.length < 256 ^ sizeofLen := by
  intro str member
  have inside :
      str.length ≤ (records sizeofLen (kept strings)).length :=
    length_le_records member
  have bound := holds.bound
  rw [holds.position] at bound
  have small : logFileSize < 256 ^ sizeofLen := by decide
  omega

theorem Holds.parse
    (holds : Holds original strings logger bytes) :
    parseRecords sizeofLen (bytes.cells 0 logger.writePos) =
      some (kept strings) := by
  rw [holds.image]
  exact parseRecords_records (by decide) holds.kept_fits

end Runs

/-- After every run of `log` calls on a mapped file: the bytes below `write_pos_`
parse to the strings that fitted; the next string is skipped, with nothing
changed, exactly when it does not fit; and a string that fits changes only the
bytes between the old and the new `write_pos_`. -/
theorem binaryLogger_round_trip
    (file : LogFile) (opening : Opening) (mapped : opening.mapped = true)
    (strings : List (List UInt8))
    (short : ∀ str ∈ strings, str.length < 2 ^ 32) :
    ∃ logger bytes,
      exec step strings (make file opening).logger = some logger ∧
      logger.mmapPtr = .mapped bytes ∧
      logger.writePos ≤ logger.fileSize ∧
      parseRecords sizeofLen (bytes.cells 0 logger.writePos) =
        some (kept strings) ∧
      ∀ str : List UInt8, str.length < 2 ^ 32 →
        (logger.log str = .ok logger ↔
          logger.fileSize < logger.writePos + sizeofLen + str.length) ∧
        (logger.writePos + sizeofLen + str.length ≤ logger.fileSize →
          ∃ after written,
            logger.log str = .ok after ∧
            after.mmapPtr = .mapped written ∧
            after.writePos = logger.writePos + sizeofLen + str.length ∧
            ∀ position,
              position < logger.writePos ∨ after.writePos ≤ position →
              written position = bytes position) := by
  obtain ⟨logger, bytes, ran, holds⟩ :=
    exec_holds file mapped short
  have bound : logger.writePos ≤ logger.fileSize := by
    rw [holds.fileSize]
    exact holds.bound
  refine ⟨logger, bytes, ran, holds.mapped, bound, holds.parse, ?_⟩
  intro str shortStr
  constructor
  · constructor
    · intro unchanged
      by_contra room
      rw [log_appends holds.mapped shortStr (Nat.not_lt.mp room)]
        at unchanged
      injection unchanged with same
      have samePosition := congrArg BinaryLogger.writePos same
      simp only [appended, sizeofLen] at samePosition
      omega
    · exact log_skips shortStr
  · intro room
    refine ⟨_, _, log_appends holds.mapped shortStr room, rfl, rfl, ?_⟩
    rintro position (before | behind)
    · exact Buffer.write_of_lt before
    · apply Buffer.write_of_ge
      rw [length_record, ← Nat.add_assoc]
      exact behind

/-- The two calls of the program, an empty string between them. -/
theorem binaryLogger_round_trip_sample :
    ∃ logger bytes,
      exec step [[65, 66, 67], [], [65, 66, 67]]
          (make LogFile.created ⟨3, true, true⟩).logger = some logger ∧
      logger.mmapPtr = .mapped bytes ∧
      parseRecords sizeofLen (bytes.cells 0 logger.writePos) =
        some [[65, 66, 67], [], [65, 66, 67]] := by
  obtain ⟨logger, bytes, ran, mapped, _, parsed, _⟩ :=
    binaryLogger_round_trip LogFile.created ⟨3, true, true⟩ rfl
      [[65, 66, 67], [], [65, 66, 67]] (by decide)
  exact ⟨logger, bytes, ran, mapped, parsed⟩

/-! ## The whole file -/

/-- What a session leaves in the file: the records of the strings kept, and
behind them what was there. -/
theorem session_file
    {opening : Opening} (succeeds : opening.Succeeds)
    (file : LogFile) {strings : List (List UInt8)}
    (short : ∀ str ∈ strings, str.length < 2 ^ 32) :
    ∃ after,
      session opening file strings = some after ∧
      after.size = logFileSize ∧
      (records sizeofLen (kept strings)).length ≤ logFileSize ∧
      (∀ str ∈ kept strings, str.length < 256 ^ sizeofLen) ∧
      after.bytes.cells 0 (records sizeofLen (kept strings)).length =
        records sizeofLen (kept strings) ∧
      ∀ position,
        (records sizeofLen (kept strings)).length ≤ position →
        after.bytes position =
          (file.truncate logFileSize).bytes position := by
  obtain ⟨truncated, mapped⟩ := succeeds
  obtain ⟨logger, bytes, ran, holds⟩ :=
    exec_holds file mapped short
  have constructed :
      (make file opening).file = file.truncate logFileSize := by
    simp only [make, truncated, if_true]
  have bound := holds.bound
  have image := holds.image
  have untouched := holds.untouched
  rw [constructed] at untouched
  rw [holds.position] at bound image untouched
  refine
    ⟨{ bytes := bytes, size := logFileSize }, ?_, rfl, bound,
      holds.kept_fits, image, untouched⟩
  rw [session, ran, constructed, Option.map_some, stored, holds.mapped]
  rfl

/-- The image of a new file: the records, and zeros up to its end. -/
theorem session_created_image
    {opening : Opening} (succeeds : opening.Succeeds)
    {strings : List (List UInt8)}
    (short : ∀ str ∈ strings, str.length < 2 ^ 32) :
    ∃ after,
      session opening LogFile.created strings = some after ∧
      (∀ str ∈ kept strings, str.length < 256 ^ sizeofLen) ∧
      (records sizeofLen (kept strings)).length ≤ logFileSize ∧
      after.image =
        records sizeofLen (kept strings) ++
          List.replicate
            (logFileSize - (records sizeofLen (kept strings)).length)
            0 := by
  obtain ⟨after, ran, size, bound, fits, image, untouched⟩ :=
    session_file succeeds LogFile.created short
  refine ⟨after, ran, fits, bound, ?_⟩
  have filling :
      after.bytes.cells (records sizeofLen (kept strings)).length
          (logFileSize - (records sizeofLen (kept strings)).length) =
        List.replicate
          (logFileSize - (records sizeofLen (kept strings)).length) 0 := by
    apply List.eq_replicate_iff.mpr
    refine ⟨Buffer.length_cells, ?_⟩
    intro byte member
    obtain ⟨index, _, rfl⟩ := List.mem_map.mp member
    exact untouched _ (Nat.le_add_right _ _)
  have split :
      logFileSize =
        (records sizeofLen (kept strings)).length +
          (logFileSize - (records sizeofLen (kept strings)).length) :=
    (Nat.add_sub_cancel' bound).symm
  rw [LogFile.image, size]
  conv_lhs => rw [split]
  rw [Buffer.cells_append, image, Nat.zero_add, filling]

/-- Two new files into which every string was accepted are equal byte for byte
exactly when the strings are the same but for empty ones at the end. -/
theorem images_eq_iff
    (firstOpening secondOpening : Opening)
    (firstSucceeds : firstOpening.Succeeds)
    (secondSucceeds : secondOpening.Succeeds)
    (first second : List (List UInt8))
    (firstShort : ∀ str ∈ first, str.length < 2 ^ 32)
    (secondShort : ∀ str ∈ second, str.length < 2 ^ 32)
    (firstAccepted : kept first = first)
    (secondAccepted : kept second = second) :
    ∃ firstFile secondFile,
      session firstOpening LogFile.created first = some firstFile ∧
      session secondOpening LogFile.created second = some secondFile ∧
      (firstFile.image = secondFile.image ↔
        SameUpToEmpty first second) := by
  obtain ⟨firstFile, firstRan, firstFits, firstBound, firstImage⟩ :=
    session_created_image firstSucceeds firstShort
  obtain ⟨secondFile, secondRan, secondFits, secondBound, secondImage⟩ :=
    session_created_image secondSucceeds secondShort
  rw [firstAccepted] at firstFits firstBound firstImage
  rw [secondAccepted] at secondFits secondBound secondImage
  refine ⟨firstFile, secondFile, firstRan, secondRan, ?_⟩
  rw [firstImage, secondImage]
  constructor
  · exact sameUpToEmpty_of_filled firstFits secondFits
  · intro same
    apply filled_of_sameUpToEmpty same
    rw [Nat.add_sub_cancel' firstBound, Nat.add_sub_cancel' secondBound]

/-- Two files that hold one character each. -/
theorem images_eq_sample :
    ∃ firstFile secondFile,
      session ⟨3, true, true⟩ LogFile.created [[65]] = some firstFile ∧
      session ⟨4, true, true⟩ LogFile.created [[66]] = some secondFile ∧
      firstFile.image ≠ secondFile.image := by
  obtain ⟨firstFile, secondFile, firstRan, secondRan, images⟩ :=
    images_eq_iff ⟨3, true, true⟩ ⟨4, true, true⟩ ⟨rfl, rfl⟩ ⟨rfl, rfl⟩
      [[65]] [[66]] (by decide) (by decide) rfl rfl
  refine ⟨firstFile, secondFile, firstRan, secondRan, ?_⟩
  intro same
  obtain ⟨firstCount, secondCount, equal⟩ := images.mp same
  injection equal with sameString
  injection sameString with sameCharacter
  exact absurd sameCharacter (by decide)

/-- The image does not tell whether an empty string was logged last. -/
theorem images_eq_with_empty_string :
    ∃ firstFile secondFile,
      session ⟨3, true, true⟩ LogFile.created [[65]] = some firstFile ∧
      session ⟨3, true, true⟩ LogFile.created [[65], []] =
        some secondFile ∧
      kept [[65]] = [[65]] ∧ kept [[65], []] = [[65], []] ∧
      firstFile.image = secondFile.image ∧
      ([[65]] : List (List UInt8)) ≠ [[65], []] := by
  have succeeds : (⟨3, true, true⟩ : Opening).Succeeds := ⟨rfl, rfl⟩
  have firstShort :
      ∀ str ∈ ([[65]] : List (List UInt8)), str.length < 2 ^ 32 := by
    decide
  have secondShort :
      ∀ str ∈ ([[65], []] : List (List UInt8)), str.length < 2 ^ 32 := by
    decide
  obtain ⟨firstFile, firstRan, _, _, firstImage⟩ :=
    session_created_image succeeds firstShort
  obtain ⟨secondFile, secondRan, _, _, secondImage⟩ :=
    session_created_image succeeds secondShort
  refine
    ⟨firstFile, secondFile, firstRan, secondRan, rfl, rfl, ?_, by decide⟩
  rw [firstImage, secondImage]
  exact filled_of_sameUpToEmpty ⟨1, 0, rfl⟩ rfl

end BinaryLogger

end LowLatencyBlocks
