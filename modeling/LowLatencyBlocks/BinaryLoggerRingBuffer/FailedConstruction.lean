import LowLatencyBlocks.BinaryLoggerRingBuffer.LongStrings

/-!
# A binary logger whose construction failed

The constructor goes on after a call that failed.  A failed `mmap` leaves
`MAP_FAILED` behind, which is not the null pointer that the destructor tests for
and which `log` does not test at all; and a descriptor that the constructor
closed is still in `fd_`, so that it is closed again.
-/

namespace LowLatencyBlocks

open Library

namespace BinaryLogger

/-- `log` writes through a mapping of the file, or changes nothing. -/
def WritesThroughMapping (logger : BinaryLogger) (str : List UInt8) : Prop :=
  match logger.mmapPtr with
  | .mapped _ => ∃ after, logger.log str = .ok after
  | .null | .mapFailed => logger.log str = .ok logger

/-- The calls of a constructed logger, with those of its destructor at the
end. -/
structure Survives
    (file : LogFile) (opening : Opening) (strings : List (List UInt8)) :
    Prop where
  writes :
    EachCall step WritesThroughMapping strings (make file opening).logger
  unmaps : ∀ logger,
    exec step strings (make file opening).logger = some logger →
    ∀ pointer, logger.destroy.unmapped = some pointer →
      ∃ bytes, pointer = .mapped bytes
  closesOnce : ∀ logger,
    exec step strings (make file opening).logger = some logger →
    0 ≤ opening.fd →
    ((make file opening).closed ++ logger.destroy.closed).count opening.fd =
      1

section Construction

variable {file : LogFile} {opening : Opening}
  {strings : List (List UInt8)} {logger : BinaryLogger}

theorem destroy_unmapped (mapped : logger.Mapped) :
    ∃ bytes, logger.destroy.unmapped = some (.mapped bytes) := by
  obtain ⟨bytes, mappedTo⟩ := mapped.mapped
  refine ⟨bytes, ?_⟩
  rw [destroy, mappedTo]

theorem destroy_closed (stillOpen : 0 ≤ logger.fd) :
    logger.destroy.closed = [logger.fd] := by
  rw [destroy, if_pos stillOpen]

theorem writesThroughMapping_of_mapped
    (logger : BinaryLogger) (str : List UInt8) (mapped : logger.Mapped) :
    logger.WritesThroughMapping str := by
  obtain ⟨after, logged, _⟩ := mapped.log str
  obtain ⟨bytes, mappedTo⟩ := mapped.mapped
  rw [WritesThroughMapping, mappedTo]
  exact ⟨after, logged⟩

/-- The strings do not change the pointer's kind or the descriptor. -/
theorem exec_mapped
    (mapped : opening.mapped = true) (strings : List (List UInt8)) :
    ∃ logger,
      exec step strings (make file opening).logger = some logger ∧
        logger.Mapped ∧ logger.fd = opening.fd := by
  have admitted : ∀ str ∈ strings, (fun _ : List UInt8 => True) str :=
    fun _ _ => trivial
  apply
    exec_returns
      (fun (_ : List (List UInt8)) (state : BinaryLogger) =>
        state.Mapped ∧ state.fd = opening.fd)
      ⟨mapped_make mapped, rfl⟩ _ strings admitted
  rintro _ before str ⟨mappedBefore, fd⟩ _
  obtain ⟨after, logged, mappedAfter, sameFd⟩ := mappedBefore.log str
  refine ⟨after, ?_, mappedAfter, sameFd.trans fd⟩
  rw [step, logged]
  rfl

/-- A logger at `MAP_FAILED` that only makes harmless calls stays there. -/
theorem exec_of_mapFailed
    (failed : logger.mmapPtr = .mapFailed)
    (writes : EachCall step WritesThroughMapping strings logger) :
    exec step strings logger = some logger := by
  have returns : ∀ (before : BinaryLogger) (str : List UInt8),
      before = logger → before.WritesThroughMapping str →
      ∃ after, step before str = some after ∧ after = logger := by
    rintro _ str rfl harmless
    rw [WritesThroughMapping, failed] at harmless
    refine ⟨_, ?_, rfl⟩
    rw [step, harmless]
    rfl
  obtain ⟨state, ran, same⟩ := writes.returns returns rfl
  rw [ran, same]

theorem Survives.mapped
    (survives : Survives file opening strings) :
    opening.mapped = true := by
  by_contra failed
  have pointer : (make file opening).logger.mmapPtr = .mapFailed := by
    simp only [make, failed, if_false]
  have ran := exec_of_mapFailed pointer survives.writes
  have unmapped :
      (make file opening).logger.destroy.unmapped = some .mapFailed := by
    rw [destroy, pointer]
  obtain ⟨bytes, isMapping⟩ := survives.unmaps _ ran _ unmapped
  cases isMapping

/-- How often the descriptor is closed when the mapping was established. -/
theorem count_closed
    (mapped : opening.mapped = true) (opened : 0 ≤ opening.fd)
    (fd : logger.fd = opening.fd) :
    ((make file opening).closed ++ logger.destroy.closed).count
        opening.fd =
      (if opening.truncated then 0 else 1) + 1 := by
  have stillOpen : 0 ≤ logger.fd := by
    rw [fd]
    exact opened
  rw [List.count_append, destroy_closed stillOpen, fd,
    List.count_singleton_self]
  simp only [make, mapped, if_true, List.append_nil]
  cases opening.truncated with
  | false =>
      simp only [Bool.false_eq_true, if_false, List.count_singleton_self]
  | true =>
      simp only [if_true, List.count_nil]

end Construction

/-- The logger survives its construction exactly when `mmap` succeeds and, if
there is a descriptor, `ftruncate` does. -/
theorem construction_survives_iff
    (file : LogFile) (opening : Opening) (strings : List (List UInt8)) :
    Survives file opening strings ↔
      opening.mapped = true ∧
        (opening.truncated = true ∨ opening.fd < 0) := by
  constructor
  · intro survives
    have mapped := survives.mapped
    refine ⟨mapped, ?_⟩
    by_contra closedEarly
    rw [not_or, Int.not_lt] at closedEarly
    obtain ⟨untruncated, opened⟩ := closedEarly
    obtain ⟨logger, ran, _, fd⟩ := @exec_mapped file opening mapped strings
    have once := survives.closesOnce logger ran opened
    rw [count_closed mapped opened fd, if_neg untruncated] at once
    omega
  · rintro ⟨mapped, truncated⟩
    obtain ⟨logger, ran, mappedAfter, fd⟩ :=
      @exec_mapped file opening mapped strings
    refine ⟨?_, ?_, ?_⟩
    · have kept : ∀ (before : BinaryLogger) (str : List UInt8) after,
          before.Mapped → step before str = some after → after.Mapped :=
        fun _ _ _ mappedBefore stepped => (mappedBefore.step stepped).1
      exact
        eachCall_of_invariant writesThroughMapping_of_mapped kept strings
          (mapped_make mapped)
    · intro state ranTo pointer unmapped
      rw [ran, Option.some.injEq] at ranTo
      subst ranTo
      obtain ⟨bytes, mapping⟩ := destroy_unmapped mappedAfter
      rw [mapping, Option.some.injEq] at unmapped
      exact ⟨bytes, unmapped.symm⟩
    · intro state ranTo opened
      rw [ran, Option.some.injEq] at ranTo
      subst ranTo
      have truncatedNow : opening.truncated = true :=
        truncated.resolve_right (Int.not_lt.mpr opened)
      rw [count_closed mapped opened fd, if_pos truncatedNow]

/-- `mmap` fails on a good descriptor: the first `log` writes through
`MAP_FAILED`; without one, the destructor unmaps it and closes the descriptor
for the second time. -/
theorem construction_does_not_survive :
    ¬ Survives LogFile.created ⟨3, true, false⟩ [[65]] ∧
      ¬ Survives LogFile.created ⟨3, true, false⟩ [] ∧
      (make LogFile.created ⟨3, true, false⟩).logger.log [65] =
        .error (.outOfRange 0) ∧
      (make LogFile.created ⟨3, true, false⟩).closed ++
          (make LogFile.created ⟨3, true, false⟩).logger.destroy.closed =
        [3, 3] := by
  refine ⟨?_, ?_, rfl, rfl⟩
  · intro survives
    exact absurd survives.mapped (by decide)
  · intro survives
    exact absurd survives.mapped (by decide)

end BinaryLogger

end LowLatencyBlocks
