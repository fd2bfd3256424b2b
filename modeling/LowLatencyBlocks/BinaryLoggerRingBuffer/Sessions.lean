import LowLatencyBlocks.BinaryLoggerRingBuffer.FileImage

/-!
# Several sessions on one file

A logger is constructed on a path, logs, and is destroyed, again and again.  The
constructor keeps what is in the file but starts at its beginning, so that each
session that logs anything writes over the records of the ones before it.
-/

namespace LowLatencyBlocks

open Library

/-- One life of a logger on the path. -/
structure Session where
  opening : Opening
  strings : List (List UInt8)

namespace Session

/-- What a session does to the file. -/
def step (file : LogFile) (session : Session) : Option LogFile :=
  BinaryLogger.session session.opening file session.strings

/-- The strings that all the sessions log, in order. -/
def loggedBy (sessions : List Session) : List (List UInt8) :=
  sessions.flatMap (·.strings)

/-- The bytes that the records of the session take. -/
def recorded (session : Session) : List UInt8 :=
  records BinaryLogger.sizeofLen session.strings

/-- A session whose constructor succeeds and whose strings fit in the file. -/
structure Fits (session : Session) : Prop where
  succeeds : session.opening.Succeeds
  room : session.recorded.length ≤ BinaryLogger.logFileSize

section OneSession

variable {session : Session}

theorem length_le_recorded {str : List UInt8}
    (member : str ∈ session.strings) :
    str.length ≤ session.recorded.length :=
  length_le_records member

theorem Fits.short (fits : session.Fits) :
    ∀ str ∈ session.strings, str.length < 256 ^ BinaryLogger.sizeofLen := by
  intro str member
  have inside := length_le_recorded member
  have room := fits.room
  have small :
      BinaryLogger.logFileSize < 256 ^ BinaryLogger.sizeofLen := by
    decide
  omega

/-- A session writes its records at the beginning of the file, and nothing
else. -/
theorem step_file (fits : session.Fits) (file : LogFile) :
    ∃ after,
      step file session = some after ∧
      after.size = BinaryLogger.logFileSize ∧
      after.bytes.cells 0 session.recorded.length = session.recorded ∧
      ∀ position,
        session.recorded.length ≤ position →
        after.bytes position =
          (file.truncate BinaryLogger.logFileSize).bytes position := by
  obtain ⟨after, ran, size, _, _, image, untouched⟩ :=
    BinaryLogger.session_file fits.succeeds file fits.short
  rw [BinaryLogger.kept_of_fits fits.room] at image untouched
  exact ⟨after, ran, size, image, untouched⟩

theorem parse_recorded
    {bytes : Buffer UInt8} (fits : session.Fits)
    (image : bytes.cells 0 session.recorded.length = session.recorded) :
    parseRecords BinaryLogger.sizeofLen
        (bytes.cells 0 session.recorded.length) =
      some session.strings := by
  rw [image]
  exact parseRecords_records (by decide) fits.short

end OneSession

/-! ## Runs of sessions -/

/-- What holds of the file after the sessions. -/
structure Wrote (sessions : List Session) (file : LogFile) : Prop where
  size : sessions ≠ [] → file.size = BinaryLogger.logFileSize
  /-- The records of the last session that logs anything. -/
  last :
    ∀ {earlier one later},
      sessions = earlier ++ one :: later →
      (∀ session ∈ later, session.strings = []) →
      one.Fits ∧
        file.bytes.cells 0 one.recorded.length = one.recorded

theorem Wrote.step
    {sessions : List Session} {file : LogFile} {session : Session}
    (wrote : Wrote sessions file) (fits : session.Fits) :
    ∃ after,
      step file session = some after ∧
      Wrote (sessions ++ [session]) after := by
  obtain ⟨after, ran, size, image, untouched⟩ := step_file fits file
  refine ⟨after, ran, fun _ => size, ?_⟩
  intro earlier one later cut silent
  rcases cut_append_singleton cut with
    ⟨_, rfl, _⟩ | ⟨shorter, rfl, cutBefore⟩
  · exact ⟨fits, image⟩
  · have silentBefore : ∀ session ∈ shorter, session.strings = [] := by
      intro other member
      exact silent other (List.mem_append_left _ member)
    have nothing : session.recorded.length = 0 := by
      rw [recorded,
        silent session
          (List.mem_append_right _ (List.mem_singleton_self _))]
      rfl
    obtain ⟨fitsOne, imageBefore⟩ := wrote.last cutBefore silentBefore
    have sizeBefore : file.size = BinaryLogger.logFileSize := by
      apply wrote.size
      rw [cutBefore]
      exact List.append_ne_nil_of_right_ne_nil _ (List.cons_ne_nil _ _)
    refine ⟨fitsOne, ?_⟩
    rw [← imageBefore, Buffer.length_cells]
    apply Buffer.cells_congr
    intro position _ inside
    have room := fitsOne.room
    have below : position < file.size := by omega
    rw [untouched position (by omega)]
    exact if_pos below

theorem wrote_of_exec
    (start : LogFile) (sessions : List Session)
    (fits : ∀ session ∈ sessions, session.Fits) :
    ∃ file, exec step sessions start = some file ∧ Wrote sessions file := by
  apply exec_returns Wrote _ _ sessions fits
  · refine ⟨fun present => absurd rfl present, ?_⟩
    intro earlier one later cut
    exact absurd cut.symm
      (List.append_ne_nil_of_right_ne_nil _ (List.cons_ne_nil _ _))
  · intro calls before session wrote admitted
    exact wrote.step admitted

theorem loggedBy_eq_nil_iff {sessions : List Session} :
    loggedBy sessions = [] ↔ ∀ session ∈ sessions, session.strings = [] :=
  List.flatMap_eq_nil_iff

/-- One session logged everything when the others before and behind it logged
nothing. -/
theorem loggedBy_eq_iff
    {earlier later : List Session} {one : Session}
    (silent : ∀ session ∈ later, session.strings = []) :
    loggedBy (earlier ++ one :: later) = one.strings ↔
      ∀ session ∈ earlier, session.strings = [] := by
  have split :
      loggedBy (earlier ++ one :: later) =
        loggedBy earlier ++ one.strings := by
    rw [loggedBy, List.flatMap_append, List.flatMap_cons, ← loggedBy,
      ← loggedBy, loggedBy_eq_nil_iff.mpr silent, List.append_nil]
  rw [split, List.append_left_eq_self, loggedBy_eq_nil_iff]

/-- Every session starts at the beginning of the file again.  After any sessions
the file begins with the records of the last one that logged anything; these are
all the strings exactly when no session before it logged any. -/
theorem sessions_start_over
    (start : LogFile) (sessions : List Session)
    (fits : ∀ session ∈ sessions, session.Fits) :
    ∃ after,
      exec step sessions start = some after ∧
      ∀ earlier one later,
        sessions = earlier ++ one :: later →
        (∀ session ∈ later, session.strings = []) →
        parseRecords BinaryLogger.sizeofLen
            (after.bytes.cells 0 one.recorded.length) =
          some one.strings ∧
        (loggedBy sessions = one.strings ↔
          ∀ session ∈ earlier, session.strings = []) := by
  obtain ⟨after, ran, wrote⟩ := wrote_of_exec start sessions fits
  refine ⟨after, ran, ?_⟩
  intro earlier one later cut silent
  obtain ⟨fitsOne, image⟩ := wrote.last cut silent
  refine ⟨parse_recorded fitsOne image, ?_⟩
  rw [cut]
  exact loggedBy_eq_iff silent

/-- Two strings are logged, then one by a second session, and nothing by a
third. -/
def sampleSessions : List Session :=
  [⟨⟨3, true, true⟩, [[65], [67]]⟩, ⟨⟨3, true, true⟩, [[66]]⟩,
    ⟨⟨3, true, true⟩, []⟩]

theorem sessions_start_over_sample :
    ∃ after,
      exec step sampleSessions LogFile.created = some after ∧
      parseRecords BinaryLogger.sizeofLen (after.bytes.cells 0 5) =
        some [[66]] ∧
      loggedBy sampleSessions ≠ [[66]] := by
  have fits : ∀ session ∈ sampleSessions, session.Fits := by
    intro session member
    rw [sampleSessions, List.mem_cons, List.mem_pair] at member
    rcases member with rfl | rfl | rfl
    · exact ⟨⟨rfl, rfl⟩, by decide⟩
    · exact ⟨⟨rfl, rfl⟩, by decide⟩
    · exact ⟨⟨rfl, rfl⟩, by decide⟩
  obtain ⟨after, ran, found⟩ :=
    sessions_start_over LogFile.created sampleSessions fits
  obtain ⟨parsed, all⟩ :=
    found [⟨⟨3, true, true⟩, [[65], [67]]⟩] ⟨⟨3, true, true⟩, [[66]]⟩
      [⟨⟨3, true, true⟩, []⟩] rfl (by simp)
  refine ⟨after, ran, parsed, ?_⟩
  intro everything
  have silent := all.mp everything _ (List.mem_singleton_self _)
  cases silent

/-- The record of the second session stands where the one of the first was, so
that no part of the file parses to both strings. -/
theorem sessions_overwrite :
    ∃ after,
      exec step [⟨⟨3, true, true⟩, [[65]]⟩, ⟨⟨3, true, true⟩, [[66]]⟩]
          LogFile.created = some after ∧
      ∀ more,
        parseRecords BinaryLogger.sizeofLen
            (after.bytes.cells 0 (5 + more)) ≠
          some [[65], [66]] := by
  have fits (character : UInt8) :
      (⟨⟨3, true, true⟩, [[character]]⟩ : Session).Fits :=
    ⟨⟨rfl, rfl⟩, by simp [recorded, BinaryLogger.sizeofLen,
      BinaryLogger.logFileSize]⟩
  obtain ⟨before, ranFirst, _⟩ := step_file (fits 65) LogFile.created
  obtain ⟨after, ranSecond, _, image, _⟩ := step_file (fits 66) before
  refine ⟨after, ?_, ?_⟩
  · rw [exec_cons, ranFirst, Option.bind_some, exec_cons, ranSecond]
    rfl
  · intro more parsed
    have first : after.bytes.cells 0 5 = record 4 [66] := image
    rw [Buffer.cells_append, first] at parsed
    have head :=
      head?_of_parseRecords (by decide) parsed
        (List.append_ne_nil_of_left_ne_nil (by decide) _)
    cases head

end Session

end LowLatencyBlocks
