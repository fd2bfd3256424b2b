import LowLatencyBlocks.Logger.Closing
import LowLatencyBlocks.Logger.Format

/-!
# What the calls of `log` put in the file

A program that logs on one thread and then destroys its logger.  `log` turns
each format and its arguments into elements of the queue, the logger thread
turns the elements into bytes of the file; together they write each format with
the texts of its arguments in the places of its placeholders.

A call whose arguments do not match its placeholders ends the process: behind
its elements comes `FATAL`, and the logger is never destroyed.
-/

namespace LowLatencyBlocks

open Library

/-- A call of `log`; its format is a C string. -/
structure LogCall where
  format : List UInt8
  args : List LogArgument
  noNul : Logger.nul ∉ format

/-- As many arguments as placeholders. -/
def LogCall.Matches (call : LogCall) : Prop :=
  Logger.placeholders (Logger.pieces call.format) = call.args.length

instance (call : LogCall) : Decidable call.Matches :=
  inferInstanceAs (Decidable (_ = _))

namespace Inserters

/-- The text of an argument. -/
def argument (file : Inserters) : LogArgument → List UInt8
  | .char value => file.char value
  | .int value => file.int value
  | .long value => file.long value
  | .longLong value => file.longLong value
  | .unsigned value => file.unsigned value
  | .unsignedLong value => file.unsignedLong value
  | .unsignedLongLong value => file.unsignedLongLong value
  | .float value => file.float value
  | .double value => file.double value
  | .cString value => (value.takeWhile (· ≠ Logger.nul)).flatMap file.char
  | .string value => (value.takeWhile (· ≠ Logger.nul)).flatMap file.char

/-- A format with the texts of its arguments, up to the first placeholder that
has none. -/
def text (file : Inserters) :
    List Logger.Piece → List LogArgument → List UInt8
  | [], _ => []
  | .literal c :: format, args => file.char c ++ text file format args
  | .placeholder :: _, [] => []
  | .placeholder :: format, value :: args =>
      file.argument value ++ text file format args

/-- The texts of the calls, up to the first one that does not match. -/
def texts (file : Inserters) : List LogCall → List UInt8
  | [] => []
  | call :: calls =>
      file.text (Logger.pieces call.format) call.args ++
        if call.Matches then texts file calls else []

theorem elements_append
    (file : Inserters) (first second : List LogElement) :
    file.elements (first ++ second) =
      file.elements first ++ file.elements second :=
  List.flatMap_append

theorem elements_elementsOf (file : Inserters) (value : LogArgument) :
    file.elements (Logger.elementsOf value) = file.argument value := by
  cases value with
  | cString value | string value =>
      exact List.flatMap_map _ _ _
  | char | int | long | longLong | unsigned | unsignedLong
  | unsignedLongLong | float | double =>
      exact List.append_nil _

end Inserters

namespace Logger

/-- The calls one after another, until one of them ends the process. -/
def logAll (queue : LogQueue) : List LogCall → Logged
  | [] => ⟨queue, none⟩
  | call :: calls =>
      match log queue call.format call.args with
      | ⟨queue, none⟩ => logAll queue calls
      | ⟨queue, some fault⟩ => ⟨queue, some fault⟩

section Calls

variable {file : Inserters} {queue : LogQueue} {format : List Piece}
  {args : List LogArgument}

theorem elements_pushValue (value : LogArgument) :
    file.elements (pushValue queue value).pushed =
      file.elements queue.pushed ++ file.argument value := by
  rw [pushValue_eq, pushed_pushElements, Inserters.elements_append,
    Inserters.elements_elementsOf]

/-- The elements of a call are its text. -/
theorem elements_logPieces :
    file.elements (logPieces queue format args).queue.pushed =
        file.elements queue.pushed ++ file.text format args ∧
      ((logPieces queue format args).ended = none ↔
        placeholders format = args.length) := by
  induction format generalizing queue args with
  | nil =>
      cases args with
      | nil =>
          exact ⟨(List.append_nil _).symm, iff_of_true rfl rfl⟩
      | cons value args =>
          exact
            ⟨(List.append_nil _).symm,
              iff_of_false (Option.some_ne_none _) (Nat.succ_ne_zero _).symm⟩
  | cons piece format inductionHypothesis =>
      cases piece with
      | literal c =>
          obtain ⟨written, ended⟩ :=
            @inductionHypothesis (pushElement queue (.char c)) args
          rw [placeholders_literal, logPieces, written, ended]
          refine ⟨?_, Iff.rfl⟩
          change file.elements (queue.pushed ++ [.char c]) ++ _ = _
          rw [Inserters.elements_concat, List.append_assoc]
          rfl
      | placeholder =>
          rw [placeholders_placeholder]
          cases args with
          | nil =>
              exact
                ⟨(List.append_nil _).symm,
                  iff_of_false (Option.some_ne_none _) (Nat.succ_ne_zero _)⟩
          | cons value args =>
              obtain ⟨written, ended⟩ :=
                @inductionHypothesis (pushValue queue value) args
              rw [logPieces, written, ended, elements_pushValue,
                List.append_assoc, List.length_cons, Nat.succ_inj]
              exact ⟨rfl, Iff.rfl⟩

/-- The elements of a program are its texts, and it goes on to its end exactly
when every call matches. -/
theorem elements_logAll (calls : List LogCall) :
    file.elements (logAll queue calls).queue.pushed =
        file.elements queue.pushed ++ file.texts calls ∧
      ((logAll queue calls).ended = none ↔
        ∀ call ∈ calls, call.Matches) := by
  induction calls generalizing queue with
  | nil =>
      exact ⟨(List.append_nil _).symm, iff_of_true rfl (by simp)⟩
  | cons call calls inductionHypothesis =>
      obtain ⟨written, ended⟩ :=
        @elements_logPieces file queue (pieces call.format) call.args
      rw [← log_eq_logPieces queue call.format call.args call.noNul]
        at written ended
      rw [List.forall_mem_cons, logAll, Inserters.texts]
      cases logged : log queue call.format call.args with
      | mk after outcome =>
          rw [logged] at written ended
          cases outcome with
          | none =>
              have fits : call.Matches := ended.mp rfl
              obtain ⟨writtenRest, endedRest⟩ := @inductionHypothesis after
              rw [if_pos fits, writtenRest, written, List.append_assoc]
              exact ⟨rfl, endedRest.trans (and_iff_right fits).symm⟩
          | some fault =>
              have mismatch : ¬ call.Matches := by
                intro fits
                cases ended.mpr fits
              rw [if_neg mismatch, List.append_nil]
              exact
                ⟨written,
                  iff_of_false (by simp) fun each => mismatch each.1⟩

end Calls

/-- The elements that a program pushes. -/
def elementsLogged (capacity : Capacity) (calls : List LogCall) :
    List LogElement :=
  (logAll (LFQueue.Used.start capacity LogElement.default)
    calls).queue.pushed

theorem elements_elementsLogged
    (file : Inserters) (capacity : Capacity) (calls : List LogCall) :
    file.elements (elementsLogged capacity calls) = file.texts calls :=
  (elements_logAll calls).1

/-- The file is a beginning of the texts, and in the end all of them. -/
theorem file_of_reachable
    {inserters : Inserters} {self : Nat} {capacity : Capacity}
    {calls : List LogCall} {logger : Logger}
    (reached :
      (machine inserters self capacity
          (elementsLogged capacity calls)).Reachable
        (Machine.staying (UnreadAtMost (capacity.size - 1))) logger) :
    logger.file <+: inserters.texts calls ∧
      (logger.owner = .closed → logger.file = inserters.texts calls) := by
  have kept := kept_of_reachable reached
  have inOrder := LFQueue.Spsc.read_prefix_pushed (queue_reachable reached)
  have all := elements_elementsLogged inserters capacity calls
  constructor
  · have pushed :
        logger.queue.pushed <+: elementsLogged capacity calls := by
      have owner := kept.owner
      rw [OwnerCounts] at owner
      cases stage : logger.owner with
      | pushing left =>
          simp only [stage] at owner
          exact ⟨left, owner⟩
      | waiting | stopping | joining | closed =>
          simp only [stage] at owner
          rw [owner.1]
    obtain ⟨unread, split⟩ := inOrder.trans pushed
    rw [kept.file, ← all, ← split, Inserters.elements_append]
    exact List.prefix_append _ _
  · intro closed
    rw [file_of_closed reached closed, all]

/-! ## A program that logs -/

/-- A program with its logger; `exited` is the `FATAL` that it ended in. -/
structure LogProgram where
  logger : Logger
  exited : Option Fault

/-- It is still in its calls of `log`. -/
def Logging (logger : Logger) : Prop :=
  ∃ left, logger.owner = .pushing left

namespace LogProgram

/-- The steps of a program whose calls end in `ended`. -/
inductive Step
    (inserters : Inserters) (self : Nat) (ended : Option Fault) :
    Party → LogProgram → LogProgram → Prop
  /-- `exit` does not stop the logger thread at once. -/
  | run {party : Party} {program : LogProgram} {logger : Logger} :
      program.exited = none ∨ party = .flusher →
      Logger.Step inserters self party program.logger logger →
      (ended ≠ none → logger.Logging) →
      Step inserters self ended party program
        { program with logger := logger }
  /-- The call that does not match, behind its elements. -/
  | fatal {program : LogProgram} (fault : Fault) (seen : Option SizeT) :
      program.exited = none →
      program.logger.queue.Running →
      program.logger.owner = .pushing [] →
      program.logger.queue.producer = .ready seen →
      ended = some fault →
      Step inserters self ended .owner program
        { program with exited := some fault }

/-- How the calls end. -/
def endOf (capacity : Capacity) (calls : List LogCall) : Option Fault :=
  (logAll (LFQueue.Used.start capacity LogElement.default) calls).ended

def machine
    (inserters : Inserters) (self : Nat) (capacity : Capacity)
    (calls : List LogCall) : Machine LogProgram Party where
  start := ⟨Logger.start capacity (elementsLogged capacity calls), none⟩
  step := Step inserters self (endOf capacity calls)

/-- At most `bound` elements are unread. -/
def UnreadAtMost (bound : Nat) (program : LogProgram) : Prop :=
  program.logger.UnreadAtMost bound

section Runs

variable {inserters : Inserters} {self : Nat} {capacity : Capacity}
  {calls : List LogCall} {program : LogProgram}

theorem logger_reachable
    (reached :
      (machine inserters self capacity calls).Reachable
        (Machine.staying (UnreadAtMost (capacity.size - 1))) program) :
    (Logger.machine inserters self capacity
        (elementsLogged capacity calls)).Reachable
      (Machine.staying (Logger.UnreadAtMost (capacity.size - 1)))
      program.logger := by
  refine
    reached.invariant
      (fun program =>
        (Logger.machine inserters self capacity
            (elementsLogged capacity calls)).Reachable
          (Machine.staying (Logger.UnreadAtMost (capacity.size - 1)))
          program.logger) Machine.Reachable.start ?_
  intro party before after reachedLogger step bounded
  cases step with
  | run _ loggerStep _ =>
      exact reachedLogger.next loggerStep bounded
  | fatal _ _ _ _ _ _ _ =>
      exact reachedLogger

/-- What the end of the calls says about the program. -/
structure Accords (ended : Option Fault) (program : LogProgram) : Prop where
  exited : program.exited = none ∨ program.exited = ended
  logging : ended ≠ none → program.logger.Logging

theorem accords_of_reachable
    {allowed : Party → LogProgram → LogProgram → Prop}
    (reached :
      (machine inserters self capacity calls).Reachable allowed program) :
    program.Accords (endOf capacity calls) := by
  apply reached.invariant (Accords (endOf capacity calls))
  · exact ⟨.inl rfl, fun _ => ⟨_, rfl⟩⟩
  · intro party before after accords step _
    cases step with
    | run _ _ logging =>
        exact ⟨accords.exited, logging⟩
    | fatal fault _ _ _ _ _ ends =>
        exact ⟨.inr ends.symm, accords.logging⟩

/-- The steps of the logger that a program with these calls can make, one slot
staying unused. -/
def Admitted (capacity : Capacity) (calls : List LogCall) :
    Party → Logger → Logger → Prop :=
  Machine.keeping
    (Machine.staying (Logger.UnreadAtMost (capacity.size - 1)))
    fun logger => endOf capacity calls ≠ none → logger.Logging

/-- A run of the logger within the calls is one of the program. -/
theorem leads_of_logger
    {logger : Logger} (running : program.exited = none)
    (run :
      (Logger.machine inserters self capacity
          (elementsLogged capacity calls)).Leads
        (Admitted capacity calls) program.logger logger) :
    (machine inserters self capacity calls).Leads
      (Machine.staying (UnreadAtMost (capacity.size - 1))) program
      { program with logger := logger } := by
  induction run with
  | refl =>
      exact Machine.Leads.refl program
  | @tail last next _ lastStep inductionHypothesis =>
      obtain ⟨party, step, bounded, logging⟩ := lastStep
      have further :
          (machine inserters self capacity calls).step party
            { program with logger := last }
            { program with logger := next } :=
        Step.run (.inl running) step logging
      exact
        inductionHypothesis.trans (Machine.leads_of_step further bounded)

/-- The owner stops logging by entering the destructor. -/
theorem enters_of_leaves
    {party : Party} {before after : Logger}
    (step : Logger.Step inserters self party before after)
    (logging : before.Logging) (left : ¬ after.Logging) :
    before.queue.Running ∧ before.owner = .pushing [] ∧
      ∃ seen, before.queue.producer = .ready seen := by
  obtain ⟨elements, stage⟩ := logging
  cases step with
  | enterDestructor seen running entering ready =>
      exact ⟨running, entering, seen, ready⟩
  | pushElement _ rest _ _ _ =>
      exact absurd ⟨rest, rfl⟩ left
  | publish _ _ _ _ | enterLoop _ _ | leaveLoop _ _ | insert _ _ _ _
  | drain _ _ _ _ | sleep _ _ _ _ _ =>
      exact absurd ⟨elements, stage⟩ left
  | waitLonger _ other _ | waitOver _ other _ | stop _ other
  | join other _ =>
      rw [stage] at other
      cases other

/-- A program whose calls all match can always be brought to its end. -/
theorem closes_of_matches
    (two : 2 ≤ capacity.size)
    (reached :
      (machine inserters self capacity calls).Reachable
        (Machine.staying (UnreadAtMost (capacity.size - 1))) program)
    (goesOn : endOf capacity calls = none) :
    program.exited = none ∧
      ∃ final,
        (machine inserters self capacity calls).Leads
            (Machine.staying (UnreadAtMost (capacity.size - 1))) program
            final ∧
          final.logger.owner = .closed := by
  have running : program.exited = none := by
    rcases (accords_of_reachable reached).exited with running | exited
    · exact running
    · exact exited.trans goesOn
  obtain ⟨final, run, _, closed⟩ := closes two (logger_reachable reached)
  have admitted :
      (Logger.machine inserters self capacity
          (elementsLogged capacity calls)).Leads
        (Admitted capacity calls) program.logger final :=
    run.weaken fun _ _ _ bounded =>
      ⟨bounded, fun ends => absurd goesOn ends⟩
  exact ⟨running, _, leads_of_logger running admitted, closed⟩

/-- A program with a call that does not match can always be brought to its
`FATAL`, and never to the destructor. -/
theorem exits_of_mismatch
    (two : 2 ≤ capacity.size)
    (reached :
      (machine inserters self capacity calls).Reachable
        (Machine.staying (UnreadAtMost (capacity.size - 1))) program)
    {fault : Fault} (ends : endOf capacity calls = some fault) :
    program.logger.Logging ∧
      ∃ final,
        (machine inserters self capacity calls).Leads
            (Machine.staying (UnreadAtMost (capacity.size - 1))) program
            final ∧
          final.exited = some fault := by
  have accords := accords_of_reachable reached
  have unfinished : endOf capacity calls ≠ none := by
    rw [ends]
    exact Option.some_ne_none fault
  have logging := accords.logging unfinished
  refine ⟨logging, ?_⟩
  rcases accords.exited with running | exited
  · have reachedLogger := logger_reachable reached
    obtain ⟨closing, run, _, closed⟩ := closes two reachedLogger
    have outside : ¬ closing.Logging := by
      rintro ⟨left, pushing⟩
      rw [closed] at pushing
      cases pushing
    rcases run.stays_or_leaves Logging logging with
      ⟨_, inside⟩ | ⟨party, last, next, stays, inside, step, left⟩
    · exact absurd inside outside
    · obtain ⟨notEnded, pushed, seen, ready⟩ :=
        enters_of_leaves step inside left
      have admitted :
          (Logger.machine inserters self capacity
              (elementsLogged capacity calls)).Leads
            (Admitted capacity calls) program.logger last :=
        stays.weaken fun _ _ _ kept => ⟨kept.1, fun _ => kept.2⟩
      have bounded : last.UnreadAtMost (capacity.size - 1) := by
        have reachedLast :=
          reachedLogger.leads (stays.weaken fun _ _ _ kept => kept.1)
        exact (regular_of_reachable reachedLast).bounded
      have fatal :
          (machine inserters self capacity calls).step .owner
            { program with logger := last }
            { logger := last, exited := some fault } :=
        Step.fatal fault seen running notEnded pushed ready ends
      exact
        ⟨_,
          (leads_of_logger running admitted).trans
            (Machine.leads_of_step fatal bounded),
          rfl⟩
  · exact ⟨program, Machine.Leads.refl program, exited.trans ends⟩

end Runs

end LogProgram

/-- In every state of a program that keeps one slot of its queue unused, the
file is a beginning of the texts of the calls made, and once the logger is
closed it is all of them.  A program whose calls all match can be brought to
this end from every state; one with a call that does not is never closed, and
can be brought to the `FATAL` of that call. -/
theorem log_file
    (inserters : Inserters) (self : Nat) (capacity : Capacity)
    (calls : List LogCall) (program : LogProgram)
    (two : 2 ≤ capacity.size)
    (reached :
      (LogProgram.machine inserters self capacity calls).Reachable
        (Machine.staying (LogProgram.UnreadAtMost (capacity.size - 1)))
        program) :
    program.logger.file <+: inserters.texts calls ∧
      (program.logger.owner = .closed →
        program.logger.file = inserters.texts calls) ∧
      ((∀ call ∈ calls, call.Matches) →
        program.exited = none ∧
          ∃ final,
            (LogProgram.machine inserters self capacity calls).Leads
                (Machine.staying
                  (LogProgram.UnreadAtMost (capacity.size - 1)))
                program final ∧
              final.logger.owner = .closed) ∧
      ((¬ ∀ call ∈ calls, call.Matches) →
        program.logger.owner ≠ .closed ∧
          ∃ final fault,
            (LogProgram.machine inserters self capacity calls).Leads
                (Machine.staying
                  (LogProgram.UnreadAtMost (capacity.size - 1)))
                program final ∧
              LogProgram.endOf capacity calls = some fault ∧
              final.exited = some fault) := by
  have ended :
      LogProgram.endOf capacity calls = none ↔
        ∀ call ∈ calls, call.Matches :=
    (@elements_logAll inserters _ calls).2
  obtain ⟨beginning, all⟩ :=
    file_of_reachable (LogProgram.logger_reachable reached)
  refine ⟨beginning, all, ?_, ?_⟩
  · intro allMatch
    exact LogProgram.closes_of_matches two reached (ended.mpr allMatch)
  · intro mismatch
    obtain ⟨fault, ends⟩ :=
      Option.ne_none_iff_exists'.mp (mt ended.mp mismatch)
    obtain ⟨⟨left, pushing⟩, final, run, exited⟩ :=
      LogProgram.exits_of_mismatch two reached ends
    refine ⟨?_, final, fault, run, ends, exited⟩
    rw [pushing]
    nofun

/-- `"n=%\n"` with the argument 7, in a queue of two slots. -/
def sampleCall : LogCall where
  format := [110, 61, 37, 10]
  args := [.char 55]
  noNul := by decide

/-- `"%"` without an argument. -/
def unmatchedCall : LogCall where
  format := [37]
  args := []
  noNul := by decide

/-- A call that matches is written when the logger is closed; with a second one
that does not, the process ends in `FATAL`. -/
theorem log_file_sample :
    (∃ program,
      (LogProgram.machine sampleInserters 0 twoSlots [sampleCall]).Reachable
          (Machine.staying (LogProgram.UnreadAtMost (twoSlots.size - 1)))
          program ∧
        program.logger.owner = .closed ∧
        program.logger.file = [110, 61, 55, 10]) ∧
      ∃ program fault,
        (LogProgram.machine sampleInserters 0 twoSlots
            [sampleCall, unmatchedCall]).Reachable
          (Machine.staying (LogProgram.UnreadAtMost (twoSlots.size - 1)))
          program ∧
        program.exited = some fault ∧
        program.logger.file <+: [110, 61, 55, 10] := by
  constructor
  · have atStart :
        (LogProgram.machine sampleInserters 0 twoSlots
            [sampleCall]).Reachable
          (Machine.staying (LogProgram.UnreadAtMost (twoSlots.size - 1)))
          _ :=
      Machine.Reachable.start
    obtain ⟨_, _, closes, _⟩ :=
      log_file sampleInserters 0 twoSlots [sampleCall] _ (Nat.le_refl 2)
        atStart
    obtain ⟨_, final, run, closed⟩ := closes (by decide)
    have reached := atStart.leads run
    obtain ⟨_, all, _⟩ :=
      log_file sampleInserters 0 twoSlots [sampleCall] final
        (Nat.le_refl 2) reached
    exact ⟨final, reached, closed, all closed⟩
  · have atStart :
        (LogProgram.machine sampleInserters 0 twoSlots
            [sampleCall, unmatchedCall]).Reachable
          (Machine.staying (LogProgram.UnreadAtMost (twoSlots.size - 1)))
          _ :=
      Machine.Reachable.start
    obtain ⟨_, _, _, exits⟩ :=
      log_file sampleInserters 0 twoSlots [sampleCall, unmatchedCall] _
        (Nat.le_refl 2) atStart
    obtain ⟨_, final, fault, run, _, exited⟩ := exits (by decide)
    have reached := atStart.leads run
    obtain ⟨beginning, _⟩ :=
      log_file sampleInserters 0 twoSlots [sampleCall, unmatchedCall] final
        (Nat.le_refl 2) reached
    exact ⟨final, fault, reached, exited, beginning⟩

end Logger

end LowLatencyBlocks
