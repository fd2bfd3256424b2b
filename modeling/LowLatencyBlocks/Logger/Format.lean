import LowLatencyBlocks.LockFreeQueue.Sequential
import LowLatencyBlocks.Logger.LogElement

/-!
# Formatting a line of the log

`Logger::log` of `logging.h`, called by the thread that pushes.  It scans its
format once; at a `%` that no other `%` follows it pushes the next argument and
goes on behind it with one argument fewer.  The overload without arguments takes
over when they have run out.

A C string is the list of its characters, and a read behind the last one gives
the terminating NUL.
-/

namespace LowLatencyBlocks

open Library

/-- An argument of `log`, one constructor for each overload of `pushValue`. -/
inductive LogArgument where
  | char (value : UInt8)
  | int (value : Int32)
  | long (value : Int64)
  | longLong (value : Int64)
  | unsigned (value : UInt32)
  | unsignedLong (value : UInt64)
  | unsignedLongLong (value : UInt64)
  | float (value : Float32)
  | double (value : Float)
  | cString (value : List UInt8)
  | string (value : List UInt8)

namespace Logger

def nul : UInt8 :=
  0

def percent : UInt8 :=
  37

/-- `queue_`, with what was pushed into it. -/
abbrev LogQueue :=
  LFQueue.Used LogElement

/-- `pushValue(const LogElement &)`. -/
def pushElement (queue : LogQueue) (element : LogElement) : LogQueue :=
  queue.afterPush element

/-- `pushValue(const char *)`. -/
def pushCString (queue : LogQueue) : List UInt8 → LogQueue
  | [] => queue
  | c :: value =>
      if c = nul then
        queue
      else
        pushCString (pushElement queue (.char c)) value

/-- `pushValue` of an argument. -/
def pushValue (queue : LogQueue) : LogArgument → LogQueue
  | .char value => pushElement queue (.char value)
  | .int value => pushElement queue (.integer value)
  | .long value => pushElement queue (.longInteger value)
  | .longLong value => pushElement queue (.longLongInteger value)
  | .unsigned value => pushElement queue (.unsignedInteger value)
  | .unsignedLong value => pushElement queue (.unsignedLongInteger value)
  | .unsignedLongLong value =>
      pushElement queue (.unsignedLongLongInteger value)
  | .float value => pushElement queue (.float value)
  | .double value => pushElement queue (.double value)
  | .cString value => pushCString queue value
  -- `value.c_str()`, which ends at the first NUL
  | .string value => pushCString queue value

/-- What a call of `log` leaves behind; `ended` is the `FATAL` that the process
ended in. -/
structure Logged where
  queue : LogQueue
  ended : Option Fault

/-- `log(const char *s)`. -/
def logText (queue : LogQueue) : List UInt8 → Logged
  | [] => ⟨queue, none⟩
  | c :: s =>
      if c = nul then
        ⟨queue, none⟩
      else if c = percent then
        if s.head? = some percent then
          -- `++s`, and the second `%` is pushed
          logText (pushElement queue (.char percent)) s.tail
        else
          ⟨queue, some (fatal "missing arguments to log()")⟩
      else
        logText (pushElement queue (.char c)) s
termination_by s => s.length
decreasing_by
  all_goals simp only [List.length_tail, List.length_cons]; omega

/-- `log(const char *s, const T &value, A... args)`. -/
def logValue (queue : LogQueue) :
    List UInt8 → LogArgument → List LogArgument → Logged
  | [], _, _ => ⟨queue, some (fatal "extra arguments provided to log()")⟩
  | c :: s, value, args =>
      if c = nul then
        ⟨queue, some (fatal "extra arguments provided to log()")⟩
      else if c = percent then
        if s.head? = some percent then
          logValue (pushElement queue (.char percent)) s.tail value args
        else
          -- the overload of `log(s + 1, args...)`
          match args with
          | [] => logText (pushValue queue value) s
          | next :: rest => logValue (pushValue queue value) s next rest
      else
        logValue (pushElement queue (.char c)) s value args
termination_by s => s.length
decreasing_by
  all_goals simp only [List.length_tail, List.length_cons]; omega

/-- A call of `log` with any number of arguments. -/
def log (queue : LogQueue) (s : List UInt8) : List LogArgument → Logged
  | [] => logText queue s
  | value :: args => logValue queue s value args

/-! ## The grammar of formats -/

/-- A piece of a format, read from left to right. -/
inductive Piece where
  | literal (c : UInt8)
  | placeholder
  deriving DecidableEq, Repr

/-- `%%` is a literal `%`, any other `%` is a placeholder. -/
def pieces : List UInt8 → List Piece
  | [] => []
  | [c] => [if c = percent then .placeholder else .literal c]
  | c :: next :: s =>
      if c = percent then
        if next = percent then
          .literal percent :: pieces s
        else
          .placeholder :: pieces (next :: s)
      else
        .literal c :: pieces (next :: s)

/-- The number of placeholders. -/
def placeholders (format : List Piece) : Nat :=
  format.count .placeholder

/-- One tagged element for a scalar, one character element for each character up
to the first NUL for a string. -/
def elementsOf : LogArgument → List LogElement
  | .char value => [.char value]
  | .int value => [.integer value]
  | .long value => [.longInteger value]
  | .longLong value => [.longLongInteger value]
  | .unsigned value => [.unsignedInteger value]
  | .unsignedLong value => [.unsignedLongInteger value]
  | .unsignedLongLong value => [.unsignedLongLongInteger value]
  | .float value => [.float value]
  | .double value => [.double value]
  | .cString value => (value.takeWhile (· ≠ nul)).map .char
  | .string value => (value.takeWhile (· ≠ nul)).map .char

/-- The literals, and at each placeholder the elements of the next argument. -/
def render : List Piece → List LogArgument → List LogElement
  | [], _ => []
  | .literal c :: format, args => .char c :: render format args
  | .placeholder :: format, [] => render format []
  | .placeholder :: format, value :: args =>
      elementsOf value ++ render format args

/-- The elements pushed one after another. -/
def pushElements (queue : LogQueue) (elements : List LogElement) : LogQueue :=
  elements.foldl pushElement queue

theorem pushElements_append
    (queue : LogQueue) (first second : List LogElement) :
    pushElements queue (first ++ second) =
      pushElements (pushElements queue first) second :=
  List.foldl_append

theorem pushed_pushElements
    (queue : LogQueue) (elements : List LogElement) :
    (pushElements queue elements).pushed = queue.pushed ++ elements := by
  induction elements generalizing queue with
  | nil =>
      exact (List.append_nil _).symm
  | cons element elements inductionHypothesis =>
      rw [pushElements, List.foldl_cons, ← pushElements,
        inductionHypothesis, pushElement, LFQueue.Used.afterPush,
        List.append_assoc, List.singleton_append]

theorem pushCString_eq (queue : LogQueue) (value : List UInt8) :
    pushCString queue value =
      pushElements queue ((value.takeWhile (· ≠ nul)).map .char) := by
  induction value generalizing queue with
  | nil =>
      rfl
  | cons c value inductionHypothesis =>
      by_cases ended : c = nul
      · simp [pushCString, ended, pushElements]
      · simp only [pushCString, ended, if_false]
        rw [inductionHypothesis, List.takeWhile_cons_of_pos (by simpa)]
        rfl

theorem pushValue_eq (queue : LogQueue) (value : LogArgument) :
    pushValue queue value = pushElements queue (elementsOf value) := by
  cases value with
  | cString value | string value =>
      exact pushCString_eq queue value
  | char | int | long | longLong | unsigned | unsignedLong
  | unsignedLongLong | float | double =>
      rfl

section Scan

variable {c : UInt8} {s : List UInt8}

theorem pieces_escaped :
    pieces (percent :: percent :: s) = .literal percent :: pieces s := by
  rw [pieces, if_pos rfl, if_pos rfl]

theorem pieces_placeholder (single : s.head? ≠ some percent) :
    pieces (percent :: s) = .placeholder :: pieces s := by
  cases s with
  | nil =>
      rfl
  | cons next s =>
      have other : next ≠ percent := by
        rintro rfl
        exact single rfl
      rw [pieces, if_pos rfl, if_neg other]

theorem pieces_literal (other : c ≠ percent) :
    pieces (c :: s) = .literal c :: pieces s := by
  cases s with
  | nil =>
      simp [pieces, other]
  | cons next s =>
      rw [pieces, if_neg other]

/-- One case for each kind of piece a format can begin with. -/
theorem scan_induction
    {motive : List UInt8 → Prop}
    (nil : motive [])
    (escaped : ∀ s, motive s → motive (percent :: percent :: s))
    (single :
      ∀ s, s.head? ≠ some percent → motive s → motive (percent :: s))
    (literal : ∀ c s, c ≠ percent → motive s → motive (c :: s))
    (s : List UInt8) : motive s := by
  induction s using pieces.induct with
  | case1 =>
      exact nil
  | case2 c =>
      by_cases same : c = percent
      · subst same
        exact single [] nofun nil
      · exact literal c [] same nil
  | case3 s afterEscape =>
      exact escaped s afterEscape
  | case4 next s other afterPlaceholder =>
      apply single (next :: s) _ afterPlaceholder
      simpa using other
  | case5 c next s other afterLiteral =>
      exact literal c (next :: s) other afterLiteral

end Scan

/-! ## One turn of the scan -/

theorem percent_ne_nul : percent ≠ nul := by
  decide

section Turn

variable {queue : LogQueue} {c : UInt8} {s : List UInt8}

theorem log_nil (args : List LogArgument) :
    log queue [] args =
      match args with
      | [] => ⟨queue, none⟩
      | _ :: _ =>
          ⟨queue, some (fatal "extra arguments provided to log()")⟩ := by
  cases args with
  | nil =>
      rw [log, logText]
  | cons value args =>
      rw [log, logValue]

theorem log_escaped (args : List LogArgument) :
    log queue (percent :: percent :: s) args =
      log (pushElement queue (.char percent)) s args := by
  cases args with
  | nil =>
      rw [log, logText, if_neg percent_ne_nul, if_pos rfl,
        if_pos List.head?_cons]
      rfl
  | cons value args =>
      rw [log, logValue.eq_def]
      simp [log, percent_ne_nul]

theorem log_literal
    (present : c ≠ nul) (other : c ≠ percent) (args : List LogArgument) :
    log queue (c :: s) args =
      log (pushElement queue (.char c)) s args := by
  cases args with
  | nil =>
      rw [log, logText, if_neg present, if_neg other]
      rfl
  | cons value args =>
      rw [log, logValue.eq_def]
      simp [log, present, other]

theorem log_missing (single : s.head? ≠ some percent) :
    log queue (percent :: s) [] =
      ⟨queue, some (fatal "missing arguments to log()")⟩ := by
  rw [log, logText, if_neg percent_ne_nul, if_pos rfl, if_neg single]

theorem log_placeholder
    (single : s.head? ≠ some percent)
    (value : LogArgument) (args : List LogArgument) :
    log queue (percent :: s) (value :: args) =
      log (pushValue queue value) s args := by
  rw [log, logValue.eq_def]
  cases args with
  | nil =>
      simp [log, single, percent_ne_nul]
  | cons next args =>
      simp [log, single, percent_ne_nul]

end Turn

/-- What `log` does with the pieces of its format. -/
def logPieces (queue : LogQueue) : List Piece → List LogArgument → Logged
  | [], [] => ⟨queue, none⟩
  | [], _ :: _ =>
      ⟨queue, some (fatal "extra arguments provided to log()")⟩
  | .literal c :: format, args =>
      logPieces (pushElement queue (.char c)) format args
  | .placeholder :: _, [] =>
      ⟨queue, some (fatal "missing arguments to log()")⟩
  | .placeholder :: format, value :: args =>
      logPieces (pushValue queue value) format args

theorem log_eq_logPieces
    (queue : LogQueue) (s : List UInt8) (args : List LogArgument)
    (noNul : nul ∉ s) :
    log queue s args = logPieces queue (pieces s) args := by
  induction s using scan_induction generalizing queue args with
  | nil =>
      rw [log_nil]
      cases args <;> rfl
  | escaped s inductionHypothesis =>
      rw [log_escaped, pieces_escaped]
      apply inductionHypothesis
      intro member
      exact noNul (List.mem_cons_of_mem _ (List.mem_cons_of_mem _ member))
  | single s alone inductionHypothesis =>
      rw [pieces_placeholder alone]
      cases args with
      | nil =>
          rw [log_missing alone]
          rfl
      | cons value args =>
          rw [log_placeholder alone]
          apply inductionHypothesis
          intro member
          exact noNul (List.mem_cons_of_mem _ member)
  | literal c s other inductionHypothesis =>
      have present : c ≠ nul := by
        rintro rfl
        exact noNul List.mem_cons_self
      rw [log_literal present other, pieces_literal other]
      apply inductionHypothesis
      intro member
      exact noNul (List.mem_cons_of_mem _ member)

/-! ## Formats and arguments that match, or do not -/

section Matching

variable {format : List Piece} {args : List LogArgument}

theorem placeholders_literal {c : UInt8} :
    placeholders (.literal c :: format) = placeholders format :=
  List.count_cons_of_ne Piece.noConfusion

theorem placeholders_placeholder :
    placeholders (.placeholder :: format) = placeholders format + 1 :=
  List.count_cons_self

/-- As many arguments as placeholders. -/
theorem logPieces_of_eq
    (queue : LogQueue) (same : placeholders format = args.length) :
    logPieces queue format args =
      ⟨pushElements queue (render format args), none⟩ := by
  induction format generalizing queue args with
  | nil =>
      have empty : args = [] :=
        List.eq_nil_of_length_eq_zero same.symm
      rw [empty]
      rfl
  | cons piece format inductionHypothesis =>
      cases piece with
      | literal c =>
          rw [placeholders_literal] at same
          exact inductionHypothesis _ same
      | placeholder =>
          rw [placeholders_placeholder] at same
          cases args with
          | nil =>
              cases same
          | cons value args =>
              have fewer : placeholders format = args.length :=
                Nat.succ_inj.mp same
              rw [logPieces, inductionHypothesis _ fewer, render,
                pushElements_append, pushValue_eq]

/-- Too few arguments: the first placeholder without one ends the process. -/
theorem logPieces_of_lt
    (queue : LogQueue) (fewer : args.length < placeholders format) :
    ∃ before after,
      format = before ++ .placeholder :: after ∧
      placeholders before = args.length ∧
      logPieces queue format args =
        ⟨pushElements queue (render before args),
          some (fatal "missing arguments to log()")⟩ := by
  induction format generalizing queue args with
  | nil =>
      cases fewer
  | cons piece format inductionHypothesis =>
      cases piece with
      | literal c =>
          rw [placeholders_literal] at fewer
          obtain ⟨before, after, split, count, ends⟩ :=
            inductionHypothesis (pushElement queue (.char c)) fewer
          refine ⟨.literal c :: before, after, ?_, ?_, ends⟩
          · rw [split, List.cons_append]
          · rw [placeholders_literal, count]
      | placeholder =>
          rw [placeholders_placeholder] at fewer
          cases args with
          | nil =>
              exact ⟨[], format, rfl, rfl, rfl⟩
          | cons value args =>
              obtain ⟨before, after, split, count, ends⟩ :=
                inductionHypothesis (pushValue queue value)
                  (Nat.lt_of_succ_lt_succ fewer)
              refine ⟨.placeholder :: before, after, ?_, ?_, ?_⟩
              · rw [split, List.cons_append]
              · rw [placeholders_placeholder, count, List.length_cons]
              · rw [logPieces, ends, render, pushElements_append,
                  pushValue_eq]

/-- Too many arguments: the end of the format ends the process. -/
theorem logPieces_of_gt
    (queue : LogQueue) (more : placeholders format < args.length) :
    logPieces queue format args =
      ⟨pushElements queue
          (render format (args.take (placeholders format))),
        some (fatal "extra arguments provided to log()")⟩ := by
  induction format generalizing queue args with
  | nil =>
      cases args with
      | nil =>
          cases more
      | cons value args =>
          rfl
  | cons piece format inductionHypothesis =>
      cases piece with
      | literal c =>
          rw [placeholders_literal] at more ⊢
          exact inductionHypothesis _ more
      | placeholder =>
          rw [placeholders_placeholder] at more ⊢
          cases args with
          | nil =>
              cases more
          | cons value args =>
              rw [logPieces,
                inductionHypothesis _ (Nat.lt_of_succ_lt_succ more),
                List.take_succ_cons, render, pushElements_append,
                pushValue_eq]

end Matching

/-- What was pushed into the queue of a call that only pushed these elements. -/
theorem pushed_of_log
    {queue : LogQueue} {format : List UInt8} {args : List LogArgument}
    {elements : List LogElement} {ended : Option Fault}
    (logged : log queue format args = ⟨pushElements queue elements, ended⟩) :
    (log queue format args).queue.pushed = queue.pushed ++ elements := by
  rw [logged]
  exact pushed_pushElements queue elements

/-- `log` renders its format: with an argument for each placeholder it pushes
the literals and the elements of the arguments, and returns; otherwise it pushes
them up to the placeholder that has no argument, or to the end of a format that
leaves an argument over, and ends the process there. -/
theorem log_renders
    (queue : LogQueue) (format : List UInt8) (args : List LogArgument)
    (noNul : nul ∉ format) :
    (placeholders (pieces format) = args.length →
      log queue format args =
          ⟨pushElements queue (render (pieces format) args), none⟩ ∧
        (log queue format args).queue.pushed =
          queue.pushed ++ render (pieces format) args) ∧
    (args.length < placeholders (pieces format) →
      ∃ before after,
        pieces format = before ++ .placeholder :: after ∧
        placeholders before = args.length ∧
        log queue format args =
          ⟨pushElements queue (render before args),
            some (fatal "missing arguments to log()")⟩ ∧
        (log queue format args).queue.pushed =
          queue.pushed ++ render before args) ∧
    (placeholders (pieces format) < args.length →
      log queue format args =
          ⟨pushElements queue
              (render (pieces format)
                (args.take (placeholders (pieces format)))),
            some (fatal "extra arguments provided to log()")⟩ ∧
        (log queue format args).queue.pushed =
          queue.pushed ++
            render (pieces format)
              (args.take (placeholders (pieces format)))) := by
  have scan := log_eq_logPieces queue format args noNul
  refine ⟨?_, ?_, ?_⟩
  · intro same
    have logged := scan.trans (logPieces_of_eq queue same)
    exact ⟨logged, pushed_of_log logged⟩
  · intro fewer
    obtain ⟨before, after, split, count, ends⟩ :=
      logPieces_of_lt queue fewer
    have logged := scan.trans ends
    exact ⟨before, after, split, count, logged, pushed_of_log logged⟩
  · intro more
    have logged := scan.trans (logPieces_of_gt queue more)
    exact ⟨logged, pushed_of_log logged⟩

/-- An escaped `%` and, right behind it, a placeholder. -/
theorem log_renders_sample :
    log (LFQueue.Used.start twoSlots LogElement.default)
        [percent, percent, percent] [.int 5] =
      ⟨pushElements (LFQueue.Used.start twoSlots LogElement.default)
        [.char percent, .integer 5], none⟩ ∧
      (log (LFQueue.Used.start twoSlots LogElement.default)
          [percent, percent, percent] [.int 5]).queue.pushed =
        [.char percent, .integer 5] :=
  (log_renders (LFQueue.Used.start twoSlots LogElement.default)
    [percent, percent, percent] [.int 5] (by decide)).1 rfl

end Logger

end LowLatencyBlocks
