import Mathlib.Data.List.Basic
import LowLatencyBlocks.UdpSockets.Datagrams

/-!
# The three loops of the UDP server

`run_loop`, `run_loop_with_select` and `run_with_epoll_EPOLLIN` over the same
outcomes of `recvfrom`.  They write the terminator behind the stored bytes
without asking whether it has room, and only the first of them ends at an error.
-/

namespace LowLatencyBlocks

open Library

namespace UdpSockets

/-- `BUFF_SIZE`. -/
def buffSize : Nat :=
  1024

/-- What the loops do with a datagram: `recvfrom` stores it, `n` is what it has
stored, and the buffer is terminated there and printed. -/
def receive (buffer : Buffer UInt8) (bytes : List UInt8) :
    Except Fault (Printed × Buffer UInt8) := do
  let n := (stored buffSize bytes).length
  let buffer := buffer.write 0 (stored buffSize bytes)
  let buffer ← setAt buffSize buffer n 0
  let line ← printLine "Client: " buffSize buffer
  .ok (line, buffer)

/-- `run_loop` until the outcomes are used up. -/
def runLoop (buffer : Buffer UInt8) :
    List Received → Except Fault (List Printed)
  | [] => .ok []
  | .failed errno :: later =>
      if wouldBlock errno then
        runLoop buffer later
      else
        .ok [.perror "recvfrom error" errno]
  | .datagram bytes :: later => do
      let (line, buffer) ← receive buffer bytes
      printThen line (runLoop buffer later)

/-- One `select`, with the `recvfrom` behind it when the socket is set. -/
inductive Activity where
  | failed (errno : Int)
  | notSet
  | set (received : Received)
  deriving DecidableEq, Repr

/-- `run_loop_with_select` until the outcomes are used up. -/
def runLoopWithSelect (buffer : Buffer UInt8) :
    List Activity → Except Fault (List Printed)
  | [] => .ok []
  | .failed errno :: _ =>
      .ok [.perror "select() error, activity < 0" errno]
  | .notSet :: later =>
      runLoopWithSelect buffer later
  | .set (.failed errno) :: later =>
      printThen (.perror "recvfrom error" errno)
        (runLoopWithSelect buffer later)
  | .set (.datagram bytes) :: later => do
      let (line, buffer) ← receive buffer bytes
      printThen line (runLoopWithSelect buffer later)

/-- One `epoll_wait`, with the `recvfrom` behind every event that is for the
socket. -/
inductive EpollWait where
  | failed (errno : Int)
  | nfds (events : List (Option Received))
  deriving DecidableEq, Repr

/-- The `for` over the events of one `epoll_wait`. -/
def forEvents (buffer : Buffer UInt8) :
    List (Option Received) → Except Fault (List Printed × Buffer UInt8)
  | [] => .ok ([], buffer)
  | none :: later =>
      forEvents buffer later
  | some (.failed errno) :: later => do
      let (printed, buffer) ← forEvents buffer later
      .ok (.perror "recvfrom" errno :: printed, buffer)
  | some (.datagram bytes) :: later => do
      let (line, buffer) ← receive buffer bytes
      let (printed, buffer) ← forEvents buffer later
      .ok (line :: printed, buffer)

/-- The `while` of `run_with_epoll_EPOLLIN` until the outcomes are used up. -/
def epollLoop (buffer : Buffer UInt8) :
    List EpollWait → Except Fault (List Printed)
  | [] => .ok []
  | .failed errno :: _ => .ok [.perror "epoll_wait" errno]
  | .nfds events :: later => do
      let (printed, buffer) ← forEvents buffer events
      let more ← epollLoop buffer later
      .ok (printed ++ more)

/-- The two calls before that loop. -/
inductive EpollSetup where
  | createFails (errno : Int)
  | addFails (errno : Int)
  | succeeds
  deriving DecidableEq, Repr

/-- `run_with_epoll_EPOLLIN`; where a call before the loop fails, the program
exits behind the `perror`. -/
def runWithEpoll (setup : EpollSetup) (buffer : Buffer UInt8)
    (waits : List EpollWait) : Except Fault (List Printed) :=
  match setup with
  | .createFails errno => .ok [.perror "epoll_create1 failed" errno]
  | .addFails errno => .ok [.perror "epoll_ctl error" errno]
  | .succeeds => epollLoop buffer waits

/-- `select` always reports the socket. -/
def selectReady (outcomes : List Received) : List Activity :=
  outcomes.map Activity.set

/-- `epoll_wait` always reports the socket, the only one it watches. -/
def epollReady (outcomes : List Received) : List EpollWait :=
  outcomes.map fun received => .nfds [some received]

/-- One line for every datagram, with the stored bytes up to the first NUL. -/
def clientLines : List Received → List Printed
  | [] => []
  | .failed _ :: later => clientLines later
  | .datagram bytes :: later =>
      .line "Client: " (upTo 0 (stored buffSize bytes)) :: clientLines later

/-- The three loops show the lines of the datagrams.  A write outside the buffer
would have been a fault. -/
structure Interchangeable
    (buffer : Buffer UInt8) (outcomes : List Received) : Prop where
  loop : shown (runLoop buffer outcomes) = .ok (clientLines outcomes)
  select :
    shown (runLoopWithSelect buffer (selectReady outcomes)) =
      .ok (clientLines outcomes)
  epoll :
    shown (runWithEpoll .succeeds buffer (epollReady outcomes)) =
      .ok (clientLines outcomes)

/-- There is room for the terminator behind every datagram. -/
def AllShort (outcomes : List Received) : Prop :=
  ∀ bytes, .datagram bytes ∈ outcomes → bytes.length < buffSize

/-- No datagram follows an error for which `run_loop` ends. -/
def NoneBehindError (outcomes : List Received) : Prop :=
  outcomes.Pairwise fun first second =>
    ∀ errno,
      first = .failed errno → wouldBlock errno = false →
        ∀ bytes, second ≠ .datagram bytes

section Runs

variable {buffer : Buffer UInt8} {bytes : List UInt8} {errno : Int}
  {outcomes later : List Received}

theorem receive_of_short (short : bytes.length < buffSize) :
    receive buffer bytes =
      .ok (.line "Client: " (upTo 0 bytes),
        buffer.write 0 (bytes ++ [0])) := by
  have whole : stored buffSize bytes = bytes :=
    stored_of_le (Nat.le_of_lt short)
  have terminated :
      (buffer.write 0 bytes).write bytes.length [0] =
        buffer.write 0 (bytes ++ [0]) := by
    rw [← Buffer.write_write_append, Nat.zero_add]
  have printed :
      printLine "Client: " buffSize (buffer.write 0 (bytes ++ [0])) =
        .ok (.line "Client: " (upTo 0 bytes)) :=
    printLine_eq_ok_iff.mpr (cString_write_terminated short)
  simp only [receive, whole, setAt, short, if_true, terminated, bind,
    Except.bind, printed]

/-- The terminator of a datagram that fills the buffer. -/
theorem receive_of_long (long : buffSize ≤ bytes.length) :
    receive buffer bytes = .error (.outOfRange buffSize) := by
  have full : (stored buffSize bytes).length = buffSize := by
    rw [stored, List.length_take, Nat.min_eq_left long]
  simp only [receive, full, setAt, Nat.lt_irrefl, if_false]
  rfl

/-- What a run shows that begins with a datagram. -/
theorem shown_receive_iff
    {rest : Buffer UInt8 → Except Fault (List Printed)} :
    shown (receive buffer bytes >>= fun (line, buffer) =>
        printThen line (rest buffer)) =
          .ok (clientLines (.datagram bytes :: later)) ↔
      bytes.length < buffSize ∧
        shown (rest (buffer.write 0 (bytes ++ [0]))) =
          .ok (clientLines later) := by
  rw [clientLines]
  by_cases short : bytes.length < buffSize
  · rw [receive_of_short short, stored_of_le (Nat.le_of_lt short)]
    simp only [bind, Except.bind, shown_line, printThen_eq_ok_cons_iff,
      true_and, short]
  · rw [receive_of_long (Nat.le_of_not_lt short)]
    simp [short, bind, Except.bind, shown, Except.map]

/-! ## The two loops that wait -/

theorem epollLoop_failed {waits : List EpollWait} :
    epollLoop buffer (.nfds [some (.failed errno)] :: waits) =
      printThen (.perror "recvfrom" errno) (epollLoop buffer waits) := by
  have turn :
      forEvents buffer [some (.failed errno)] =
        .ok ([.perror "recvfrom" errno], buffer) :=
    rfl
  rw [epollLoop, turn]
  cases later : epollLoop buffer waits <;>
    simp only [bind, Except.bind, later] <;> rfl

theorem epollLoop_datagram {waits : List EpollWait} :
    epollLoop buffer (.nfds [some (.datagram bytes)] :: waits) =
      receive buffer bytes >>= fun (line, buffer) =>
        printThen line (epollLoop buffer waits) := by
  have turn :
      forEvents buffer [some (.datagram bytes)] =
        receive buffer bytes >>= fun (line, buffer) =>
          .ok ([line], buffer) :=
    rfl
  rw [epollLoop, turn]
  cases receive buffer bytes with
  | error fault =>
      rfl
  | ok received =>
      obtain ⟨line, behind⟩ := received
      simp only [bind, Except.bind]
      cases epollLoop behind waits <;> rfl

/-- The two loops that wait differ in the text of a `perror` only. -/
theorem shown_epoll_eq_select :
    shown (epollLoop buffer (epollReady outcomes)) =
      shown (runLoopWithSelect buffer (selectReady outcomes)) := by
  induction outcomes generalizing buffer with
  | nil =>
      rfl
  | cons received later inductionHypothesis =>
      rw [epollReady, selectReady, List.map_cons, List.map_cons,
        ← epollReady, ← selectReady]
      cases received with
      | failed errno =>
          rw [epollLoop_failed, runLoopWithSelect, shown_perror,
            shown_perror, inductionHypothesis]
      | datagram bytes =>
          rw [epollLoop_datagram, runLoopWithSelect]
          by_cases short : bytes.length < buffSize
          · rw [receive_of_short short]
            simp only [bind, Except.bind, shown_line, inductionHypothesis]
          · rw [receive_of_long (Nat.le_of_not_lt short)]
            rfl

theorem allShort_cons_datagram :
    AllShort (.datagram bytes :: later) ↔
      bytes.length < buffSize ∧ AllShort later := by
  simp only [AllShort, List.mem_cons, Received.datagram.injEq, or_imp,
    forall_and, forall_eq]

theorem allShort_cons_failed :
    AllShort (.failed errno :: later) ↔ AllShort later := by
  simp only [AllShort, List.mem_cons, reduceCtorEq, false_or]

theorem shown_select_iff :
    shown (runLoopWithSelect buffer (selectReady outcomes)) =
        .ok (clientLines outcomes) ↔
      AllShort outcomes := by
  induction outcomes generalizing buffer with
  | nil =>
      simp [selectReady, runLoopWithSelect, clientLines, AllShort]
  | cons received later inductionHypothesis =>
      cases received with
      | failed errno =>
          rw [selectReady, List.map_cons, ← selectReady, runLoopWithSelect,
            shown_perror, clientLines, inductionHypothesis,
            allShort_cons_failed]
      | datagram bytes =>
          rw [selectReady, List.map_cons, ← selectReady, runLoopWithSelect]
          rw [@shown_receive_iff buffer bytes later fun buffer =>
              runLoopWithSelect buffer (selectReady later),
            inductionHypothesis, allShort_cons_datagram]

/-! ## The loop that ends at an error -/

theorem clientLines_eq_nil_iff :
    clientLines outcomes = [] ↔ ∀ bytes, .datagram bytes ∉ outcomes := by
  induction outcomes with
  | nil =>
      simp [clientLines]
  | cons received later inductionHypothesis =>
      cases received with
      | failed errno =>
          simp [clientLines, inductionHypothesis]
      | datagram bytes =>
          rw [clientLines]
          constructor
          · intro empty
            cases empty
          · intro absent
            exact absurd List.mem_cons_self (absent bytes)

theorem noneBehindError_of_absent
    (absent : ∀ bytes, .datagram bytes ∉ outcomes) :
    NoneBehindError outcomes := by
  apply List.pairwise_of_forall_mem_list
  rintro first _ second member errno _ _ bytes rfl
  exact absent bytes member

theorem noneBehindError_cons_datagram :
    NoneBehindError (.datagram bytes :: later) ↔ NoneBehindError later := by
  rw [NoneBehindError, List.pairwise_cons, ← NoneBehindError]
  simp only [reduceCtorEq, false_implies, implies_true, true_and]

/-- What an error allows behind it. -/
theorem noneBehindError_cons_failed :
    NoneBehindError (.failed errno :: later) ↔
      if wouldBlock errno then
        NoneBehindError later
      else
        ∀ bytes, .datagram bytes ∉ later := by
  rw [NoneBehindError, List.pairwise_cons, ← NoneBehindError]
  by_cases again : wouldBlock errno = true
  · rw [if_pos again]
    constructor
    · exact And.right
    · intro silent
      refine ⟨?_, silent⟩
      intro second _ other same ends
      cases same
      rw [ends] at again
      cases again
  · rw [if_neg again]
    constructor
    · rintro ⟨silent, _⟩ bytes member
      exact
        silent _ member errno rfl (Bool.eq_false_iff.mpr again) bytes rfl
    · intro absent
      refine ⟨?_, noneBehindError_of_absent absent⟩
      rintro second member other _ _ bytes rfl
      exact absent bytes member

/-- `run_loop` shows the datagrams before the error at which it ends. -/
theorem shown_loop_iff (short : AllShort outcomes) :
    shown (runLoop buffer outcomes) = .ok (clientLines outcomes) ↔
      NoneBehindError outcomes := by
  induction outcomes generalizing buffer with
  | nil =>
      simp [runLoop, clientLines, NoneBehindError]
  | cons received later inductionHypothesis =>
      cases received with
      | failed errno =>
          rw [runLoop, clientLines, noneBehindError_cons_failed]
          by_cases again : wouldBlock errno = true
          · rw [if_pos again, if_pos again]
            exact inductionHypothesis (allShort_cons_failed.mp short)
          · -- the loop ends here
            have ended :
                shown (.ok [.perror "recvfrom error" errno]) = .ok [] :=
              rfl
            rw [if_neg again, if_neg again, ended, Except.ok.injEq, eq_comm,
              clientLines_eq_nil_iff]
      | datagram bytes =>
          obtain ⟨shortFirst, shortLater⟩ :=
            allShort_cons_datagram.mp short
          rw [runLoop]
          rw [@shown_receive_iff buffer bytes later fun buffer =>
              runLoop buffer later,
            inductionHypothesis shortLater, noneBehindError_cons_datagram]
          simp only [shortFirst, true_and]

end Runs

/-- The three loops show the same lines, and write below `BUFF_SIZE`, exactly
when the terminator has room behind every datagram, and no datagram follows an
error other than `EAGAIN`. -/
theorem server_loops_iff (buffer : Buffer UInt8) (outcomes : List Received) :
    Interchangeable buffer outcomes ↔
      AllShort outcomes ∧ NoneBehindError outcomes := by
  constructor
  · intro interchangeable
    have short := shown_select_iff.mp interchangeable.select
    exact ⟨short, (shown_loop_iff short).mp interchangeable.loop⟩
  · rintro ⟨short, silent⟩
    have select := (@shown_select_iff buffer outcomes).mpr short
    exact
      ⟨(shown_loop_iff short).mpr silent, select,
        shown_epoll_eq_select.trans select⟩

/-- A datagram that fills the buffer, and a datagram behind an error. -/
theorem server_loops_differ :
    ¬ Interchangeable (fun _ => 0)
        [.datagram (List.replicate buffSize 97)] ∧
      ¬ Interchangeable (fun _ => 0) [.failed 4, .datagram [104, 105]] := by
  constructor
  · intro interchangeable
    have short := shown_select_iff.mp interchangeable.select
    have room := short _ (List.mem_singleton_self _)
    rw [List.length_replicate] at room
    exact Nat.lt_irrefl buffSize room
  · intro interchangeable
    have ended := interchangeable.loop
    cases ended

end UdpSockets

end LowLatencyBlocks
