import Mathlib.Algebra.BigOperators.Group.Finset.Basic
import LowLatencyBlocks.Library.Loop
import LowLatencyBlocks.Sockets.OutgoingStream

/-!
# The end of the send loop

The send loop of `sendAndRecv()` under an infinite sequence of `::send`
results.  A failing `::send` adds one to `n_send` and does not leave the loop,
in spite of the comment above it; so the loop ends well exactly when no
`::send` fails before everything is sent.
-/

namespace LowLatencyBlocks

open Library

/-- `n`, the value that `::send` returns. -/
def SendResult.n : SendResult → Int
  | .accepted count => count
  | .failed _ => -1

namespace TCPSocket

/-- What the send loop changes. -/
structure Sending where
  disconnected : Bool
  nSend : Int

/-- The loop with its test and its body. -/
def sending : Loop Sending SendResult where
  guard := fun state => decide (0 < state.nSend)
  turn := fun state result =>
    { disconnected := state.disconnected || isFatal result
      nSend := state.nSend - result.n }

/-- At the first test of the loop. -/
def toSend (socket : TCPSocket) : Sending where
  disconnected := socket.sendDisconnected
  nSend := (min tcpBufferSize socket.nextSendValidIndex : Nat)

@[simp]
theorem sending_guard_iff {state : Sending} :
    sending.guard state = true ↔ 0 < state.nSend :=
  decide_eq_true_iff

@[simp]
theorem sending_left_iff {state : Sending} :
    sending.guard state = false ↔ state.nSend ≤ 0 := by
  rw [← Bool.not_eq_true, sending_guard_iff, Int.not_lt]

/-! ## The loop and its finite runs -/

/-- A send loop that leaves with the results it is given leaves behind as many
turns of the infinite sequence that they begin. -/
theorem behind_of_sendLoop
    {socket : TCPSocket} {disconnected after : Bool} {nSend : Int}
    {given : List SendResult} {sent : List UInt8}
    {results : Nat → SendResult}
    (ran : socket.sendLoop disconnected nSend given = some (after, sent))
    (same :
      ∀ turn, turn < given.length → given[turn]? = some (results turn)) :
    (sending.behind results ⟨disconnected, nSend⟩
        given.length).disconnected = after ∧
      sending.guard
        (sending.behind results ⟨disconnected, nSend⟩ given.length) =
          false := by
  induction given generalizing disconnected nSend sent results with
  | nil =>
      obtain ⟨ended, rfl, _⟩ := sendLoop_nil_iff.mp ran
      exact ⟨rfl, sending_left_iff.mpr ended⟩
  | cons result given inductionHypothesis =>
      have sameFirst : result = results 0 :=
        Option.some.inj (same 0 (Nat.zero_lt_succ _))
      have sameRest : ∀ turn, turn < given.length →
          given[turn]? = some (results (turn + 1)) :=
        fun turn inside => same (turn + 1) (Nat.succ_lt_succ inside)
      rw [List.length_cons, Loop.behind_succ, ← sameFirst, Loop.step]
      rcases sendLoop_cons_cases ran with
        ⟨count, rest, rfl, _, _, _, ranRest, _⟩ | ⟨errno, rfl, more, ranRest⟩
      · have guard : sending.guard ⟨disconnected, nSend⟩ = true := by
          apply sending_guard_iff.mpr
          change 0 < nSend
          omega
        rw [if_pos guard]
        have turned :
            sending.turn ⟨disconnected, nSend⟩ (.accepted count) =
              ⟨disconnected, nSend - count⟩ := by
          simp only [sending, isFatal, Bool.or_false, SendResult.n]
        rw [turned]
        exact inductionHypothesis ranRest sameRest
      · rw [if_pos (sending_guard_iff.mpr more)]
        exact inductionHypothesis ranRest sameRest

/-! ## When it ends -/

/-- The loop leaves; `n_send` never increases; the first failing `::send` ends
it; and no `::send` is made on a disconnected socket. -/
structure Ends (results : Nat → SendResult) (start : Sending) : Prop where
  leaves : sending.Leaves results start
  decreases : ∀ turns,
    (sending.behind results start (turns + 1)).nSend ≤
      (sending.behind results start turns).nSend
  stops : ∀ turns,
    sending.guard (sending.behind results start turns) = true →
    (results turns).n < 0 →
    sending.guard (sending.behind results start (turns + 1)) = false
  connected : ∀ turns,
    sending.guard (sending.behind results start turns) = true →
    (sending.behind results start turns).disconnected = false

/-- The kernel takes `nSend` bytes before any `::send` fails. -/
def TakesBeforeFailing (nSend : Int) (results : Nat → SendResult) : Prop :=
  ∃ turns,
    (∀ turn < turns, 0 ≤ (results turn).n) ∧
      nSend ≤ ∑ turn ∈ Finset.range turns, (results turn).n

section Ending

variable {results : Nat → SendResult} {start : Sending} {turns : Nat}

/-- `n_send` is what the results so far have left of it. -/
theorem nSend_behind
    (running :
      ∀ earlier < turns,
        sending.guard (sending.behind results start earlier) = true) :
    (sending.behind results start turns).nSend =
      start.nSend - ∑ turn ∈ Finset.range turns, (results turn).n := by
  apply
    Loop.running_invariant
      (fun turns state =>
        state.nSend =
          start.nSend - ∑ turn ∈ Finset.range turns, (results turn).n)
      _ _ running
  · rw [Finset.range_zero, Finset.sum_empty, Int.sub_zero]
  · intro turns state remaining _
    change state.nSend - (results turns).n = _
    rw [remaining, Finset.sum_range_succ]
    omega

theorem isFatal_eq_false_of_nonneg
    {result : SendResult} (accepted : 0 ≤ result.n) :
    isFatal result = false := by
  cases result with
  | accepted count =>
      rfl
  | failed errno =>
      rw [SendResult.n] at accepted
      omega

/-- While the kernel takes bytes, the loop runs for fewer turns than it takes
to send all of them. -/
theorem turn_lt_of_guard
    {enough : Nat}
    (total :
      start.nSend ≤ ∑ turn ∈ Finset.range enough, (results turn).n)
    (guard : sending.guard (sending.behind results start turns) = true) :
    turns < enough := by
  by_contra late
  have order : enough ≤ turns := Nat.le_of_not_lt late
  have guardThen := Loop.guard_of_le order guard
  have running := Loop.running_before guardThen
  rw [sending_guard_iff, nSend_behind running] at guardThen
  omega

/-- A socket stays connected while the kernel takes bytes. -/
theorem connected_behind
    (connected : start.disconnected = false)
    (running :
      ∀ earlier < turns,
        sending.guard (sending.behind results start earlier) = true)
    (accepted : ∀ turn < turns, 0 ≤ (results turn).n) :
    (sending.behind results start turns).disconnected = false := by
  apply
    Loop.running_invariant
      (fun now state => now ≤ turns → state.disconnected = false)
      (fun _ => connected) _ running (Nat.le_refl turns)
  intro turn state keeps _ order
  change (state.disconnected || isFatal (results turn)) = false
  rw [keeps (Nat.le_of_succ_le order),
    isFatal_eq_false_of_nonneg (accepted turn order)]
  rfl

theorem ends_of_takesBeforeFailing
    (connected : start.disconnected = false)
    (takes : TakesBeforeFailing start.nSend results) :
    Ends results start := by
  obtain ⟨enough, accepted, total⟩ := takes
  have acceptedNow : ∀ turns,
      sending.guard (sending.behind results start turns) = true →
      0 ≤ (results turns).n :=
    fun turns guard => accepted turns (turn_lt_of_guard total guard)
  refine ⟨?_, ?_, ?_, ?_⟩
  · refine ⟨enough, ?_⟩
    by_contra guard
    rw [Bool.not_eq_false] at guard
    exact Nat.lt_irrefl enough (turn_lt_of_guard total guard)
  · intro turns
    by_cases guard :
        sending.guard (sending.behind results start turns) = true
    · rw [Loop.behind_succ_of_guard guard]
      have takesMore := acceptedNow turns guard
      change _ - (results turns).n ≤ _
      omega
    · rw [Bool.not_eq_true] at guard
      rw [Loop.behind_succ_of_left guard]
  · intro turns guard failing
    exact absurd (acceptedNow turns guard) (Int.not_le.mpr failing)
  · intro turns guard
    have running := Loop.running_before guard
    exact
      connected_behind connected running fun turn before =>
        acceptedNow turn (running turn before)

theorem ends_of_nothing
    (nothing : start.nSend ≤ 0) : Ends results start := by
  have left : ∀ turns, sending.behind results start turns = start := by
    intro turns
    induction turns with
    | zero =>
        exact Loop.behind_zero
    | succ turns inductionHypothesis =>
        have leftThen :
            sending.guard (sending.behind results start turns) = false := by
          rw [inductionHypothesis]
          exact sending_left_iff.mpr nothing
        rw [Loop.behind_succ_of_left leftThen, inductionHypothesis]
  refine ⟨⟨0, sending_left_iff.mpr nothing⟩, ?_, ?_, ?_⟩
  · intro turns
    rw [left, left]
  · intro turns _ _
    rw [left]
    exact sending_left_iff.mpr nothing
  · intro turns guard
    rw [left, sending_guard_iff] at guard
    omega

theorem Ends.takesBeforeFailing
    (ends : Ends results start) :
    TakesBeforeFailing start.nSend results := by
  obtain ⟨turns, left, running⟩ := ends.leaves.exists_first
  refine ⟨turns, ?_, ?_⟩
  · intro turn before
    have decreases := ends.decreases turn
    rw [Loop.behind_succ_of_guard (running turn before)] at decreases
    change _ - (results turn).n ≤ _ at decreases
    omega
  · rw [sending_left_iff, nSend_behind running] at left
    omega

/-- A loop whose every `::send` fails never leaves. -/
theorem not_leaves_of_failing
    (failing : ∀ turn, (results turn).n < 0) (more : 0 < start.nSend) :
    ¬ sending.Leaves results start := by
  intro leaves
  obtain ⟨turns, left, running⟩ := leaves.exists_first
  have grows : 0 < (sending.behind results start turns).nSend := by
    apply
      Loop.running_invariant
        (fun _ (state : Sending) => 0 < state.nSend) more _ running
    intro turn state positive _
    have fails := failing turn
    change 0 < state.nSend - (results turn).n
    omega
  rw [sending_left_iff] at left
  omega

end Ending

/-- The send loop ends well exactly when there is nothing to send, or the socket
is connected and no `::send` fails before everything is sent. -/
theorem sendLoop_ends_iff
    (socket : TCPSocket) (results : Nat → SendResult) :
    Ends results socket.toSend ↔
      socket.nextSendValidIndex = 0 ∨
        socket.sendDisconnected = false ∧
          TakesBeforeFailing
            (min tcpBufferSize socket.nextSendValidIndex : Nat)
            results := by
  have nothingIff :
      socket.toSend.nSend ≤ 0 ↔ socket.nextSendValidIndex = 0 := by
    have room : 0 < tcpBufferSize := by decide
    rw [toSend]
    change ((min tcpBufferSize socket.nextSendValidIndex : Nat) : Int) ≤ 0 ↔ _
    omega
  constructor
  · intro ends
    by_cases nothing : socket.nextSendValidIndex = 0
    · exact Or.inl nothing
    · have more : sending.guard socket.toSend = true := by
        rw [← Bool.not_eq_false, sending_left_iff, nothingIff]
        exact nothing
      exact Or.inr ⟨ends.connected 0 more, ends.takesBeforeFailing⟩
  · rintro (nothing | ⟨connected, takes⟩)
    · exact ends_of_nothing (nothingIff.mpr nothing)
    · exact ends_of_takesBeforeFailing connected takes

/-- One byte to send, and the peer's window is closed for good. -/
theorem sendLoop_spins :
    ∃ socket : TCPSocket,
      socket.nextSendValidIndex = 1 ∧
        socket.sendDisconnected = false ∧
        ¬ sending.Leaves (fun _ => .failed ewouldblock) socket.toSend ∧
        ¬ Ends (fun _ => .failed ewouldblock) socket.toSend := by
  have spins :
      ¬ sending.Leaves (fun _ => .failed ewouldblock) ⟨false, 1⟩ :=
    not_leaves_of_failing (fun _ => by decide) (by decide)
  refine
    ⟨{ make (fun _ => 0) (fun _ => 0) with nextSendValidIndex := 1 }, rfl,
      rfl, spins, ?_⟩
  intro ends
  exact spins ends.leaves

end TCPSocket

end LowLatencyBlocks
