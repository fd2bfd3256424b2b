import LowLatencyBlocks.Sockets.Cleanup

/-!
# The registry of the TCP server

`sockets_` is erased from and measured, and no path adds to it.  It is empty in
every run, so every `epoll_wait` asks for one event; and it lists the live
connections exactly in the runs that accept none.
-/

namespace LowLatencyBlocks

open Library

namespace TCPServer

namespace Served

/-- `sockets_` holds the live connections, each once, and one `epoll_wait` can
report the listener and all of them. -/
structure Complete (served : Served) : Prop where
  once : served.server.sockets.Nodup
  live : ∀ socket, socket ∈ served.server.sockets ↔ served.Live socket
  maxEvents : served.server.maxEvents = 1 + served.liveConnections

/-- The registry is complete after the call. -/
def KeepsComplete (_ : Served) (_ : Call) (after : Served) : Prop :=
  after.Complete

/-- No connection is accepted by the call. -/
def AcceptsNone (before : Served) (call : Call) (_ : Served) : Prop :=
  match call with
  | .poll epollWait accepts =>
      accepting (before.events epollWait) accepts = []
  | .sendAndRecv _ => True

/-- The promises of the kernel and of `new`, step by step. -/
def Promised (before : Served) (call : Call) (after : Served) : Prop :=
  Contract call before after

/-! ## What the registry holds -/

theorem sockets_listening (epollFd socketFd : Int) (added : Bool) :
    (listening epollFd socketFd added).server.sockets = [] := by
  obtain ⟨sockets, _⟩ := listen_lists make epollFd socketFd added
  exact sockets

/-- Every path of a call leaves an empty registry empty. -/
theorem sockets_step
    {before after : Served} {call : Call}
    (empty : before.server.sockets = [])
    (stepped : step before call = some after) :
    after.server.sockets = [] := by
  cases call with
  | poll epollWait accepts =>
      obtain ⟨server, polled, rfl⟩ := step_poll_cases stepped
      rw [afterPoll, polled.sockets, empty, eraseRemoveAll_nil_left]
  | sendAndRecv received =>
      cases stepped
      exact empty

/-- Whatever the kernel answers, every `epoll_wait` asks for one event. -/
theorem maxEvents_eq_one
    {epollFd socketFd : Int} {added : Bool} {calls : List Call}
    {served : Served}
    (ran :
      exec step calls (listening epollFd socketFd added) = some served) :
    served.server.maxEvents = 1 := by
  have empty : served.server.sockets = [] := by
    apply
      exec_invariant (fun served : Served => served.server.sockets = []) _
        (sockets_listening epollFd socketFd added) ran
    intro before call after emptyBefore stepped
    exact sockets_step emptyBefore stepped
  rw [maxEvents, empty]
  rfl

/-! ## Runs without a connection -/

/-- A server that has accepted nothing yet. -/
structure Unconnected (served : Served) : Prop where
  listed : served.Listed
  sockets : served.server.sockets = []
  accepted : served.accepted = []

namespace Unconnected

theorem listening (epollFd socketFd : Int) (added : Bool) :
    Unconnected (listening epollFd socketFd added) where
  listed := Listed.listening epollFd socketFd added
  sockets := sockets_listening epollFd socketFd added
  accepted := rfl

variable {before after : Served}

theorem complete (unconnected : Unconnected after) : after.Complete := by
  refine ⟨?_, ?_, ?_⟩
  · rw [unconnected.sockets]
    exact List.nodup_nil
  · intro socket
    rw [unconnected.sockets, Live, unconnected.accepted]
    simp only [List.not_mem_nil, false_and]
  · rw [liveConnections, unconnected.accepted, maxEvents,
      unconnected.sockets]
    rfl

/-- A call that accepts nothing. -/
theorem next
    (unconnected : Unconnected before) {call : Call}
    (stepped : step before call = some after)
    (promised : Promised before call after)
    (nothing : AcceptsNone before call after) :
    Unconnected after := by
  cases call with
  | sendAndRecv received =>
      cases stepped
      exact unconnected
  | poll epollWait accepts =>
      have emptyAfter := sockets_step unconnected.sockets stepped
      obtain ⟨server, polled, rfl⟩ := step_poll_cases stepped
      refine ⟨unconnected.listed.poll polled promised, emptyAfter, ?_⟩
      have accepted : accepting (before.events epollWait) accepts = [] :=
        nothing
      rw [afterPoll, unconnected.accepted, accepted]
      rfl

/-- A connection that a poll accepts is live behind it, and not in
`sockets_`. -/
theorem acceptsNone_of_complete
    (unconnected : Unconnected before) {call : Call}
    (stepped : step before call = some after)
    (promised : Promised before call after)
    (complete : after.Complete) :
    AcceptsNone before call after := by
  cases call with
  | sendAndRecv received =>
      exact trivial
  | poll epollWait accepts =>
      have emptyAfter := sockets_step unconnected.sockets stepped
      obtain ⟨server, _, rfl⟩ := step_poll_cases stepped
      obtain ⟨_, _, fresh⟩ := promised
      apply List.eq_nil_iff_forall_not_mem.mpr
      intro socket made
      have live :
          (before.afterPoll epollWait accepts server).Live socket :=
        (unconnected.listed.live_afterPoll fresh).mpr (Or.inr made)
      rw [← complete.live socket, emptyAfter] at live
      cases live

theorem complete_iff
    (unconnected : Unconnected before) {call : Call}
    (stepped : step before call = some after)
    (promised : Promised before call after) :
    KeepsComplete before call after ↔ AcceptsNone before call after := by
  constructor
  · intro complete
    exact unconnected.acceptsNone_of_complete stepped promised complete
  · intro nothing
    exact (unconnected.next stepped promised nothing).complete

end Unconnected

/-! ## Every run -/

/-- The registry is complete after every call of a run exactly when the run
accepts no connection. -/
theorem registry_complete_iff
    (epollFd socketFd : Int) (added : Bool) (calls : List Call)
    (promised :
      EachStep step Promised calls (listening epollFd socketFd added)) :
    EachStep step KeepsComplete calls (listening epollFd socketFd added) ↔
      EachStep step AcceptsNone calls
        (listening epollFd socketFd added) := by
  apply
    promised.congr _ _ (Unconnected.listening epollFd socketFd added)
  · intro before call after unconnected stepped promise
    exact unconnected.complete_iff stepped promise
  · intro before call after unconnected stepped promise complete
    apply unconnected.next stepped promise
    exact (unconnected.complete_iff stepped promise).mp complete

/-- The listener is reported, but `accept` finds no connection. -/
def emptyAccept : Call :=
  .poll (fun _ => [⟨.listener, epollin⟩]) [.failed 11]

/-- A run that accepts nothing, and one that then accepts two connections. -/
theorem registry_complete_sample :
    EachStep step KeepsComplete [emptyAccept, .sendAndRecv fun _ => false]
        (listening 3 4 true) ∧
      ¬ EachStep step KeepsComplete [emptyAccept, acceptTwo]
        (listening 3 4 true) := by
  constructor
  · have promised :
        EachStep step Promised [emptyAccept, .sendAndRecv fun _ => false]
          (listening 3 4 true) := by
      intro first stepped
      cases stepped
      refine ⟨⟨by decide, by decide, by decide⟩, ?_⟩
      intro second stepped
      exact ⟨trivial, trivial⟩
    apply (registry_complete_iff 3 4 true _ promised).mpr
    intro first stepped
    cases stepped
    refine ⟨rfl, ?_⟩
    intro second stepped
    exact ⟨trivial, trivial⟩
  · have promised :
        EachStep step Promised [emptyAccept, acceptTwo]
          (listening 3 4 true) := by
      intro first stepped
      cases stepped
      refine ⟨⟨by decide, by decide, by decide⟩, ?_⟩
      intro second stepped
      cases stepped
      exact ⟨⟨by decide, by decide, by decide⟩, trivial⟩
    rw [registry_complete_iff 3 4 true _ promised]
    intro nothing
    obtain ⟨_, later⟩ := nothing _ rfl
    obtain ⟨acceptsNone, _⟩ := later _ rfl
    rw [acceptTwo, AcceptsNone] at acceptsNone
    exact absurd acceptsNone (by decide)

/-- Two connections are accepted; `sockets_` is empty, and the next
`epoll_wait` asks for one event. -/
theorem registry_misses_connections :
    EachStep step Promised [acceptTwo] (listening 3 4 true) ∧
      ¬ EachStep step KeepsComplete [acceptTwo] (listening 3 4 true) ∧
      ∃ served,
        exec step [acceptTwo] (listening 3 4 true) = some served ∧
          served.server.sockets = [] ∧
          served.liveConnections = 2 ∧
          served.server.maxEvents = 1 := by
  refine ⟨?_, ?_, ?_⟩
  · intro after stepped
    cases stepped
    exact ⟨⟨by decide, by decide, by decide⟩, trivial⟩
  · intro each
    obtain ⟨complete, _⟩ := each _ rfl
    exact absurd complete.maxEvents (by decide)
  · exact ⟨_, rfl, rfl, by decide, rfl⟩

end Served

end TCPServer

end LowLatencyBlocks
