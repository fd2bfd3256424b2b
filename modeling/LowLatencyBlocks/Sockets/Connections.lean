import LowLatencyBlocks.Library.Machine
import LowLatencyBlocks.Sockets.TCPServer

/-!
# The connections of the TCP server

A server that has listened once, under every sequence of `poll()` and
`sendAndRecv()`.  A socket that is reported disconnected stays in
`disconnected_sockets_` for ever, and `deleteSocket` is called for it in every
later poll; so a deleted socket is never registered again, no event names it,
and it cannot come back into the other lists.
-/

namespace LowLatencyBlocks

open Library

namespace TCPServer

/-- A server and the history of its run. -/
structure Served where
  server : TCPServer
  /-- The sockets made for the connections accepted. -/
  accepted : List SocketPtr
  /-- The arguments of the calls of `deleteSocket`. -/
  deletions : List SocketPtr
  /-- The connections reported with an error or a hang-up. -/
  reported : List SocketPtr

inductive Call where
  | poll (epollWait : Nat → List Event) (accepts : List AcceptResult)
  | sendAndRecv (received : SocketPtr → Bool)

namespace Served

/-- After `listen` on a new server, whatever the calls in it return. -/
def listening (epollFd socketFd : Int) (added : Bool) : Served where
  server := make.listen epollFd socketFd added
  accepted := []
  deletions := []
  reported := []

/-- The events of a poll. -/
def events (served : Served) (epollWait : Nat → List Event) : List Event :=
  epollWait served.server.maxEvents

/-- The connections that a batch reports with an error or a hang-up. -/
def reports (events : List Event) : List SocketPtr :=
  (hungUp events).filter fun socket => socket ≠ .listener

/-- After a poll that leaves `server` behind. -/
def afterPoll
    (served : Served) (epollWait : Nat → List Event)
    (accepts : List AcceptResult) (server : TCPServer) : Served where
  server := server
  accepted :=
    served.accepted ++ accepting (served.events epollWait) accepts
  deletions := served.deletions ++ served.server.disconnectedSockets
  reported := served.reported ++ reports (served.events epollWait)

/-- One call; `none` for a poll that does not return.  `sendAndRecv()` changes
no list. -/
def step (served : Served) : Call → Option Served
  | .poll epollWait accepts =>
      match served.server.poll epollWait accepts with
      | .ok (some server) =>
          some (served.afterPoll epollWait accepts server)
      | .ok none => none
      | .error _ => none
  | .sendAndRecv _ => some served

theorem step_poll_returned
    {served after : Served} {epollWait : Nat → List Event}
    {accepts : List AcceptResult}
    (stepped : step served (.poll epollWait accepts) = some after) :
    ∃ server,
      served.server.poll epollWait accepts = .ok (some server) ∧
        after = served.afterPoll epollWait accepts server := by
  rw [step] at stepped
  cases returned : served.server.poll epollWait accepts with
  | error fault =>
      rw [returned] at stepped
      cases stepped
  | ok left =>
      cases left with
      | none =>
          rw [returned] at stepped
          cases stepped
      | some server =>
          rw [returned] at stepped
          exact ⟨server, rfl, (Option.some.inj stepped).symm⟩

theorem step_poll_cases
    {served after : Served} {epollWait : Nat → List Event}
    {accepts : List AcceptResult}
    (stepped : step served (.poll epollWait accepts) = some after) :
    ∃ server,
      Polled served.server (served.events epollWait)
        (accepting (served.events epollWait) accepts) server ∧
      after = served.afterPoll epollWait accepts server := by
  obtain ⟨server, returned, same⟩ := step_poll_returned stepped
  exact ⟨server, polled_of_poll returned, same⟩

/-- The server under all sequences of calls. -/
def machine (epollFd socketFd : Int) (added : Bool) :
    Machine Served Call where
  start := listening epollFd socketFd added
  step := fun call before after => step before call = some after

/-- What `epoll_wait` and `new` promise: only sockets that are registered are
reported, and not with the flag that was not requested; and a new socket has an
address that no other socket has had. -/
def Contract (call : Call) (before _after : Served) : Prop :=
  match call with
  | .poll epollWait accepts =>
      (∀ event ∈ before.events epollWait,
        event.socket ∈ before.server.deleteDisconnected.registered ∧
          event.has epollout = false) ∧
      (accepting (before.events epollWait) accepts).Nodup ∧
      ∀ socket ∈ accepting (before.events epollWait) accepts,
        socket ∉ before.accepted
  | .sendAndRecv _ => True

/-- An accepted connection that `deleteSocket` has not been called for. -/
def Live (served : Served) (socket : SocketPtr) : Prop :=
  socket ∈ served.accepted ∧ socket ∉ served.deletions

/-- What holds after every call. -/
structure Listed (served : Served) : Prop where
  recvOnce : served.server.recvSockets.Nodup
  recvLive : ∀ socket,
    socket ∈ served.server.recvSockets ↔ served.Live socket
  sendEmpty : served.server.sendSockets = []
  disconnectedOnce : served.server.disconnectedSockets.Nodup
  /-- A deleted socket is deleted again by every poll. -/
  deletedStays : ∀ socket ∈ served.deletions,
    socket ∈ served.server.disconnectedSockets
  disconnectedKnown : ∀ socket ∈ served.server.disconnectedSockets,
    socket = .listener ∨ socket ∈ served.accepted
  listenerApart : .listener ∉ served.accepted
  registeredLive : ∀ socket ∈ served.server.registered,
    socket = .listener ∨ served.Live socket

namespace Listed

variable {served : Served} {epollWait : Nat → List Event}
  {accepts : List AcceptResult} {server : TCPServer}

theorem listening (epollFd socketFd : Int) (added : Bool) :
    Listed (listening epollFd socketFd added) := by
  obtain ⟨_, recv, send, disconnected⟩ :=
    listen_lists make epollFd socketFd added
  refine ⟨?_, ?_, send, ?_, ?_, ?_, List.not_mem_nil, ?_⟩
  · rw [Served.listening, recv]
    exact List.nodup_nil
  · intro socket
    rw [Served.listening, recv]
    constructor
    · intro member
      cases member
    · rintro ⟨accepted, _⟩
      cases accepted
  · rw [Served.listening, disconnected]
    exact List.nodup_nil
  · intro socket member
    cases member
  · intro socket member
    rw [Served.listening, disconnected] at member
    cases member
  · intro socket member
    exact Or.inl (registered_listen member)

/-- A socket that an event may name is the listener or a live connection, and is
not waiting to be deleted. -/
theorem named
    (listed : Listed served)
    {socket : SocketPtr}
    (member : socket ∈ served.server.deleteDisconnected.registered) :
    (socket = .listener ∨ served.Live socket) ∧
      socket ∉ served.server.disconnectedSockets := by
  rw [deleteDisconnected_eq, Finset.mem_sdiff, List.mem_toFinset] at member
  exact ⟨listed.registeredLive socket member.1, member.2⟩

/-- A connection made by the poll is neither known nor deleted. -/
theorem made_fresh
    (listed : Listed served)
    (fresh :
      ∀ socket ∈ accepting (served.events epollWait) accepts,
        socket ∉ served.accepted)
    {socket : SocketPtr}
    (made : socket ∈ accepting (served.events epollWait) accepts) :
    socket ∉ served.server.disconnectedSockets ∧
      socket ∉ served.deletions := by
  have waiting : socket ∉ served.server.disconnectedSockets := by
    intro member
    rcases listed.disconnectedKnown socket member with isListener | known
    · rw [isListener] at made
      exact listener_notMem_accepting _ _ made
    · exact fresh socket made known
  exact ⟨waiting, fun deleted =>
    waiting (listed.deletedStays socket deleted)⟩

/-- The connections live after a poll are those that were live and not waiting
to be deleted, and those it makes. -/
theorem live_afterPoll
    (listed : Listed served)
    (fresh :
      ∀ socket ∈ accepting (served.events epollWait) accepts,
        socket ∉ served.accepted)
    {socket : SocketPtr} :
    (served.afterPoll epollWait accepts server).Live socket ↔
      served.Live socket ∧
          socket ∉ served.server.disconnectedSockets ∨
        socket ∈ accepting (served.events epollWait) accepts := by
  simp only [Live, afterPoll, List.mem_append, not_or]
  constructor
  · rintro ⟨known | made, notDeleted, notWaiting⟩
    · exact Or.inl ⟨⟨known, notDeleted⟩, notWaiting⟩
    · exact Or.inr made
  · rintro (⟨⟨known, notDeleted⟩, notWaiting⟩ | made)
    · exact ⟨Or.inl known, notDeleted, notWaiting⟩
    · obtain ⟨notWaiting, notDeleted⟩ := listed.made_fresh fresh made
      exact ⟨Or.inr made, notDeleted, notWaiting⟩

/-- One step lemma for a poll. -/
theorem poll
    (listed : Listed served)
    (polled :
      Polled served.server (served.events epollWait)
        (accepting (served.events epollWait) accepts) server)
    (contract :
      Contract (.poll epollWait accepts) served
        (served.afterPoll epollWait accepts server)) :
    Listed (served.afterPoll epollWait accepts server) := by
  obtain ⟨reported, _, fresh⟩ := contract
  have namedLive : ∀ event ∈ served.events epollWait,
      (event.socket = .listener ∨ served.Live event.socket) ∧
        event.socket ∉ served.server.disconnectedSockets :=
    fun event member => listed.named (reported event member).1
  have live {socket : SocketPtr} :=
    @live_afterPoll served epollWait accepts server listed fresh socket
  refine ⟨?_, ?_, ?_, ?_, ?_, ?_, ?_, ?_⟩
  · rw [afterPoll, polled.recvSockets]
    exact
      nodup_findOrPushAll
        (nodup_findOrPushAll
          (nodup_eraseRemoveAll listed.recvOnce _) _) _
  · intro socket
    rw [live, afterPoll, polled.recvSockets, mem_findOrPushAll,
      mem_findOrPushAll, mem_eraseRemoveAll, listed.recvLive]
    constructor
    · rintro ((kept | reads) | made)
      · exact Or.inl kept
      · -- a readable connection is in the list already
        obtain ⟨event, member, _, _, rfl⟩ := mem_readable.mp reads
        obtain ⟨isListener | isLive, notWaiting⟩ := namedLive event member
        · rw [isListener] at reads
          exact absurd reads (listener_notMem_readable _)
        · exact Or.inl ⟨isLive, notWaiting⟩
      · exact Or.inr made
    · rintro (kept | made)
      · exact Or.inl (Or.inl kept)
      · exact Or.inr made
  · rw [afterPoll, polled.sendSockets, listed.sendEmpty,
      eraseRemoveAll_nil_left,
      writable_eq_nil fun event member => (reported event member).2]
    rfl
  · rw [afterPoll, polled.disconnectedSockets]
    exact nodup_findOrPushAll listed.disconnectedOnce _
  · intro socket member
    rw [afterPoll, polled.disconnectedSockets, mem_findOrPushAll]
    rcases List.mem_append.mp member with deleted | deletedNow
    · exact Or.inl (listed.deletedStays socket deleted)
    · exact Or.inl deletedNow
  · intro socket member
    rw [afterPoll, polled.disconnectedSockets, mem_findOrPushAll]
      at member
    rcases member with waiting | hangsUp
    · rcases listed.disconnectedKnown socket waiting with
        isListener | known
      · exact Or.inl isListener
      · exact Or.inr (List.mem_append_left _ known)
    · obtain ⟨event, eventMember, _, _, rfl⟩ := mem_hungUp.mp hangsUp
      obtain ⟨isListener | isLive, _⟩ := namedLive event eventMember
      · exact Or.inl isListener
      · exact Or.inr (List.mem_append_left _ isLive.1)
  · intro member
    rcases List.mem_append.mp member with known | made
    · exact listed.listenerApart known
    · exact listener_notMem_accepting _ _ made
  · intro socket member
    rw [afterPoll, polled.registered, Finset.mem_union, Finset.mem_sdiff,
      List.mem_toFinset, List.mem_toFinset] at member
    rw [live]
    rcases member with ⟨registered, notWaiting⟩ | made
    · rcases listed.registeredLive socket registered with
        isListener | isLive
      · exact Or.inl isListener
      · exact Or.inr (Or.inl ⟨isLive, notWaiting⟩)
    · exact Or.inr (Or.inr made)

end Listed

/-! ## Every run -/

section Runs

variable {epollFd socketFd : Int} {added : Bool} {served : Served}

theorem listed_of_reachable
    (reached :
      (machine epollFd socketFd added).Reachable Contract served) :
    served.Listed := by
  refine reached.invariant _ (Listed.listening _ _ _) ?_
  intro call before after listed stepped contract
  cases call with
  | poll epollWait accepts =>
      obtain ⟨server, polled, rfl⟩ := step_poll_cases stepped
      exact listed.poll polled contract
  | sendAndRecv received =>
      cases stepped
      exact listed

/-- The lists of connections after every run, and what `sendAndRecv()` services
then. -/
theorem connections_listed
    (epollFd socketFd : Int) (added : Bool) (served : Served)
    (reached :
      (machine epollFd socketFd added).Reachable Contract served) :
    served.server.recvSockets.Nodup ∧
    (∀ socket,
      socket ∈ served.server.recvSockets ↔ served.Live socket) ∧
    .listener ∉ served.server.recvSockets ∧
    served.server.sendSockets = [] ∧
    served.server.disconnectedSockets.Nodup ∧
    ∀ received,
      (served.server.sendAndRecv received).calls.Nodup ∧
      ∀ socket,
        socket ∈ (served.server.sendAndRecv received).calls ↔
          served.Live socket := by
  have listed := listed_of_reachable reached
  refine ⟨listed.recvOnce, listed.recvLive, ?_, listed.sendEmpty,
    listed.disconnectedOnce, ?_⟩
  · rw [listed.recvLive]
    exact fun live => listed.listenerApart live.1
  · intro received
    rw [sendAndRecv_calls, listed.sendEmpty, List.append_nil]
    exact ⟨listed.recvOnce, listed.recvLive⟩

end Runs

/-! ## A run with two connections -/

/-- A poll that accepts two connections. -/
def acceptTwo : Call :=
  .poll (fun _ => [⟨.listener, epollin⟩])
    [.accepted ⟨5, true, true, 100, true⟩,
      .accepted ⟨6, true, true, 101, true⟩, .failed 11]

/-- A poll in which the first of them hangs up. -/
def firstHangsUp : Call :=
  .poll (fun _ => [⟨.allocated 100, epollin ||| epollhup⟩]) []

def quietPoll : Call :=
  .poll (fun _ => []) []

private theorem reachable_call
    {epollFd socketFd : Int} {added : Bool} {before after : Served}
    (reached :
      (machine epollFd socketFd added).Reachable Contract before)
    (call : Call) (stepped : step before call = some after)
    (contract : Contract call before after) :
    (machine epollFd socketFd added).Reachable Contract after :=
  reached.next stepped contract

/-- The connection that hung up is deleted by the next poll, and only the other
one is serviced. -/
theorem connections_listed_sample :
    ∃ served,
      (machine 3 4 true).Reachable Contract served ∧
      served.accepted = [.allocated 100, .allocated 101] ∧
      served.deletions = [.allocated 100] ∧
      (served.server.sendAndRecv fun _ => false).calls =
        [.allocated 101] ∧
      (served.server.sendAndRecv fun _ => false).calls.Nodup := by
  have atStart :
      (machine 3 4 true).Reachable Contract (listening 3 4 true) :=
    Machine.Reachable.start
  have two :=
    reachable_call atStart acceptTwo rfl
      ⟨by decide, by decide, by decide⟩
  have hungUp :=
    reachable_call two firstHangsUp rfl
      ⟨by decide, by decide, by decide⟩
  have deleted :=
    reachable_call hungUp quietPoll rfl
      ⟨by decide, by decide, by decide⟩
  obtain ⟨_, _, _, _, _, serviced⟩ :=
    connections_listed 3 4 true _ deleted
  exact ⟨_, deleted, rfl, rfl, rfl, (serviced fun _ => false).1⟩

end Served

end TCPServer

end LowLatencyBlocks
