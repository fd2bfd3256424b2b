import LowLatencyBlocks.Sockets.Connections

/-!
# Draining the listener

The listener is registered edge-triggered, so that a connection left in its
queue is not announced again.  The accept loop leaves at the first failing
`accept` and does not ask why it failed.

`leaves` is the contract of one `accept` on the queue of pending connections;
what a pending connection is does not matter.
-/

namespace LowLatencyBlocks

open Library

/-- The values of `errno` that the contract of `accept` sets apart. -/
def eagain : Int :=
  11

def eintr : Int :=
  4

namespace TCPServer

section Queue

variable {Peer : Type}

/-- The queue behind one `accept`: a descriptor stands for the first entry,
`EAGAIN` for an empty queue, `EINTR` takes no entry, and any other error takes
the first one.  `none` for a result that the contract excludes. -/
def leaves (pending : List Peer) : AcceptResult → Option (List Peer)
  | .accepted _ => pending.tail?
  | .failed errno =>
      if errno = eagain then
        if pending.isEmpty then some [] else none
      else if errno = eintr then
        some pending
      else
        pending.tail?

/-- The queue behind the accept loop. -/
def leftBy (pending : List Peer) : List AcceptResult → Option (List Peer)
  | [] => some pending
  | .failed errno :: _ => leaves pending (.failed errno)
  | .accepted connection :: results => do
      let rest ← leaves pending (.accepted connection)
      leftBy rest results

/-- `errno` of the `accept` that ends the loop. -/
def loopError : List AcceptResult → Option Int
  | [] => none
  | .failed errno :: _ => some errno
  | .accepted _ :: results => loopError results

/-- The loop ends with `EAGAIN`, or else at the end of the queue: with `EINTR`
when every entry is accepted, or with another error for the last one. -/
def EndsAtLast (pending : List Peer) (accepts : List AcceptResult) : Prop :=
  ∃ errno,
    loopError accepts = some errno ∧
      (errno = eagain ∨
        errno = eintr ∧
          pending.length = (acceptedIn accepts).length ∨
        errno ≠ eintr ∧
          pending.length = (acceptedIn accepts).length + 1)

variable {pending left : List Peer} {accepts : List AcceptResult}
  {errno : Int}

theorem tail?_eq_some_iff :
    pending.tail? = some left ↔ ∃ first, pending = first :: left := by
  cases pending with
  | nil =>
      simp
  | cons first rest =>
      simp

/-- What the failing `accept` leaves. -/
theorem leaves_failed_eq_nil_iff
    (taken : leaves pending (.failed errno) = some left) :
    left = [] ↔
      errno = eagain ∨ errno = eintr ∧ pending.length = 0 ∨
        errno ≠ eintr ∧ pending.length = 1 := by
  simp only [leaves] at taken
  by_cases again : errno = eagain
  · rw [if_pos again] at taken
    by_cases empty : pending.isEmpty
    · rw [if_pos empty] at taken
      cases taken
      simp only [again, true_or]
    · rw [if_neg empty] at taken
      cases taken
  · rw [if_neg again] at taken
    by_cases interrupted : errno = eintr
    · rw [if_pos interrupted] at taken
      cases taken
      simp [interrupted, eagain, eintr]
    · rw [if_neg interrupted] at taken
      obtain ⟨first, rfl⟩ := tail?_eq_some_iff.mp taken
      simp [again, interrupted]

theorem leftBy_eq_nil_iff
    (ended : loopError accepts = some errno)
    (taken : leftBy pending accepts = some left) :
    left = [] ↔ EndsAtLast pending accepts := by
  induction accepts generalizing pending with
  | nil =>
      cases ended
  | cons result results inductionHypothesis =>
      cases result with
      | failed failure =>
          cases ended
          rw [leftBy] at taken
          rw [leaves_failed_eq_nil_iff taken]
          constructor
          · intro last
            exact ⟨errno, rfl, last⟩
          · rintro ⟨_, same, last⟩
            cases same
            exact last
      | accepted connection =>
          rw [leftBy] at taken
          obtain ⟨rest, first, takenRest⟩ :=
            Option.bind_eq_some_iff.mp taken
          obtain ⟨peer, rfl⟩ := tail?_eq_some_iff.mp first
          rw [inductionHypothesis ended takenRest]
          simp only [EndsAtLast, loopError, acceptedIn, List.length_cons,
            Nat.add_right_cancel_iff]

/-- A loop that returns has met a failing `accept`. -/
theorem loopError_of_acceptLoop
    {server after : TCPServer}
    (returned : server.acceptLoop accepts = .ok (some after)) :
    ∃ errno, loopError accepts = some errno := by
  induction accepts generalizing server with
  | nil =>
      cases returned
  | cons result results inductionHypothesis =>
      cases result with
      | failed failure =>
          exact ⟨failure, rfl⟩
      | accepted connection =>
          obtain ⟨_, _, _, rest⟩ := acceptLoop_accepted_cases returned
          exact inductionHypothesis rest

/-- A poll with new connections that returns has met a failing `accept`. -/
theorem loopError_of_poll
    {server after : TCPServer} {epollWait : Nat → List Event}
    (announced : (epollWait server.maxEvents).any Event.newConnections)
    (returned : server.poll epollWait accepts = .ok (some after)) :
    ∃ errno, loopError accepts = some errno := by
  simp only [poll, foldl_handleEvent, announced, Bool.or_true, if_true]
    at returned
  exact loopError_of_acceptLoop returned

end Queue

namespace Served

variable {served after : Served} {epollWait : Nat → List Event}
  {accepts : List AcceptResult}

/-- The poll leaves no pending connection, and every connection it accepts is
registered and listed once. -/
def Drains
    {Peer : Type} (left : List Peer) (made : List SocketPtr)
    (after : Served) : Prop :=
  left = [] ∧
    ∀ socket ∈ made,
      socket ∈ after.server.registered ∧
        after.server.recvSockets.count socket = 1

/-- Every poll registers and lists what it accepts. -/
theorem accepted_listed
    (listed : Listed after)
    (stepped : step served (.poll epollWait accepts) = some after) :
    ∀ socket ∈ accepting (served.events epollWait) accepts,
      socket ∈ after.server.registered ∧
        after.server.recvSockets.count socket = 1 := by
  obtain ⟨server, polled, rfl⟩ := step_poll_cases stepped
  intro socket made
  constructor
  · rw [afterPoll, polled.registered, Finset.mem_union, List.mem_toFinset]
    exact Or.inr made
  · apply List.count_eq_one_of_mem listed.recvOnce
    rw [afterPoll, polled.recvSockets, mem_findOrPushAll]
    exact Or.inr made

theorem loopError_of_step
    (announced : (served.events epollWait).any Event.newConnections)
    (stepped : step served (.poll epollWait accepts) = some after) :
    ∃ errno, loopError accepts = some errno := by
  obtain ⟨server, returned, _⟩ := step_poll_returned stepped
  exact loopError_of_poll announced returned

/-- A poll that is told of new connections drains the listener exactly when its
accept loop ends at the end of the queue. -/
theorem listener_drained_iff
    {Peer : Type} (epollFd socketFd : Int) (added : Bool)
    (served after : Served) (epollWait : Nat → List Event)
    (accepts : List AcceptResult) (pending left : List Peer)
    (reached :
      (machine epollFd socketFd added).Reachable Contract served)
    (announced : (served.events epollWait).any Event.newConnections)
    (stepped : step served (.poll epollWait accepts) = some after)
    (contract : Contract (.poll epollWait accepts) served after)
    (taken : leftBy pending accepts = some left) :
    after.Drains left (accepting (served.events epollWait) accepts) ↔
      EndsAtLast pending accepts := by
  have reachedAfter :
      (machine epollFd socketFd added).Reachable Contract after :=
    reached.next stepped contract
  have listed := accepted_listed (listed_of_reachable reachedAfter) stepped
  obtain ⟨errno, ended⟩ := loopError_of_step announced stepped
  rw [Drains, leftBy_eq_nil_iff ended taken]
  exact and_iff_left listed

/-- Two clients wait, and both are accepted. -/
theorem listener_drained_sample :
    ∃ after,
      step (listening 3 4 true) acceptTwo = some after ∧
        after.Drains ([] : List Nat) [.allocated 100, .allocated 101] := by
  refine ⟨_, rfl, ?_⟩
  apply
    (listener_drained_iff 3 4 true (listening 3 4 true) _
      (fun _ => [⟨.listener, epollin⟩])
      [.accepted ⟨5, true, true, 100, true⟩,
        .accepted ⟨6, true, true, 101, true⟩, .failed 11]
      [1, 2] [] Machine.Reachable.start (by decide) rfl
      ⟨by decide, by decide, by decide⟩ (by decide)).mpr
  exact ⟨eagain, rfl, Or.inl rfl⟩

/-- The first of two clients has given up, `accept` fails with `ECONNABORTED`,
and the second one stays in the queue. -/
theorem listener_not_drained :
    ∃ after,
      (machine 3 4 true).Reachable Contract after ∧
        step (listening 3 4 true)
            (.poll (fun _ => [⟨.listener, epollin⟩]) [.failed 103]) =
          some after ∧
        leftBy [1, 2] [.failed 103] = some [2] ∧
        ¬ after.Drains [2] [] := by
  refine ⟨_, ?_, rfl, by decide, ?_⟩
  · have stepped :
        step (listening 3 4 true)
            (.poll (fun _ => [⟨.listener, epollin⟩]) [.failed 103]) =
          some _ := rfl
    have atStart :
        (machine 3 4 true).Reachable Contract (listening 3 4 true) :=
      Machine.Reachable.start
    exact atStart.next stepped ⟨by decide, by decide, by decide⟩
  · rintro ⟨empty, _⟩
    cases empty

end Served

end TCPServer

end LowLatencyBlocks
