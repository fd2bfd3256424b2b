import LowLatencyBlocks.Sockets.Connections

/-!
# Disconnected sockets of the TCP server

What is left of a connection that was reported with an error or a hang-up.
`deleteSocket` takes it out of three lists and out of the epoll instance, but
`disconnected_sockets_` is never emptied and no `TCPSocket` is ever destroyed:
the socket is deleted again by every later poll, and its descriptor stays open.

Nothing here rests on what the kernel promises; the batches and the results of
`accept` are arbitrary.
-/

namespace LowLatencyBlocks

open Library

namespace TCPServer

namespace Served

/-- The number of accepted connections whose descriptor is open. -/
def openConnections (served : Served) : Nat :=
  served.accepted.countP fun socket =>
    served.server.fd socket ∈ served.server.openFds

/-- The number of accepted connections that `deleteSocket` has not been called
for. -/
def liveConnections (served : Served) : Nat :=
  served.accepted.countP fun socket => socket ∉ served.deletions

/-- Behind the deletions at the start of the next poll, the socket is in none of
the lists, has been deleted once, and its descriptor is closed. -/
structure Cleaned (served : Served) (socket : SocketPtr) : Prop where
  notSockets : socket ∉ served.server.deleteDisconnected.sockets
  notRecv : socket ∉ served.server.deleteDisconnected.recvSockets
  notSend : socket ∉ served.server.deleteDisconnected.sendSockets
  notDisconnected :
    socket ∉ served.server.deleteDisconnected.disconnectedSockets
  deletedOnce :
    (served.deletions ++ served.server.disconnectedSockets).count socket = 1
  closed :
    served.server.deleteDisconnected.fd socket ∉
      served.server.deleteDisconnected.openFds

/-- The open connection descriptors and the length of `disconnected_sockets_`
are bounded by the live connections and the `reported` ones. -/
structure Bounded (served : Served) (reported : List SocketPtr) : Prop where
  descriptors :
    served.openConnections ≤
      served.liveConnections + reported.toFinset.card
  disconnected :
    served.server.disconnectedSockets.length ≤
      served.liveConnections + reported.toFinset.card

/-- The poll cleans up every connection reported by an earlier one, and leaves
the bounds behind. -/
def CleansUp (before : Served) (call : Call) (after : Served) : Prop :=
  match call with
  | .poll epollWait _ =>
      (∀ socket ∈ before.reported, before.Cleaned socket) ∧
        after.Bounded (reports (before.events epollWait))
  | .sendAndRecv _ => True

/-- The listener is, or has just been, reported with an error or a hang-up in an
event without new connections. -/
def ListenerFails
    (served : Served) (epollWait : Nat → List Event) : Prop :=
  .listener ∈ served.server.disconnectedSockets ∨
    .listener ∈ hungUp (served.events epollWait)

/-- No earlier poll has reported a connection; and if the listener fails, some
connection has been accepted. -/
def NothingToClean
    (before : Served) (call : Call) (_after : Served) : Prop :=
  match call with
  | .poll epollWait accepts =>
      before.reported = [] ∧
        (before.ListenerFails epollWait →
          before.accepted ++
            accepting (before.events epollWait) accepts ≠ [])
  | .sendAndRecv _ => True

theorem mem_reports {events : List Event} {socket : SocketPtr} :
    socket ∈ reports events ↔ socket ∈ hungUp events ∧ socket ≠ .listener := by
  rw [reports, List.mem_filter, decide_eq_true_eq]

/-! ## What stays behind -/

/-- What holds after every call, whatever the kernel returns. -/
structure Lingering (served : Served) : Prop where
  waitingOnce : served.server.disconnectedSockets.Nodup
  /-- `disconnected_sockets_` holds the connections ever reported, and the
  listener if it was. -/
  waiting : ∀ socket, socket ≠ .listener →
    (socket ∈ served.server.disconnectedSockets ↔
      socket ∈ served.reported)
  listenerApart : .listener ∉ served.accepted
  notReported : .listener ∉ served.reported
  deletedWaits : ∀ socket ∈ served.deletions,
    socket ∈ served.server.disconnectedSockets
  stillOpen : ∀ socket ∈ served.accepted,
    served.server.fd socket ∈ served.server.openFds

namespace Lingering

variable {served : Served} {epollWait : Nat → List Event}
  {accepts : List AcceptResult} {server : TCPServer}

theorem listening (epollFd socketFd : Int) (added : Bool) :
    Lingering (listening epollFd socketFd added) := by
  obtain ⟨_, _, _, disconnected⟩ :=
    listen_lists make epollFd socketFd added
  refine ⟨?_, ?_, List.not_mem_nil, List.not_mem_nil, ?_, ?_⟩
  · rw [Served.listening, disconnected]
    exact List.nodup_nil
  · intro socket _
    rw [Served.listening, disconnected]
    exact Iff.rfl
  · intro socket member
    cases member
  · intro socket member
    cases member

theorem poll
    (lingering : Lingering served)
    (polled :
      Polled served.server (served.events epollWait)
        (accepting (served.events epollWait) accepts) server) :
    Lingering (served.afterPoll epollWait accepts server) := by
  refine ⟨?_, ?_, ?_, ?_, ?_, ?_⟩
  · rw [afterPoll, polled.disconnectedSockets]
    exact nodup_findOrPushAll lingering.waitingOnce _
  · intro socket other
    rw [afterPoll, polled.disconnectedSockets, mem_findOrPushAll,
      List.mem_append, mem_reports, lingering.waiting socket other]
    simp only [other, ne_eq, not_false_eq_true, and_true]
  · intro member
    rcases List.mem_append.mp member with known | made
    · exact lingering.listenerApart known
    · exact listener_notMem_accepting _ _ made
  · intro member
    rcases List.mem_append.mp member with earlier | now
    · exact lingering.notReported earlier
    · exact (mem_reports.mp now).2 rfl
  · intro socket member
    rw [afterPoll, polled.disconnectedSockets, mem_findOrPushAll]
    rcases List.mem_append.mp member with deleted | deletedNow
    · exact Or.inl (lingering.deletedWaits socket deleted)
    · exact Or.inl deletedNow
  · intro socket member
    by_cases made :
        socket ∈ accepting (served.events epollWait) accepts
    · exact polled.madeFd socket made
    · have known : socket ∈ served.accepted :=
        (List.mem_append.mp member).resolve_right made
      rw [afterPoll, polled.otherFd socket made]
      exact polled.opens (lingering.stillOpen socket known)

theorem next
    (lingering : Lingering served) {call : Call} {after : Served}
    (stepped : step served call = some after) :
    Lingering after := by
  cases call with
  | poll epollWait accepts =>
      obtain ⟨server, polled, rfl⟩ := step_poll_cases stepped
      exact lingering.poll polled
  | sendAndRecv received =>
      cases stepped
      exact lingering

/-- Every later poll deletes a reported connection once more. -/
theorem deleted_again
    (lingering : Lingering served) {after : Served}
    (stepped : step served (.poll epollWait accepts) = some after)
    {socket : SocketPtr} (reported : socket ∈ served.reported) :
    after.deletions.count socket =
      served.deletions.count socket + 1 := by
  have other : socket ≠ .listener := by
    rintro rfl
    exact lingering.notReported reported
  have waits := (lingering.waiting socket other).mpr reported
  obtain ⟨server, _, rfl⟩ := step_poll_cases stepped
  rw [afterPoll, List.count_append,
    List.count_eq_one_of_mem lingering.waitingOnce waits]

/-- A reported connection is never cleaned up. -/
theorem not_cleaned
    (lingering : Lingering served) {socket : SocketPtr}
    (reported : socket ∈ served.reported) :
    ¬ served.Cleaned socket := by
  intro cleaned
  have other : socket ≠ .listener := by
    rintro rfl
    exact lingering.notReported reported
  apply cleaned.notDisconnected
  rw [deleteDisconnected_eq]
  exact (lingering.waiting socket other).mpr reported

theorem reported_eq_nil
    (lingering : Lingering served)
    (cleaned : ∀ socket ∈ served.reported, served.Cleaned socket) :
    served.reported = [] := by
  apply List.eq_nil_iff_forall_not_mem.mpr
  intro socket reported
  exact lingering.not_cleaned reported (cleaned socket reported)

/-! ## The bounds -/

/-- Every accepted connection keeps its descriptor. -/
theorem openConnections_eq (lingering : Lingering served) :
    served.openConnections = served.accepted.length := by
  rw [openConnections, List.countP_eq_length]
  intro socket member
  exact decide_eq_true (lingering.stillOpen socket member)

/-- While at most the listener is deleted, every connection is live. -/
theorem liveConnections_eq
    (lingering : Lingering served)
    (onlyListener : ∀ socket ∈ served.deletions, socket = .listener) :
    served.liveConnections = served.accepted.length := by
  rw [liveConnections, List.countP_eq_length]
  intro socket member
  apply decide_eq_true
  intro deleted
  rw [onlyListener socket deleted] at member
  exact lingering.listenerApart member

/-- `disconnected_sockets_` after a poll before which nothing was reported. -/
theorem disconnected_afterPoll
    (lingering : Lingering served)
    (nothing : served.reported = [])
    (polled :
      Polled served.server (served.events epollWait)
        (accepting (served.events epollWait) accepts) server) :
    (.listener ∈ server.disconnectedSockets ↔
        served.ListenerFails epollWait) ∧
      ∀ socket, socket ≠ .listener →
        (socket ∈ server.disconnectedSockets ↔
          socket ∈ reports (served.events epollWait)) := by
  rw [polled.disconnectedSockets]
  constructor
  · exact mem_findOrPushAll
  · intro socket other
    rw [mem_findOrPushAll, lingering.waiting socket other, nothing,
      mem_reports]
    simp [other]

/-- Its length: the connections reported, and the listener if it fails. -/
theorem length_disconnected_afterPoll
    (lingering : Lingering served)
    (nothing : served.reported = [])
    (polled :
      Polled served.server (served.events epollWait)
        (accepting (served.events epollWait) accepts) server) :
    (served.ListenerFails epollWait →
        server.disconnectedSockets.length =
          (reports (served.events epollWait)).toFinset.card + 1) ∧
      (¬ served.ListenerFails epollWait →
        server.disconnectedSockets.length =
          (reports (served.events epollWait)).toFinset.card) := by
  obtain ⟨listenerIn, otherIn⟩ :=
    lingering.disconnected_afterPoll nothing polled
  have once : server.disconnectedSockets.Nodup :=
    (lingering.poll polled).waitingOnce
  have apart : .listener ∉ (reports (served.events epollWait)).toFinset := by
    rw [List.mem_toFinset, mem_reports]
    exact fun member => member.2 rfl
  rw [← List.toFinset_card_of_nodup once]
  constructor
  · intro fails
    rw [← Finset.card_insert_of_notMem apart]
    apply congrArg Finset.card
    ext socket
    rw [Finset.mem_insert, List.mem_toFinset, List.mem_toFinset]
    by_cases isListener : socket = .listener
    · rw [isListener, listenerIn]
      exact ⟨fun _ => Or.inl rfl, fun _ => fails⟩
    · rw [otherIn socket isListener, or_iff_right isListener]
  · intro works
    apply congrArg Finset.card
    ext socket
    rw [List.mem_toFinset]
    by_cases isListener : socket = .listener
    · rw [isListener, listenerIn]
      exact ⟨fun fails => absurd fails works, fun member =>
        absurd member apart⟩
    · rw [otherIn socket isListener, List.mem_toFinset]

/-- What is deleted by a poll before which nothing was reported. -/
theorem deletions_afterPoll
    (lingering : Lingering served) (nothing : served.reported = []) :
    ∀ socket ∈ (served.afterPoll epollWait accepts server).deletions,
      socket = .listener := by
  intro socket member
  by_contra other
  have waits : socket ∈ served.server.disconnectedSockets := by
    rcases List.mem_append.mp member with deleted | deletedNow
    · exact lingering.deletedWaits socket deleted
    · exact deletedNow
  rw [lingering.waiting socket other, nothing] at waits
  cases waits

/-- When the bounds hold after a poll before which nothing was reported. -/
theorem bounded_iff
    (lingering : Lingering served)
    (nothing : served.reported = [])
    (polled :
      Polled served.server (served.events epollWait)
        (accepting (served.events epollWait) accepts) server) :
    (served.afterPoll epollWait accepts server).Bounded
        (reports (served.events epollWait)) ↔
      (served.ListenerFails epollWait →
        served.accepted ++
          accepting (served.events epollWait) accepts ≠ []) := by
  have after := lingering.poll polled
  have live :=
    after.liveConnections_eq (lingering.deletions_afterPoll nothing)
  have opened := after.openConnections_eq
  have length :
      (served.afterPoll epollWait accepts
          server).server.disconnectedSockets.length =
        server.disconnectedSockets.length :=
    rfl
  have someAccepted :
      served.accepted ++ accepting (served.events epollWait) accepts ≠ [] ↔
        0 < (served.afterPoll epollWait accepts server).accepted.length :=
    List.length_pos_iff.symm
  obtain ⟨withListener, without⟩ :=
    lingering.length_disconnected_afterPoll nothing polled
  rw [someAccepted]
  constructor
  · rintro ⟨_, bound⟩ fails
    have := withListener fails
    omega
  · intro accepted
    refine ⟨by omega, ?_⟩
    by_cases fails : served.ListenerFails epollWait
    · have := withListener fails
      have := accepted fails
      omega
    · have := without fails
      omega

end Lingering

/-! ## Every run -/

theorem cleansUp_iff
    {before after : Served} {call : Call}
    (lingering : Lingering before)
    (stepped : step before call = some after) :
    CleansUp before call after ↔ NothingToClean before call after := by
  cases call with
  | sendAndRecv received =>
      exact Iff.rfl
  | poll epollWait accepts =>
      obtain ⟨server, polled, rfl⟩ := step_poll_cases stepped
      constructor
      · rintro ⟨cleaned, bounded⟩
        have nothing := lingering.reported_eq_nil cleaned
        exact ⟨nothing, (lingering.bounded_iff nothing polled).mp bounded⟩
      · rintro ⟨nothing, accepted⟩
        refine ⟨?_, (lingering.bounded_iff nothing polled).mpr accepted⟩
        intro socket reported
        rw [nothing] at reported
        cases reported

/-- Every poll of a run cleans up what was reported before it, exactly when
nothing was. -/
theorem disconnect_cleanup_iff
    (epollFd socketFd : Int) (added : Bool) (calls : List Call) :
    EachStep step CleansUp calls (listening epollFd socketFd added) ↔
      EachStep step NothingToClean calls
        (listening epollFd socketFd added) := by
  have kept : ∀ {before : Served} {call : Call} {after : Served},
      Lingering before → step before call = some after →
      CleansUp before call after → Lingering after :=
    fun lingering stepped _ => lingering.next stepped
  exact
    eachStep_congr cleansUp_iff kept calls
      (Lingering.listening epollFd socketFd added)

/-- One hang-up and two more polls: the connection is deleted twice, still
listed, and its descriptor is open. -/
theorem disconnect_not_cleaned_up :
    ¬ EachStep step CleansUp
        [acceptTwo, firstHangsUp, quietPoll, quietPoll]
        (listening 3 4 true) ∧
      ∃ served,
        exec step [acceptTwo, firstHangsUp, quietPoll, quietPoll]
            (listening 3 4 true) = some served ∧
          served.deletions = [.allocated 100, .allocated 100] ∧
          served.server.disconnectedSockets = [.allocated 100] ∧
          served.server.fd (.allocated 100) ∈ served.server.openFds := by
  constructor
  · intro each
    obtain ⟨_, each⟩ := each _ rfl
    obtain ⟨_, each⟩ := each _ rfl
    obtain ⟨⟨cleaned, _⟩, _⟩ := each _ rfl
    have first := cleaned (.allocated 100) (by decide)
    exact first.notDisconnected (by decide)
  · exact ⟨_, rfl, rfl, rfl, by decide⟩

end Served

end TCPServer

end LowLatencyBlocks
