import LowLatencyBlocks.Library.Machine
import LowLatencyBlocks.Sockets.TCPSocket

/-!
# The outgoing byte stream of a TCP socket

What the kernel accepts over many calls of `send` and `sendAndRecv`.  Every
request of the send loop starts at the beginning of the buffer, a failing
`::send` does not end the loop, and the call forgets what it has not sent.  So
the stream is intact exactly when no `::send` fails and every piece after the
first repeats the bytes that were due.
-/

namespace LowLatencyBlocks

open Library

namespace TCPSocket

/-! ## The send loop -/

/-- A failing `::send` after which the socket counts as disconnected. -/
def isFatal : SendResult → Bool
  | .accepted _ => false
  | .failed errno => !wouldBlock errno

/-- No `::send` fails, and the first bytes of `held` that each of them accepts
are also the next ones from `offset` on. -/
def PiecesInOrder (held : List UInt8) : Nat → List SendResult → Prop
  | _, [] => True
  | offset, .accepted count :: results =>
      held.take count = (held.drop offset).take count ∧
        PiecesInOrder held (offset + count) results
  | _, .failed _ :: _ => False

section SendLoop

variable {socket : TCPSocket} {disconnected after : Bool} {nSend : Int}
  {result : SendResult} {results : List SendResult} {sent : List UInt8}

theorem sendLoop_nil_iff :
    socket.sendLoop disconnected nSend [] = some (after, sent) ↔
      nSend ≤ 0 ∧ after = disconnected ∧ sent = [] := by
  by_cases more : 0 < nSend
  · rw [sendLoop, if_pos more]
    constructor
    · nofun
    · intro ended
      omega
  · rw [sendLoop, if_neg more]
    simp only [Option.some.injEq, Prod.mk.injEq]
    constructor
    · rintro ⟨rfl, rfl⟩
      exact ⟨by omega, rfl, rfl⟩
    · rintro ⟨_, rfl, rfl⟩
      exact ⟨rfl, rfl⟩

/-- What one turn of the loop can do. -/
theorem sendLoop_cons_cases
    (ran :
      socket.sendLoop disconnected nSend (result :: results) =
        some (after, sent)) :
    (∃ count rest,
      result = .accepted count ∧
      1 ≤ count ∧
      count ≤ socket.nextSendValidIndex ∧
      (count : Int) ≤ nSend ∧
      socket.sendLoop disconnected (nSend - count) results =
        some (after, rest) ∧
      sent = socket.sendBuffer.cells 0 count ++ rest) ∨
    (∃ errno,
      result = .failed errno ∧
      0 < nSend ∧
      socket.sendLoop (disconnected || !wouldBlock errno) (nSend - (-1))
        results = some (after, sent)) := by
  cases result with
  | accepted count =>
      simp only [sendLoop] at ran
      by_cases more : 0 < nSend
      · rw [if_pos more] at ran
        by_cases allowed :
            (SendResult.accepted count).Allowed
              (min (socket.nextSendValidIndex : Int) nSend)
        · rw [if_pos allowed] at ran
          obtain ⟨⟨last, rest⟩, ranRest, same⟩ :=
            Option.bind_eq_some_iff.mp ran
          cases same
          obtain ⟨atLeast, atMost⟩ := allowed
          exact
            .inl
              ⟨count, rest, rfl, atLeast, by omega, by omega, ranRest, rfl⟩
        · rw [if_neg allowed] at ran
          cases ran
      · rw [if_neg more] at ran
        cases ran
  | failed errno =>
      simp only [sendLoop] at ran
      by_cases more : 0 < nSend
      · have allowed :
            (SendResult.failed errno).Allowed
              (min (socket.nextSendValidIndex : Int) nSend) := trivial
        rw [if_pos more, if_pos allowed] at ran
        exact .inr ⟨errno, rfl, more, ran⟩
      · rw [if_neg more] at ran
        cases ran

/-- Only a fatal failure sets `send_disconnected_`. -/
theorem sendLoop_disconnected
    (ran :
      socket.sendLoop disconnected nSend results = some (after, sent)) :
    after = (disconnected || results.any isFatal) := by
  induction results generalizing disconnected nSend sent with
  | nil =>
      obtain ⟨_, rfl, _⟩ := sendLoop_nil_iff.mp ran
      exact (Bool.or_false _).symm
  | cons result results inductionHypothesis =>
      rcases sendLoop_cons_cases ran with
        ⟨count, rest, rfl, _, _, _, ranRest, _⟩ | ⟨errno, rfl, _, ranRest⟩
      · rw [inductionHypothesis ranRest, List.any_cons, isFatal,
          Bool.false_or]
      · rw [inductionHypothesis ranRest, List.any_cons, isFatal,
          Bool.or_assoc]

/-- A failing `::send` lengthens the loop, so that at least the bytes asked for
are accepted. -/
theorem le_length_of_sendLoop
    (ran :
      socket.sendLoop disconnected nSend results = some (after, sent)) :
    nSend ≤ sent.length := by
  induction results generalizing disconnected nSend sent with
  | nil =>
      obtain ⟨ended, _, rfl⟩ := sendLoop_nil_iff.mp ran
      exact ended
  | cons result results inductionHypothesis =>
      rcases sendLoop_cons_cases ran with
        ⟨count, rest, rfl, _, _, _, ranRest, rfl⟩ | ⟨errno, rfl, _, ranRest⟩
      · have restLength := inductionHypothesis ranRest
        rw [List.length_append, Buffer.length_cells]
        omega
      · have sentLength := inductionHypothesis ranRest
        omega

/-- The loop, `offset` bytes of the ones held being accepted. -/
theorem sendLoop_sent_eq_iff
    {offset : Nat} (order : offset ≤ socket.held.length)
    (remaining : nSend = socket.held.length - offset)
    (ran :
      socket.sendLoop disconnected nSend results = some (after, sent)) :
    sent = socket.held.drop offset ↔
      PiecesInOrder socket.held offset results := by
  induction results generalizing offset nSend sent with
  | nil =>
      obtain ⟨ended, _, rfl⟩ := sendLoop_nil_iff.mp ran
      have everything : socket.held.length ≤ offset := by omega
      rw [List.drop_eq_nil_of_le everything]
      exact ⟨fun _ => trivial, fun _ => rfl⟩
  | cons result results inductionHypothesis =>
      rcases sendLoop_cons_cases ran with
        ⟨count, rest, rfl, _, inside, atMost, ranRest, rfl⟩ |
          ⟨errno, rfl, _, ranRest⟩
      · have within : offset + count ≤ socket.held.length := by omega
        have restIff :=
          inductionHypothesis within (by rw [remaining]; omega) ranRest
        have piece :
            socket.sendBuffer.cells 0 count = socket.held.take count :=
          (Buffer.take_cells inside).symm
        have split :
            socket.held.drop offset =
              (socket.held.drop offset).take count ++
                socket.held.drop (offset + count) := by
          rw [← List.drop_drop, List.take_append_drop]
        have sameLength :
            (socket.held.take count).length =
              ((socket.held.drop offset).take count).length := by
          rw [List.length_take, List.length_take, List.length_drop]
          omega
        rw [PiecesInOrder, ← restIff, piece]
        constructor
        · intro same
          rw [split] at same
          exact List.append_inj same sameLength
        · rintro ⟨samePiece, sameRest⟩
          rw [samePiece, sameRest, ← split]
      · -- more bytes are accepted than were held
        have longer := le_length_of_sendLoop ranRest
        constructor
        · intro same
          rw [same, List.length_drop] at longer
          omega
        · nofun

/-- A `::send` that takes everything at once. -/
theorem piecesInOrder_all (held : List UInt8) :
    PiecesInOrder held 0 [.accepted held.length] :=
  ⟨by rw [List.drop_zero], trivial⟩

end SendLoop

/-- What a call of `sendAndRecv` that returns has done. -/
theorem sendAndRecv_cases
    {socket : TCPSocket} {ctrl : List UInt8} {received : RecvResult}
    {callback : RecvCallback} {results : List SendResult}
    {returned : Returned}
    (ran :
      socket.sendAndRecv ctrl received callback results = some returned) :
    ∃ buffered disconnected,
      socket.receive ctrl received callback = .ok buffered ∧
      buffered.sendLoop buffered.sendDisconnected
          (min tcpBufferSize buffered.nextSendValidIndex : Nat) results =
        some (disconnected, returned.sent) ∧
      returned.socket =
        { buffered with
          sendDisconnected := disconnected
          nextSendValidIndex := 0 } := by
  rw [sendAndRecv] at ran
  by_cases allowed : received.Allowed socket.iovLen
  · rw [if_pos allowed] at ran
    cases receives : socket.receive ctrl received callback with
    | error fault =>
        rw [receives] at ran
        cases ran
    | ok buffered =>
        rw [receives] at ran
        obtain ⟨⟨disconnected, sent⟩, ranLoop, same⟩ :=
          Option.bind_eq_some_iff.mp ran
        cases same
        exact ⟨buffered, disconnected, rfl, ranLoop, rfl⟩
  · rw [if_neg allowed] at ran
    cases ran

/-! ## Runs -/

inductive Call where
  | send (data : List UInt8)
  | sendAndRecv
      (ctrl : List UInt8) (received : RecvResult)
      (callback : RecvCallback) (results : List SendResult)

/-- A socket with the bytes submitted to it and those the kernel accepted. -/
structure Outgoing where
  socket : TCPSocket
  submitted : List UInt8
  accepted : List UInt8

namespace Outgoing

def start (sendMemory rcvMemory : Buffer UInt8) : Outgoing where
  socket := make sendMemory rcvMemory
  submitted := []
  accepted := []

/-- One call; `none` when it does not return, or leaves the buffer. -/
def step (outgoing : Outgoing) : Call → Option Outgoing
  | .send data =>
      match outgoing.socket.send data with
      | .ok socket =>
          some
            { socket := socket
              submitted := outgoing.submitted ++ data
              accepted := outgoing.accepted }
      | .error _ => none
  | .sendAndRecv ctrl received callback results => do
      let returned ←
        outgoing.socket.sendAndRecv ctrl received callback results
      return {
        socket := returned.socket
        submitted :=
          outgoing.submitted ++
            outgoing.socket.replies ctrl received callback
        accepted := outgoing.accepted ++ returned.sent }

/-- The bytes accepted and those still held are the bytes submitted, unless
the socket counts as disconnected. -/
def InOrder (outgoing : Outgoing) : Prop :=
  outgoing.socket.sendDisconnected = false →
    outgoing.accepted ++ outgoing.socket.held = outgoing.submitted

/-- The stream is intact after a `sendAndRecv`. -/
def Intact (_ : Outgoing) (call : Call) (after : Outgoing) : Prop :=
  match call with
  | .send _ => True
  | .sendAndRecv _ _ _ _ => after.InOrder

/-- The `::send` calls of a `sendAndRecv` on a connected socket deliver what is
held when its loop begins: the bytes held before and the callback's. -/
def DeliversHeld (before : Outgoing) (call : Call) (_ : Outgoing) : Prop :=
  match call with
  | .send _ => True
  | .sendAndRecv ctrl received callback results =>
      before.socket.sendDisconnected = false →
      results.any isFatal = false →
      PiecesInOrder
        (before.socket.held ++ before.socket.replies ctrl received callback)
        0 results

/-- What a run that is intact so far keeps. -/
structure Kept (outgoing : Outgoing) : Prop where
  fits : outgoing.socket.Fits
  inOrder : outgoing.InOrder

theorem kept_start (sendMemory rcvMemory : Buffer UInt8) :
    (start sendMemory rcvMemory).Kept where
  fits := Nat.zero_le _
  inOrder := fun _ => rfl

section OneCall

variable {before after : Outgoing}

/-- What a `send` that returns does to the run. -/
theorem send_step_cases
    {data : List UInt8} (stepped : step before (.send data) = some after) :
    ∃ socket,
      before.socket.send data = .ok socket ∧
        after = ⟨socket, before.submitted ++ data, before.accepted⟩ := by
  rw [step] at stepped
  cases sent : before.socket.send data with
  | error fault =>
      simp only [sent] at stepped
      cases stepped
  | ok socket =>
      simp only [sent] at stepped
      cases stepped
      exact ⟨socket, rfl, rfl⟩

theorem Kept.send
    (kept : before.Kept) {data : List UInt8}
    (stepped : step before (.send data) = some after) :
    after.Kept := by
  obtain ⟨socket, sent, rfl⟩ := send_step_cases stepped
  have appends := send_appends sent
  refine ⟨appends.fits kept.fits, ?_⟩
  intro connected
  rw [appends.sendDisconnected] at connected
  rw [appends.held, ← List.append_assoc, kept.inOrder connected]

/-- What a `sendAndRecv` that returns does to the run. -/
theorem sendAndRecv_step_cases
    {ctrl : List UInt8} {received : RecvResult}
    {callback : RecvCallback} {results : List SendResult}
    (fits : before.socket.Fits)
    (stepped :
      step before (.sendAndRecv ctrl received callback results) =
        some after) :
    ∃ sent : List UInt8,
      after.socket.nextSendValidIndex = 0 ∧
      after.socket.sendDisconnected =
        (before.socket.sendDisconnected || results.any isFatal) ∧
      after.accepted = before.accepted ++ sent ∧
      after.submitted =
        before.submitted ++
          before.socket.replies ctrl received callback ∧
      (sent =
          before.socket.held ++
            before.socket.replies ctrl received callback ↔
        PiecesInOrder
          (before.socket.held ++
            before.socket.replies ctrl received callback) 0 results) := by
  obtain ⟨returned, ran, same⟩ := Option.bind_eq_some_iff.mp stepped
  cases same
  obtain ⟨buffered, disconnected, receives, ranLoop, socketAfter⟩ :=
    sendAndRecv_cases ran
  have appends := receive_appends receives
  have allHeld :
      ((min tcpBufferSize buffered.nextSendValidIndex : Nat) : Int) =
        buffered.held.length - (0 : Nat) := by
    have bufferedFits : buffered.nextSendValidIndex ≤ tcpBufferSize :=
      appends.fits fits
    rw [length_held]
    omega
  have sentIff :=
    sendLoop_sent_eq_iff (Nat.zero_le _) allHeld ranLoop
  rw [appends.held, List.drop_zero] at sentIff
  refine ⟨returned.sent, ?_, ?_, rfl, rfl, sentIff⟩
  · simp only [socketAfter]
  · simp only [socketAfter]
    rw [sendLoop_disconnected ranLoop, appends.sendDisconnected]

/-- One call of an intact run: it stays intact exactly when the pieces are the
bytes that were due. -/
theorem Kept.intact_iff
    (kept : before.Kept) {call : Call}
    (stepped : step before call = some after) :
    Intact before call after ↔ DeliversHeld before call after := by
  cases call with
  | send data =>
      exact Iff.rfl
  | sendAndRecv ctrl received callback results =>
      obtain ⟨sent, emptied, connectedAfter, accepted, submitted, sentIff⟩ :=
        sendAndRecv_step_cases kept.fits stepped
      have nothingHeld : after.socket.held = [] :=
        List.eq_nil_of_length_eq_zero ((length_held _).trans emptied)
      have inOrderIff :
          before.socket.sendDisconnected = false →
          (after.accepted ++ after.socket.held = after.submitted ↔
            PiecesInOrder
              (before.socket.held ++
                before.socket.replies ctrl received callback)
              0 results) := by
        intro connected
        rw [← sentIff, nothingHeld, accepted, submitted,
          ← kept.inOrder connected, List.append_nil, List.append_assoc,
          List.append_cancel_left_eq]
      simp only [Intact, DeliversHeld, InOrder, connectedAfter,
        Bool.or_eq_false_iff]
      constructor
      · intro intact connected harmless
        exact (inOrderIff connected).mp (intact ⟨connected, harmless⟩)
      · rintro delivers ⟨connected, harmless⟩
        exact (inOrderIff connected).mpr (delivers connected harmless)

theorem Kept.next
    (kept : before.Kept) {call : Call}
    (stepped : step before call = some after)
    (intact : Intact before call after) :
    after.Kept := by
  cases call with
  | send data =>
      exact kept.send stepped
  | sendAndRecv ctrl received callback results =>
      obtain ⟨_, emptied, _⟩ := sendAndRecv_step_cases kept.fits stepped
      refine ⟨?_, intact⟩
      rw [Fits, emptied]
      exact Nat.zero_le _

end OneCall

/-- The stream is intact after every `sendAndRecv` of a run exactly when each
of them delivers what was held. -/
theorem outgoing_stream_intact_iff
    (sendMemory rcvMemory : Buffer UInt8) (calls : List Call) :
    EachStep step Intact calls (start sendMemory rcvMemory) ↔
      EachStep step DeliversHeld calls (start sendMemory rcvMemory) :=
  eachStep_congr (fun kept stepped => kept.intact_iff stepped)
    (fun kept stepped intact => kept.next stepped intact) calls
    (kept_start sendMemory rcvMemory)

/-- Each `sendAndRecv` makes at most one `::send`, which takes everything. -/
def TakesAll (before : Outgoing) (call : Call) (_ : Outgoing) : Prop :=
  match call with
  | .send _ => True
  | .sendAndRecv ctrl received callback results =>
      results = [] ∨
        results =
          [.accepted
            (before.socket.held ++
              before.socket.replies ctrl received callback).length]

/-- The runs that small messages on a local connection make. -/
theorem intact_of_takesAll
    {sendMemory rcvMemory : Buffer UInt8} {calls : List Call}
    (each : EachStep step TakesAll calls (start sendMemory rcvMemory)) :
    EachStep step Intact calls (start sendMemory rcvMemory) := by
  have delivers :
      EachStep step DeliversHeld calls (start sendMemory rcvMemory) := by
    apply each.mono
    intro before call after takesAll
    cases call with
    | send data =>
        exact trivial
    | sendAndRecv ctrl received callback results =>
        intro _ _
        rcases takesAll with rfl | rfl
        · exact trivial
        · exact piecesInOrder_all _
  refine (eachStep_congr ?_ ?_ calls (kept_start sendMemory rcvMemory)).mpr
    delivers
  · intro before call after kept stepped
    exact kept.intact_iff stepped
  · intro before call after kept stepped intact
    exact kept.next stepped intact

/-- The kernel takes the two bytes held one after the other, and gets the first
one twice. -/
theorem outgoing_stream_repeats_first_byte :
    ¬ EachStep step Intact
      [.send [97, 98],
        .sendAndRecv (List.replicate sizeofCtrl 0) (.failed ewouldblock)
          (fun _ _ => ⟨false, []⟩) [.accepted 1, .accepted 1]]
      (start (fun _ => 0) (fun _ => 0)) := by
  intro each
  obtain ⟨_, later⟩ := each _ rfl
  obtain ⟨intact, _⟩ := later _ rfl
  have bytes : ([97, 97] : List UInt8) = [97, 98] := intact rfl
  exact absurd bytes (by decide)

end Outgoing

end TCPSocket

end LowLatencyBlocks
