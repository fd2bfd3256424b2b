import LowLatencyBlocks.Sockets.Echo
import LowLatencyBlocks.Sockets.LogLines

/-!
# The log of a conversation

`sockets/program.cpp` with one client, down to its log file.  Each turn of the
conversation leaves its lines to the logger, whose thread writes them to the
file.  The callback of the server logs the length of every message that it
finds; the one of the client logs the message, but always a length of zero: it
takes the bytes before it logs their number.
-/

namespace LowLatencyBlocks

open Library

/-- What the lines of one `sendAndRecv()` take from elsewhere: their places, and
`getCurrentNanos()`. -/
structure Moment where
  readPlace : Place
  userTime : Int64
  /-- Of the line behind each `::send`. -/
  sentPlace : Nat → Place

namespace TCPSocket

/-- The lines of a read, with those of the callback. -/
def readLines
    (socket : TCPSocket) (fd : Int32)
    (callbackLines : TCPSocket → Int64 → List LogLine)
    (transfer : Transfer) (moment : Moment) : List LogLine :=
  match transfer.received with
  | .delivered bytes control =>
      if 0 < bytes.length then
        let socket := socket.deliver bytes
        let kernelTime :=
          kernelTime (control ++ transfer.ctrl.drop control.length)
        .read moment.readPlace fd (UInt64.ofNat socket.nextRcvValidIndex)
            moment.userTime kernelTime ::
          callbackLines socket kernelTime
      else
        []
  | .failed _ => []

/-- The lines of the send loop, one behind each `::send`. -/
def sentLines
    (socket : TCPSocket) (fd : Int32) (callback : RecvCallback)
    (transfer : Transfer) (moment : Moment) : List LogLine :=
  match socket.receive transfer.ctrl transfer.received callback with
  | .ok socket =>
      (List.range transfer.results.length).map fun turn =>
        .sent (moment.sentPlace turn) fd
          (UInt64.ofNat socket.nextRcvValidIndex)
  | .error _ => []

/-- The lines of `sendAndRecv()`. -/
def sendAndRecvLines
    (socket : TCPSocket) (fd : Int32) (callback : RecvCallback)
    (callbackLines : TCPSocket → Int64 → List LogLine)
    (transfer : Transfer) (moment : Moment) : List LogLine :=
  socket.readLines fd callbackLines transfer moment ++
    socket.sentLines fd callback transfer moment

end TCPSocket

/-- The lines of `tcpServerRecvCallback`. -/
def serverRecvLines
    (fd : Int32) (socket : TCPSocket) (rxTime : Int64) : List LogLine :=
  [.serverRecv fd (UInt64.ofNat socket.nextRcvValidIndex) rxTime]

/-- The lines of `tcpClientRecvCallback`, which sets `next_rcv_valid_index_` to
zero first. -/
def clientRecvLines
    (fd : Int32) (socket : TCPSocket) (rxTime : Int64) : List LogLine :=
  [.clientRecv fd 0 rxTime socket.received]

/-- A turn of the conversation, with what its lines take from elsewhere. -/
inductive LoggedTurn where
  | submit (client : UInt64) (clientMsg : List UInt8)
  | client (transfer : Transfer) (moment : Moment)
  | server (transfer : Transfer) (moment : Moment)

def LoggedTurn.turn : LoggedTurn → Turn
  | .submit _ clientMsg => .submit clientMsg
  | .client transfer _ => .client transfer
  | .server transfer _ => .server transfer

/-- A conversation with the lines that were logged in it. -/
structure LoggedConversation where
  conversation : Conversation
  lines : List LogLine

/-- The texts of the lines. -/
def Inserters.lines (file : Inserters) (lines : List LogLine) : List UInt8 :=
  lines.flatMap fun line =>
    file.text (Logger.pieces (bytesOf line.format)) line.args

/-- What the server's callback reports as a length. -/
def LogLine.serverLength : LogLine → Option UInt64
  | .serverRecv _ len _ => some len
  | _ => none

/-- What the client's callback reports as a length, and the message. -/
def LogLine.clientMessage : LogLine → Option (UInt64 × List UInt8)
  | .clientRecv _ len _ recvMsg => some (len, recvMsg)
  | _ => none

namespace LoggedConversation

open TCPSocket

/-- The lines of a turn, where the sockets have these descriptors. -/
def turnLines
    (clientFd serverFd : Int32) (conversation : Conversation) :
    LoggedTurn → List LogLine
  | .submit client clientMsg => [.sending client clientMsg]
  | .client transfer moment =>
      conversation.client.socket.sendAndRecvLines clientFd
        tcpClientRecvCallback (clientRecvLines clientFd) transfer moment
  | .server transfer moment =>
      conversation.server.socket.sendAndRecvLines serverFd
          tcpServerRecvCallback (serverRecvLines serverFd) transfer moment ++
        if 0 < transfer.received.nRcv then [.serverRecvFinished] else []

/-- `setup` is what was logged before the conversation. -/
def start
    (client server : Buffer UInt8 × Buffer UInt8) (setup : List LogLine) :
    LoggedConversation where
  conversation := Conversation.start client server
  lines := setup

def step
    (clientFd serverFd : Int32) (logged : LoggedConversation)
    (turn : LoggedTurn) : Option LoggedConversation :=
  (logged.conversation.step turn.turn).map fun next =>
    { conversation := next
      lines :=
        logged.lines ++
          turnLines clientFd serverFd logged.conversation turn }

/-! ## What the lines tell -/

section Lines

variable {Value : Type} {observe : LogLine → Option Value}
  {socket : TCPSocket} {fd : Int32} {callback : RecvCallback}
  {callbackLines : TCPSocket → Int64 → List LogLine}
  {transfer : Transfer} {moment : Moment}

/-- Of the lines of `sendAndRecv()`, only those of the callback tell anything,
and it is called for a read that is not empty. -/
theorem filterMap_sendAndRecvLines
    (read : ∀ place fd len userTime kernelTime,
      observe (.read place fd len userTime kernelTime) = none)
    (sent : ∀ place fd len, observe (.sent place fd len) = none)
    {observed : TCPSocket → List Value}
    (called : ∀ socket rxTime,
      (callbackLines socket rxTime).filterMap observe = observed socket) :
    (socket.sendAndRecvLines fd callback callbackLines transfer
        moment).filterMap observe =
      if 0 < transfer.received.nRcv then
        observed (socket.deliver transfer.received.bytes)
      else
        [] := by
  have nothingSent :
      (socket.sentLines fd callback transfer moment).filterMap observe =
        [] := by
    rw [sentLines]
    cases socket.receive transfer.ctrl transfer.received callback with
    | ok socket =>
        rw [List.filterMap_eq_nil_iff]
        intro line member
        obtain ⟨turn, _, same⟩ := List.mem_map.mp member
        rw [← same]
        exact sent _ _ _
    | error fault =>
        rfl
  rw [sendAndRecvLines, List.filterMap_append, nothingSent, List.append_nil,
    readLines]
  cases transfer.received with
  | failed errno =>
      rfl
  | delivered bytes control =>
      by_cases anything : 0 < bytes.length
      · have positive : 0 < (RecvResult.delivered bytes control).nRcv := by
          rw [RecvResult.nRcv]
          omega
        simp only [if_pos anything, if_pos positive]
        rw [List.filterMap_cons_none (read _ _ _ _ _), called]
        rfl
      · have nothing : ¬ 0 < (RecvResult.delivered bytes control).nRcv := by
          rw [RecvResult.nRcv]
          omega
        simp only [if_neg anything, if_neg nothing]
        rfl

/-- A read that is not empty is found. -/
theorem found_of_sendAndRecv
    {endpoint after : Endpoint} {sent : List UInt8}
    (ran :
      endpoint.sendAndRecv callback transfer = some (after, sent)) :
    after.found =
      endpoint.found ++
        if 0 < transfer.received.nRcv then
          [(endpoint.socket.deliver transfer.received.bytes).received]
        else
          [] := by
  rw [Endpoint.sendAndRecv] at ran
  by_cases next : transfer.received.bytes <+: endpoint.incoming
  · rw [if_pos next] at ran
    obtain ⟨returned, _, same⟩ := Option.bind_eq_some_iff.mp ran
    cases same
    by_cases anything : 0 < transfer.received.nRcv
    · simp only [if_pos anything]
    · simp only [if_neg anything, List.append_nil]
  · rw [if_neg next] at ran
    cases ran

end Lines

/-- The server's lines tell the lengths of the messages that the server found,
and the client's the messages that the client found, all with length zero. -/
structure Told (logged : LoggedConversation) : Prop where
  lengths :
    logged.lines.filterMap LogLine.serverLength =
      logged.conversation.server.found.map fun message =>
        UInt64.ofNat message.length
  messages :
    logged.lines.filterMap LogLine.clientMessage =
      logged.conversation.client.found.map fun message => (0, message)

section Runs

variable {clientFd serverFd : Int32} {before after : LoggedConversation}

theorem told_start
    (client server : Buffer UInt8 × Buffer UInt8) {setup : List LogLine}
    (quiet : ∀ line ∈ setup,
      line.serverLength = none ∧ line.clientMessage = none) :
    (start client server setup).Told where
  lengths :=
    List.filterMap_eq_nil_iff.mpr fun line member => (quiet line member).1
  messages :=
    List.filterMap_eq_nil_iff.mpr fun line member => (quiet line member).2

theorem Told.client
    (told : before.Told) {transfer : Transfer} {moment : Moment}
    (stepped :
      before.step clientFd serverFd (.client transfer moment) = some after) :
    after.Told := by
  obtain ⟨next, conversed, left⟩ := Option.map_eq_some_iff.mp stepped
  obtain ⟨⟨client, sent⟩, ran, same⟩ := Option.bind_eq_some_iff.mp conversed
  cases same
  rw [← left]
  constructor
  · have silent :=
      @filterMap_sendAndRecvLines _ LogLine.serverLength
        before.conversation.client.socket clientFd tcpClientRecvCallback
        (clientRecvLines clientFd) transfer moment (fun _ _ _ _ _ => rfl)
        (fun _ _ _ => rfl) (fun _ => []) (fun _ _ => rfl)
    rw [ite_self] at silent
    dsimp only [turnLines]
    rw [List.filterMap_append, silent, List.append_nil, told.lengths]
    rfl
  · have tells :=
      @filterMap_sendAndRecvLines _ LogLine.clientMessage
        before.conversation.client.socket clientFd tcpClientRecvCallback
        (clientRecvLines clientFd) transfer moment (fun _ _ _ _ _ => rfl)
        (fun _ _ _ => rfl) (fun socket => [(0, socket.received)])
        (fun _ _ => rfl)
    dsimp only [turnLines]
    rw [List.filterMap_append, tells, told.messages,
      found_of_sendAndRecv ran, List.map_append, apply_ite (List.map _)]
    rfl

theorem Told.server
    (told : before.Told) {transfer : Transfer} {moment : Moment}
    (stepped :
      before.step clientFd serverFd (.server transfer moment) = some after) :
    after.Told := by
  obtain ⟨next, conversed, left⟩ := Option.map_eq_some_iff.mp stepped
  obtain ⟨⟨server, sent⟩, ran, same⟩ := Option.bind_eq_some_iff.mp conversed
  cases same
  rw [← left]
  have finished {Value : Type} (observe : LogLine → Option Value)
      (quiet : observe .serverRecvFinished = none) :
      (if 0 < transfer.received.nRcv then [LogLine.serverRecvFinished]
        else []).filterMap observe = [] := by
    by_cases anything : 0 < transfer.received.nRcv
    · rw [if_pos anything, List.filterMap_cons_none quiet]
      rfl
    · rw [if_neg anything]
      rfl
  constructor
  · have tells :=
      @filterMap_sendAndRecvLines _ LogLine.serverLength
        before.conversation.server.socket serverFd tcpServerRecvCallback
        (serverRecvLines serverFd) transfer moment (fun _ _ _ _ _ => rfl)
        (fun _ _ _ => rfl)
        (fun socket => [UInt64.ofNat socket.nextRcvValidIndex])
        (fun _ _ => rfl)
    dsimp only [turnLines]
    rw [List.filterMap_append, List.filterMap_append, tells,
      finished _ rfl, List.append_nil, told.lengths,
      found_of_sendAndRecv ran, List.map_append, apply_ite (List.map _),
      List.map_singleton, TCPSocket.received, Buffer.length_cells]
    rfl
  · have silent :=
      @filterMap_sendAndRecvLines _ LogLine.clientMessage
        before.conversation.server.socket serverFd tcpServerRecvCallback
        (serverRecvLines serverFd) transfer moment (fun _ _ _ _ _ => rfl)
        (fun _ _ _ => rfl) (fun _ => []) (fun _ _ => rfl)
    rw [ite_self] at silent
    dsimp only [turnLines]
    rw [List.filterMap_append, List.filterMap_append, silent,
      finished _ rfl, List.append_nil, List.append_nil, told.messages]
    rfl

theorem Told.next
    (told : before.Told) {turn : LoggedTurn}
    (stepped : before.step clientFd serverFd turn = some after) :
    after.Told := by
  cases turn with
  | submit client clientMsg =>
      obtain ⟨next, conversed, left⟩ := Option.map_eq_some_iff.mp stepped
      obtain ⟨socket, _, same⟩ := Conversation.submit_cases conversed
      rw [← left, same]
      constructor
      · dsimp only [turnLines]
        rw [List.filterMap_append, told.lengths]
        exact List.append_nil _
      · dsimp only [turnLines]
        rw [List.filterMap_append, told.messages]
        exact List.append_nil _
  | client transfer moment =>
      exact told.client stepped
  | server transfer moment =>
      exact told.server stepped

/-- Lines that all match are all written. -/
theorem texts_lines (file : Inserters) (lines : List LogLine) :
    file.texts (lines.map LogLine.call) = file.lines lines := by
  induction lines with
  | nil =>
      rfl
  | cons line lines inductionHypothesis =>
      rw [List.map_cons, Inserters.texts, if_pos line.call_matches,
        inductionHypothesis]
      rfl

end Runs

/-- In every run of the conversation no call of `log` ends the process, and in
every state that its logger reaches with one slot unused, the file is a
beginning of the lines logged, and all of them once it is closed.  Of every
message that the server found they tell the length; of those that the client
found they tell the message, and a length of zero. -/
theorem conversation_log
    (inserters : Inserters) (self : Nat) (capacity : Capacity)
    (clientFd serverFd : Int32) (client server : Buffer UInt8 × Buffer UInt8)
    (setup : List LogLine) (turns : List LoggedTurn)
    (logged : LoggedConversation) (logger : Logger)
    (quiet : ∀ line ∈ setup,
      line.serverLength = none ∧ line.clientMessage = none)
    (ran :
      exec (step clientFd serverFd) turns (start client server setup) =
        some logged)
    (reached :
      (Logger.machine inserters self capacity
          (Logger.elementsLogged capacity
            (logged.lines.map LogLine.call))).Reachable
        (Machine.staying (Logger.UnreadAtMost (capacity.size - 1))) logger) :
    (Logger.logAll (LFQueue.Used.start capacity LogElement.default)
        (logged.lines.map LogLine.call)).ended = none ∧
      logger.file <+: inserters.lines logged.lines ∧
      (logger.owner = .closed →
        logger.file = inserters.lines logged.lines) ∧
      logged.lines.filterMap LogLine.serverLength =
        logged.conversation.server.found.map
          (fun message => UInt64.ofNat message.length) ∧
      logged.lines.filterMap LogLine.clientMessage =
        logged.conversation.client.found.map fun message => (0, message) := by
  have told : logged.Told := by
    apply exec_invariant Told _ (told_start client server quiet) ran
    intro before turn after told stepped
    exact told.next stepped
  obtain ⟨beginning, all⟩ := Logger.file_of_reachable reached
  rw [texts_lines] at beginning all
  refine ⟨?_, beginning, all, told.lengths, told.messages⟩
  apply (@Logger.elements_logAll inserters _ _).2.mpr
  intro call member
  obtain ⟨line, _, same⟩ := List.mem_map.mp member
  rw [← same]
  exact line.call_matches

/-! ## A run with one message -/

def samplePlace : Place where
  file := [116, 46, 99, 112, 112]
  line := 72
  function := [102]
  ctime := [49, 10]
  noNul := by decide

def sampleMoment : Moment where
  readPlace := samplePlace
  userTime := 7
  sentPlace := fun _ => samplePlace

/-- `"hi"` is sent, found and answered. -/
def sampleTurns : List LoggedTurn :=
  [.submit 0 [104, 105],
    .client ⟨emptyCtrl, .failed ewouldblock, [.accepted 2]⟩ sampleMoment,
    .server ⟨emptyCtrl, .delivered [104, 105] [], [.accepted 25]⟩
      sampleMoment]

theorem conversation_log_sample :
    ∃ (logged : LoggedConversation) (logger : Logger),
      exec (step 4 5) sampleTurns
          (start Conversation.zeroBuffers Conversation.zeroBuffers
            [.creatingServer [108, 111] 12345]) =
        some logged ∧
      logger.owner = .closed ∧
      logger.file = Logger.sampleInserters.lines logged.lines ∧
      logged.lines.filterMap LogLine.serverLength = [2] := by
  have ranAll :
      ∃ logged,
        exec (step 4 5) sampleTurns
            (start Conversation.zeroBuffers Conversation.zeroBuffers
              [.creatingServer [108, 111] 12345]) =
          some logged ∧
        logged.conversation.server.found = [[104, 105]] :=
    ⟨_, rfl, rfl⟩
  obtain ⟨logged, ran, found⟩ := ranAll
  have quiet :
      ∀ line ∈ [LogLine.creatingServer [108, 111] 12345],
        line.serverLength = none ∧ line.clientMessage = none := by
    intro line member
    rw [List.mem_singleton.mp member]
    exact ⟨rfl, rfl⟩
  have atStart :
      (Logger.machine Logger.sampleInserters 0 twoSlots
          (Logger.elementsLogged twoSlots
            (logged.lines.map LogLine.call))).Reachable
        (Machine.staying (Logger.UnreadAtMost (twoSlots.size - 1)))
        (Logger.start twoSlots
          (Logger.elementsLogged twoSlots
            (logged.lines.map LogLine.call))) :=
    Machine.Reachable.start
  obtain ⟨logger, _, reached, closed⟩ :=
    Logger.closes (Nat.le_refl 2) atStart
  obtain ⟨_, _, all, lengths, _⟩ :=
    conversation_log Logger.sampleInserters 0 twoSlots 4 5
      Conversation.zeroBuffers Conversation.zeroBuffers _ sampleTurns logged
      logger quiet ran reached
  refine ⟨logged, logger, ran, closed, all closed, ?_⟩
  rw [lengths, found]
  rfl

end LoggedConversation

end LowLatencyBlocks
