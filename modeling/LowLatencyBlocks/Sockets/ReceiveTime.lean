import Mathlib.Algebra.Order.BigOperators.Group.List
import Mathlib.Algebra.Order.Ring.Nat
import LowLatencyBlocks.Library.Records
import LowLatencyBlocks.Sockets.TCPSocket

/-!
# The receive time

`sendAndRecv()` looks for the kernel's timestamp in the first bytes of `ctrl`,
and not at what `recvmsg` reports in `msg_controllen`.  `ctrl` is not
initialised, so that without a control message the time is the one of whatever
was in it before.
-/

namespace LowLatencyBlocks

open Library

/-- A control message that `recvmsg` delivers: the two fields of its header, and
the bytes behind the header. -/
structure ControlMessage where
  cmsgLevel : UInt32
  cmsgType : UInt32
  data : List UInt8
  deriving DecidableEq, Repr

/-- `sizeof(struct cmsghdr)`. -/
def sizeofCmsghdr : Nat :=
  16

/-- `sizeof(struct timeval)`. -/
def sizeofTimeval : Nat :=
  16

/-- A `timeval` in nanoseconds. -/
def nanosOf (timeval : List UInt8) : Int64 :=
  Int64.ofNat (littleEndian timeval 0 8) * nanosToSecs +
    Int64.ofNat (littleEndian timeval 8 8) * nanosToMicros

namespace ControlMessage

/-- `CMSG_LEN`. -/
def len (message : ControlMessage) : Nat :=
  sizeofCmsghdr + message.data.length

/-- `CMSG_SPACE`. -/
def space (message : ControlMessage) : Nat :=
  sizeofCmsghdr + (message.data.length + 7) / 8 * 8

/-- What `recvmsg` writes for the message. -/
def bytes (message : ControlMessage) : List UInt8 :=
  littleEndianBytes 8 message.len ++
    (littleEndianBytes 4 message.cmsgLevel.toNat ++
      (littleEndianBytes 4 message.cmsgType.toNat ++ message.data))

/-- The time of an `SCM_TIMESTAMP` message. -/
def timestamp (message : ControlMessage) : Option Int64 :=
  if message.cmsgLevel.toNat = solSocket ∧
      message.cmsgType.toNat = scmTimestamp ∧
      message.data.length = sizeofTimeval then
    some (nanosOf message.data)
  else
    none

/-- The part of `ctrl` that `msg_controllen` covers behind the call: the
messages, with the old bytes between them where they are aligned. -/
def reported (ctrl : List UInt8) : List ControlMessage → List UInt8
  | [] => []
  | message :: later =>
      message.bytes ++
        ((ctrl.take message.space).drop message.len ++
          reported (ctrl.drop message.space) later)

/-- `recvmsg` delivers no more messages than there is room for. -/
def Fit (messages : List ControlMessage) : Prop :=
  (messages.map space).sum ≤ sizeofCtrl

instance (messages : List ControlMessage) : Decidable (Fit messages) :=
  inferInstanceAs (Decidable ((messages.map space).sum ≤ sizeofCtrl))

/-- The timestamp that is delivered, or zero. -/
def deliveredTime (messages : List ControlMessage) : Int64 :=
  (messages.findSome? timestamp).getD 0

section Bytes

variable {front rest data : List UInt8} {width value offset : Nat}

theorem littleEndian_eq (bytes : List UInt8) (offset width : Nat) :
    littleEndian bytes offset width =
      fromLittleEndian ((bytes.drop offset).take width) := by
  rw [littleEndian]
  induction (bytes.drop offset).take width with
  | nil =>
      rfl
  | cons byte bytes inductionHypothesis =>
      rw [List.foldr_cons, inductionHypothesis, fromLittleEndian]

/-- A field behind other bytes. -/
theorem littleEndian_append
    (here : front.length = offset) (fits : value < 256 ^ width) :
    littleEndian (front ++ (littleEndianBytes width value ++ rest)) offset
        width =
      value := by
  rw [littleEndian_eq, List.drop_left' here,
    List.take_left' (length_littleEndianBytes width value),
    fromLittleEndian_littleEndianBytes fits]

/-- A field of a part that lies inside. -/
theorem littleEndian_inside
    (inside : offset + width ≤ data.length) :
    littleEndian (front ++ (data ++ rest)) (front.length + offset) width =
      littleEndian data offset width := by
  have room : width ≤ (data.drop offset).length := by
    rw [List.length_drop]
    omega
  rw [littleEndian_eq, littleEndian_eq, ← List.drop_drop, List.drop_left,
    List.drop_append_of_le_length (by omega),
    List.take_append_of_le_length room]

end Bytes

section Times

variable {message : ControlMessage} {messages later : List ControlMessage}

theorem length_bytes : message.bytes.length = message.len := by
  simp only [bytes, List.length_append, length_littleEndianBytes, len,
    sizeofCmsghdr]
  omega

/-- The three fields of the header. -/
theorem header_bytes (fits : message.len < 256 ^ 8) (rest : List UInt8) :
    littleEndian (message.bytes ++ rest) 0 8 = message.len ∧
      littleEndian (message.bytes ++ rest) 8 4 =
        message.cmsgLevel.toNat ∧
      littleEndian (message.bytes ++ rest) 12 4 =
        message.cmsgType.toNat := by
  have level : message.cmsgLevel.toNat < 256 ^ 4 :=
    message.cmsgLevel.toNat_lt
  have type : message.cmsgType.toNat < 256 ^ 4 :=
    message.cmsgType.toNat_lt
  have length := length_littleEndianBytes 8 message.len
  refine ⟨?_, ?_, ?_⟩
  · rw [bytes, List.append_assoc]
    exact @littleEndian_append [] _ _ _ _ rfl fits
  · rw [bytes, List.append_assoc, List.append_assoc]
    exact littleEndian_append length level
  · have here :
        (littleEndianBytes 8 message.len ++
          littleEndianBytes 4 message.cmsgLevel.toNat).length = 12 := by
      rw [List.length_append, length, length_littleEndianBytes]
    rw [bytes, List.append_assoc, List.append_assoc, List.append_assoc,
      ← List.append_assoc (littleEndianBytes 8 message.len)]
    exact littleEndian_append here type

/-- The two words of a `timeval`. -/
theorem timeval_bytes
    (whole : message.data.length = sizeofTimeval) (rest : List UInt8) :
    littleEndian (message.bytes ++ rest) 16 8 =
        littleEndian message.data 0 8 ∧
      littleEndian (message.bytes ++ rest) 24 8 =
        littleEndian message.data 8 8 := by
  let front :=
    littleEndianBytes 8 message.len ++
      (littleEndianBytes 4 message.cmsgLevel.toNat ++
        littleEndianBytes 4 message.cmsgType.toNat)
  have behind : message.bytes ++ rest = front ++ (message.data ++ rest) := by
    simp only [bytes, front, List.append_assoc]
  have header : front.length = 16 := by
    simp only [front, List.length_append, length_littleEndianBytes]
  rw [sizeofTimeval] at whole
  rw [behind]
  constructor
  · have seconds : 0 + 8 ≤ message.data.length := by omega
    have field := @littleEndian_inside front rest _ _ _ seconds
    rwa [header] at field
  · have microseconds : 8 + 8 ≤ message.data.length := by omega
    have field := @littleEndian_inside front rest _ _ _ microseconds
    rwa [header] at field

/-- `kernel_time`, when a message was delivered, is the time of the first. -/
theorem kernelTime_bytes
    (fits : message.len < 256 ^ 8) (rest : List UInt8) :
    kernelTime (message.bytes ++ rest) = message.timestamp.getD 0 := by
  obtain ⟨len, level, type⟩ := header_bytes fits rest
  have sameLength :
      message.len = cmsgLen ↔ message.data.length = sizeofTimeval := by
    rw [ControlMessage.len, sizeofCmsghdr, cmsgLen, sizeofTimeval]
    omega
  simp only [kernelTime, len, level, type, timestamp, sameLength]
  split
  · next isTimestamp =>
      obtain ⟨seconds, microseconds⟩ :=
        timeval_bytes isTimestamp.2.2 rest
      rw [seconds, microseconds, Option.getD_some, nanosOf]
  · rfl

theorem space_ge (message : ControlMessage) :
    message.len ≤ message.space := by
  rw [len, space]
  omega

/-- A second message has no room for a time. -/
theorem timestamp_eq_none_of_fit
    (fit : Fit (message :: later)) {other : ControlMessage}
    (member : other ∈ later) : other.timestamp = none := by
  rw [Fit, List.map_cons, List.sum_cons] at fit
  have within : other.space ≤ (later.map space).sum :=
    List.le_sum_of_mem (List.mem_map_of_mem member)
  rw [timestamp, if_neg]
  rintro ⟨_, _, whole⟩
  have first := space_ge message
  have second := space_ge other
  rw [len, sizeofCmsghdr] at first second
  rw [sizeofTimeval] at whole
  rw [sizeofCtrl] at fit
  omega

theorem deliveredTime_cons (fit : Fit (message :: later)) :
    deliveredTime (message :: later) = message.timestamp.getD 0 := by
  rw [deliveredTime, List.findSome?_cons]
  cases timed : message.timestamp with
  | some time =>
      rfl
  | none =>
      have noneLater : later.findSome? timestamp = none := by
        rw [List.findSome?_eq_none_iff]
        intro other member
        exact timestamp_eq_none_of_fit fit member
      simp only [noneLater]

/-- What `recvmsg` reports lies in `ctrl`. -/
theorem length_reported
    {ctrl : List UInt8}
    (room : (messages.map space).sum ≤ ctrl.length) :
    (reported ctrl messages).length = (messages.map space).sum := by
  induction messages generalizing ctrl with
  | nil =>
      rfl
  | cons message later inductionHypothesis =>
      rw [List.map_cons, List.sum_cons] at room ⊢
      have roomLater :
          (later.map space).sum ≤ (ctrl.drop message.space).length := by
        rw [List.length_drop]
        omega
      have order := space_ge message
      rw [reported, List.length_append, List.length_append,
        inductionHypothesis roomLater, length_bytes, List.length_drop,
        List.length_take]
      omega

theorem allowed_of_fit
    {ctrl bytes : List UInt8} {iovLen : Nat}
    (whole : ctrl.length = sizeofCtrl) (fit : Fit messages)
    (room : bytes.length ≤ iovLen) :
    (RecvResult.delivered bytes (reported ctrl messages)).Allowed
      iovLen := by
  refine ⟨room, ?_⟩
  rw [length_reported (by rw [whole]; exact fit)]
  exact fit

end Times

end ControlMessage

namespace TCPSocket

open ControlMessage

/-- What a read makes of the callback. -/
def called
    (socket : TCPSocket) (ctrl : List UInt8) (bytes : List UInt8)
    (messages : List ControlMessage) (callback : RecvCallback) :
    Option Reaction :=
  socket.reaction ctrl (.delivered bytes (reported ctrl messages)) callback

/-- Whatever the callback does, it is called with this time. -/
def PassesTime
    (socket : TCPSocket) (ctrl : List UInt8) (bytes : List UInt8)
    (messages : List ControlMessage) (time : Int64) : Prop :=
  ∀ callback reaction,
    socket.called ctrl bytes messages callback = some reaction →
      reaction = callback (socket.deliver bytes) time

/-- The time belongs to the message just read, with either of two earlier
contents of `ctrl`, which make no difference. -/
structure TimeBelongs
    (socket : TCPSocket) (bytes : List UInt8)
    (messages : List ControlMessage) (left right : List UInt8) : Prop where
  belongsLeft :
    socket.PassesTime left bytes messages (deliveredTime messages)
  belongsRight :
    socket.PassesTime right bytes messages (deliveredTime messages)
  same : ∀ callback,
    socket.called left bytes messages callback =
      socket.called right bytes messages callback

/-- The bytes begin with a timestamp message, and its time is not zero. -/
def HoldsTime (ctrl : List UInt8) : Prop :=
  littleEndian ctrl 0 8 = cmsgLen ∧
    littleEndian ctrl 8 4 = solSocket ∧
    littleEndian ctrl 12 4 = scmTimestamp ∧
    nanosOf (ctrl.drop sizeofCmsghdr) ≠ 0

section Reading

variable {socket : TCPSocket} {ctrl left right bytes : List UInt8}
  {messages : List ControlMessage} {time : Int64}

/-- `kernel_time` behind a `recvmsg` that delivers these messages. -/
def readTime (ctrl : List UInt8) (messages : List ControlMessage) : Int64 :=
  kernelTime
    (reported ctrl messages ++ ctrl.drop (reported ctrl messages).length)

theorem called_eq (callback : RecvCallback) :
    socket.called ctrl bytes messages callback =
      if 0 < bytes.length then
        some (callback (socket.deliver bytes) (readTime ctrl messages))
      else
        none :=
  rfl

theorem passesTime_iff :
    socket.PassesTime ctrl bytes messages time ↔
      bytes = [] ∨ readTime ctrl messages = time := by
  simp only [PassesTime, called_eq]
  by_cases nothing : bytes = []
  · simp [nothing]
  · have anything : 0 < bytes.length := List.length_pos_iff.mpr nothing
    simp only [anything, if_true, Option.some.injEq, nothing, false_or,
      forall_eq']
    constructor
    · -- a callback that tells the time apart from all others
      intro passes
      have told := passes fun _ passed => ⟨decide (passed = time), []⟩
      rw [Reaction.mk.injEq, decide_eq_decide] at told
      exact told.1.mpr rfl
    · intro same callback
      rw [same]

theorem readTime_of_delivered
    (fit : Fit messages) (delivered : messages ≠ []) :
    readTime ctrl messages = deliveredTime messages := by
  cases messages with
  | nil =>
      exact absurd rfl delivered
  | cons message later =>
      have fits : message.len < 256 ^ 8 := by
        have order := space_ge message
        rw [Fit, List.map_cons, List.sum_cons, sizeofCtrl] at fit
        omega
      rw [readTime, reported, List.append_assoc, kernelTime_bytes fits,
        deliveredTime_cons fit]

theorem kernelTime_eq_zero_iff :
    kernelTime ctrl = 0 ↔ ¬ HoldsTime ctrl := by
  have seconds :
      littleEndian (ctrl.drop sizeofCmsghdr) 0 8 = littleEndian ctrl 16 8 := by
    rw [littleEndian_eq, littleEndian_eq, List.drop_drop]
    rfl
  have microseconds :
      littleEndian (ctrl.drop sizeofCmsghdr) 8 8 = littleEndian ctrl 24 8 := by
    rw [littleEndian_eq, littleEndian_eq, List.drop_drop]
    rfl
  rw [kernelTime, HoldsTime, nanosOf, seconds, microseconds]
  split
  · next isTimestamp =>
      obtain ⟨level, type, len⟩ := isTimestamp
      simp only [level, type, len, true_and, ne_eq, not_not]
  · next other =>
      simp only [true_iff]
      rintro ⟨len, level, type, _⟩
      exact other ⟨level, type, len⟩

theorem readTime_of_nothing :
    readTime ctrl [] = deliveredTime [] ↔ ¬ HoldsTime ctrl := by
  have before : readTime ctrl [] = kernelTime ctrl := by
    simp only [readTime, reported, List.nil_append, List.length_nil,
      List.drop_zero]
  have nothing : deliveredTime [] = 0 := by
    rw [deliveredTime, List.findSome?_nil, Option.getD_none]
  rw [before, nothing, kernelTime_eq_zero_iff]

theorem timeBelongs_iff :
    socket.TimeBelongs bytes messages left right ↔
      bytes = [] ∨
        readTime left messages = deliveredTime messages ∧
          readTime right messages = deliveredTime messages := by
  constructor
  · intro belongs
    have passesLeft := passesTime_iff.mp belongs.belongsLeft
    have passesRight := passesTime_iff.mp belongs.belongsRight
    by_cases nothing : bytes = []
    · exact Or.inl nothing
    · exact
        Or.inr
          ⟨passesLeft.resolve_left nothing,
            passesRight.resolve_left nothing⟩
  · intro right
    refine ⟨?_, ?_, ?_⟩
    · exact passesTime_iff.mpr (right.imp_right And.left)
    · exact passesTime_iff.mpr (right.imp_right And.right)
    · intro callback
      rw [called_eq, called_eq]
      rcases right with nothing | ⟨timeLeft, timeRight⟩
      · have uncalled : ¬ 0 < bytes.length := by
          rw [nothing]
          exact Nat.lt_irrefl 0
        rw [if_neg uncalled, if_neg uncalled]
      · rw [timeLeft, timeRight]

end Reading

/-- The time handed to the callback belongs to the message just read exactly
when a control message was delivered with it, or no time is left in `ctrl`. -/
theorem receive_time_iff
    (socket : TCPSocket) (bytes : List UInt8)
    (messages : List ControlMessage) (left right : List UInt8)
    (fit : Fit messages) :
    socket.TimeBelongs bytes messages left right ↔
      bytes = [] ∨ messages ≠ [] ∨ ¬ HoldsTime left ∧ ¬ HoldsTime right := by
  rw [timeBelongs_iff]
  by_cases delivered : messages = []
  · rw [delivered, readTime_of_nothing, readTime_of_nothing]
    simp only [ne_eq, not_true_eq_false, false_or]
  · rw [readTime_of_delivered fit delivered,
      readTime_of_delivered fit delivered]
    simp only [ne_eq, delivered, not_false_eq_true, true_or, and_self]

/-- The timestamp of second one. -/
def secondOne : ControlMessage where
  cmsgLevel := 1
  cmsgType := 29
  data := littleEndianBytes 8 1 ++ littleEndianBytes 8 0

/-- A timestamp is delivered over the one of an earlier read. -/
theorem receive_time_sample :
    (make (fun _ => 0) (fun _ => 0)).TimeBelongs [97] [secondOne]
      (List.replicate sizeofCtrl 0) secondOne.bytes :=
  (receive_time_iff _ _ _ _ _ (by decide)).mpr
    (Or.inr (Or.inl (List.cons_ne_nil _ _)))

/-- Nothing but a byte is delivered, and the callback gets the time that is left
in `ctrl`. -/
theorem receive_time_left_over :
    readTime secondOne.bytes [] = 1000000000 ∧
      deliveredTime [] = 0 ∧
      ¬ (make (fun _ => 0) (fun _ => 0)).TimeBelongs [97] []
        (List.replicate sizeofCtrl 0) secondOne.bytes := by
  refine ⟨by decide, by decide, ?_⟩
  intro belongs
  have right :=
    (passesTime_iff.mp belongs.belongsRight).resolve_left
      (List.cons_ne_nil _ _)
  exact absurd right (by decide)

end TCPSocket

end LowLatencyBlocks
