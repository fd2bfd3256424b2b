import LowLatencyBlocks.Library.Machine

/-!
# The first-in first-out channel

What a queue between two parties is for, without slots, indices or counters:
`send` puts a value behind those that wait, `receive` takes the oldest one.
The values sent and received so far are recorded, so that "the `k`-th value
received is the `k`-th value sent" is a statement about one state.
-/

namespace Library

universe u

structure Fifo (α : Type u) where
  waiting : List α
  sent : List α
  received : List α

namespace Fifo

variable {α : Type u}

inductive Event (α : Type u) where
  | send (value : α)
  | receive (value : α)

/-- A send always succeeds; a receive takes the oldest waiting value. -/
inductive Step : Event α → Fifo α → Fifo α → Prop
  | send (channel : Fifo α) (value : α) :
      Step (.send value) channel
        { channel with
          waiting := channel.waiting ++ [value]
          sent := channel.sent ++ [value] }
  | receive (channel : Fifo α) (value : α) (rest : List α) :
      channel.waiting = value :: rest →
      Step (.receive value) channel
        { channel with
          waiting := rest
          received := channel.received ++ [value] }

def machine (α : Type u) : Machine (Fifo α) (Event α) where
  start := ⟨[], [], []⟩
  step := Step

/-- Nothing is lost, duplicated or reordered: what was sent is what was
received followed by what waits. -/
theorem sent_eq_received_append_waiting
    {channel : Fifo α}
    (reached : (machine α).Reachable Machine.anyStep channel) :
    channel.sent = channel.received ++ channel.waiting := by
  refine reached.invariant
    (fun channel =>
      channel.sent = channel.received ++ channel.waiting) rfl ?_
  intro event before after accounted step _
  cases step with
  | send _ value =>
      simp only [accounted, List.append_assoc]
  | receive _ value rest oldest =>
      simp only [accounted, oldest, List.append_assoc,
        List.singleton_append]

theorem received_prefix_sent
    {channel : Fifo α}
    (reached : (machine α).Reachable Machine.anyStep channel) :
    channel.received <+: channel.sent :=
  ⟨channel.waiting, (sent_eq_received_append_waiting reached).symm⟩

/-! ## The channel between two logs -/

/-- The channel seen through the values sent and received: the rest waits. -/
def between (sent received : List α) : Fifo α where
  waiting := sent.drop received.length
  sent := sent
  received := received

theorem Step.between_send
    {sent received : List α} (order : received.length ≤ sent.length)
    (value : α) :
    Step (.send value) (between sent received)
      (between (sent ++ [value]) received) := by
  have sends := Step.send (between sent received) value
  simpa only [between, List.drop_append_of_le_length order] using sends

theorem Step.between_receive
    {sent received : List α} {value : α}
    (oldest : sent[received.length]? = some value) :
    Step (.receive value) (between sent received)
      (between sent (received ++ [value])) := by
  have waiting :
      sent.drop received.length =
        value :: sent.drop (received.length + 1) := by
    obtain ⟨inside, same⟩ := List.getElem?_eq_some_iff.mp oldest
    rw [← same]
    exact List.drop_eq_getElem_cons inside
  have receives :=
    Step.receive (between sent received) value
      (sent.drop (received.length + 1)) waiting
  simpa only [between, List.length_append, List.length_singleton]
    using receives

end Fifo

end Library
